import Mathlib.Tactic.Tauto
import MeshRoutes.Proofs.Fitting
import MeshRoutes.Proofs.NormalForm
import MeshRoutes.Proofs.RouteAims
import MeshRoutes.Proofs.Traversal
/-!
# Variants

The variants of a route are those that are set, each with the port that its match names. They
are kept on the way from a declared route to what is stored for it: by the resolution, and by
every control plane that stores what agrees. So a stored record tells whether the route behind
it fits the listeners.
-/

namespace MeshRoutes

/-- The variants that are set, given the ports that the match of each of them names. -/
def variantsOf (grpc http http2 tcp : Option (Option UInt16)) :
    List (Protocol × Option UInt16) :=
  [(Protocol.grpc, grpc), (Protocol.http, http), (Protocol.http2, http2), (Protocol.tcp, tcp)]
    |>.filterMap fun (protocol, port?) => port?.map (protocol, ·)

def Declared.Route.variants (route : Route) : List (Protocol × Option UInt16) :=
  variantsOf (route.grpc.map (·.criteria.port)) (route.http.map (·.criteria.port))
    (route.http2.map (·.criteria.port)) (route.tcp.map (·.criteria.bind TcpMatch.port))

def Remote.RouteSpec.variants (spec : RouteSpec) : List (Protocol × Option UInt16) :=
  variantsOf (spec.grpc.map (·.criteria.port)) (spec.http.map (·.criteria.port))
    (spec.http2.map (·.criteria.port)) (spec.tcp.map (·.criteria.bind TcpMatch.port))

/-! ## Optional values -/

section Optional

variable {α β γ ε : Type}

theorem mem_filterMap_map_iff {pairs : List (α × Option β)} {a : α} {b : β} :
    (a, b) ∈ (pairs.filterMap fun (a, b?) => b?.map (a, ·)) ↔ (a, some b) ∈ pairs := by
  simp only [List.mem_filterMap, Option.map_eq_some_iff, Prod.mk.injEq, Prod.exists]
  constructor
  · rintro ⟨_, _, hmem, _, rfl, rfl, rfl⟩
    exact hmem
  · intro hmem
    exact ⟨a, some b, hmem, b, rfl, rfl, rfl⟩

theorem some_some_eq_map_iff {a : Option α} {f : α → Option β} {b : β} :
    some (some b) = a.map f ↔ some b = a.bind f := by
  cases a with
  | none => exact iff_of_false nofun nofun
  | some a => exact Option.some_inj

/-- What a value has in common with all that it may become, an optional one has as well. -/
theorem map_eq_of_mapM {f : α → Except ε β} {old : Option α} {new : Option β} {g : α → γ}
    {g' : β → γ} (h : old.mapM f = .ok new) (hsame : ∀ a b, f a = .ok b → g' b = g a) :
    new.map g' = old.map g := by
  cases old with
  | none =>
    cases h
    rfl
  | some a =>
    obtain ⟨b, hb, ⟨⟩⟩ := bind_eq_ok_iff.1 h
    exact congrArg some (hsame a b hb)

end Optional

namespace Declared

variable {scope : Scope}

/-! ## Declared variants -/

theorem Route.length_variants (route : Route) : route.variants.length = route.variantCount := by
  rcases route with ⟨_, _, _ | _, _ | _, _ | _, _ | _⟩ <;> rfl

theorem Route.mem_matchPorts_iff {route : Route} {protocol : Protocol} {port : UInt16} :
    (protocol, port) ∈ route.matchPorts ↔ (protocol, some port) ∈ route.variants := by
  rw [matchPorts, variants, variantsOf, mem_filterMap_map_iff, mem_filterMap_map_iff]
  simp only [List.mem_cons, List.not_mem_nil, or_false, Prod.mk.injEq, some_some_eq_map_iff,
    Option.bind_assoc]
  tauto

theorem Route.fits_iff_forall_variants {route : Route} {listeners : List PortMapping} :
    route.Fits listeners ↔ ∀ protocol port, (protocol, some port) ∈ route.variants →
      Bound listeners port protocol := by
  simp only [Fits, mem_matchPorts_iff]

/-! ## Variants of what is resolved -/

theorem HttpRoute.port_of_resolve {route : HttpRoute} {resolved : Remote.HttpRoute}
    (h : route.resolve scope = .ok resolved) :
    resolved.criteria.port = route.criteria.port := by
  obtain ⟨action, _, ⟨⟩⟩ := bind_eq_ok_iff.1 h
  rfl

theorem GrpcRoute.port_of_resolve {route : GrpcRoute} {resolved : Remote.GrpcRoute}
    (h : route.resolve scope = .ok resolved) :
    resolved.criteria.port = route.criteria.port := by
  obtain ⟨action, _, ⟨⟩⟩ := bind_eq_ok_iff.1 h
  rfl

theorem TcpRoute.port_of_resolve {route : TcpRoute} {resolved : Remote.TcpRoute}
    (h : route.resolve scope = .ok resolved) :
    resolved.criteria.bind TcpMatch.port = route.criteria.bind TcpMatch.port := by
  obtain ⟨action, _, ⟨⟩⟩ := bind_eq_ok_iff.1 h
  rfl

section Route

variable {route : Route} {spec : Remote.RouteSpec} (h : route.resolve scope = .ok spec)

include h

theorem Route.variantCount_of_resolve : route.variantCount = 1 := by
  by_contra hcount
  rw [resolve, if_pos hcount] at h
  cases h

/-- Each variant is resolved on its own. -/
theorem Route.parts_of_resolve : spec.priority = route.priority ∧
    route.grpc.mapM (·.resolve scope) = .ok spec.grpc ∧
    route.http.mapM (·.resolve scope) = .ok spec.http ∧
    route.http2.mapM (·.resolve scope) = .ok spec.http2 ∧
    route.tcp.mapM (·.resolve scope) = .ok spec.tcp := by
  have hcount := not_not.2 (variantCount_of_resolve h)
  rw [resolve, if_neg hcount] at h
  obtain ⟨grpc, hgrpc, h⟩ := bind_eq_ok_iff.1 h
  obtain ⟨http, hhttp, h⟩ := bind_eq_ok_iff.1 h
  obtain ⟨http2, hhttp2, h⟩ := bind_eq_ok_iff.1 h
  obtain ⟨tcp, htcp, ⟨⟩⟩ := bind_eq_ok_iff.1 h
  exact ⟨rfl, hgrpc, hhttp, hhttp2, htcp⟩

theorem Route.variants_of_resolve : spec.variants = route.variants := by
  obtain ⟨_, hgrpc, hhttp, hhttp2, htcp⟩ := parts_of_resolve h
  rw [variants, Remote.RouteSpec.variants,
    map_eq_of_mapM hgrpc fun _ _ => GrpcRoute.port_of_resolve,
    map_eq_of_mapM hhttp fun _ _ => HttpRoute.port_of_resolve,
    map_eq_of_mapM hhttp2 fun _ _ => HttpRoute.port_of_resolve,
    map_eq_of_mapM htcp fun _ _ => TcpRoute.port_of_resolve]

end Route

end Declared

/-! ## Variants of what is stored -/

namespace Remote

theorem RouteSpec.variants_skeleton (spec : RouteSpec) :
    spec.skeleton.variants = spec.variants := by
  simp only [variants, skeleton, mapCollections, Option.map_map]
  rfl

theorem RouteSpec.variants_eq_of_agree {a b : RouteSpec} (h : agree .upToEmpty a b) :
    a.variants = b.variants := by
  rw [← variants_skeleton a, ← variants_skeleton b, skeleton_eq_of_agree h]

end Remote

theorem Declared.Route.RealizedBy.variants {scope : Scope} {route : Route}
    {record : Remote.RouteRecord} (h : route.RealizedBy scope record) :
    record.spec.variants = route.variants := by
  obtain ⟨spec, hresolve, hagree⟩ := h
  rw [← Remote.RouteSpec.variants_eq_of_agree hagree, variants_of_resolve hresolve]

/-- The record of a route has one variant, from which one sees whether the route fits. -/
theorem Declared.Route.RealizedBy.exists_variant {scope : Scope} {route : Route}
    {record : Remote.RouteRecord} (h : route.RealizedBy scope record)
    (listeners : List PortMapping) :
    ∃ protocol port?, record.spec.variants = [(protocol, port?)] ∧
      (route.Fits listeners ↔ ∀ port, port? = some port → Bound listeners port protocol) := by
  have hone : route.variants.length = 1 := by
    obtain ⟨spec, hresolve, _⟩ := h
    exact route.length_variants.trans (variantCount_of_resolve hresolve)
  obtain ⟨⟨protocol, port?⟩, hvariant⟩ := List.length_eq_one_iff.1 hone
  refine ⟨protocol, port?, h.variants.trans hvariant, ?_⟩
  simp only [fits_iff_forall_variants, hvariant, List.mem_singleton, Prod.mk.injEq]
  constructor
  · intro h port hport
    exact h protocol port ⟨rfl, hport.symm⟩
  · rintro h _ port ⟨rfl, hport⟩
    exact h port hport.symm

end MeshRoutes

import MeshRoutes.Proofs.PlainStage
import MeshRoutes.Proofs.TargetNames
/-!
# The sole variant

A route has a remote spec only if one variant is set, and it comes down to that variant then: its
targets are resolved, and all else is kept as it is declared. So the route fails at its first target
that does not resolve.

* `Route.setVariants`, `RouteSpec.setVariants` : the variants that are set.
* `Route.resolve_eq_ok_iff` : what the spec of a route consists of.
* `Route.resolve_exact` : which routes have a spec, and why the others have none.
-/

namespace MeshRoutes

/-- A variant, with the route that is set for it. -/
inductive Variant (Grpc Http Tcp : Type) where
  | grpc (route : Grpc)
  | http (route : Http)
  | http2 (route : Http)
  | tcp (route : Tcp)

namespace Variant

variable {Grpc Http Tcp : Type}

def protocol : Variant Grpc Http Tcp → Protocol
  | grpc _ => .grpc
  | http _ => .http
  | http2 _ => .http2
  | tcp _ => .tcp

/-- Those of the four that are set. -/
def ofSet (grpc? : Option Grpc) (http? http2? : Option Http) (tcp? : Option Tcp) :
    List (Variant Grpc Http Tcp) :=
  (grpc?.map grpc).toList ++ (http?.map http).toList ++ (http2?.map http2).toList
    ++ (tcp?.map tcp).toList

end Variant

/-! ## Remote variants -/

namespace Remote

abbrev Variant := MeshRoutes.Variant GrpcRoute HttpRoute TcpRoute

def Variant.targets : Variant → List WeightedTarget
  | .grpc route => route.action.targets
  | .http route | .http2 route => route.action.targets
  | .tcp route => route.action.targets

/-- The spec in which this variant alone is set. -/
def Variant.spec (priority : Option UInt32) : Variant → RouteSpec
  | .grpc route => { priority, grpc := some route }
  | .http route => { priority, http := some route }
  | .http2 route => { priority, http2 := some route }
  | .tcp route => { priority, tcp := some route }

def RouteSpec.setVariants (spec : RouteSpec) : List Variant :=
  Variant.ofSet spec.grpc spec.http spec.http2 spec.tcp

theorem Variant.priority_spec (priority : Option UInt32) (variant : Variant) :
    (variant.spec priority).priority = priority := by
  cases variant <;> rfl

theorem Variant.setVariants_spec (priority : Option UInt32) (variant : Variant) :
    (variant.spec priority).setVariants = [variant] := by
  cases variant <;> rfl

end Remote

/-! ## Declared variants -/

namespace Declared

abbrev Variant := MeshRoutes.Variant GrpcRoute HttpRoute TcpRoute

def Variant.targets : Variant → List WeightedTarget
  | .grpc route => route.action.targets
  | .http route | .http2 route => route.action.targets
  | .tcp route => route.action.targets

/-- The route in which this variant alone is set. -/
def Variant.route (name : String) (priority : Option UInt32) : Variant → Route
  | .grpc route => { name, priority, grpc := some route }
  | .http route => { name, priority, http := some route }
  | .http2 route => { name, priority, http2 := some route }
  | .tcp route => { name, priority, tcp := some route }

/-- The variants that are set, each with all that is declared for it. -/
def Route.setVariants (route : Route) : List Variant :=
  Variant.ofSet route.grpc route.http route.http2 route.tcp

/-- The targets of all variants that are set. -/
def Route.targets (route : Route) : List WeightedTarget :=
  route.setVariants.flatMap Variant.targets

theorem Route.length_setVariants (route : Route) :
    route.setVariants.length = route.variantCount := by
  rcases route with ⟨_, _, _ | _, _ | _, _ | _, _ | _⟩ <;> rfl

theorem Route.eq_of_sole {route : Route} {variant : Variant}
    (h : route.setVariants = [variant]) : route = variant.route route.name route.priority := by
  rcases route with ⟨_, _, _ | _, _ | _, _ | _, _ | _⟩ <;> cases h <;> rfl

theorem Route.targets_of_sole {route : Route} {variant : Variant}
    (h : route.setVariants = [variant]) : route.targets = variant.targets := by
  rw [targets, h, List.flatMap_singleton]

/-! ## What a variant becomes -/

variable {scope : Scope}

/-- The remote form of a route, with what its targets resolve to. -/
def GrpcRoute.remote (route : GrpcRoute) (targets : List Remote.WeightedTarget) :
    Remote.GrpcRoute where
  criteria := route.criteria.remote
  action := ⟨targets⟩
  retryPolicy := route.retryPolicy.map (·.remote)
  timeout := route.timeout

@[inherit_doc GrpcRoute.remote]
def HttpRoute.remote (route : HttpRoute) (targets : List Remote.WeightedTarget) :
    Remote.HttpRoute where
  criteria := route.criteria.remote
  action := ⟨targets⟩
  retryPolicy := route.retryPolicy.map (·.remote)
  timeout := route.timeout

@[inherit_doc GrpcRoute.remote]
def TcpRoute.remote (route : TcpRoute) (targets : List Remote.WeightedTarget) :
    Remote.TcpRoute where
  criteria := route.criteria
  action := ⟨targets⟩
  timeout := route.timeout

def Variant.remote (targets : List Remote.WeightedTarget) : Variant → Remote.Variant
  | .grpc route => .grpc (route.remote targets)
  | .http route => .http (route.remote targets)
  | .http2 route => .http2 (route.remote targets)
  | .tcp route => .tcp (route.remote targets)

theorem Variant.targets_remote (variant : Variant) (targets : List Remote.WeightedTarget) :
    (variant.remote targets).targets = targets := by
  cases variant <;> rfl

theorem Variant.protocol_remote (variant : Variant) (targets : List Remote.WeightedTarget) :
    (variant.remote targets).protocol = variant.protocol := by
  cases variant <;> rfl

theorem GrpcRoute.resolve_eq (route : GrpcRoute) : route.resolve scope =
    (route.action.targets.mapM (WeightedTarget.resolve scope)).map route.remote := by
  rw [resolve, RouteAction.resolve]
  cases route.action.targets.mapM (WeightedTarget.resolve scope) <;> rfl

theorem HttpRoute.resolve_eq (route : HttpRoute) : route.resolve scope =
    (route.action.targets.mapM (WeightedTarget.resolve scope)).map route.remote := by
  rw [resolve, RouteAction.resolve]
  cases route.action.targets.mapM (WeightedTarget.resolve scope) <;> rfl

theorem TcpRoute.resolve_eq (route : TcpRoute) : route.resolve scope =
    (route.action.targets.mapM (WeightedTarget.resolve scope)).map route.remote := by
  rw [resolve, RouteAction.resolve]
  cases route.action.targets.mapM (WeightedTarget.resolve scope) <;> rfl

theorem Variant.resolve_route (name : String) (priority : Option UInt32) (variant : Variant) :
    (variant.route name priority).resolve scope =
      (variant.targets.mapM (WeightedTarget.resolve scope)).map fun targets =>
        (variant.remote targets).spec priority := by
  -- the other three are absent, and there is nothing to resolve in them
  cases variant with
  | grpc route =>
    simp only [Variant.route, Variant.targets, Route.resolve, Option.mapM_some,
      GrpcRoute.resolve_eq]
    cases route.action.targets.mapM (WeightedTarget.resolve scope) <;> rfl
  | http route =>
    simp only [Variant.route, Variant.targets, Route.resolve, Option.mapM_some,
      HttpRoute.resolve_eq]
    cases route.action.targets.mapM (WeightedTarget.resolve scope) <;> rfl
  | http2 route =>
    simp only [Variant.route, Variant.targets, Route.resolve, Option.mapM_some,
      HttpRoute.resolve_eq]
    cases route.action.targets.mapM (WeightedTarget.resolve scope) <;> rfl
  | tcp route =>
    simp only [Variant.route, Variant.targets, Route.resolve, Option.mapM_some,
      TcpRoute.resolve_eq]
    cases route.action.targets.mapM (WeightedTarget.resolve scope) <;> rfl

/-! ## The spec of a route -/

variable {route : Route} {variant : Variant}

theorem Route.resolve_of_not_sole (h : route.setVariants.length ≠ 1) :
    route.resolve scope = .error (.variants route.setVariants.length) := by
  rw [length_setVariants] at h ⊢
  rw [resolve, if_pos h]

theorem Route.resolve_of_sole (h : route.setVariants = [variant]) : route.resolve scope =
    (variant.targets.mapM (WeightedTarget.resolve scope)).map fun targets =>
      (variant.remote targets).spec route.priority := by
  calc
    route.resolve scope = (variant.route route.name route.priority).resolve scope :=
      congrArg (Route.resolve scope) (eq_of_sole h)
    _ = _ := variant.resolve_route route.name route.priority

theorem Route.exists_sole_of_resolve {spec : Remote.RouteSpec}
    (h : route.resolve scope = .ok spec) : ∃ variant, route.setVariants = [variant] := by
  rw [← List.length_eq_one_iff]
  by_contra hcount
  cases (resolve_of_not_sole hcount).symm.trans h

/-- A route with a spec has one variant, which becomes that of the spec. -/
theorem Route.resolve_eq_ok_iff {spec : Remote.RouteSpec} : route.resolve scope = .ok spec ↔
    ∃ variant targets, route.setVariants = [variant] ∧
      List.Forall₂ (WeightedTarget.ResolvesTo scope) variant.targets targets ∧
      spec = (variant.remote targets).spec route.priority := by
  constructor
  · intro h
    obtain ⟨variant, hsole⟩ := exists_sole_of_resolve h
    rw [resolve_of_sole hsole, map_eq_ok_iff] at h
    obtain ⟨targets, htargets, rfl⟩ := h
    exact ⟨variant, targets, hsole, mapM_resolve_eq_ok_iff.1 htargets, rfl⟩
  · rintro ⟨variant, targets, hsole, htargets, rfl⟩
    rw [resolve_of_sole hsole, map_eq_ok_iff]
    exact ⟨targets, mapM_resolve_eq_ok_iff.2 htargets, rfl⟩

/-- A route of one variant has a spec exactly if each target of that variant means a node. The spec
sets the same variant, and its targets are those of the route in their order, each with the name of
its node. Otherwise the first target that means no node says why. A route of no variant, or of
several, has no spec whatever its targets are. -/
theorem Route.resolve_exact (router : VirtualRouter) (nodes : VirtualNode.Table) (route : Route) :
    (route.setVariants.length ≠ 1 → route.resolve (router.scope nodes) =
      .error (.variants route.setVariants.length)) ∧
    ∀ variant, route.setVariants = [variant] →
      ((∃ spec, route.resolve (router.scope nodes) = .ok spec) ↔
        ∀ target ∈ variant.targets, ∃ name, target.NamesNode (router.scope nodes) name) ∧
      (∀ spec, route.resolve (router.scope nodes) = .ok spec →
        ∃ resolved, spec.setVariants = [resolved] ∧ resolved.protocol = variant.protocol ∧
          List.Forall₂ (WeightedTarget.ResolvesTo (router.scope nodes)) variant.targets
            resolved.targets) ∧
      ∀ defect, route.resolve (router.scope nodes) = .error defect ↔
        ∃ before target behind, variant.targets = before ++ target :: behind ∧
          (∀ earlier ∈ before, ∃ name, earlier.NamesNode (router.scope nodes) name) ∧
          target.FailsBy (router.scope nodes) defect := by
  refine ⟨resolve_of_not_sole, fun variant hsole => ⟨?_, ?_, ?_⟩⟩
  · rw [resolve_of_sole hsole, ← exists_mapM_resolve_eq_ok_iff]
    simp only [map_eq_ok_iff]
    constructor
    · rintro ⟨_, targets, htargets, -⟩
      exact ⟨targets, htargets⟩
    · rintro ⟨targets, htargets⟩
      exact ⟨_, targets, htargets, rfl⟩
  · intro spec hspec
    obtain ⟨_, targets, hvariant, htargets, rfl⟩ := resolve_eq_ok_iff.1 hspec
    cases hsole.symm.trans hvariant
    exact ⟨variant.remote targets, Remote.Variant.setVariants_spec _ _,
      variant.protocol_remote targets, (variant.targets_remote targets).symm ▸ htargets⟩
  · intro defect
    rw [resolve_of_sole hsole, map_eq_error_iff, mapM_resolve_eq_error_iff]

end Declared

namespace Rehearsal.Sample

/-- A gRPC route to some targets. -/
def spread (targets : List Declared.WeightedTarget) : Declared.Route where
  name := "spread"
  grpc := some { criteria := {}, action := ⟨targets⟩ }

/-- The spec of a gRPC route to these targets. -/
def spreadSpec (targets : List Remote.WeightedTarget) : Remote.RouteSpec where
  grpc := some { criteria := { metadata := some [] }, action := ⟨targets⟩ }

def toBackend : Declared.WeightedTarget where
  node := some { name := "backend" }
  weight := 3
  port := some 80

def toEdge : Declared.WeightedTarget where
  arn := some "arn:aws:appmesh:eu-west-1:1:mesh/mesh/virtualNode/edge"
  weight := 1

/-- It refers to a node that the table does not know. -/
def toStore : Declared.WeightedTarget where
  node := some { space := some "db", name := "store" }
  weight := 1

/-- It names no node in either way. -/
def toNowhere : Declared.WeightedTarget where
  weight := 1

theorem toBackend_names : toBackend.NamesNode (router.scope nodes) "backend_web" :=
  .byReference rfl rfl rfl rfl

def edgeArn : VirtualNode.Arn := ⟨"aws", "appmesh", "eu-west-1", "1", "mesh", "edge"⟩

theorem edgeArn_wellFormed : edgeArn.WellFormed :=
  ⟨by decide, by decide, by decide, by decide, by decide, by decide⟩

theorem toEdge_names : toEdge.NamesNode (router.scope nodes) "edge" :=
  @Declared.WeightedTarget.NamesNode.byArn _ _ edgeArn rfl rfl edgeArn_wellFormed

end Rehearsal.Sample

namespace Declared

open Rehearsal in
theorem Route.resolve_exact_on_sample :
    (∃ spec, (Sample.spread [Sample.toBackend, Sample.toEdge]).resolve
        (Sample.router.scope Sample.nodes) = .ok spec ∧
      spec = Sample.spreadSpec [⟨"backend_web", 3, some 80⟩, ⟨"edge", 1, none⟩]) ∧
    (Sample.spread [Sample.toBackend, Sample.toStore, Sample.toNowhere]).resolve
        (Sample.router.scope Sample.nodes) = .error (.unknownNode ⟨"db", "store"⟩) ∧
    ({ Sample.spread [] with tcp := some { action := ⟨[Sample.toNowhere]⟩ } } : Route).resolve
        (Sample.router.scope Sample.nodes) = .error (.variants 2) := by
  have exact := resolve_exact Sample.router Sample.nodes
  refine ⟨?_, ?_, (exact _).1 (by decide)⟩
  · obtain ⟨hsome, -⟩ := (exact (Sample.spread [Sample.toBackend, Sample.toEdge])).2 _ rfl
    obtain ⟨spec, h⟩ := hsome.2 <| List.forall_mem_cons.2 ⟨⟨_, Sample.toBackend_names⟩,
      List.forall_mem_cons.2 ⟨⟨_, Sample.toEdge_names⟩, nofun⟩⟩
    refine ⟨spec, h, ?_⟩
    cases h
    rfl
  · refine ((exact _).2 _ rfl).2.2 _ |>.2 ?_
    exact ⟨[Sample.toBackend], Sample.toStore, [Sample.toNowhere], rfl,
      List.forall_mem_cons.2 ⟨⟨_, Sample.toBackend_names⟩, nofun⟩,
      @WeightedTarget.FailsBy.unknown _ _ ⟨some "db", "store"⟩ "db" rfl rfl rfl rfl⟩

end Declared

end MeshRoutes

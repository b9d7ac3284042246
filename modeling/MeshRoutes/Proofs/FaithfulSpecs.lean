import Mathlib.Tactic.Tauto
import MeshRoutes.Proofs.SoleVariant
/-!
# Specs are faithful

The spec of a route forgets the name of the route and how its targets are named, and nothing else:
every other field of the variant that is set can be read off it again. So two routes have the same
spec only if they are alike in all but these.

* `Variant.withoutTargets` : what is declared for a variant, apart from its targets.
* `WeightedTarget.SharesWith` : targets that resolve to the same share of the traffic.
* `Declared.specs_eq_iff` : which routes have the same spec.
-/

namespace MeshRoutes

namespace Remote

theorem Variant.spec_inj {priority priority' : Option UInt32} {a b : Variant} :
    a.spec priority = b.spec priority' ↔ priority = priority' ∧ a = b := by
  constructor
  · intro h
    have hvariants := congrArg RouteSpec.setVariants h
    rw [setVariants_spec, setVariants_spec] at hvariants
    refine ⟨?_, List.singleton_injective hvariants⟩
    rw [← priority_spec priority a, h, priority_spec]
  · rintro ⟨rfl, rfl⟩
    rfl

end Remote

namespace Declared

variable {scope : Scope} {targets targets' : List Remote.WeightedTarget}

/-! ## All but the targets -/

def GrpcRoute.withoutTargets (route : GrpcRoute) : GrpcRoute := { route with action := ⟨[]⟩ }

def HttpRoute.withoutTargets (route : HttpRoute) : HttpRoute := { route with action := ⟨[]⟩ }

def TcpRoute.withoutTargets (route : TcpRoute) : TcpRoute := { route with action := ⟨[]⟩ }

/-- The variant with all that is declared for it but its targets. -/
def Variant.withoutTargets : Variant → Variant
  | .grpc route => .grpc route.withoutTargets
  | .http route => .http route.withoutTargets
  | .http2 route => .http2 route.withoutTargets
  | .tcp route => .tcp route.withoutTargets

theorem HttpRouteMatch.remote_inj {a b : HttpRouteMatch} : a.remote = b.remote ↔ a = b := by
  cases a; cases b
  simp only [remote, Remote.HttpRouteMatch.mk.injEq, Option.some_inj, mk.injEq]

theorem HttpRetryPolicy.remote_inj {a b : HttpRetryPolicy} : a.remote = b.remote ↔ a = b := by
  cases a; cases b
  simp only [remote, Remote.HttpRetryPolicy.mk.injEq, Option.some_inj, mk.injEq]

theorem GrpcRouteMatch.remote_inj {a b : GrpcRouteMatch} : a.remote = b.remote ↔ a = b := by
  cases a; cases b
  simp only [remote, Remote.GrpcRouteMatch.mk.injEq, Option.some_inj, mk.injEq]

theorem GrpcRetryPolicy.remote_inj {a b : GrpcRetryPolicy} : a.remote = b.remote ↔ a = b := by
  cases a; cases b
  simp only [remote, Remote.GrpcRetryPolicy.mk.injEq, Option.some_inj, mk.injEq]

theorem GrpcRoute.remote_inj {a b : GrpcRoute} : a.remote targets = b.remote targets' ↔
    a.withoutTargets = b.withoutTargets ∧ targets = targets' := by
  cases a; cases b
  simp only [remote, withoutTargets, Remote.GrpcRoute.mk.injEq, Remote.RouteAction.mk.injEq,
    mk.injEq, GrpcRouteMatch.remote_inj,
    Option.map_inj_right fun _ _ => GrpcRetryPolicy.remote_inj.1]
  tauto

theorem HttpRoute.remote_inj {a b : HttpRoute} : a.remote targets = b.remote targets' ↔
    a.withoutTargets = b.withoutTargets ∧ targets = targets' := by
  cases a; cases b
  simp only [remote, withoutTargets, Remote.HttpRoute.mk.injEq, Remote.RouteAction.mk.injEq,
    mk.injEq, HttpRouteMatch.remote_inj,
    Option.map_inj_right fun _ _ => HttpRetryPolicy.remote_inj.1]
  tauto

theorem TcpRoute.remote_inj {a b : TcpRoute} : a.remote targets = b.remote targets' ↔
    a.withoutTargets = b.withoutTargets ∧ targets = targets' := by
  cases a; cases b
  simp only [remote, withoutTargets, Remote.TcpRoute.mk.injEq, Remote.RouteAction.mk.injEq,
    mk.injEq]
  tauto

theorem Variant.remote_inj {a b : Variant} : a.remote targets = b.remote targets' ↔
    a.withoutTargets = b.withoutTargets ∧ targets = targets' := by
  cases a <;> cases b
  case grpc.grpc a b =>
    simp only [remote, withoutTargets, MeshRoutes.Variant.grpc.injEq, GrpcRoute.remote_inj]
  case http.http a b =>
    simp only [remote, withoutTargets, MeshRoutes.Variant.http.injEq, HttpRoute.remote_inj]
  case http2.http2 a b =>
    simp only [remote, withoutTargets, MeshRoutes.Variant.http2.injEq, HttpRoute.remote_inj]
  case tcp.tcp a b =>
    simp only [remote, withoutTargets, MeshRoutes.Variant.tcp.injEq, TcpRoute.remote_inj]
  -- the variants are different ones
  all_goals simp [remote, withoutTargets]

/-! ## Targets that come to the same -/

/-- Both targets mean the same node, with the same weight and on the same port. -/
structure WeightedTarget.SharesWith (scope : Scope) (a b : WeightedTarget) : Prop where
  weight : a.weight = b.weight
  port : a.port = b.port
  node : ∃ name, a.NamesNode scope name ∧ b.NamesNode scope name

theorem WeightedTarget.NamesNode.unique {target : WeightedTarget} {name name' : String}
    (h : target.NamesNode scope name) (h' : target.NamesNode scope name') : name = name' := by
  rw [← nodeName_eq_ok_iff] at h h'
  exact Except.ok.inj (h.symm.trans h')

theorem WeightedTarget.resolved_eq_iff {a b : WeightedTarget} {x y : Remote.WeightedTarget}
    (ha : a.ResolvesTo scope x) (hb : b.ResolvesTo scope y) : x = y ↔ a.SharesWith scope b := by
  constructor
  · rintro rfl
    exact ⟨ha.weight.symm.trans hb.weight, ha.port.symm.trans hb.port, x.node, ha.node, hb.node⟩
  · rintro ⟨hweight, hport, name, hnameA, hnameB⟩
    have hsameNode : x.node = y.node := (ha.node.unique hnameA).trans (hnameB.unique hb.node)
    have hsameWeight : x.weight = y.weight := ha.weight.trans (hweight.trans hb.weight.symm)
    have hsamePort : x.port = y.port := ha.port.trans (hport.trans hb.port.symm)
    cases x; cases y
    rw [Remote.WeightedTarget.mk.injEq]
    exact ⟨hsameNode, hsameWeight, hsamePort⟩

theorem forall₂_resolved_eq_iff {a b : List WeightedTarget}
    (ha : List.Forall₂ (WeightedTarget.ResolvesTo scope) a targets)
    (hb : List.Forall₂ (WeightedTarget.ResolvesTo scope) b targets') :
    targets = targets' ↔ List.Forall₂ (WeightedTarget.SharesWith scope) a b := by
  induction ha generalizing b targets' with
  | nil => cases hb <;> simp
  | cons ha _ ih =>
    cases hb with
    | nil => simp
    | cons hb hrest =>
      rw [List.cons.injEq, List.forall₂_cons, ih hrest, WeightedTarget.resolved_eq_iff ha hb]

/-- Two routes that are resolved in the same scope have the same spec exactly if they have the same
priority, set the same variant with the same values in every field but the targets, and have as many
targets, of which each resolves to the node of its counterpart and has its weight and port. -/
theorem specs_eq_iff (router : VirtualRouter) (nodes : VirtualNode.Table) {a b : Route}
    {specA specB : Remote.RouteSpec} (ha : a.resolve (router.scope nodes) = .ok specA)
    (hb : b.resolve (router.scope nodes) = .ok specB) :
    specA = specB ↔ a.priority = b.priority ∧
      a.setVariants.map Variant.withoutTargets = b.setVariants.map Variant.withoutTargets ∧
      List.Forall₂ (WeightedTarget.SharesWith (router.scope nodes)) a.targets b.targets := by
  obtain ⟨variantA, targetsA, hsoleA, htargetsA, rfl⟩ := Route.resolve_eq_ok_iff.1 ha
  obtain ⟨variantB, targetsB, hsoleB, htargetsB, rfl⟩ := Route.resolve_eq_ok_iff.1 hb
  rw [Remote.Variant.spec_inj, Variant.remote_inj, forall₂_resolved_eq_iff htargetsA htargetsB,
    Route.targets_of_sole hsoleA, Route.targets_of_sole hsoleB, hsoleA, hsoleB,
    List.map_singleton, List.map_singleton, List.singleton_inj]

end Declared

namespace Rehearsal.Sample

/-- The same as `toBackend`, by another way of naming the node. -/
def toBackendByArn : Declared.WeightedTarget where
  arn := some "arn:aws:appmesh:eu-west-1:1:mesh/mesh/virtualNode/backend_web"
  weight := 3
  port := some 80

theorem toBackendByArn_names : toBackendByArn.NamesNode (router.scope nodes) "backend_web" :=
  @Declared.WeightedTarget.NamesNode.byArn _ _
    ⟨"aws", "appmesh", "eu-west-1", "1", "mesh", "backend_web"⟩ rfl rfl
    ⟨by decide, by decide, by decide, by decide, by decide, by decide⟩

end Rehearsal.Sample

namespace Declared

open Rehearsal in
/-- Another way of naming the node makes no other spec, and another weight does. -/
theorem specs_eq_iff_on_sample :
    let scope := Sample.router.scope Sample.nodes
    let renamed : Route := { Sample.spread [Sample.toBackendByArn] with name := "renamed" }
    let heavier := Sample.spread [{ Sample.toBackend with weight := 4 }]
    ∃ spec same other, (Sample.spread [Sample.toBackend]).resolve scope = .ok spec ∧
      renamed.resolve scope = .ok same ∧ heavier.resolve scope = .ok other ∧
      spec = same ∧ spec ≠ other := by
  intro scope renamed heavier
  have hspec : (Sample.spread [Sample.toBackend]).resolve scope =
    .ok (Sample.spreadSpec [⟨"backend_web", 3, some 80⟩]) := rfl
  have hsame : renamed.resolve scope =
    .ok (Sample.spreadSpec [⟨"backend_web", 3, some 80⟩]) := rfl
  have hother : heavier.resolve scope =
    .ok (Sample.spreadSpec [⟨"backend_web", 4, some 80⟩]) := rfl
  refine ⟨_, _, _, hspec, hsame, hother, ?_, fun heq => ?_⟩
  · exact (specs_eq_iff _ _ hspec hsame).2 ⟨rfl, rfl,
      .cons ⟨rfl, rfl, _, Sample.toBackend_names, Sample.toBackendByArn_names⟩ .nil⟩
  · obtain ⟨-, -, hshares⟩ := (specs_eq_iff _ _ hspec hother).1 heq
    obtain ⟨hshare, -⟩ := List.forall₂_cons.1 hshares
    exact absurd hshare.weight (by decide)

end Declared

end MeshRoutes

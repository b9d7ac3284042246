import MeshRoutes.Proofs.NormalForm
import MeshRoutes.Proofs.SoleVariant
/-!
# Change detection is exact

In the spec that a route is resolved to, every optional collection is present. So it agrees up to
omissions with nothing but itself once the collections that are absent are filled in, and two such
specs agree only if they are equal: what the control plane leaves out is no change, and all else is.

* `RouteSpec.fill` : a spec with its absent collections filled in.
* `Declared.Route.fill_of_resolve` : what is resolved needs no filling in.
* `Declared.changes_detected` : what a desired spec agrees with.
-/

namespace MeshRoutes

open Remote

namespace Remote

/-- Puts an empty collection where there is none. -/
def fillAbsent (α : Type) (items : Option (List α)) : Option (List α) :=
  some (items.getD [])

/-- The spec with an empty collection for each that is absent from a part of it. -/
def RouteSpec.fill (spec : RouteSpec) : RouteSpec :=
  spec.mapCollections fillAbsent

theorem omitEmpty_fillAbsent {α : Type} (items : Option (List α)) :
    omitEmpty (fillAbsent α items) = omitEmpty items := by
  rcases items with _ | _ | ⟨item, rest⟩ <;> rfl

theorem fillAbsent_omitEmpty {α : Type} (items : Option (List α)) :
    fillAbsent α (omitEmpty items) = fillAbsent α items := by
  rcases items with _ | _ | ⟨item, rest⟩ <;> rfl

theorem RouteSpec.normalize_fill (spec : RouteSpec) : spec.fill.normalize = spec.normalize := by
  simp only [normalize, fill, mapCollections_mapCollections, omitEmpty_fillAbsent]

theorem RouteSpec.fill_normalize (spec : RouteSpec) : spec.normalize.fill = spec.fill := by
  simp only [normalize, fill, mapCollections_mapCollections, fillAbsent_omitEmpty]

/-- Leaving out what is empty and filling in what is absent forget the same. -/
theorem RouteSpec.agree_iff_fill_eq (a b : RouteSpec) :
    agree .upToEmpty a b ↔ a.fill = b.fill := by
  rw [agree_upToEmpty_iff]
  constructor
  · intro h
    rw [← fill_normalize a, h, fill_normalize]
  · intro h
    rw [← normalize_fill a, h, normalize_fill]

end Remote

namespace Declared

variable {scope : Scope} {route : Route} {spec : RouteSpec}

theorem GrpcRoute.fill_remote (route : GrpcRoute) (targets : List Remote.WeightedTarget) :
    (route.remote targets).mapCollections fillAbsent = route.remote targets := by
  rcases route with ⟨_, _, _ | _, _⟩ <;> rfl

theorem HttpRoute.fill_remote (route : HttpRoute) (targets : List Remote.WeightedTarget) :
    (route.remote targets).mapCollections fillAbsent = route.remote targets := by
  rcases route with ⟨_, _, _ | _, _⟩ <;> rfl

theorem Route.fill_of_resolve (h : route.resolve scope = .ok spec) : spec.fill = spec := by
  obtain ⟨variant, targets, -, -, rfl⟩ := resolve_eq_ok_iff.1 h
  cases variant with
  | grpc route => exact congrArg (Remote.Variant.spec _ <| .grpc ·) (route.fill_remote targets)
  | http route => exact congrArg (Remote.Variant.spec _ <| .http ·) (route.fill_remote targets)
  | http2 route => exact congrArg (Remote.Variant.spec _ <| .http2 ·) (route.fill_remote targets)
  | tcp route => rfl

theorem Route.agree_iff_eq_fill (h : route.resolve scope = .ok spec) (actual : RouteSpec) :
    agree .upToEmpty spec actual ↔ spec = actual.fill := by
  rw [RouteSpec.agree_iff_fill_eq, fill_of_resolve h]

/-- A desired spec agrees up to omissions with an actual one exactly if it is equal to it once the
absent collections of the latter are filled in. So two desired specs agree, in either comparison,
only if they are equal, and one agrees with what is kept for the other only then. -/
theorem changes_detected (router : VirtualRouter) (nodes : VirtualNode.Table) (route : Route)
    (desired : RouteSpec) (h : route.resolve (router.scope nodes) = .ok desired) :
    (∀ actual : RouteSpec, agree .upToEmpty desired actual ↔ desired = actual.fill) ∧
    ∀ (router' : VirtualRouter) (nodes' : VirtualNode.Table) (route' : Route) (other : RouteSpec),
      route'.resolve (router'.scope nodes') = .ok other →
        (agree .upToEmpty desired other ↔ desired = other) ∧
        (agree .exact desired other ↔ desired = other) ∧
        ∀ kept : RouteSpec, agree .upToEmpty other kept →
          (agree .upToEmpty desired kept ↔ desired = other) := by
  refine ⟨Route.agree_iff_eq_fill h, fun router' nodes' route' other hother => ⟨?_, ?_, ?_⟩⟩
  · rw [Route.agree_iff_eq_fill h, Route.fill_of_resolve hother]
  · exact RouteSpec.agree_exact_iff desired other
  · intro kept hkept
    rw [Route.agree_iff_eq_fill h, ← (Route.agree_iff_eq_fill hother kept).1 hkept]

open Rehearsal in
/-- Metadata that is left out is no change of the route, and another node is one. -/
theorem changes_detected_on_sample :
    let desired := Sample.spreadSpec [⟨"backend_web", 3, some 80⟩]
    let other := Sample.spreadSpec [⟨"edge", 1, none⟩]
    (Sample.spread [Sample.toBackend]).resolve (Sample.router.scope Sample.nodes) = .ok desired ∧
    (Sample.spread [Sample.toEdge]).resolve (Sample.router.scope Sample.nodes) = .ok other ∧
    desired.normalize ≠ desired ∧ agree .upToEmpty desired desired.normalize ∧
    ¬agree .upToEmpty desired other.normalize := by
  intro desired other
  have hdesired : (Sample.spread [Sample.toBackend]).resolve (Sample.router.scope Sample.nodes) =
    .ok desired := rfl
  have hother : (Sample.spread [Sample.toEdge]).resolve (Sample.router.scope Sample.nodes) =
    .ok other := rfl
  obtain ⟨hagree, hdistinct⟩ := changes_detected _ _ _ _ hdesired
  refine ⟨hdesired, hother, by decide, (hagree desired.normalize).2 rfl, ?_⟩
  have hkept := (hdistinct _ _ _ _ hother).2.2 other.normalize other.agree_normalize
  exact fun h => absurd (hkept.1 h) (by decide)

end Declared

end MeshRoutes

import MeshRoutes.Proofs.SoleVariant
/-!
# What a resolution depends on

To resolve a route, no other nodes are looked up than those that its targets refer to, and of the
router no more is asked than the namespace in which a reference without one looks. So whatever else
is in the table, of other namespaces or of nodes that came later, has no part in the result.

* `Route.RefersBy` : the references by which nodes are looked up.
* `Scope.AgreeOn` : scopes that say the same of the node that a reference means.
* `Declared.resolve_by_references` : scopes that resolve a route alike.
-/

namespace MeshRoutes

/-- The larger table has every entry of the other one. -/
def VirtualNode.Table.ExtendedBy (table larger : Table) : Prop :=
  ∀ id name, table.get? id = some name → larger.get? id = some name

theorem VirtualNode.Table.extendedBy_insert {table : Table} {id : Id} (hnew : table.get? id = none)
    (remoteName : String) : table.ExtendedBy (table.insert id remoteName) := by
  intro known name hknown
  rw [get?_insert, if_neg, hknown]
  rintro rfl
  cases hnew.symm.trans hknown

namespace Declared

variable {scope scope' : Scope} {route : Route}

/-- A target of the route names its node by this reference, and by nothing else. -/
def Route.RefersBy (route : Route) (ref : NodeReference) : Prop :=
  ∃ target ∈ route.targets, target.node = some ref ∧ target.arn = none

/-- The reference means the same id in both scopes, and both know it by the same name, or neither
knows it. -/
structure Scope.AgreeOn (scope scope' : Scope) (ref : NodeReference) : Prop where
  space : ref.space.or scope.space = ref.space.or scope'.space
  nodes : ∀ space, ref.space.or scope.space = some space →
    scope.nodes.get? ⟨space, ref.name⟩ = scope'.nodes.get? ⟨space, ref.name⟩

/-! ## Scopes that agree -/

theorem NodeReference.resolve_congr {ref : NodeReference} (h : scope.AgreeOn scope' ref) :
    ref.resolve scope = ref.resolve scope' := by
  rw [resolve, resolve, ← h.space]
  cases hspace : ref.space.or scope.space with
  | none => rfl
  | some space =>
    dsimp only
    rw [h.nodes space hspace]

theorem WeightedTarget.resolve_congr {target : WeightedTarget}
    (h : ∀ ref, target.node = some ref → target.arn = none → scope.AgreeOn scope' ref) :
    target.resolve scope = target.resolve scope' := by
  have hname : target.nodeName scope = target.nodeName scope' := by
    rw [nodeName, nodeName]
    cases hnode : target.node with
    | none => cases target.arn <;> rfl
    | some ref =>
      cases harn : target.arn with
      | none => exact NodeReference.resolve_congr (h ref hnode harn)
      | some text => rfl
  rw [resolve, resolve, hname]

/-- Scopes that agree on all that a route refers to resolve it alike. -/
theorem Route.resolve_congr (h : ∀ ref, route.RefersBy ref → scope.AgreeOn scope' ref) :
    route.resolve scope = route.resolve scope' := by
  by_cases hcount : route.setVariants.length = 1
  · obtain ⟨variant, hsole⟩ := List.length_eq_one_iff.1 hcount
    rw [resolve_of_sole hsole, resolve_of_sole hsole]
    refine congrArg (Except.map _) (mapM_congr fun target htarget => ?_)
    rw [← targets_of_sole hsole] at htarget
    exact WeightedTarget.resolve_congr fun ref hnode harn => h ref ⟨target, htarget, hnode, harn⟩
  · rw [resolve_of_not_sole hcount, resolve_of_not_sole hcount]

/-! ## Tables that grow -/

section Extended

variable {space : Option String} {nodes larger : VirtualNode.Table}
  (hext : nodes.ExtendedBy larger)

include hext

theorem WeightedTarget.NamesNode.mono {target : WeightedTarget} {name : String}
    (h : target.NamesNode ⟨space, nodes⟩ name) : target.NamesNode ⟨space, larger⟩ name := by
  cases h with
  | byReference hnode harn hspace hknown =>
    exact .byReference hnode harn hspace (hext _ _ hknown)
  | byArn hnode harn hform => exact .byArn hnode harn hform

theorem Route.resolve_mono {spec : Remote.RouteSpec}
    (h : route.resolve ⟨space, nodes⟩ = .ok spec) :
    route.resolve ⟨space, larger⟩ = .ok spec := by
  obtain ⟨variant, targets, hsole, htargets, rfl⟩ := resolve_eq_ok_iff.1 h
  refine resolve_eq_ok_iff.2 ⟨variant, targets, hsole, htargets.imp fun _ _ hresolves => ?_, rfl⟩
  exact { hresolves with node := hresolves.node.mono hext }

end Extended

/-- A route is resolved alike for routers of the same namespace and with tables that agree on every
node that it refers to, whether it has a spec there or not. If every reference gives its own
namespace, the router does not matter. And a route that has a spec keeps it whatever is added to the
table. -/
theorem resolve_by_references (route : Route) :
    (∀ (router router' : VirtualRouter) (nodes nodes' : VirtualNode.Table),
      router.metadata.space = router'.metadata.space →
      (∀ ref space, route.RefersBy ref → ref.space.or router.metadata.space = some space →
        nodes.get? ⟨space, ref.name⟩ = nodes'.get? ⟨space, ref.name⟩) →
      route.resolve (router.scope nodes) = route.resolve (router'.scope nodes')) ∧
    ((∀ ref, route.RefersBy ref → ref.space ≠ none) →
      ∀ (router router' : VirtualRouter) (nodes : VirtualNode.Table),
        route.resolve (router.scope nodes) = route.resolve (router'.scope nodes)) ∧
    ∀ (router : VirtualRouter) (nodes larger : VirtualNode.Table) (spec : Remote.RouteSpec),
      nodes.ExtendedBy larger → route.resolve (router.scope nodes) = .ok spec →
        route.resolve (router.scope larger) = .ok spec := by
  refine ⟨?_, ?_, ?_⟩
  · intro router router' nodes nodes' hspace hnodes
    refine Route.resolve_congr fun ref href => ⟨?_, fun space => hnodes ref space href⟩
    exact congrArg ref.space.or hspace
  · intro hown router router' nodes
    -- the router's namespace stands behind one that is there already
    refine Route.resolve_congr fun ref href => ⟨?_, fun _ _ => rfl⟩
    obtain ⟨own, hspace⟩ := Option.ne_none_iff_exists'.1 (hown ref href)
    rw [hspace, Option.some_or, Option.some_or]
  · intro router nodes larger spec hext h
    exact Route.resolve_mono hext h

end Declared

namespace Rehearsal.Sample

/-- Another router in the same namespace. -/
def sibling : Declared.VirtualRouter := ⟨{ name := some "sibling", space := some "web" }, {}⟩

/-- A router in another namespace. -/
def elsewhere : Declared.VirtualRouter := ⟨{ name := some "router", space := some "db" }, {}⟩

/-- The table with a node of the same name in another namespace. -/
def moreNodes : VirtualNode.Table := nodes.insert ⟨"db", "backend"⟩ "backend_db"

theorem eq_of_spread_refersBy {target : Declared.WeightedTarget} {ref : Declared.NodeReference}
    (h : (spread [target]).RefersBy ref) : target.node = some ref := by
  obtain ⟨_, hmem, hnode, -⟩ := h
  cases List.mem_singleton.1 hmem
  exact hnode

end Rehearsal.Sample

namespace Declared

open Rehearsal in
theorem resolve_by_references_on_sample :
    (Sample.spread [Sample.toBackend]).resolve (Sample.router.scope Sample.nodes) =
      (Sample.spread [Sample.toBackend]).resolve (Sample.sibling.scope Sample.moreNodes) ∧
    (Sample.spread [Sample.toStore]).resolve (Sample.router.scope Sample.nodes) =
      (Sample.spread [Sample.toStore]).resolve (Sample.elsewhere.scope Sample.nodes) ∧
    (Sample.spread [Sample.toBackend]).resolve (Sample.router.scope Sample.moreNodes) =
      .ok (Sample.spreadSpec [⟨"backend_web", 3, some 80⟩]) := by
  obtain ⟨hsame, -, hmore⟩ := resolve_by_references (Sample.spread [Sample.toBackend])
  obtain ⟨-, hown, -⟩ := resolve_by_references (Sample.spread [Sample.toStore])
  refine ⟨hsame _ _ _ _ rfl ?_, hown ?_ _ _ _, hmore _ Sample.nodes _ _ ?_ rfl⟩
  · intro ref space href hspace
    cases Sample.eq_of_spread_refersBy href
    cases hspace
    rfl
  · intro ref href
    cases Sample.eq_of_spread_refersBy href
    exact Option.some_ne_none _
  · exact VirtualNode.Table.extendedBy_insert rfl _

end Declared

end MeshRoutes

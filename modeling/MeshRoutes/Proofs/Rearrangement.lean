import MeshRoutes.Proofs.Duplicates
import MeshRoutes.Proofs.Lockstep
/-!
# Rearrangements

What is reconciled is known by its partition, and a partition is known by names: in whichever order
the routes are declared and the refs are listed, it is the same one. So an errand does not depend on
either order. Which name is reported where several are repeated may depend on it.

* `Partition.of_eq_of_perm` : a partition of rearranged sides.
* `Control.rearrangement_irrelevant` : errands on rearranged sides.
-/

namespace MeshRoutes

open Remote

theorem NameMap.index_eq_of_perm {α : Type} {name : α → String} {items items' : List α}
    (hperm : items.Perm items') (hnodup : (items.map name).Nodup) :
    index name items = index name items' := by
  have hkeyed : (keyed name items).Perm (keyed name items') := hperm.map _
  have hnames : ((keyed name items).map Prod.fst).Nodup := by
    rw [map_fst_keyed]
    exact hnodup
  have hindex : index name items = .ok (ofList (keyed name items)) :=
    index_eq_ok_iff.2 ⟨hnodup, rfl⟩
  have hindex' : index name items' = .ok (ofList (keyed name items)) :=
    index_eq_ok_iff.2 ⟨(hperm.map name).nodup_iff.1 hnodup, ofList_eq_of_perm hnames hkeyed⟩
  rw [hindex, hindex']

namespace Partition

variable {routes routes' : List Declared.Route} {refs refs' : List RouteRef}

theorem uniqueNames_iff_of_perm (hroutes : routes.Perm routes') (hrefs : refs.Perm refs') :
    UniqueNames routes refs ↔ UniqueNames routes' refs' :=
  and_congr (hroutes.map _).nodup_iff (hrefs.map _).nodup_iff

theorem of_eq_of_perm (hroutes : routes.Perm routes') (hrefs : refs.Perm refs')
    (hunique : UniqueNames routes refs) :
    Partition.of routes refs = Partition.of routes' refs' := by
  unfold Partition.of
  rw [NameMap.index_eq_of_perm hroutes hunique.1, NameMap.index_eq_of_perm hrefs hunique.2]

end Partition

namespace Control

variable {σ τ α : Type}

/-- Two errands that do the same behind their first calls if the names are unique, and otherwise
are both refused for a name, with no call behind the first ones. -/
def SameUnlessRepeated (unique : Prop) (first first' : List Call) (x : Except Stop α × Run σ)
    (x' : Except Stop α × Run τ) : Prop :=
  (unique → SameBehind first first' x x') ∧
    (¬unique → (∃ duplicate, EndsWith (.duplicateName duplicate) first x) ∧
      ∃ duplicate, EndsWith (.duplicateName duplicate) first' x')

/-- What is known by its partition does not depend on the order of either side. -/
theorem SameUnlessRepeated.of_perm {mid : Run σ} {mid' : Run τ} {x : Except Stop α × Run σ}
    {x' : Except Stop α × Run τ} {routes routes' : List Declared.Route} {refs refs' : List RouteRef}
    (hroutes : routes.Perm routes') (hrefs : refs.Perm refs')
    (hsame : Partition.of routes refs = Partition.of routes' refs' →
      SameBehind mid.calls mid'.calls x x')
    (hrefused : ∀ duplicate, Partition.of routes refs = .error duplicate →
      x = (.error (.failed (.duplicateName duplicate)), mid))
    (hrefused' : ∀ duplicate, Partition.of routes' refs' = .error duplicate →
      x' = (.error (.failed (.duplicateName duplicate)), mid')) :
    SameUnlessRepeated (Partition.UniqueNames routes refs) mid.calls mid'.calls x x' := by
  constructor
  · intro hunique
    exact hsame (Partition.of_eq_of_perm hroutes hrefs hunique)
  · intro hrepeated
    have hrepeated' : ¬Partition.UniqueNames routes' refs' :=
      fun hunique => hrepeated ((Partition.uniqueNames_iff_of_perm hroutes hrefs).2 hunique)
    obtain ⟨duplicate, hof⟩ := Partition.exists_error_iff.2 hrepeated
    obtain ⟨duplicate', hof'⟩ := Partition.exists_error_iff.2 hrepeated'
    rw [hrefused duplicate hof, hrefused' duplicate' hof']
    exact ⟨⟨duplicate, rfl, rfl⟩, duplicate', rfl, rfl⟩

/-- The order in which routes are declared and refs are listed is of no account. Errands on
rearranged routes and refs, on control planes that are alike from the end of the listing on, make
the same calls from there on and come to the same, if names are unique on both sides. If a name is
repeated on one of them, both errands are refused for a name that is, and make no further call. -/
theorem rearrangement_irrelevant (plane : Plane σ) (plane' : Plane τ) (policy : Policy)
    (mesh : Declared.Mesh) (router router' : Declared.VirtualRouter) (nodes : VirtualNode.Table)
    (listeners : List PortMapping) (state : σ) (state' : τ)
    (haddress : RouterRef.of mesh router' = .of mesh router)
    (hspace : router'.metadata.space = router.metadata.space)
    (hroutes : router.spec.routes.Perm router'.spec.routes) :
    (plane.Alike state plane' state' →
      SameUnlessRepeated (Partition.UniqueNames router.spec.routes []) [] []
        ((Reconciler.create ⟨plane, policy⟩ mesh router nodes).perform state)
        ((Reconciler.create ⟨plane', policy⟩ mesh router' nodes).perform state')) ∧
    ∀ refs refs' mid mid',
      (Reconciler.list ⟨plane, policy⟩ (.of mesh router)).perform state = (.ok refs, mid) →
      (Reconciler.list ⟨plane', policy⟩ (.of mesh router')).perform state' = (.ok refs', mid') →
      refs.Perm refs' → plane.Alike mid.state plane' mid'.state →
      SameUnlessRepeated (Partition.UniqueNames router.spec.routes refs) mid.calls mid'.calls
        ((Reconciler.update ⟨plane, policy⟩ mesh router nodes).perform state)
        ((Reconciler.update ⟨plane', policy⟩ mesh router' nodes).perform state') ∧
      SameUnlessRepeated (Partition.UniqueNames router.spec.routes refs) mid.calls mid'.calls
        ((Reconciler.remove ⟨plane, policy⟩ mesh router listeners).perform state)
        ((Reconciler.remove ⟨plane', policy⟩ mesh router' listeners).perform state') := by
  constructor
  · intro halike
    change SameUnlessRepeated _ ({ state } : Run σ).calls ({ state := state' } : Run τ).calls _ _
    refine .of_perm hroutes (.refl []) (fun hof => ?_) (fun _ hof => ?_) fun _ hof => ?_
    · exact (Reconciler.create_together haddress hspace halike hof nodes).sameBehind
    · exact Reconciler.create_of_duplicate hof nodes
    · exact Reconciler.create_of_duplicate hof nodes
  · intro refs refs' mid mid' hlist hlist' hrefs halike
    have hlisted : (Reconciler.list ⟨plane', policy⟩ (.of mesh router)).perform state' =
        (.ok refs', mid') := haddress ▸ hlist'
    constructor
    · refine .of_perm hroutes hrefs (fun hof => ?_) (fun _ hof => ?_) fun _ hof => ?_
      · exact (Reconciler.update_together haddress hlist hlisted halike hof hspace nodes).sameBehind
      · exact Reconciler.update_of_duplicate hlist hof nodes
      · exact Reconciler.update_of_duplicate hlist' hof nodes
    · refine .of_perm hroutes hrefs (fun hof => ?_) (fun _ hof => ?_) fun _ hof => ?_
      · exact (Reconciler.remove_together haddress hlist hlisted halike hof listeners).sameBehind
      · exact Reconciler.remove_of_duplicate hlist hof listeners
      · exact Reconciler.remove_of_duplicate hlist' hof listeners

section Sample

open Rehearsal

theorem rearrangement_irrelevant_on_sample :
    SameBehind (pageCalls (.of Sample.mesh Sample.router) none Sample.scattered)
        [.list (.of Sample.mesh Sample.router) none]
        ((Sample.pager.update Sample.mesh Sample.router Sample.nodes).perform
          (Sample.scattered.map .ok, Sample.stage))
        ((Sample.pager.update Sample.mesh Sample.swapped Sample.nodes).perform
          ([.ok ⟨Sample.addresses ["kept", "gone"], none⟩], Sample.stage)) ∧
      ∃ duplicate, EndsWith (.duplicateName duplicate) []
        ((Sample.pager.create Sample.mesh Sample.twins Sample.nodes).perform
          ([], Sample.stage)) := by
  have hscattered : Pages plainPlane.paging (.of Sample.mesh Sample.router)
      (Sample.scattered.map .ok, Sample.stage) none Sample.scattered none ([], Sample.stage) :=
    .of_split plainPlane _ Sample.stage _ _
  have hwhole : Pages plainPlane.paging (.of Sample.mesh Sample.swapped)
      ([.ok ⟨Sample.addresses ["kept", "gone"], none⟩], Sample.stage) none
      [⟨Sample.addresses ["kept", "gone"], none⟩] none ([], Sample.stage) :=
    .of_split plainPlane _ Sample.stage [] _
  obtain ⟨mid, hlist, hstate, hmid⟩ :=
    Reconciler.list_of_pages Sample.pager.policy hscattered (by decide)
  obtain ⟨mid', hlist', hstate', hmid'⟩ :=
    Reconciler.list_of_pages Sample.pager.policy hwhole (by decide)
  have halike : plainPlane.paging.Alike mid.state plainPlane.paging mid'.state := by
    rw [hstate, hstate']
    exact .refl _ _
  obtain ⟨hupdate, -⟩ := (rearrangement_irrelevant plainPlane.paging plainPlane.paging
    Sample.pager.policy Sample.mesh Sample.router Sample.swapped Sample.nodes Sample.listeners
    _ _ rfl rfl (.swap _ _ _)).2 _ _ mid mid' hlist hlist' (.swap _ _ _) halike
  obtain ⟨-, hcreate⟩ := (rearrangement_irrelevant plainPlane.paging plainPlane.paging
    Sample.pager.policy Sample.mesh Sample.twins Sample.twins Sample.nodes Sample.listeners
    ([], Sample.stage) ([], Sample.stage) rfl rfl (.refl _)).1 (.refl _ _)
  have hsame := hupdate.1 ⟨by decide, by decide⟩
  rw [hmid, hmid'] at hsame
  exact ⟨hsame, (hcreate fun hunique => absurd hunique.1 (by decide)).1⟩

end Sample

end Control

end MeshRoutes

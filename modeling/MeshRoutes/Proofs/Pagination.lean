import MeshRoutes.Proofs.Duplicates
import MeshRoutes.Proofs.Lockstep
import MeshRoutes.Proofs.Warrants
/-!
# Pagination

An errand does not know how its listing was split. It asks for each page once, and what it does
behind the last one is what it does behind a single page that holds all refs. A page that is
refused ends it.

* `Reconciler.Errand.not_lists`, `Reconciler.Removal.not_lists` : behind its listing, no errand
  asks for a page.
* `pagination_transparent` : errands on any pages, next to those on a single one.
-/

namespace MeshRoutes.Control

open Remote

variable {σ τ α : Type}

/-- An errand that lists page by page, and one that is given a single page and comes to the same by
the same further calls. -/
def OnPages (router : RouterRef) (pages : List Page) (x : α × Run σ) (x' : α × Run τ) : Prop :=
  x.1 = x'.1 ∧ ∃ later, x.2.calls = pageCalls router none pages ++ later ∧
    x'.2.calls = .list router none :: later ∧ ∀ call ∈ later, ¬call.lists

/-! ## Behind a listing -/

section Behind

variable {reconciler : Reconciler σ} {router : RouterRef} {scope : Declared.Scope}
  {routes : List Declared.Route} {listeners : List PortMapping} {refs : List RouteRef} {state : σ}
  {run mid : Run σ} {later : List Call} (hlist : reconciler.list router { state } = (.ok refs, mid))

/-- Only the listing asks for pages. -/
theorem Reconciler.Accounted.eq_listing {o : Operation} {call : Call} {after : σ}
    (h : Accounted router scope routes run) (hissued : .issued o call after ∈ run.history)
    (hlists : call.lists) : o = .listing := by
  obtain ⟨before, behind, hsplit⟩ := List.append_of_mem hissued
  cases h.warranted hsplit with
  | list _ => rfl
  | create _ _ _ | describeMatched _ _ _ | update _ _ _ _ _ _ | describeSurplus _ _
  | delete _ _ _ => cases hlists

include hlist

/-- A run that has listed no more than at first asks for no page later. -/
theorem not_lists_of_deeds_eq
    (hown : ∀ o call after, .issued o call after ∈ run.history → call.lists → o = .listing)
    (hdeeds : deeds .listing run.history = deeds .listing mid.history)
    (hcalls : run.calls = mid.calls ++ later) : ∀ call ∈ later, ¬call.lists := by
  have hmid : mid.calls.filter Call.lists = (mid.callsOf .listing).filter Call.lists :=
    Run.filter_calls fun _ _ _ hissued _ =>
      ((Reconciler.callsAre_of_list hlist).issued hissued).1
  have hrun : run.calls.filter Call.lists = (run.callsOf .listing).filter Call.lists :=
    Run.filter_calls hown
  rw [Run.callsOf, hdeeds, ← Run.callsOf, ← hmid, hcalls, List.filter_append,
    List.append_right_eq_self, List.filter_eq_nil_iff] at hrun
  exact hrun

theorem Reconciler.Errand.not_lists {result : Except Stop (NameMap RouteRecord)}
    (h : Errand reconciler router scope routes { state } result run)
    (hcalls : run.calls = mid.calls ++ later) : ∀ call ∈ later, ¬call.lists := by
  refine not_lists_of_deeds_eq hlist (fun _ _ _ => h.accounted.eq_listing) ?_ hcalls
  cases h with
  | unlisted hstop => cases hlist.symm.trans hstop
  | listed hlisted hreconcile =>
    cases hlist.symm.trans hlisted
    exact deeds_listing_of_reconcile (unbegun_of_list hlist) hreconcile

theorem Reconciler.Removal.not_lists {result : Except Stop Unit}
    (h : Removal reconciler router routes listeners { state } result run)
    (hcalls : run.calls = mid.calls ++ later) : ∀ call ∈ later, ¬call.lists := by
  refine not_lists_of_deeds_eq hlist ?_ ?_ hcalls
  · intro o call after hissued hlists
    cases h.calls.issued hissued with
    | list _ => rfl
    | delete _ _ => cases hlists
  · cases h with
    | unlisted hstop => cases hlist.symm.trans hstop
    | duplicate hlisted _ =>
      cases hlist.symm.trans hlisted
      rfl
    | deleting hlisted _ hdelete =>
      cases hlist.symm.trans hlisted
      rw [(batch_accounts (deletion_obedient _ listeners hlist) hdelete).2 .listing (by simp),
        Run.deeds_logAll]

end Behind

/-! ## Errands on pages -/

theorem SameBehind.onPages {router : RouterRef} {pages : List Page} {mid : Run σ} {mid' : Run τ}
    {x : α × Run σ} {x' : α × Run τ} (h : SameBehind mid.calls mid'.calls x x')
    (hmid : mid.calls = pageCalls router none pages) (hmid' : mid'.calls = [.list router none])
    (hlater : ∀ later, x.2.calls = mid.calls ++ later → ∀ call ∈ later, ¬call.lists) :
    OnPages router pages x x' := by
  obtain ⟨hresult, later, hcalls, hcalls'⟩ := h
  refine ⟨hresult, later, ?_, ?_, hlater later hcalls⟩
  · rw [hcalls, hmid]
  · rw [hcalls', hmid']
    rfl

section Errands

variable {plane : Plane σ} {plane' : Plane τ} {policy : Policy} {mesh : Declared.Mesh}
  {router : Declared.VirtualRouter} {state : σ} {state' : τ} {pages : List Page}

/-- A listing on pages leads to the same refs as one on a single page that holds them all. -/
theorem lists_of_pages {last : σ} {last' : τ}
    (hpages : Pages plane (.of mesh router) state none pages none last)
    (hwhole : Pages plane' (.of mesh router) state' none [⟨pages.flatMap Page.refs, none⟩] none
      last')
    (hlimit : pages.length ≤ policy.pageLimit) :
    ∃ (mid : Run σ) (mid' : Run τ),
      (Reconciler.list ⟨plane, policy⟩ (.of mesh router)).perform state =
        (.ok (pages.flatMap Page.refs), mid) ∧
      (Reconciler.list ⟨plane', policy⟩ (.of mesh router)).perform state' =
        (.ok (pages.flatMap Page.refs), mid') ∧
      mid.state = last ∧ mid'.state = last' ∧
      mid.calls = pageCalls (.of mesh router) none pages ∧
      mid'.calls = [.list (.of mesh router) none] := by
  have hsome : 1 ≤ pages.length := by
    cases hpages <;> exact Nat.succ_pos _
  obtain ⟨mid, hlist, hstate, hmid⟩ := Reconciler.list_of_pages policy hpages hlimit
  obtain ⟨mid', hlist', hstate', hmid'⟩ :=
    Reconciler.list_of_pages policy hwhole (Nat.le_trans hsome hlimit)
  rw [List.flatMap_singleton] at hlist'
  exact ⟨mid, mid', hlist, hlist', hstate, hstate', hmid, hmid'⟩

section Listed

variable {refs : List RouteRef} {mid : Run σ}
  (hlist : (Reconciler.list ⟨plane, policy⟩ (.of mesh router)).perform state = (.ok refs, mid))

include hlist

theorem endsWith_of_repeated (hrepeated : ¬(refs.map RouteRef.routeName).Nodup)
    (nodes : VirtualNode.Table) (listeners : List PortMapping) :
    (∃ duplicate, EndsWith (.duplicateName duplicate) mid.calls
      ((Reconciler.update ⟨plane, policy⟩ mesh router nodes).perform state)) ∧
    (∃ duplicate, EndsWith (.duplicateName duplicate) mid.calls
      ((Reconciler.remove ⟨plane, policy⟩ mesh router listeners).perform state)) ∧
    ∃ duplicate, EndsWith (.duplicateName duplicate) mid.calls
      ((Reconciler.cleanup ⟨plane, policy⟩ mesh router).perform state) := by
  obtain ⟨duplicate, hof⟩ : ∃ duplicate, Partition.of router.spec.routes refs = .error duplicate :=
    Partition.exists_error_iff.2 fun hunique => hrepeated hunique.2
  obtain ⟨listed, hnone⟩ : ∃ duplicate, Partition.of [] refs = .error duplicate :=
    Partition.exists_error_iff.2 fun hunique => hrepeated hunique.2
  refine ⟨⟨duplicate, ?_⟩, ⟨duplicate, ?_⟩, ⟨listed, ?_⟩⟩
  · rw [Reconciler.update_of_duplicate hlist hof]
    exact ⟨rfl, rfl⟩
  · rw [Reconciler.remove_of_duplicate hlist hof]
    exact ⟨rfl, rfl⟩
  · rw [Reconciler.cleanup_of_duplicate hlist hnone]
    exact ⟨rfl, rfl⟩

end Listed

theorem endsWith_of_unlisted {failure : Failure} {mid : Run σ}
    (hlist : (Reconciler.list ⟨plane, policy⟩ (.of mesh router)).perform state =
      (.error (.failed failure), mid))
    (nodes : VirtualNode.Table) (listeners : List PortMapping) :
    EndsWith failure mid.calls
      ((Reconciler.update ⟨plane, policy⟩ mesh router nodes).perform state) ∧
    EndsWith failure mid.calls
      ((Reconciler.remove ⟨plane, policy⟩ mesh router listeners).perform state) ∧
    EndsWith failure mid.calls
      ((Reconciler.cleanup ⟨plane, policy⟩ mesh router).perform state) := by
  have hupdate : (Reconciler.update ⟨plane, policy⟩ mesh router nodes).perform state =
      (.error (.failed failure), mid) := Action.bind_of_error hlist
  have hremove : (Reconciler.remove ⟨plane, policy⟩ mesh router listeners).perform state =
      (.error (.failed failure), mid) := Action.bind_of_error hlist
  have hcleanup : (Reconciler.cleanup ⟨plane, policy⟩ mesh router).perform state =
      (.error (.failed failure), mid) := Action.bind_of_error hlist
  rw [hupdate, hremove, hcleanup]
  exact ⟨⟨rfl, rfl⟩, ⟨rfl, rfl⟩, ⟨rfl, rfl⟩⟩

end Errands

/-- Update, remove and cleanup ask once for each page of their listing, the first time with no
token and then with the one of the page before. Next to the same refs on a single page, and on a
control plane that is alike from there on, they make the same further calls and come to the same;
so names that are repeated on different pages are refused as those on one page are. Where a page is
refused, they make no further call and come to this failure. -/
theorem pagination_transparent (plane : Plane σ) (plane' : Plane τ) (policy : Policy)
    (mesh : Declared.Mesh) (router : Declared.VirtualRouter) (nodes : VirtualNode.Table)
    (listeners : List PortMapping) (state : σ) (state' : τ) (pages : List Page) :
    (∀ mid mid', Pages plane (.of mesh router) state none pages none mid →
      Pages plane' (.of mesh router) state' none [⟨pages.flatMap Page.refs, none⟩] none mid' →
      plane.Alike mid plane' mid' → pages.length ≤ policy.pageLimit →
      (pageCalls (.of mesh router) none pages).length = pages.length ∧
      OnPages (.of mesh router) pages
        ((Reconciler.update ⟨plane, policy⟩ mesh router nodes).perform state)
        ((Reconciler.update ⟨plane', policy⟩ mesh router nodes).perform state') ∧
      OnPages (.of mesh router) pages
        ((Reconciler.remove ⟨plane, policy⟩ mesh router listeners).perform state)
        ((Reconciler.remove ⟨plane', policy⟩ mesh router listeners).perform state') ∧
      OnPages (.of mesh router) pages
        ((Reconciler.cleanup ⟨plane, policy⟩ mesh router).perform state)
        ((Reconciler.cleanup ⟨plane', policy⟩ mesh router).perform state') ∧
      (¬((pages.flatMap Page.refs).map RouteRef.routeName).Nodup →
        (∃ duplicate, EndsWith (.duplicateName duplicate) (pageCalls (.of mesh router) none pages)
          ((Reconciler.update ⟨plane, policy⟩ mesh router nodes).perform state)) ∧
        (∃ duplicate, EndsWith (.duplicateName duplicate) (pageCalls (.of mesh router) none pages)
          ((Reconciler.remove ⟨plane, policy⟩ mesh router listeners).perform state)) ∧
        ∃ duplicate, EndsWith (.duplicateName duplicate) (pageCalls (.of mesh router) none pages)
          ((Reconciler.cleanup ⟨plane, policy⟩ mesh router).perform state))) ∧
    ∀ error mid, Pages plane (.of mesh router) state none pages (some error) mid →
      pages.length < policy.pageLimit →
      (pageCalls (.of mesh router) none pages).length = pages.length + 1 ∧
      EndsWith (.api error) (pageCalls (.of mesh router) none pages)
        ((Reconciler.update ⟨plane, policy⟩ mesh router nodes).perform state) ∧
      EndsWith (.api error) (pageCalls (.of mesh router) none pages)
        ((Reconciler.remove ⟨plane, policy⟩ mesh router listeners).perform state) ∧
      EndsWith (.api error) (pageCalls (.of mesh router) none pages)
        ((Reconciler.cleanup ⟨plane, policy⟩ mesh router).perform state) := by
  constructor
  · intro last last' hpages hwhole halike hlimit
    obtain ⟨mid, mid', hlist, hlist', rfl, rfl, hmid, hmid'⟩ :=
      lists_of_pages hpages hwhole hlimit
    refine ⟨hpages.length_pageCalls, ?_, ?_, ?_, ?_⟩
    · have hupdate := Reconciler.update_together rfl hlist hlist' halike rfl rfl nodes
      have herrand := Reconciler.errand_of_update (Prod.eta ((Reconciler.update ⟨plane, policy⟩
        mesh router nodes).perform state)).symm
      exact hupdate.sameBehind.onPages hmid hmid' fun _ => herrand.not_lists hlist
    · have hremove := Reconciler.remove_together rfl hlist hlist' halike rfl listeners
      have hremoval := Reconciler.removal_of_remove (Prod.eta ((Reconciler.remove ⟨plane, policy⟩
        mesh router listeners).perform state)).symm
      exact hremove.sameBehind.onPages hmid hmid' fun _ => hremoval.not_lists hlist
    · have hcleanup := Reconciler.cleanup_together hlist hlist' halike
      obtain ⟨_, herrand, _⟩ := Reconciler.errand_of_cleanup (Prod.eta ((Reconciler.cleanup
        ⟨plane, policy⟩ mesh router).perform state)).symm
      exact hcleanup.sameBehind.onPages hmid hmid' fun _ => herrand.not_lists hlist
    · intro hrepeated
      rw [← hmid]
      exact endsWith_of_repeated hlist hrepeated nodes listeners
  · intro error last hpages hlimit
    obtain ⟨mid, hlist, -, hmid⟩ := Reconciler.list_of_pages policy hpages hlimit
    rw [← hmid]
    exact ⟨hmid ▸ hpages.length_pageCalls, endsWith_of_unlisted hlist nodes listeners⟩

section Sample

open Rehearsal

theorem pagination_transparent_on_sample :
    OnPages (.of Sample.mesh Sample.router) Sample.scattered
        ((Sample.pager.update Sample.mesh Sample.router Sample.nodes).perform
          (Sample.scattered.map .ok, Sample.stage))
        ((Sample.pager.update Sample.mesh Sample.router Sample.nodes).perform
          ([.ok ⟨Sample.addresses ["gone", "kept"], none⟩], Sample.stage)) ∧
      (∃ duplicate, EndsWith (.duplicateName duplicate)
        (pageCalls (.of Sample.mesh Sample.router) none Sample.echoing)
        ((Sample.pager.remove Sample.mesh Sample.router Sample.listeners).perform
          (Sample.echoing.map .ok, Sample.stage))) ∧
      EndsWith (.api (.other "down"))
        (pageCalls (.of Sample.mesh Sample.router) none (continued [([], "more")]))
        ((Sample.pager.cleanup Sample.mesh Sample.router).perform
          ((continued [([], "more")]).map .ok ++ [.error (.other "down")], Sample.stage)) := by
  have hscattered : Pages plainPlane.paging (.of Sample.mesh Sample.router)
      (Sample.scattered.map .ok, Sample.stage) none Sample.scattered none ([], Sample.stage) :=
    .of_split plainPlane _ Sample.stage _ _
  have hwhole : Pages plainPlane.paging (.of Sample.mesh Sample.router)
      ([.ok ⟨Sample.addresses ["gone", "kept"], none⟩], Sample.stage) none
      [⟨Sample.scattered.flatMap Page.refs, none⟩] none ([], Sample.stage) :=
    .of_split plainPlane _ Sample.stage [] _
  have hechoing : Pages plainPlane.paging (.of Sample.mesh Sample.router)
      (Sample.echoing.map .ok, Sample.stage) none Sample.echoing none ([], Sample.stage) :=
    .of_split plainPlane _ Sample.stage _ _
  have hechoed : Pages plainPlane.paging (.of Sample.mesh Sample.router)
      ([.ok ⟨Sample.addresses ["kept", "gone", "gone"], none⟩], Sample.stage) none
      [⟨Sample.echoing.flatMap Page.refs, none⟩] none ([], Sample.stage) :=
    .of_split plainPlane _ Sample.stage [] _
  have hfailing := Pages.of_split_failed plainPlane (.of Sample.mesh Sample.router) Sample.stage
    [([], "more")] (.other "down")
  obtain ⟨-, hupdate, -⟩ := (pagination_transparent plainPlane.paging plainPlane.paging
    Sample.pager.policy Sample.mesh Sample.router Sample.nodes Sample.listeners _ _ _).1 _ _
    hscattered hwhole (.refl _ _) (by decide)
  obtain ⟨-, -, -, -, hrepeated⟩ := (pagination_transparent plainPlane.paging plainPlane.paging
    Sample.pager.policy Sample.mesh Sample.router Sample.nodes Sample.listeners _ _ _).1 _ _
    hechoing hechoed (.refl _ _) (by decide)
  obtain ⟨-, hremove, -⟩ := hrepeated (by decide)
  obtain ⟨-, -, -, hcleanup⟩ := (pagination_transparent plainPlane.paging plainPlane.paging
    Sample.pager.policy Sample.mesh Sample.router Sample.nodes Sample.listeners _
    ([], Sample.stage) _).2 _ _ hfailing (by decide)
  exact ⟨hupdate, hremove, hcleanup⟩

end Sample

end MeshRoutes.Control

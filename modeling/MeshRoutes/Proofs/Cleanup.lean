import MeshRoutes.Proofs.FailureCauses
import MeshRoutes.Proofs.RacedStage
/-!
# Cleanups

A cleanup reconciles with no declared route at all, so it describes and then deletes every
route that it lists, and looks at nothing of the router but its address. That a route is not
found is no failure: whatever other clients delete, nothing that was listed is left, and nothing
at all if the listing was complete.
-/

namespace MeshRoutes

open Control Remote

/-! ## Nothing declared -/

namespace Partition

variable {refs : List RouteRef} {partition : Partition} (h : Partition.of [] refs = .ok partition)

include h

theorem missing_eq_nil : partition.missing = [] := by
  rw [List.eq_nil_iff_forall_not_mem]
  intro route hroute
  exact List.not_mem_nil ((mem_missing h).1 hroute).1

theorem matched_eq_nil : partition.matched = [] := by
  rw [List.eq_nil_iff_forall_not_mem]
  intro pairing hpairing
  exact List.not_mem_nil ((mem_matched h).1 hpairing).1

theorem mem_works_of_nil {work : Work} :
    work ∈ partition.works ↔ ∃ ref ∈ refs, .deleting ref = work := by
  simp [mem_works, missing_eq_nil h, matched_eq_nil h, mem_surplus h]

end Partition

namespace Control

variable {σ : Type}

namespace Reconciler

variable {reconciler : Reconciler σ} {router : RouterRef} {scope : Declared.Scope}
  {result : Except Stop (NameMap RouteRecord)} {run : Run σ} {state : σ}

/-- With nothing to create or to update, the scope is of no account. -/
theorem reconcile_nil_eq (reconciler : Reconciler σ) (router : RouterRef)
    (scope scope' : Declared.Scope) (refs : List RouteRef) :
    reconciler.reconcile router scope [] refs = reconciler.reconcile router scope' [] refs := by
  unfold reconcile
  cases h : Partition.of [] refs with
  | error duplicate => rfl
  | ok partition =>
    dsimp only
    rw [Partition.missing_eq_nil h, Partition.matched_eq_nil h]
    rfl

/-- With nothing declared, only a call that was refused makes a reconciliation fail. -/
theorem exists_answered_of_reconcile_nil {refs : List RouteRef} {partition : Partition}
    {start : Run σ} {stop : Stop} (h : Partition.of [] refs = .ok partition)
    (hnew : ∀ work : Work, deeds work.operation start.history = [])
    (hrun : reconciler.reconcile router scope [] refs start = (.error stop, run)) :
    ∃ o call text after, stop = .failed (.api (.other text)) ∧
      .answered o call (.error (.other text)) after ∈ run.history := by
  have hworked := worked_of_reconcile h (fun work _ => hnew work) hrun
  obtain ⟨failure, rfl, work, hwork, hsettled, _⟩ := hworked.ended
  obtain ⟨ref, _, rfl⟩ := (Partition.mem_works_of_nil h).1 hwork
  have hfailed := hsettled.mem_iff.2 rfl
  cases (RouteTask.deletionFails_iff (hworked.accounts _ hwork)).1 hfailed with
  | undescribed hanswered | refused hanswered =>
    obtain ⟨after, hmoment⟩ := answered_mem_deeds.1 hanswered
    exact ⟨_, _, _, after, rfl, hmoment⟩

/-! ## The calls of a cleanup -/

/-- What a cleanup may ask for, by what it lists and is answered. -/
inductive CleanupCall (router : RouterRef) (run : Run σ) : Operation → Call → Prop where
  | list (token : Option String) : CleanupCall router run .listing (.list router token)
  | retire {ref : RouteRef} {call : Call} (href : ref ∈ run.listed)
      (h : RouteTask.RetireAsked ref (deeds (.deleting ref.routeName) run.history) call) :
    CleanupCall router run (.deleting ref.routeName) call

namespace Errand

variable (h : Errand reconciler router scope [] { state } result run)

include h

theorem leads : Run.Leads reconciler.plane { state } run := by
  cases h with
  | unlisted hlist => exact leads_of_list hlist
  | listed hlist hreconcile => exact (leads_of_list hlist).trans (leads_of_reconcile hreconcile)

theorem eq_list_of_about {deed : Deed} {call : Call} (hdeed : deed ∈ deeds .listing run.history)
    (habout : deed.about? = some call) : ∃ token, call = .list router token := by
  cases h with
  | unlisted hlist => exact (callsAre_of_list hlist .listing deed hdeed call habout).2
  | listed hlist hreconcile =>
    rw [deeds_listing_of_reconcile (unbegun_of_list hlist) hreconcile] at hdeed
    exact (callsAre_of_list hlist .listing deed hdeed call habout).2

theorem cleanupCalls : run.CallsAre (CleanupCall router run) := by
  intro o deed hdeed call habout
  by_cases ho : o = .listing
  · subst ho
    obtain ⟨token, rfl⟩ := h.eq_list_of_about hdeed habout
    exact .list token
  · obtain ⟨partition, hpartition, work, hwork, rfl, haccount⟩ :=
      h.accounted.working ho (List.ne_nil_of_mem hdeed)
    obtain ⟨ref, href, rfl⟩ := (Partition.mem_works_of_nil hpartition).1 hwork
    exact .retire href (RouteTask.retireAsked_of_account haccount deed hdeed call habout)

/-- Nothing but a failure of the control plane makes a cleanup fail. -/
theorem exists_records (hdistinct : ListsDistinctly reconciler.plane)
    (hends : Listing.EndsWithin reconciler.plane router reconciler.policy.pageLimit state)
    (hexpects : run.Expects Tolerable) : ∃ records, result = .ok records := by
  cases h with
  | unlisted hlist =>
    obtain ⟨_, refs, hok, _⟩ := exists_refs_of_list hends (fun _ _ => id) hlist hexpects
    cases hok
  | listed hlist hreconcile =>
    obtain ⟨_, hlisting⟩ := listing_of_list hlist
    have hnone : (([] : List Declared.Route).map Declared.Route.name).Nodup := List.nodup_nil
    obtain ⟨partition, hpartition⟩ := Partition.exists_of_nodup hnone (hdistinct hlisting)
    cases result with
    | ok records => exact ⟨records, rfl⟩
    | error stop =>
      obtain ⟨o, call, text, after, _, hmoment⟩ :=
        exists_answered_of_reconcile_nil hpartition (unbegun_of_list hlist) hreconcile
      exact absurd (hexpects _ _ _ _ hmoment) Tolerable.not_other

/-- A cleanup that succeeds has listed to the end, and what it listed is what the control plane
lists. -/
theorem exists_listing {records : NameMap RouteRecord} (hresult : result = .ok records) :
    ∃ pages mid, Listing reconciler.plane router pages state none (.ok run.listed) mid.state ∧
      Run.Leads reconciler.plane mid run := by
  cases h with
  | unlisted _ => cases hresult
  | @listed _ _ mid _ hlist hreconcile =>
    rw [listed_of_list_of_reconcile hlist hreconcile]
    obtain ⟨pages, hlisting⟩ := listing_of_list hlist
    exact ⟨pages, mid, hlisting, leads_of_reconcile hreconcile⟩

/-- A cleanup that succeeds has settled the deletion of everything that it listed. -/
theorem exists_retireResult {records : NameMap RouteRecord} (hresult : result = .ok records)
    {ref : RouteRef} (href : ref ∈ run.listed) :
    ∃ past, past ⊆ deeds (.deleting ref.routeName) run.history ∧
      RouteTask.RetireResult ref past (.ok ()) := by
  subst hresult
  obtain ⟨partition, hpartition, _, hsettled⟩ := h.succeeded
  have hwork := (Partition.mem_works_of_nil hpartition).2 ⟨ref, href, rfl⟩
  obtain ⟨haccount, hnone⟩ := hsettled _ hwork
  obtain ⟨past, result, hok, hdeeds, hcome⟩ := haccount.exists_of_settled hnone
  cases result with
  | error failure => cases hok
  | ok _ =>
    refine ⟨past, ?_, hcome⟩
    change past ⊆ deeds (Work.deleting ref).operation run.history
    rw [hdeeds]
    exact List.subset_append_left _ _

theorem thinning : run.Thinning fun _ => True := by
  refine h.cleanupCalls.mono ?_
  rintro o call (⟨token⟩ | ⟨_, hasked⟩)
  · exact ⟨nofun, fun _ _ => trivial⟩
  · cases hasked <;> exact ⟨nofun, fun _ _ => trivial⟩

section Shared

variable {store : σ → NameMap RouteRecord} {raced : String → Prop}
  (hstore : SharedStore reconciler.plane store raced Tolerable) (hexpects : run.Expects Tolerable)
  {records : NameMap RouteRecord} (hresult : result = .ok records)

include hstore hexpects hresult

/-- What was listed is not stored in the end, whoever deleted it. -/
theorem get?_eq_none_of_listed {ref : RouteRef} (href : ref ∈ run.listed) :
    (store run.state).get? ref.routeName = none := by
  have hraced : ∀ name, raced name → True := fun _ _ => trivial
  have hthinning := h.thinning
  obtain ⟨past, hpast, hcome⟩ := h.exists_retireResult hresult href
  have hdeleted (actual : RouteRecord) (outcome : (Call.delete actual.ref).Outcome)
      (hdescribed : .answered (.describe ref) (.ok actual) ∈ past)
      (hanswered : .answered (.delete actual.ref) outcome ∈ past) :
      (store run.state).get? ref.routeName = none := by
    obtain ⟨_, hdescribed⟩ := answered_mem_deeds.1 (hpast hdescribed)
    obtain ⟨_, hanswered⟩ := answered_mem_deeds.1 (hpast hanswered)
    have hname : actual.ref.routeName = ref.routeName :=
      hstore.name_of_described hexpects h.leads hdescribed
    rw [← hname]
    exact hstore.get?_eq_none_of_deleted hraced hthinning hexpects h.leads hanswered
  -- however the deletion came out, it ended with an answer after which the name is gone
  cases hcome with
  | @vanished text =>
    have hanswered : .answered (.describe ref) (.error (.notFound text)) ∈
        deeds (.deleting ref.routeName) run.history := hpast (by simp)
    obtain ⟨_, hmoment⟩ := answered_mem_deeds.1 hanswered
    exact hstore.get?_eq_none_of_vanished hraced hthinning hexpects h.leads hmoment
  | @deleted actual => exact hdeleted actual (.ok ()) (by simp) (by simp)
  | @deletedBefore actual text =>
    exact hdeleted actual (.error (.notFound text)) (by simp) (by simp)

/-- Nothing is stored in the end if everything was listed that was stored by then. -/
theorem store_eq_empty (hcomplete : ListsCompletely reconciler.plane store) :
    store run.state = .empty := by
  obtain ⟨pages, mid, hlisting, hleads⟩ := h.exists_listing hresult
  apply NameMap.eq_of_get?_eq
  intro name
  rw [NameMap.get?_empty]
  by_cases hlisted : name ∈ run.listed.map RouteRef.routeName
  · obtain ⟨ref, href, rfl⟩ := List.mem_map.1 hlisted
    exact h.get?_eq_none_of_listed hstore hexpects hresult href
  · -- a name that was not listed was not stored when the listing ended, and nothing was stored since
    have hmid : (store mid.state).get? name = none := by
      rw [NameMap.get?_eq_none_iff]
      exact fun hstored => hlisted (hcomplete hlisting hstored)
    have hthins := hstore.thins (fun _ _ => trivial) h.thinning hexpects hleads
    exact hthins.get?_eq_none hmid

end Shared

end Errand

end Reconciler

/-! ## Cleanups of a router -/

/-- A cleanup that sees no other failure than that a route is not found succeeds. It lists all that
the control plane lists, describes what is listed, and deletes what is described. Whichever routes
somebody else deletes meanwhile, nothing that was listed is stored in the end, and nothing at all
if the listing had every name that was stored. Against any control plane, a cleanup depends on
nothing of the router but its address. -/
theorem cleanup_empties (reconciler : Reconciler σ) (mesh : Declared.Mesh)
    (router : Declared.VirtualRouter) (state : σ) :
    (∀ (store : σ → NameMap RouteRecord) (raced : String → Prop) (result : Except Stop Unit)
        (run : Run σ),
      SharedStore reconciler.plane store raced Tolerable → ListsDistinctly reconciler.plane →
      Listing.EndsWithin reconciler.plane (.of mesh router) reconciler.policy.pageLimit state →
      (reconciler.cleanup mesh router).perform state = (result, run) → run.Expects Tolerable →
      result = .ok () ∧
      (∃ pages refs state',
        Listing reconciler.plane (.of mesh router) pages state none (.ok refs) state' ∧
        run.listed = refs ∧
        (∀ call ∈ run.calls, (∃ token, call = .list (.of mesh router) token) ∨
          ∃ ref ∈ refs, call = .describe ref ∨
            ∃ address, address.routeName = ref.routeName ∧ call = .delete address) ∧
        ∀ ref ∈ refs, (store run.state).get? ref.routeName = none) ∧
      (ListsCompletely reconciler.plane store → store run.state = .empty)) ∧
    ∀ (mesh' : Declared.Mesh) (router' : Declared.VirtualRouter),
      RouterRef.of mesh' router' = RouterRef.of mesh router →
      (reconciler.cleanup mesh' router').perform state =
        (reconciler.cleanup mesh router).perform state := by
  constructor
  · intro store raced result run hstore hdistinct hends hrun hcalls
    obtain ⟨records?, herrand, rfl⟩ := Reconciler.errand_of_cleanup hrun
    obtain ⟨records, rfl⟩ := herrand.exists_records hdistinct hends hcalls
    obtain ⟨pages, mid, hlisting, _⟩ := herrand.exists_listing rfl
    refine ⟨rfl, ⟨pages, run.listed, mid.state, hlisting, rfl, ?_, ?_⟩, ?_⟩
    · intro call hcall
      obtain ⟨o, hkind⟩ := herrand.cleanupCalls.exists_of_mem hcall
      cases hkind with
      | list token => exact .inl ⟨token, rfl⟩
      | @retire ref _ href hasked =>
        refine .inr ⟨ref, href, ?_⟩
        cases hasked with
        | describe => exact .inl rfl
        | @delete actual hdescribed =>
          obtain ⟨_, hmoment⟩ := answered_mem_deeds.1 hdescribed
          have hname := hstore.name_of_described hcalls herrand.leads hmoment
          exact .inr ⟨actual.ref, hname, rfl⟩
    · exact fun ref href => herrand.get?_eq_none_of_listed hstore hcalls rfl href
    · exact fun hcomplete => herrand.store_eq_empty hstore hcalls rfl hcomplete
  · intro mesh' router' hrouter
    unfold Reconciler.cleanup
    rw [hrouter]
    simp only [reconciler.reconcile_nil_eq _ (router'.scope {}) (router.scope {})]

section Sample

open Rehearsal

private theorem cleaning_answers :
    (Sample.cleaning Sample.two).2.history.all Moment.tolerable ∧
      (Sample.cleaning Sample.two).2.listed.map RouteRef.routeName =
        ["early", "ghost", "kept", "late"] := by
  cbv

theorem cleanup_empties_on_sample :
    (Sample.cleaning Sample.two).2.Expects Tolerable ∧ (Sample.cleaning Sample.two).1 = .ok () ∧
      (∃ pages refs stage, Listing (racedPlane _ _) (.of Sample.mesh Sample.router) pages
          Sample.crowded none (.ok refs) stage ∧
        refs.map RouteRef.routeName = ["early", "ghost", "kept", "late"]) ∧
      (Sample.cleaning Sample.two).2.state.1.routes = .empty ∧
      (Reconciler.cleanup ⟨racedPlane _ _, { concurrency := Sample.two, pageLimit := 1 }⟩
        Sample.mesh Sample.gateway).perform Sample.crowded = Sample.cleaning Sample.two := by
  have hends : Listing.EndsWithin (racedPlane _ _) (.of Sample.mesh Sample.router) 1
      Sample.crowded := Stage.endsWithin_one _ rfl rfl _
  have hrun : (Reconciler.cleanup ⟨racedPlane _ _, { concurrency := Sample.two, pageLimit := 1 }⟩
      Sample.mesh Sample.router).perform Sample.crowded =
        ((Sample.cleaning Sample.two).1, (Sample.cleaning Sample.two).2) := rfl
  obtain ⟨htolerable, hlisted⟩ := cleaning_answers
  have hcalls := Run.expects_tolerable_of_all htolerable
  obtain ⟨hempties, haddress⟩ := cleanup_empties
    ⟨racedPlane _ _, { concurrency := Sample.two, pageLimit := 1 }⟩ Sample.mesh Sample.router
    Sample.crowded
  obtain ⟨hresult, ⟨pages, refs, stage, hlisting, rfl, -, -⟩, hempty⟩ := hempties _ _ _ _
    sharedStore_racedPlane listsDistinctly_racedPlane hends hrun hcalls
  exact ⟨hcalls, hresult, ⟨pages, _, stage, hlisting, hlisted⟩,
    hempty listsCompletely_racedPlane, haddress Sample.mesh Sample.gateway rfl⟩

end Sample

end Control

end MeshRoutes

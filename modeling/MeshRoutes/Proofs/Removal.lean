import MeshRoutes.Proofs.Accounts
import MeshRoutes.Proofs.Fitting
import MeshRoutes.Proofs.RacedStage
/-!
# Removals

A removal lists, and then deletes in one batch what is listed and does not fit the listeners.
Each deletion is one call, addressed by the ref as it was listed. On a store that is shared,
whatever else its clients delete of the routes that do not fit, what is left are the entries
that fit.

* `Reconciler.removal_of_remove` : the course of a removal.
* `Reconciler.Removal.get?_eq_some_iff` : what a removal that succeeds leaves.
-/

namespace MeshRoutes

/-- What a removal tells of before it deletes anything. -/
def Partition.notices (partition : Partition) (listeners : List PortMapping) : List Log.Event :=
  (partition.conflicts listeners).map .conflicting ++
    [.removing (partition.tainted listeners).length]

namespace Control

open Remote

variable {σ α : Type}

/-! ## Several events -/

def Run.logAll (events : List Log.Event) (run : Run σ) : Run σ := events.foldl Run.log run

theorem Run.leads_logAll (plane : Plane σ) (events : List Log.Event) (run : Run σ) :
    Run.Leads plane run (run.logAll events) := by
  induction events generalizing run with
  | nil => exact .refl
  | cons event rest ih => exact (ih (run.log event)).head (.record rfl)

theorem Run.deeds_logAll (operation : Operation) (events : List Log.Event) (run : Run σ) :
    deeds operation (run.logAll events).history = deeds operation run.history := by
  induction events generalizing run with
  | nil => rfl
  | cons event rest ih => exact (ih (run.log event)).trans (deeds_log operation run event)

namespace Reconciler

theorem forM_log_eq (events : List α) (event : α → Log.Event) (run : Run σ) :
    (events.forM fun a => (log (event a) : Action σ Stop Unit)) run =
      (.ok (), run.logAll (events.map event)) := by
  induction events generalizing run with
  | nil => rfl
  | cons a rest ih => exact (Action.bind_of_ok (log_eq (event a) run)).trans (ih _)

variable {reconciler : Reconciler σ} {router : RouterRef} {routes : List Declared.Route}
  {listeners : List PortMapping} {refs : List RouteRef} {partition : Partition}
  {start run run' : Run σ} {result : Except Stop Unit} {state : σ}

/-! ## The course of a removal -/

/-- How far a removal got, and what came of it. -/
inductive Removal (reconciler : Reconciler σ) (router : RouterRef) (routes : List Declared.Route)
    (listeners : List PortMapping) (start : Run σ) : Except Stop Unit → Run σ → Prop where
  | unlisted {stop : Stop} {run : Run σ}
      (hlist : reconciler.list router start = (.error stop, run)) :
    Removal reconciler router routes listeners start (.error stop) run
  | duplicate {refs : List RouteRef} {name : DuplicateName} {run : Run σ}
      (hlist : reconciler.list router start = (.ok refs, run))
      (h : Partition.of routes refs = .error name) :
    Removal reconciler router routes listeners start (.error (.failed (.duplicateName name))) run
  | deleting {refs : List RouteRef} {partition : Partition} {deleted : Except Stop (List Unit)}
      {run₁ run : Run σ} (hlist : reconciler.list router start = (.ok refs, run₁))
      (h : Partition.of routes refs = .ok partition)
      (hdelete : reconciler.batch (.deleting ·.routeName) (RouteTask.delete (n := 0))
        (partition.tainted listeners) (run₁.logAll (partition.notices listeners)) =
          (deleted, run)) :
    Removal reconciler router routes listeners start (deleted.map fun _ => ()) run

theorem removal_of_remove {mesh : Declared.Mesh} {router : Declared.VirtualRouter}
    (h : reconciler.remove mesh router listeners run = (result, run')) :
    Removal reconciler (.of mesh router) router.spec.routes listeners run result run' := by
  rcases Action.bind_cases h with ⟨stop, hlist, rfl⟩ | ⟨refs, run₁, hlist, h⟩
  · exact .unlisted hlist
  cases hpartition : Partition.of router.spec.routes refs with
  | error name =>
    rw [hpartition] at h
    cases h
    exact .duplicate hlist hpartition
  | ok partition =>
    rw [hpartition] at h
    dsimp only at h
    rw [Action.bind_of_ok (forM_log_eq _ _ _), Action.bind_of_ok (log_eq _ _)] at h
    have hlogged : (run₁.logAll ((partition.conflicts listeners).map .conflicting)).log
        (.removing (partition.tainted listeners).length) =
          run₁.logAll (partition.notices listeners) := by
      rw [Partition.notices, Run.logAll, Run.logAll, List.foldl_append]
      rfl
    rw [hlogged] at h
    rcases Action.bind_cases h with ⟨stop, hdelete, rfl⟩ | ⟨deleted, run₂, hdelete, h⟩
    · exact .deleting hlist hpartition hdelete
    · cases h
      exact .deleting hlist hpartition hdelete

theorem Removal.leads (h : Removal reconciler router routes listeners start result run) :
    Run.Leads reconciler.plane start run := by
  cases h with
  | unlisted hlist | duplicate hlist _ => exact leads_of_list hlist
  | deleting hlist _ hdelete =>
    exact ((leads_of_list hlist).trans (Run.leads_logAll _ _ _)).trans (leads_of_batch hdelete)

/-! ## The operations of a removal -/

theorem deletion_obedient (partition : Partition) (listeners : List PortMapping)
    (hlist : reconciler.list router { state } = (.ok refs, run)) :
    Obedient (.deleting ·.routeName) RouteTask.deleteRules (RouteTask.delete (n := 0))
      (partition.tainted listeners) (run.logAll (partition.notices listeners)) where
  distinct := nodup_operations (fun _ _ => Operation.deleting.inj)
    (partition.ascending_tainted listeners)
  unbegun ref _ := by
    rw [Run.deeds_logAll]
    exact unbegun_of_list hlist (.deleting ref)
  obeys ref _ := RouteTask.delete_obeys ref

/-- What a removal may ask for, by what it lists. -/
inductive RemovalCall (router : RouterRef) (routes : List Declared.Route)
    (listeners : List PortMapping) (refs : List RouteRef) : Operation → Call → Prop where
  | list (token : Option String) :
    RemovalCall router routes listeners refs .listing (.list router token)
  | delete {ref : RouteRef} (href : ref ∈ refs)
      (hunfit : ¬Fitting routes listeners ref.routeName) :
    RemovalCall router routes listeners refs (.deleting ref.routeName) (.delete ref)

theorem removalCall_of_list {result : Except Stop (List RouteRef)}
    (h : reconciler.list router { state } = (result, run)) :
    run.CallsAre (RemovalCall router routes listeners refs) := by
  refine (callsAre_of_list h).mono ?_
  rintro o call ⟨rfl, token, rfl⟩
  exact .list token

section Deleting

variable {run₁ : Run σ} {deleted : Except Stop (List Unit)}
  (hlist : reconciler.list router { state } = (.ok refs, run₁))
  (h : Partition.of routes refs = .ok partition)
  (hdelete : reconciler.batch (.deleting ·.routeName) (RouteTask.delete (n := 0))
    (partition.tainted listeners) (run₁.logAll (partition.notices listeners)) = (deleted, run))

include hlist hdelete

theorem listed_of_deletion : run.listed = refs := by
  have hleft := (batch_accounts (deletion_obedient partition listeners hlist) hdelete).2 .listing
    (by simp)
  rw [Run.listed, hleft, Run.deeds_logAll, ← listed_of_list hlist, Run.listed]

include h

theorem removalCall_of_deletion : run.CallsAre (RemovalCall router routes listeners refs) := by
  obtain ⟨haccounts, hleft⟩ :=
    batch_accounts (deletion_obedient partition listeners hlist) hdelete
  intro o deed hdeed call habout
  by_cases htainted : o ∈ (partition.tainted listeners).map fun ref => .deleting ref.routeName
  · obtain ⟨ref, href, rfl⟩ := List.mem_map.1 htainted
    obtain ⟨hlisted, hunfit⟩ := (Partition.mem_tainted_iff_not_fitting h).1 href
    cases RouteTask.eq_delete_of_account (haccounts ref href) deed hdeed call habout
    exact .delete hlisted hunfit
  · rw [hleft o htainted, Run.deeds_logAll] at hdeed
    exact removalCall_of_list hlist o deed hdeed call habout

end Deleting

theorem Removal.calls (h : Removal reconciler router routes listeners { state } result run) :
    run.CallsAre (RemovalCall router routes listeners run.listed) := by
  cases h with
  | unlisted hlist | duplicate hlist _ => exact removalCall_of_list hlist
  | deleting hlist hpartition hdelete =>
    rw [listed_of_deletion hlist hdelete]
    exact removalCall_of_deletion hlist hpartition hdelete

/-- A removal that succeeds has listed to the end, and settled the deletion of everything that
it listed and that does not fit. -/
theorem Removal.succeeded (h : Removal reconciler router routes listeners { state } (.ok ()) run) :
    (∃ pages mid, Listing reconciler.plane router pages state none (.ok run.listed) mid.state ∧
      Run.Leads reconciler.plane mid run) ∧
    ∀ ref ∈ run.listed, ¬Fitting routes listeners ref.routeName → ∃ outcome,
      deeds (.deleting ref.routeName) run.history = [.began, .issued (.delete ref),
        .answered (.delete ref) outcome, .settled none] := by
  generalize hok : Except.ok () = result at h
  cases h with
  | unlisted _ | duplicate _ _ => cases hok
  | @deleting refs partition deleted run₁ _ hlist hpartition hdelete =>
    cases deleted with
    | error stop => cases hok
    | ok results =>
      rw [listed_of_deletion hlist hdelete]
      refine ⟨?_, ?_⟩
      · obtain ⟨pages, hlisting⟩ := listing_of_list hlist
        exact ⟨pages, run₁, hlisting, (Run.leads_logAll _ _ _).trans (leads_of_batch hdelete)⟩
      · intro ref href hunfit
        obtain ⟨done, hitems, _, hsettled⟩ :=
          batch_settles (deletion_obedient partition listeners hlist) hdelete
        have htainted := (Partition.mem_tainted_iff_not_fitting hpartition).2 ⟨href, hunfit⟩
        obtain ⟨p, hp, rfl⟩ := List.mem_map.1 (hitems.mem_iff.2 htainted)
        obtain ⟨before, hdeeds, _, hresult⟩ := hsettled p hp
        rw [hdeeds]
        cases hresult <;> exact ⟨_, rfl⟩

theorem Removal.count_delete
    (h : Removal reconciler router routes listeners { state } (.ok ()) run) {ref : RouteRef}
    (href : ref ∈ run.listed) (hunfit : ¬Fitting routes listeners ref.routeName) :
    run.calls.count (.delete ref) = 1 := by
  obtain ⟨outcome, hdeeds⟩ := h.succeeded.2 ref href hunfit
  have hown : ∀ other call after, .issued other call after ∈ run.history →
      (call == .delete ref) → other = .deleting ref.routeName := by
    intro other call after hissued hcall
    cases beq_iff_eq.1 hcall
    cases h.calls.issued hissued with
    | delete _ _ => rfl
  have hcalls : run.callsOf (.deleting ref.routeName) = [.delete ref] := by
    rw [Run.callsOf, hdeeds]
    rfl
  calc run.calls.count (.delete ref)
      = (run.calls.filter (· == .delete ref)).length := List.count_eq_length_filter
    _ = ([Call.delete ref].filter (· == .delete ref)).length := by
      rw [Run.filter_calls hown, hcalls]
    _ = 1 := by simp

/-- Where all that is stored fits, nothing is deleted. -/
theorem Removal.delete_not_mem {store : σ → NameMap RouteRecord}
    (h : Removal reconciler router routes listeners { state } result run)
    (hlists : ListsFaithfully reconciler.plane store)
    (hfits : ∀ name ∈ (store state).names, Fitting routes listeners name) (ref : RouteRef) :
    .delete ref ∉ run.calls := by
  intro hmem
  obtain ⟨o, hcall⟩ := h.calls.exists_of_mem hmem
  cases hcall with
  | delete href hunfit =>
    cases h with
    | unlisted hlist | duplicate hlist _ =>
      obtain ⟨_, _, _, hlists⟩ := (callsAre_of_list hlist).exists_of_mem hmem
      cases hlists
    | deleting hlist _ hdelete =>
      rw [listed_of_deletion hlist hdelete] at href
      obtain ⟨_, hlisting⟩ := listing_of_list hlist
      exact hunfit (hfits _ (hlists.sound hlisting (List.mem_map_of_mem href)))

/-! ## Removals without failures -/

section Shared

variable {store : σ → NameMap RouteRecord} {raced : String → Prop}
  {expected : (call : Call) → call.Outcome → Prop}

/-- Nothing but a failure of the control plane makes a removal fail. -/
theorem Removal.result_eq_ok
    (h : Removal reconciler router routes listeners { state } result run)
    (hroutes : (routes.map Declared.Route.name).Nodup)
    (hdistinct : ListsDistinctly reconciler.plane)
    (hends : Listing.EndsWithin reconciler.plane router reconciler.policy.pageLimit state)
    (hmild : ∀ call outcome, expected call outcome → Tolerable call outcome)
    (hexpects : run.Expects expected) : result = .ok () := by
  cases h with
  | unlisted hlist =>
    obtain ⟨_, refs, hok, _⟩ := exists_refs_of_list hends hmild hlist hexpects
    cases hok
  | duplicate hlist hduplicate =>
    obtain ⟨_, refs, hok, hlisting⟩ := exists_refs_of_list hends hmild hlist hexpects
    cases hok
    obtain ⟨partition, hpartition⟩ := Partition.exists_of_nodup hroutes (hdistinct hlisting)
    rw [hduplicate] at hpartition
    cases hpartition
  | @deleting refs partition deleted _ _ hlist hpartition hdelete =>
    cases deleted with
    | ok results => rfl
    | error stop =>
      obtain ⟨ref, _, failure, before, _, hdeeds, _, hresult, _⟩ :=
        batch_fails (deletion_obedient partition listeners hlist) hdelete
      cases hresult with
      | @refused text =>
        have hdeed : .answered (.delete ref) (.error (.other text)) ∈
            deeds (.deleting ref.routeName) run.history := by
          rw [hdeeds]
          simp
        obtain ⟨after, hanswered⟩ := answered_mem_deeds.1 hdeed
        exact absurd (hmild _ _ (hexpects _ _ _ _ hanswered)) Tolerable.not_other

/-- A removal that succeeds leaves the entries that fit, and nothing else. -/
theorem Removal.get?_eq_some_iff
    (h : Removal reconciler router routes listeners { state } (.ok ()) run)
    (hstore : SharedStore reconciler.plane store raced expected)
    (hlists : ListsFaithfully reconciler.plane store)
    (hraced : ∀ name, raced name → ¬Fitting routes listeners name)
    (hexpects : run.Expects expected) {name : String} {record : RouteRecord} :
    (store run.state).get? name = some record ↔
      (store state).get? name = some record ∧ Fitting routes listeners name := by
  obtain ⟨⟨pages, mid, hlisting, hmid⟩, hdeleted⟩ := h.succeeded
  have hthinning : run.Thinning fun name => ¬Fitting routes listeners name := by
    refine h.calls.mono ?_
    rintro o call (⟨token⟩ | ⟨_, hunfit⟩)
    · exact ⟨nofun, nofun⟩
    · refine ⟨nofun, ?_⟩
      rintro _ rfl
      exact hunfit
  have hthins := hstore.thins hraced hthinning hexpects h.leads
  constructor
  · intro hrecord
    refine ⟨hthins.get?_eq_some hrecord, ?_⟩
    by_contra hunfit
    have hstored : name ∈ (store mid.state).names := by
      have hsome := (hstore.thins hraced hthinning hexpects hmid).get?_eq_some hrecord
      exact (NameMap.mem_names_iff _).2 (Option.isSome_of_eq_some hsome)
    -- it was stored when the listing ended, so it was listed and deleted
    obtain ⟨ref, href, rfl⟩ := List.mem_map.1 (hlists.complete hlisting hstored)
    obtain ⟨outcome, hdeeds⟩ := hdeleted ref href hunfit
    have hdeed : .answered (.delete ref) outcome ∈ deeds (.deleting ref.routeName) run.history := by
      rw [hdeeds]
      simp
    obtain ⟨after, hanswered⟩ := answered_mem_deeds.1 hdeed
    rw [hstore.get?_eq_none_of_deleted hraced hthinning hexpects h.leads hanswered] at hrecord
    cases hrecord
  · rintro ⟨hrecord, hfits⟩
    rw [hthins.get?_eq (not_not.2 hfits)]
    exact hrecord

end Shared

end Reconciler

/-! ## Exactness -/

/-- A removal of which no call fails, but that a route may be gone before it is deleted, leaves
exactly the entries that fit the listeners. It lists, and deletes each listed ref that does not
fit once, by the ref itself; a second one deletes nothing. -/
theorem remove_exact {plane : Plane σ} {policy : Policy} {store : σ → NameMap RouteRecord}
    {raced : String → Prop} (hstore : SharedStore plane store raced Tolerable)
    (hlists : ListsFaithfully plane store) {mesh : Declared.Mesh}
    {router : Declared.VirtualRouter} {listeners : List PortMapping} {state : σ}
    {result : Except Stop Unit} {run : Run σ}
    (hroutes : (router.spec.routes.map Declared.Route.name).Nodup)
    (hends : Listing.EndsWithin plane (.of mesh router) policy.pageLimit state)
    (hraced : ∀ name, raced name → ¬Fitting router.spec.routes listeners name)
    (hrun : (Reconciler.remove ⟨plane, policy⟩ mesh router listeners).perform state =
      (result, run))
    (hcalls : run.Expects Tolerable) :
    result = .ok () ∧
    (∀ name record, (store run.state).get? name = some record ↔
      (store state).get? name = some record ∧ Fitting router.spec.routes listeners name) ∧
    (∀ call ∈ run.calls, (∃ token, call = .list (.of mesh router) token) ∨
      ∃ ref ∈ run.listed, ¬Fitting router.spec.routes listeners ref.routeName ∧
        call = .delete ref) ∧
    (∀ ref ∈ run.listed, ¬Fitting router.spec.routes listeners ref.routeName →
      run.calls.count (.delete ref) = 1) ∧
    ∀ policy' state' result' run', store state' = store run.state →
      (Reconciler.remove ⟨plane, policy'⟩ mesh router listeners).perform state' =
        (result', run') →
      ∀ ref, .delete ref ∉ run'.calls := by
  have hremoval := Reconciler.removal_of_remove hrun
  obtain rfl := hremoval.result_eq_ok hroutes hlists.distinct hends (fun _ _ => id) hcalls
  have hleft (name : String) (record : RouteRecord) :
      (store run.state).get? name = some record ↔ (store state).get? name = some record ∧
        Fitting router.spec.routes listeners name :=
    hremoval.get?_eq_some_iff hstore hlists hraced hcalls
  refine ⟨rfl, hleft, ?_, fun ref href hunfit => hremoval.count_delete href hunfit, ?_⟩
  · intro call hcall
    obtain ⟨o, hkind⟩ := hremoval.calls.exists_of_mem hcall
    cases hkind with
    | list token => exact .inl ⟨token, rfl⟩
    | delete href hunfit => exact .inr ⟨_, href, hunfit, rfl⟩
  · intro policy' state' result' run' hstate hrun'
    refine (Reconciler.removal_of_remove hrun').delete_not_mem hlists ?_
    intro name hname
    rw [hstate] at hname
    obtain ⟨record, hrecord⟩ := Option.isSome_iff_exists.1 ((NameMap.mem_names_iff _).1 hname)
    exact ((hleft name record).1 hrecord).2

open Rehearsal in
theorem remove_exact_on_sample :
    (Sample.removal Sample.two).2.Expects Tolerable ∧
      (Sample.removal Sample.two).1 = .ok () ∧
      (Sample.removal Sample.two).2.state.1.routes.get? "stale" = none := by
  have hroutes : (Sample.gateway.spec.routes.map Declared.Route.name).Nodup := by decide
  have hends : Listing.EndsWithin (racedPlane _ _) (.of Sample.mesh Sample.gateway) 1
      Sample.contested := Stage.endsWithin_one _ rfl rfl _
  have hraced : ∀ name, name = "stale" →
      ¬Fitting Sample.gateway.spec.routes Sample.listeners name := by
    rintro _ rfl ⟨route, hroute, hname, _⟩
    rcases List.mem_pair.1 hroute with rfl | rfl
    · exact absurd hname (by decide)
    · exact absurd hname (by decide)
  have hrun : (Reconciler.remove ⟨racedPlane _ _, { concurrency := Sample.two, pageLimit := 1 }⟩
      Sample.mesh Sample.gateway Sample.listeners).perform Sample.contested =
        ((Sample.removal Sample.two).1, (Sample.removal Sample.two).2) := rfl
  have hcalls : (Sample.removal Sample.two).2.Expects Tolerable :=
    Run.expects_tolerable_of_all (by cbv)
  obtain ⟨hresult, hleft, _⟩ := remove_exact sharedStore_racedPlane listsFaithfully_racedPlane
    hroutes hends hraced hrun hcalls
  refine ⟨hcalls, hresult, Option.eq_none_iff_forall_ne_some.2 ?_⟩
  intro record hrecord
  exact hraced "stale" rfl ((hleft "stale" record).1 hrecord).2

end Control

end MeshRoutes

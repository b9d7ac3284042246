import MeshRoutes.Proofs.RouteAccounts
import Mathlib.Data.List.Nodup
/-!
# Accounts of a reconciliation

A reconciliation works on each declared route and each listed ref in an operation of its own.
Whatever the control plane does, every operation keeps to the rules of its kind. If the
reconciliation succeeds all of them did, and if it fails exactly one of them failed.

* `Reconciler.worked_of_reconcile` : what a reconciliation makes of its operations.
* `Reconciler.recorded_of_reconcile` : what it returns, where it succeeds.
-/

namespace MeshRoutes

open Control Remote

namespace Control

/-- The work on one route. -/
inductive Work where
  | creating (route : Declared.Route)
  | updating (pairing : Pairing)
  | deleting (ref : RouteRef)

namespace Work

/-- The operation that does the work. -/
def operation : Work → Operation
  | creating route => .creating route.name
  | updating pairing => .updating pairing.route.name
  | deleting ref => .deleting ref.routeName

theorem operation_ne_listing (work : Work) : work.operation ≠ .listing := by
  cases work <;> simp [operation]

/-- What is known of the deeds of the operation once its batch is over. -/
def Account (router : RouterRef) (scope : Declared.Scope) : Work → List Deed → Prop
  | creating route => (RouteTask.createRules router scope route).Account
  | updating pairing => (RouteTask.updateRules scope pairing).Account
  | deleting ref => (RouteTask.retireRules ref).Account

theorem account_nil (router : RouterRef) (scope : Declared.Scope) (work : Work) :
    work.Account router scope [] := by
  cases work <;> exact Rules.Account.nil

end Work

end Control

namespace Partition

variable {routes : List Declared.Route} {refs : List RouteRef} {partition : Partition}

/-- The work on a partition, in the order in which it begins. -/
def works (partition : Partition) : List Work :=
  partition.missing.map .creating ++ partition.matched.map .updating ++
    partition.surplus.map .deleting

theorem mem_works {work : Work} : work ∈ partition.works ↔
    (∃ route ∈ partition.missing, .creating route = work) ∨
      (∃ pairing ∈ partition.matched, .updating pairing = work) ∨
        ∃ ref ∈ partition.surplus, .deleting ref = work := by
  simp only [works, List.mem_append, List.mem_map, or_assoc]

section Members

variable (h : Partition.of routes refs = .ok partition)
include h

theorem creating_mem_works {route : Declared.Route} (hroute : route ∈ routes)
    (hunlisted : route.name ∉ refs.map RouteRef.routeName) : .creating route ∈ partition.works :=
  mem_works.2 (.inl ⟨route, (mem_missing h).2 ⟨hroute, hunlisted⟩, rfl⟩)

theorem updating_mem_works {route : Declared.Route} {ref : RouteRef} (hroute : route ∈ routes)
    (href : ref ∈ refs) (hname : ref.routeName = route.name) :
    .updating ⟨route, ref⟩ ∈ partition.works :=
  mem_works.2 (.inr (.inl ⟨⟨route, ref⟩, (mem_matched h).2 ⟨hroute, href, hname⟩, rfl⟩))

theorem deleting_mem_works {ref : RouteRef} (href : ref ∈ refs)
    (hundeclared : ref.routeName ∉ routes.map Declared.Route.name) :
    .deleting ref ∈ partition.works :=
  mem_works.2 (.inr (.inr ⟨ref, (mem_surplus h).2 ⟨href, hundeclared⟩, rfl⟩))

end Members

end Partition

namespace Control

variable {σ β α : Type}

/-- The work that is to be done on declared routes and listed refs. -/
inductive Operation.Planned (routes : List Declared.Route) (refs : List RouteRef) :
    Operation → Prop where
  | creating {route : Declared.Route} (h : route ∈ routes)
      (hunlisted : route.name ∉ refs.map RouteRef.routeName) :
    Planned routes refs (.creating route.name)
  | updating {route : Declared.Route} {ref : RouteRef} (hroute : route ∈ routes) (href : ref ∈ refs)
      (hname : ref.routeName = route.name) :
    Planned routes refs (.updating route.name)
  | deleting {ref : RouteRef} (h : ref ∈ refs)
      (hundeclared : ref.routeName ∉ routes.map Declared.Route.name) :
    Planned routes refs (.deleting ref.routeName)

variable {routes : List Declared.Route} {refs : List RouteRef} {partition : Partition}

theorem planned_iff (h : Partition.of routes refs = .ok partition) {o : Operation} :
    o.Planned routes refs ↔ ∃ work ∈ partition.works, work.operation = o := by
  constructor
  · intro hplanned
    cases hplanned with
    | creating hmem hunlisted => exact ⟨_, Partition.creating_mem_works h hmem hunlisted, rfl⟩
    | updating hroute href hname =>
      exact ⟨_, Partition.updating_mem_works h hroute href hname, rfl⟩
    | deleting hmem hundeclared => exact ⟨_, Partition.deleting_mem_works h hmem hundeclared, rfl⟩
  · rintro ⟨work, hwork, rfl⟩
    rcases Partition.mem_works.1 hwork with ⟨route, hroute, rfl⟩ | ⟨pairing, hpairing, rfl⟩ |
      ⟨ref, href, rfl⟩
    · obtain ⟨hmem, hunlisted⟩ := (Partition.mem_missing h).1 hroute
      exact .creating hmem hunlisted
    · obtain ⟨hroute, href, hname⟩ := (Partition.mem_matched h).1 hpairing
      exact .updating hroute href hname
    · obtain ⟨hmem, hundeclared⟩ := (Partition.mem_surplus h).1 href
      exact .deleting hmem hundeclared

namespace Reconciler

variable {reconciler : Reconciler σ} {router : RouterRef} {scope : Declared.Scope}
  {works more : List Work} {run run₁ run₂ run' : Run σ}

/-! ## Work in batches -/

/-- How the operations on some work ended: all of them succeeded, or one failed. -/
def Ended (works : List Work) (history : List (Moment σ)) : Option Stop → Prop
  | none => ∀ work ∈ works, SettledWith none (deeds work.operation history)
  | some stop => ∃ failure, stop = .failed failure ∧ ∃ work ∈ works,
      SettledWith (some failure) (deeds work.operation history) ∧
      ∀ other ∈ works, ∀ another, .settled (some another) ∈ deeds other.operation history →
        other.operation = work.operation

/-- What was made of some work. -/
structure Worked (router : RouterRef) (scope : Declared.Scope) (works : List Work)
    (start run : Run σ) (stop? : Option Stop) : Prop where
  accounts : ∀ work ∈ works, work.Account router scope (deeds work.operation run.history)
  ended : Ended works run.history stop?
  left {o : Operation} (h : ∀ work ∈ works, work.operation ≠ o) :
    deeds o run.history = deeds o start.history

/-- Work that is yet to begin, in a run. -/
def Unbegun (works : List Work) (run : Run σ) : Prop :=
  ∀ work ∈ works, deeds work.operation run.history = []

theorem Unbegun.of_log (h : Unbegun works run) (event : Log.Event) :
    Unbegun works (run.log event) := by
  intro work hwork
  rw [deeds_log]
  exact h work hwork

theorem unbegun_works : Unbegun partition.works run ↔
    Unbegun (partition.missing.map .creating) run ∧
      Unbegun (partition.matched.map .updating) run ∧
        Unbegun (partition.surplus.map .deleting) run := by
  unfold Unbegun Partition.works
  rw [List.forall_mem_append, List.forall_mem_append, and_assoc]

theorem Unbegun.of_worked {stop? : Option Stop} (h : Unbegun more run)
    (hworked : Worked router scope works run run' stop?)
    (hapart : ∀ work ∈ works, ∀ other ∈ more, other.operation ≠ work.operation) :
    Unbegun more run' := by
  intro other hother
  rw [hworked.left fun work hwork => (hapart work hwork other hother).symm]
  exact h other hother

/-- The stop that a result is, if it is one. -/
def stop? : Except Stop α → Option Stop
  | .ok _ => none
  | .error stop => some stop

/-- A batch works on its items. -/
theorem worked_of_batch {n : Nat} {operation : β → Operation} {rules : β → Rules α}
    {task : β → Task α n} {items : List β} {result : Except Stop (List α)} (of : β → Work)
    (hof : ∀ item, (of item).operation = operation item)
    (haccount : ∀ item past, (rules item).Account past → (of item).Account router scope past)
    (hready : Obedient operation rules task items run)
    (hbatch : reconciler.batch operation task items run = (result, run')) :
    Worked router scope (items.map of) run run' (stop? result) := by
  obtain ⟨haccounts, hleft⟩ := batch_accounts hready hbatch
  refine ⟨?_, ?_, ?_⟩
  · intro work hwork
    obtain ⟨item, hitem, rfl⟩ := List.mem_map.1 hwork
    rw [hof]
    exact haccount item _ (haccounts item hitem)
  · cases result with
    | ok results =>
      obtain ⟨done, hitems, _, hsettled⟩ := batch_settles hready hbatch
      intro work hwork
      obtain ⟨item, hitem, rfl⟩ := List.mem_map.1 hwork
      obtain ⟨p, hp, rfl⟩ := List.mem_map.1 (hitems.mem_iff.2 hitem)
      obtain ⟨before, hdeeds, hunsettled, _⟩ := hsettled p hp
      rw [hof]
      exact ⟨before, hunsettled, hdeeds⟩
    | error stop =>
      obtain ⟨item, hitem, failure, before, hstop, hdeeds, hunsettled, _, hothers⟩ :=
        batch_fails hready hbatch
      refine ⟨failure, hstop, of item, List.mem_map_of_mem hitem, ?_, ?_⟩
      · rw [hof]
        exact ⟨before, hunsettled, hdeeds⟩
      · intro other hother another hfailed
        obtain ⟨item', hitem', rfl⟩ := List.mem_map.1 hother
        rw [hof] at hfailed
        rw [hothers item' hitem' another hfailed]
  · intro o ho
    apply hleft
    intro hmem
    obtain ⟨item, hitem, rfl⟩ := List.mem_map.1 hmem
    exact ho _ (List.mem_map_of_mem hitem) (hof item)

/-- Work that succeeded is followed by more work. -/
theorem Worked.append {stop? : Option Stop} (h : Worked router scope works run run₁ none)
    (hmore : Worked router scope more run₁ run' stop?)
    (hapart : ∀ work ∈ works, ∀ other ∈ more, other.operation ≠ work.operation) :
    Worked router scope (works ++ more) run run' stop? := by
  have hkept : ∀ work ∈ works,
      deeds work.operation run'.history = deeds work.operation run₁.history :=
    fun work hwork => hmore.left (hapart work hwork)
  refine ⟨?_, ?_, ?_⟩
  · intro work hwork
    rcases List.mem_append.1 hwork with hwork | hwork
    · rw [hkept work hwork]
      exact h.accounts work hwork
    · exact hmore.accounts work hwork
  · cases stop? with
    | none =>
      intro work hwork
      rcases List.mem_append.1 hwork with hwork | hwork
      · rw [hkept work hwork]
        exact h.ended work hwork
      · exact hmore.ended work hwork
    | some stop =>
      obtain ⟨failure, hstop, work, hwork, hsettled, hothers⟩ := hmore.ended
      refine ⟨failure, hstop, work, List.mem_append_right _ hwork, hsettled, ?_⟩
      intro other hother another hfailed
      rcases List.mem_append.1 hother with hother | hother
      · rw [hkept other hother, (h.ended other hother).mem_iff] at hfailed
        cases hfailed
      · exact hothers other hother another hfailed
  · intro o ho
    rw [List.forall_mem_append] at ho
    rw [hmore.left ho.2, h.left ho.1]

/-- After work that stopped, no more is begun. -/
theorem Worked.append_unbegun {stop : Stop} (h : Worked router scope works run run' (some stop))
    (hmore : Unbegun more run)
    (hapart : ∀ work ∈ works, ∀ other ∈ more, other.operation ≠ work.operation) :
    Worked router scope (works ++ more) run run' (some stop) := by
  have hnone : Unbegun more run' := hmore.of_worked h hapart
  refine ⟨?_, ?_, ?_⟩
  · intro work hwork
    rcases List.mem_append.1 hwork with hwork | hwork
    · exact h.accounts work hwork
    · rw [hnone work hwork]
      exact work.account_nil router scope
  · obtain ⟨failure, hstop, work, hwork, hsettled, hothers⟩ := h.ended
    refine ⟨failure, hstop, work, List.mem_append_left _ hwork, hsettled, ?_⟩
    intro other hother another hfailed
    rcases List.mem_append.1 hother with hother | hother
    · exact hothers other hother another hfailed
    · rw [hnone other hother] at hfailed
      cases hfailed
  · intro o ho
    rw [List.forall_mem_append] at ho
    exact h.left ho.1

/-! ## The three batches -/

theorem Worked.of_log {event : Log.Event} {stop? : Option Stop}
    (h : Worked router scope works (run.log event) run' stop?) :
    Worked router scope works run run' stop? where
  accounts := h.accounts
  ended := h.ended
  left ho := (h.left ho).trans (deeds_log _ run event)

theorem nodup_operations {name : β → String} {of : String → Operation}
    (hof : Function.Injective of) {items : List β}
    (h : items.Pairwise fun a b => name a < name b) :
    (items.map fun item => of (name item)).Nodup := by
  have hnames := List.Nodup.map hof (Partition.nodup_of_ascending h)
  rwa [List.map_map] at hnames

theorem create_obedient (router : RouterRef) (scope : Declared.Scope)
    (h : Partition.of routes refs = .ok partition)
    (hnew : Unbegun (partition.missing.map .creating) run) :
    Obedient (.creating ·.name) (RouteTask.createRules router scope)
      (RouteTask.create router scope) partition.missing run where
  distinct := nodup_operations (fun _ _ => Operation.creating.inj) (Partition.ascending_missing h)
  unbegun _ hroute := hnew _ (List.mem_map_of_mem hroute)
  obeys route _ := RouteTask.create_obeys router scope route

theorem update_obedient (scope : Declared.Scope) (h : Partition.of routes refs = .ok partition)
    (hnew : Unbegun (partition.matched.map .updating) run) :
    Obedient (.updating ·.route.name) (RouteTask.updateRules scope) (RouteTask.update scope)
      partition.matched run where
  distinct := nodup_operations (fun _ _ => Operation.updating.inj) (Partition.ascending_matched h)
  unbegun _ hpairing := hnew _ (List.mem_map_of_mem hpairing)
  obeys pairing _ := RouteTask.update_obeys scope pairing

theorem retire_obedient (h : Partition.of routes refs = .ok partition)
    (hnew : Unbegun (partition.surplus.map .deleting) run) :
    Obedient (.deleting ·.routeName) RouteTask.retireRules RouteTask.retire partition.surplus
      run where
  distinct := nodup_operations (fun _ _ => Operation.deleting.inj) (Partition.ascending_surplus h)
  unbegun _ href := hnew _ (List.mem_map_of_mem href)
  obeys ref _ := RouteTask.retire_obeys ref

theorem worked_of_create {result : Except Stop (List (String × RouteRecord))}
    (h : Partition.of routes refs = .ok partition)
    (hnew : Unbegun (partition.missing.map .creating) run)
    (hbatch : reconciler.batch (.creating ·.name) (RouteTask.create router scope)
      partition.missing run = (result, run')) :
    Worked router scope (partition.missing.map .creating) run run' (stop? result) :=
  worked_of_batch .creating (fun _ => rfl) (fun _ _ haccount => haccount)
    (create_obedient router scope h hnew) hbatch

theorem worked_of_update {result : Except Stop (List (String × RouteRecord))}
    (router : RouterRef) (h : Partition.of routes refs = .ok partition)
    (hnew : Unbegun (partition.matched.map .updating) run)
    (hbatch : reconciler.batch (.updating ·.route.name) (RouteTask.update scope)
      partition.matched run = (result, run')) :
    Worked router scope (partition.matched.map .updating) run run' (stop? result) :=
  worked_of_batch .updating (fun _ => rfl) (fun _ _ haccount => haccount)
    (update_obedient scope h hnew) hbatch

theorem worked_of_retire {result : Except Stop (List Unit)}
    (router : RouterRef) (scope : Declared.Scope) (h : Partition.of routes refs = .ok partition)
    (hnew : Unbegun (partition.surplus.map .deleting) run)
    (hbatch : reconciler.batch (.deleting ·.routeName) RouteTask.retire partition.surplus run =
      (result, run')) :
    Worked router scope (partition.surplus.map .deleting) run run' (stop? result) :=
  worked_of_batch .deleting (fun _ => rfl) (fun _ _ haccount => haccount)
    (retire_obedient h hnew) hbatch

theorem updating_apart (partition : Partition) :
    ∀ work ∈ partition.missing.map Work.creating, ∀ other ∈ partition.matched.map Work.updating,
      other.operation ≠ work.operation := by
  simp [Work.operation]

theorem deleting_apart (partition : Partition) :
    ∀ work ∈ partition.missing.map Work.creating ++ partition.matched.map Work.updating,
      ∀ other ∈ partition.surplus.map Work.deleting, other.operation ≠ work.operation := by
  intro work hwork other hother
  obtain ⟨ref, _, rfl⟩ := List.mem_map.1 hother
  rcases List.mem_append.1 hwork with hwork | hwork
  · obtain ⟨route, _, rfl⟩ := List.mem_map.1 hwork
    simp [Work.operation]
  · obtain ⟨pairing, _, rfl⟩ := List.mem_map.1 hwork
    simp [Work.operation]

/-- Whatever a reconciliation comes to, its operations are those on its partition. -/
theorem worked_of_reconcile {result : Except Stop (NameMap RouteRecord)}
    (h : Partition.of routes refs = .ok partition) (hnew : Unbegun partition.works run)
    (hrun : reconciler.reconcile router scope routes refs run = (result, run')) :
    Worked router scope partition.works run run' (stop? result) := by
  obtain ⟨hcreating, hupdating, hdeleting⟩ := unbegun_works.1 hnew
  have hlater := updating_apart partition
  have hlast := deleting_apart partition
  cases course_of_reconcile hrun with
  | duplicate hduplicate =>
    rw [h] at hduplicate
    cases hduplicate
  | creating hpartition hcreate =>
    cases h.symm.trans hpartition
    have hcreated := (worked_of_create h (hcreating.of_log _) hcreate).of_log
    exact (hcreated.append_unbegun hupdating hlater).append_unbegun hdeleting hlast
  | updating hpartition hcreate hupdate =>
    cases h.symm.trans hpartition
    have hcreated := (worked_of_create h (hcreating.of_log _) hcreate).of_log
    have hupdated := worked_of_update router h (hupdating.of_worked hcreated hlater) hupdate
    exact (hcreated.append hupdated hlater).append_unbegun hdeleting hlast
  | @deleting partition' _ _ deleted _ _ _ hpartition hcreate hupdate hdelete =>
    cases h.symm.trans hpartition
    have hcreated := (worked_of_create h (hcreating.of_log _) hcreate).of_log
    have hupdated := worked_of_update router h (hupdating.of_worked hcreated hlater) hupdate
    have hboth := hcreated.append hupdated hlater
    have hdeleted := worked_of_retire router scope h (hdeleting.of_worked hboth hlast) hdelete
    cases deleted with
    | ok _ => exact hboth.append hdeleted hlast
    | error _ => exact hboth.append hdeleted hlast

/-! ## What is returned -/

/-- The results of a batch bear the names of its items, and each was come to by the rules. -/
theorem named_of_batch {n : Nat} {operation : β → Operation}
    {rules : β → Rules (String × RouteRecord)} {task : β → Task (String × RouteRecord) n}
    {items : List β} {results : List (String × RouteRecord)} (name : β → String)
    (hname : ∀ item before result, (rules item).result before (.ok result) →
      result.1 = name item)
    (hready : Obedient operation rules task items run)
    (hbatch : reconciler.batch operation task items run = (.ok results, run')) :
    (results.map Prod.fst).Perm (items.map name) ∧
      ∀ item ∈ items, ∃ record before, (name item, record) ∈ results ∧
        deeds (operation item) run'.history = before ++ [.settled none] ∧
        (rules item).result before (.ok (name item, record)) := by
  obtain ⟨done, hitems, hresults, hsettled⟩ := batch_settles hready hbatch
  refine ⟨?_, ?_⟩
  · have hnames : done.map (fun p => p.2.1) = done.map fun p => name p.1 := by
      apply List.map_congr_left
      intro p hp
      obtain ⟨before, _, _, hresult⟩ := hsettled p hp
      exact hname p.1 before p.2 hresult
    have hperm := hitems.map name
    rw [List.map_map] at hperm
    rw [hresults, List.map_reverse, List.map_map]
    exact (List.reverse_perm _).trans (hnames ▸ hperm)
  · intro item hitem
    obtain ⟨⟨item, other, record⟩, hp, rfl⟩ := List.mem_map.1 (hitems.mem_iff.2 hitem)
    obtain ⟨before, hdeeds, _, hresult⟩ := hsettled _ hp
    have hother : other = name item := hname item before (other, record) hresult
    subst hother
    refine ⟨record, before, ?_, hdeeds, hresult⟩
    rw [hresults, List.mem_reverse]
    exact List.mem_map_of_mem hp

/-- What is returned has a record for each declared route, and no other. -/
structure Recorded (router : RouterRef) (scope : Declared.Scope) (partition : Partition)
    (history : List (Moment σ)) (records : NameMap RouteRecord) : Prop where
  names {name : String} : name ∈ records.names ↔
    name ∈ partition.missing.map Declared.Route.name ++
      partition.matched.map fun pairing => pairing.route.name
  created : ∀ route ∈ partition.missing, ∃ record before,
    records.get? route.name = some record ∧
      deeds (.creating route.name) history = before ++ [.settled none] ∧
      RouteTask.CreateResult router scope route before (.ok (route.name, record))
  updated : ∀ pairing ∈ partition.matched, ∃ record before,
    records.get? pairing.route.name = some record ∧
      deeds (.updating pairing.route.name) history = before ++ [.settled none] ∧
      RouteTask.UpdateResult scope pairing before (.ok (pairing.route.name, record))

theorem recorded_of_reconcile {records : NameMap RouteRecord}
    (h : Partition.of routes refs = .ok partition) (hnew : Unbegun partition.works run)
    (hrun : reconciler.reconcile router scope routes refs run = (.ok records, run')) :
    Recorded router scope partition run'.history records := by
  obtain ⟨hcreating, hupdating, hdeleting⟩ := unbegun_works.1 hnew
  have hlater := updating_apart partition
  have hlast := deleting_apart partition
  generalize hok : Except.ok records = result at hrun
  cases course_of_reconcile hrun with
  | duplicate _ => cases hok
  | creating _ _ => cases hok
  | updating _ _ _ => cases hok
  | @deleting partition' created updated deleted _ _ _ hpartition hcreate hupdate hdelete =>
    cases h.symm.trans hpartition
    cases deleted with
    | error stop => cases hok
    | ok deleted =>
      cases hok
      have hcreated := (worked_of_create h (hcreating.of_log _) hcreate).of_log
      have hunupdated := hupdating.of_worked hcreated hlater
      have hupdated := worked_of_update router h hunupdated hupdate
      have hundeleted := hdeleting.of_worked (hcreated.append hupdated hlater) hlast
      have hdeleted := worked_of_retire router scope h hundeleted hdelete
      obtain ⟨hcreatedNames, hcreatedRecords⟩ := named_of_batch Declared.Route.name
        (fun _ _ _ hresult => by cases hresult; rfl)
        (create_obedient router scope h (hcreating.of_log _)) hcreate
      obtain ⟨hupdatedNames, hupdatedRecords⟩ :=
        named_of_batch (fun pairing => pairing.route.name)
          (fun _ _ _ hresult => by cases hresult <;> rfl) (update_obedient scope h hunupdated)
          hupdate
      have hnames : ((created ++ updated).map Prod.fst).Perm
          (partition.missing.map Declared.Route.name ++
            partition.matched.map fun pairing => pairing.route.name) := by
        rw [List.map_append]
        exact hcreatedNames.append hupdatedNames
      have hnodup := hnames.nodup_iff.2 (Partition.nodup_names h)
      refine ⟨?_, ?_, ?_⟩
      · intro name
        rw [NameMap.mem_names_ofList]
        exact hnames.mem_iff
      · intro route hroute
        obtain ⟨record, before, hmem, hdeeds, hresult⟩ := hcreatedRecords route hroute
        refine ⟨record, before, ?_, ?_, hresult⟩
        · exact (NameMap.get?_ofList_eq_some_iff hnodup).2 (List.mem_append_left _ hmem)
        · rw [← hdeeds, hdeleted.left (by simp [Work.operation]),
            hupdated.left (by simp [Work.operation])]
      · intro pairing hpairing
        obtain ⟨record, before, hmem, hdeeds, hresult⟩ := hupdatedRecords pairing hpairing
        refine ⟨record, before, ?_, ?_, hresult⟩
        · exact (NameMap.get?_ofList_eq_some_iff hnodup).2 (List.mem_append_right _ hmem)
        · rw [← hdeeds, hdeleted.left (by simp [Work.operation])]

/-! ## Errands -/

/-- Work from a listing on: it stops while it lists, or reconciles with what is listed. -/
inductive Errand (reconciler : Reconciler σ) (router : RouterRef) (scope : Declared.Scope)
    (routes : List Declared.Route) (start : Run σ) :
    Except Stop (NameMap RouteRecord) → Run σ → Prop where
  | unlisted {stop : Stop} {run : Run σ} (h : reconciler.list router start = (.error stop, run)) :
    Errand reconciler router scope routes start (.error stop) run
  | listed {refs : List RouteRef} {result : Except Stop (NameMap RouteRecord)} {run run' : Run σ}
      (hlist : reconciler.list router start = (.ok refs, run))
      (h : reconciler.reconcile router scope routes refs run = (result, run')) :
    Errand reconciler router scope routes start result run'

theorem errand_of_update {mesh : Declared.Mesh} {router : Declared.VirtualRouter}
    {nodes : VirtualNode.Table} {result : Except Stop (NameMap RouteRecord)}
    (h : reconciler.update mesh router nodes run = (result, run')) :
    Errand reconciler (.of mesh router) (router.scope nodes) router.spec.routes run result
      run' := by
  rcases Action.bind_cases h with ⟨stop, hlist, rfl⟩ | ⟨refs, run₁, hlist, hreconcile⟩
  · exact .unlisted hlist
  · exact .listed hlist hreconcile

theorem errand_of_cleanup {mesh : Declared.Mesh} {router : Declared.VirtualRouter}
    {result : Except Stop Unit} (h : reconciler.cleanup mesh router run = (result, run')) :
    ∃ records, Errand reconciler (.of mesh router) (router.scope {}) [] run records run' ∧
      result = records.map fun _ => () := by
  rcases Action.bind_cases h with ⟨stop, hlist, rfl⟩ | ⟨refs, run₁, hlist, h⟩
  · exact ⟨.error stop, .unlisted hlist, rfl⟩
  rcases Action.bind_cases h with ⟨stop, hreconcile, rfl⟩ | ⟨records, run₂, hreconcile, h⟩
  · exact ⟨.error stop, .listed hlist hreconcile, rfl⟩
  · cases h
    exact ⟨.ok records, .listed hlist hreconcile, rfl⟩

theorem deeds_of_list {result : Except Stop (List RouteRef)} {o : Operation}
    (h : reconciler.list router run = (result, run')) (ho : o ≠ .listing) :
    deeds o run'.history = deeds o run.history := by
  obtain ⟨told, htold, hhistory⟩ := history_of_list h
  have hnone : deeds o told = [] :=
    deeds_eq_nil fun moment hmem hof => ho (htold.operation_eq hmem hof)
  rw [hhistory, deeds_append, hnone, List.append_nil]

/-- A listing begins no work. -/
theorem unbegun_of_list {result : Except Stop (List RouteRef)} {state : σ}
    (h : reconciler.list router { state } = (result, run)) (work : Work) :
    deeds work.operation run.history = [] := by
  rw [deeds_of_list h work.operation_ne_listing]
  rfl

theorem callsAre_of_list {result : Except Stop (List RouteRef)} {state : σ}
    (h : reconciler.list router { state } = (result, run)) :
    run.CallsAre fun o call => o = .listing ∧ ∃ token, call = .list router token := by
  intro o deed hdeed call habout
  by_cases hlisting : o = .listing
  · subst hlisting
    obtain ⟨told, htold, hhistory⟩ := history_of_list h
    rw [hhistory] at hdeed
    exact ⟨rfl, htold.eq_list_of_about hdeed habout⟩
  · rw [deeds_of_list h hlisting] at hdeed
    cases hdeed

theorem listed_of_list {state : σ}
    (h : reconciler.list router { state } = (.ok refs, run)) : run.listed = refs := by
  obtain ⟨told, htold, hhistory⟩ := history_of_list h
  rw [Run.listed, hhistory]
  change (deeds .listing told).flatMap Deed.refs = refs
  cases htold with
  | listed _ => simp [deeds, Moment.deed?, Deed.refs]

/-- A reconciliation lists no more. -/
theorem deeds_listing_of_reconcile {result : Except Stop (NameMap RouteRecord)}
    (hnew : ∀ work : Work, deeds work.operation run.history = [])
    (h : reconciler.reconcile router scope routes refs run = (result, run')) :
    deeds .listing run'.history = deeds .listing run.history := by
  cases hpartition : Partition.of routes refs with
  | error duplicate =>
    cases course_of_reconcile h with
    | duplicate _ => rfl
    | creating hok _ | updating hok _ _ | deleting hok _ _ _ =>
      rw [hpartition] at hok
      cases hok
  | ok partition =>
    have hworked := worked_of_reconcile hpartition (fun work _ => hnew work) h
    exact hworked.left fun work _ => work.operation_ne_listing

theorem listed_of_reconcile {result : Except Stop (NameMap RouteRecord)}
    (hnew : ∀ work : Work, deeds work.operation run.history = [])
    (h : reconciler.reconcile router scope routes refs run = (result, run')) :
    run'.listed = run.listed := by
  rw [Run.listed, deeds_listing_of_reconcile hnew h, Run.listed]

/-- After a reconciliation, what was listed before it is still what is listed. -/
theorem listed_of_list_of_reconcile {result : Except Stop (NameMap RouteRecord)} {state : σ}
    (hlist : reconciler.list router { state } = (.ok refs, run))
    (h : reconciler.reconcile router scope routes refs run = (result, run')) :
    run'.listed = refs := by
  rw [listed_of_reconcile (unbegun_of_list hlist) h, listed_of_list hlist]

/-- What a run tells of its operations: it lists, and it works on a partition by what it
lists. -/
structure Accounted (router : RouterRef) (scope : Declared.Scope) (routes : List Declared.Route)
    (run : Run σ) : Prop where
  listing {call : Call} (h : call ∈ run.callsOf .listing) : ∃ token, call = .list router token
  working {o : Operation} (hne : o ≠ .listing) (hbegun : deeds o run.history ≠ []) :
    ∃ partition, Partition.of routes run.listed = .ok partition ∧
      ∃ work ∈ partition.works, work.operation = o ∧
        work.Account router scope (deeds o run.history)

theorem accounted_of_list {result : Except Stop (List RouteRef)} {state : σ}
    (h : reconciler.list router { state } = (result, run)) :
    Accounted router scope routes run where
  listing hcall := by
    obtain ⟨after, hmem⟩ := Run.mem_callsOf.1 hcall
    exact ((callsAre_of_list h).issued hmem).2
  working hne hbegun := by
    rw [deeds_of_list h hne] at hbegun
    exact absurd rfl hbegun

theorem Accounted.reconcile {result : Except Stop (NameMap RouteRecord)}
    (h : Accounted router scope routes run) (hrefs : run.listed = refs)
    (hnew : ∀ work : Work, deeds work.operation run.history = [])
    (hrun : reconciler.reconcile router scope routes refs run = (result, run')) :
    Accounted router scope routes run' := by
  subst hrefs
  have hlisted := listed_of_reconcile hnew hrun
  cases hpartition : Partition.of routes run.listed with
  | error duplicate =>
    cases course_of_reconcile hrun with
    | duplicate _ => exact h
    | creating hok _ | updating hok _ _ | deleting hok _ _ _ =>
      rw [hpartition] at hok
      cases hok
  | ok partition =>
    have hworked := worked_of_reconcile hpartition (fun work _ => hnew work) hrun
    refine ⟨?_, ?_⟩
    · intro call hcall
      rw [Run.callsOf, hworked.left fun work _ => work.operation_ne_listing] at hcall
      exact h.listing hcall
    · intro o hne hbegun
      rw [hlisted]
      refine ⟨partition, hpartition, ?_⟩
      by_cases hwork : ∃ work ∈ partition.works, work.operation = o
      · obtain ⟨work, hwork, rfl⟩ := hwork
        exact ⟨work, hwork, rfl, hworked.accounts work hwork⟩
      · -- an operation that is not on the partition was told of before, and so on another one
        rw [hworked.left fun work hmem heq => hwork ⟨work, hmem, heq⟩] at hbegun
        obtain ⟨_, _, work, _, rfl, _⟩ := h.working hne hbegun
        exact absurd (hnew work) hbegun

theorem Errand.accounted {result : Except Stop (NameMap RouteRecord)} {state : σ}
    (h : Errand reconciler router scope routes { state } result run) :
    Accounted router scope routes run := by
  cases h with
  | unlisted hlist => exact accounted_of_list hlist
  | listed hlist hreconcile =>
    exact (accounted_of_list hlist).reconcile (listed_of_list hlist) (unbegun_of_list hlist)
      hreconcile

/-- An errand that listed to the end reconciles with what it listed. -/
theorem Errand.reconciles {result : Except Stop (NameMap RouteRecord)} {state : σ}
    (h : Errand reconciler router scope routes { state } result run)
    (hlisted : .settled .listing none ∈ run.history) :
    ∃ run₁, reconciler.list router { state } = (.ok run.listed, run₁) ∧
      reconciler.reconcile router scope routes run.listed run₁ = (result, run) := by
  cases h with
  | unlisted hlist =>
    obtain ⟨told, htold, hhistory⟩ := history_of_list hlist
    rw [hhistory] at hlisted
    rcases htold.result_of_settled hlisted with ⟨_, refs, hok⟩ | ⟨reason, hnone, _⟩
    · cases hok
    · cases hnone
  | @listed refs _ run₁ _ hlist hreconcile =>
    rw [listed_of_list_of_reconcile hlist hreconcile]
    exact ⟨run₁, hlist, hreconcile⟩

theorem exists_partition_of_reconcile {records : NameMap RouteRecord}
    (h : reconciler.reconcile router scope routes refs run = (.ok records, run')) :
    ∃ partition, Partition.of routes refs = .ok partition := by
  generalize hok : Except.ok records = result at h
  cases course_of_reconcile h with
  | duplicate _ => cases hok
  | creating hpartition _ | updating hpartition _ _ | deleting hpartition _ _ _ =>
    exact ⟨_, hpartition⟩

/-- An errand that succeeds has settled the work on a partition, and returns its records. -/
theorem Errand.succeeded {records : NameMap RouteRecord} {state : σ}
    (h : Errand reconciler router scope routes { state } (.ok records) run) :
    ∃ partition, Partition.of routes run.listed = .ok partition ∧
      Recorded router scope partition run.history records ∧
      ∀ work ∈ partition.works, work.Account router scope (deeds work.operation run.history) ∧
        .settled none ∈ deeds work.operation run.history := by
  cases h with
  | listed hlist hreconcile =>
    have hnew := unbegun_of_list hlist
    obtain ⟨partition, hpartition⟩ := exists_partition_of_reconcile hreconcile
    have hworked := worked_of_reconcile hpartition (fun work _ => hnew work) hreconcile
    refine ⟨partition, ?_, recorded_of_reconcile hpartition (fun work _ => hnew work) hreconcile,
      ?_⟩
    · rw [listed_of_list_of_reconcile hlist hreconcile]
      exact hpartition
    · intro work hwork
      exact ⟨hworked.accounts work hwork, (hworked.ended work hwork).mem_iff.2 rfl⟩

end Reconciler

end Control

end MeshRoutes

import MeshRoutes.Proofs.Deeds
import MeshRoutes.Proofs.Ownership
/-!
# Operations that keep to rules

What an operation may do depends on its own deeds so far. A task obeys rules if it does so
whatever it is answered, and then its operation keeps to them in every batch, on every control
plane and under every policy.

* `Reconciler.batch_accounts` : a batch keeps to the rules, and touches no other operation.
* `Reconciler.batch_settles` : a batch that succeeds settled every operation with a result.
* `Reconciler.batch_fails` : a batch that fails has one operation that failed, and no other.
-/

namespace MeshRoutes.Control

variable {σ α β : Type} {plane : Plane σ}

/-- What an operation may do, given its deeds so far. -/
structure Rules (α : Type) where
  call : List Deed → Call → Prop
  result : List Deed → Except Failure α → Prop

/-- From the deeds so far on, a task keeps to the rules, whatever it is answered. -/
def Task.Obeys (rules : Rules α) : {n : Nat} → Task α n → List Deed → Prop
  | _, .done result, past => rules.result past result
  | _, .log _ next, past => next.Obeys rules past
  | _, .call c next, past =>
    rules.call past c ∧
      ∀ outcome, (next outcome).Obeys rules (past ++ [.issued c] ++ [.answered c outcome])

def Unsettled (past : List Deed) : Prop := ∀ failure, .settled failure ∉ past

theorem Unsettled.nil : Unsettled [] := fun _ => List.not_mem_nil

theorem Unsettled.concat {past : List Deed} {deed : Deed} (h : Unsettled past)
    (hdeed : ∀ failure, deed ≠ .settled failure) : Unsettled (past ++ [deed]) := by
  intro failure hmem
  rcases List.mem_append.1 hmem with hold | hnew
  · exact h failure hold
  · exact hdeed failure (List.mem_singleton.1 hnew).symm

theorem Unsettled.issued {past : List Deed} (h : Unsettled past) (call : Call) :
    Unsettled (past ++ [.issued call]) :=
  h.concat (by simp)

/-- The deeds end with how the operation was settled. -/
def SettledWith (failure : Option Failure) (past : List Deed) : Prop :=
  ∃ before, Unsettled before ∧ past = before ++ [.settled failure]

theorem SettledWith.mem_iff {failure another : Option Failure} {past : List Deed}
    (h : SettledWith failure past) : .settled another ∈ past ↔ another = failure := by
  obtain ⟨before, hunsettled, rfl⟩ := h
  rw [List.mem_append, List.mem_singleton, Deed.settled.injEq]
  exact or_iff_right (hunsettled another)

namespace Rules

variable {rules : Rules α} {past : List Deed}

/-- Each call among the deeds was allowed when it was issued. -/
def Allow (rules : Rules α) (past : List Deed) : Prop :=
  ∀ before call later, past = before ++ .issued call :: later → rules.call before call

/-- How the deeds of an operation end once its batch is over. -/
inductive Ends (rules : Rules α) : List Deed → Prop where
  | unbegun : Ends rules []
  /-- The operation was dropped while it waited for an answer. -/
  | waiting {before : List Deed} (call : Call) (h : Unsettled before) :
    Ends rules (before ++ [.issued call])
  | settled {before : List Deed} {result : Except Failure α} (h : Unsettled before)
      (hresult : rules.result before result) :
    Ends rules (before ++ [.settled (failureOf result)])

/-- What is known of the deeds of an operation once its batch is over. -/
structure Account (rules : Rules α) (past : List Deed) : Prop where
  allowed : rules.Allow past
  ends : rules.Ends past

theorem Allow.nil : rules.Allow [] := by
  intro before call later h
  simp at h

theorem Allow.concat {deed : Deed} (h : rules.Allow past)
    (hdeed : ∀ call, deed = .issued call → rules.call past call) :
    rules.Allow (past ++ [deed]) := by
  intro before call later hsplit
  rcases eq_or_exists_of_concat_eq hsplit with ⟨rfl, heq⟩ | ⟨rest, hsplit'⟩
  · exact hdeed call heq.symm
  · exact h before call rest hsplit'

theorem Account.nil : rules.Account [] := ⟨.nil, .unbegun⟩

/-- The deeds are none, or they end with a call or with a result, which are by the rules. -/
theorem Account.cases (h : rules.Account past) :
    past = [] ∨ (∃ before call, past = before ++ [.issued call] ∧ rules.call before call) ∨
      ∃ before result, past = before ++ [.settled (failureOf result)] ∧
        rules.result before result := by
  obtain ⟨hallowed, hends⟩ := h
  cases hends with
  | unbegun => exact .inl rfl
  | @waiting before call _ => exact .inr (.inl ⟨before, call, rfl, hallowed before call [] rfl⟩)
  | @settled before result _ hresult => exact .inr (.inr ⟨before, result, rfl, hresult⟩)

/-- What was settled was come to by the rules. -/
theorem Account.exists_of_settled {failure : Option Failure} (h : rules.Account past)
    (hsettled : .settled failure ∈ past) :
    ∃ before result, failureOf result = failure ∧ past = before ++ [.settled failure] ∧
      rules.result before result := by
  cases h.ends with
  | unbegun => cases hsettled
  | waiting call hunsettled => exact absurd hsettled (hunsettled.issued call failure)
  | @settled before result hunsettled hresult =>
    have hwith : SettledWith (failureOf result) (before ++ [.settled (failureOf result)]) :=
      ⟨before, hunsettled, rfl⟩
    obtain rfl := hwith.mem_iff.1 hsettled
    exact ⟨before, result, rfl, rfl, hresult⟩

end Rules

/-! ## Strands -/

/-- What a strand did and is still to do keeps to the rules. -/
def Strand.Obeys (rules : Rules α) : Strand α → List Deed → Prop
  | .fresh task, past => past = [] ∧ task.Obeys rules [.began]
  | .running task, past => Unsettled past ∧ task.Obeys rules past
  | .awaiting call next, past =>
    (∃ before, Unsettled before ∧ past = before ++ [.issued call]) ∧
      ∀ outcome, (next outcome).Obeys rules (past ++ [.answered call outcome])
  | .settled result, past =>
    ∃ before, Unsettled before ∧ past = before ++ [.settled (failureOf result)] ∧
      rules.result before result

structure Strand.Lawful (rules : Rules α) (strand : Strand α) (past : List Deed) : Prop where
  allowed : rules.Allow past
  obeys : strand.Obeys rules past

theorem Strand.Event.lawful {rules : Rules α} {o : Operation} {strand strand' : Strand α}
    {run run' : Run σ} (h : strand.Event plane o run strand' run')
    (hlawful : strand.Lawful rules (deeds o run.history)) :
    strand'.Lawful rules (deeds o run'.history) := by
  obtain ⟨hallowed, hobeys⟩ := hlawful
  cases h with
  | begin =>
    obtain ⟨hnone, htask⟩ := hobeys
    rw [Run.history_record, deeds_concat, hnone, Moment.deed?, if_pos rfl]
    exact ⟨Rules.Allow.nil.concat (by simp), Unsettled.nil.concat (by simp), htask⟩
  | log =>
    rw [deeds_log]
    exact ⟨hallowed, hobeys⟩
  | issue =>
    obtain ⟨hunsettled, hcall, hnext⟩ := hobeys
    rw [Run.history_issue, deeds_concat, Moment.deed?, if_pos rfl]
    refine ⟨hallowed.concat ?_, ⟨_, hunsettled, rfl⟩, hnext⟩
    intro call heq
    cases heq
    exact hcall
  | answer =>
    obtain ⟨⟨before, hunsettled, hpast⟩, hnext⟩ := hobeys
    rw [Run.history_answer, deeds_concat, Moment.deed?, if_pos rfl]
    refine ⟨hallowed.concat (by simp), ?_, hnext _⟩
    rw [hpast]
    exact (hunsettled.issued _).concat (by simp)
  | settle =>
    obtain ⟨hunsettled, hresult⟩ := hobeys
    rw [Run.history_record, deeds_concat, Moment.deed?, if_pos rfl]
    exact ⟨hallowed.concat (by simp), _, hunsettled, rfl, hresult⟩

/-- An event is of no operation but that of its strand. -/
theorem Strand.Event.deeds_eq {o o' : Operation} {strand strand' : Strand α} {run run' : Run σ}
    (h : strand.Event plane o run strand' run') (hne : o' ≠ o) :
    deeds o' run'.history = deeds o' run.history := by
  have hother : ∀ moment : Moment σ, moment.operation? = some o →
      moment.operation? ≠ some o' := by
    intro moment hof heq
    exact hne (Option.some.inj (heq.symm.trans hof))
  cases h with
  | begin =>
    rw [Run.history_record]
    exact deeds_concat_of_ne (hother _ rfl)
  | log => exact deeds_log o' run _
  | issue =>
    rw [Run.history_issue]
    exact deeds_concat_of_ne (hother _ rfl)
  | answer =>
    rw [Run.history_answer]
    exact deeds_concat_of_ne (hother _ rfl)
  | settle =>
    rw [Run.history_record]
    exact deeds_concat_of_ne (hother _ rfl)

theorem Strand.Lawful.account {rules : Rules α} {strand : Strand α} {past : List Deed}
    (h : strand.Lawful rules past) (hrest : strand.AtRest) : rules.Account past := by
  refine ⟨h.allowed, ?_⟩
  have hobeys := h.obeys
  cases strand with
  | fresh task =>
    rw [hobeys.1]
    exact .unbegun
  | running task => cases hrest
  | awaiting call next =>
    obtain ⟨before, hunsettled, rfl⟩ := hobeys.1
    exact .waiting call hunsettled
  | settled result =>
    obtain ⟨before, hunsettled, rfl, hresult⟩ := hobeys
    exact .settled hunsettled hresult

/-- A strand at rest has not failed. -/
theorem Strand.Lawful.failure_not_mem {rules : Rules α} {strand : Strand α} {past : List Deed}
    (h : strand.Lawful rules past) (hrest : strand.AtRest) (failure : Failure) :
    .settled (some failure) ∉ past := by
  have hobeys := h.obeys
  cases strand with
  | fresh task =>
    rw [hobeys.1]
    exact List.not_mem_nil
  | running task => cases hrest
  | awaiting call next =>
    obtain ⟨before, hunsettled, rfl⟩ := hobeys.1
    exact hunsettled.issued call _
  | settled result =>
    obtain ⟨before, hunsettled, rfl, _⟩ := hobeys
    cases result with
    | error failure => cases hrest
    | ok a =>
      rw [List.mem_append, List.mem_singleton]
      rintro (hmem | heq)
      · exact hunsettled _ hmem
      · cases heq

/-! ## Batches -/

namespace Reconciler

variable {reconciler : Reconciler σ} {operation : β → Operation} {rules : β → Rules α} {n : Nat}
  {task : β → Task α n} {items : List β} {run run' : Run σ}

/-- The operations of a batch are yet to begin, and will keep to the rules. -/
structure Obedient (operation : β → Operation) (rules : β → Rules α) (task : β → Task α n)
    (items : List β) (run : Run σ) : Prop where
  distinct : (items.map operation).Nodup
  unbegun : ∀ item ∈ items, deeds (operation item) run.history = []
  obeys : ∀ item ∈ items, (task item).Obeys (rules item) [.began]

/-- What the strands of a batch did so far keeps to the rules. -/
abbrev LawfulSoFar (operation : β → Operation) (rules : β → Rules α) (start : Run σ)
    (strands : List (β × Strand α)) (run : Run σ) : Prop :=
  Apart (fun run o => deeds o run.history) operation (fun item => Strand.Lawful (rules item))
    start strands run

theorem Obedient.lawfulSoFar (h : Obedient operation rules task items run)
    {ends : List (β × Strand α)}
    (hmoves : Interleaves plane operation (strands operation task items, run) (ends, run')) :
    LawfulSoFar operation rules run ends run' := by
  have hstart : LawfulSoFar operation rules run (strands operation task items) run := by
    refine ⟨?_, ?_, fun _ _ => rfl⟩
    · rw [strands, List.map_map]
      exact h.distinct
    · intro p hp
      obtain ⟨item, hitem, rfl⟩ := List.mem_map.1 hp
      change Strand.Lawful _ _ (deeds (operation item) run.history)
      rw [h.unbegun item hitem]
      exact ⟨.nil, rfl, h.obeys item hitem⟩
  refine Apart.interleaves (fun _ => True) hmoves hstart (fun _ h => h) (fun _ => rfl) ?_ trivial
  intro item strand strand' run run' hevent _ hlawful
  exact ⟨hevent.lawful hlawful, fun o hne => hevent.deeds_eq hne⟩

/-- In a batch that succeeds, the operation of each item was settled with its result. -/
theorem batch_settles {results : List α} (hready : Obedient operation rules task items run)
    (h : reconciler.batch operation task items run = (.ok results, run')) :
    ∃ done : List (β × α), (done.map Prod.fst).Perm items ∧
      results = (done.map Prod.snd).reverse ∧
      ∀ p ∈ done, ∃ before, deeds (operation p.1) run'.history = before ++ [.settled none] ∧
        Unsettled before ∧ (rules p.1).result before (.ok p.2) := by
  obtain ⟨done, hresults, hmoves⟩ := Batch.interleaves_of_run_ok (run_of_batch_ok h)
  have hlawful := hready.lawfulSoFar hmoves
  refine ⟨done, ?_, hresults, ?_⟩
  · have hperm := items_perm_of_interleaves hmoves
    rw [List.map_map] at hperm
    exact hperm.symm
  · intro p hp
    obtain ⟨before, hunsettled, hdeeds, hresult⟩ :=
      (hlawful.good _ (List.mem_map_of_mem hp)).obeys
    exact ⟨before, hdeeds, hunsettled, hresult⟩

/-- In a batch that fails, one operation was settled with the failure, and no other failed. -/
theorem batch_fails {stop : Stop} (hready : Obedient operation rules task items run)
    (h : reconciler.batch operation task items run = (.error stop, run')) :
    ∃ item ∈ items, ∃ failure before, stop = .failed failure ∧
      deeds (operation item) run'.history = before ++ [.settled (some failure)] ∧
      Unsettled before ∧ (rules item).result before (.error failure) ∧
      ∀ other ∈ items, ∀ another, .settled (some another) ∈ deeds (operation other) run'.history →
        other = item := by
  obtain ⟨failure, hstop, hrun⟩ := run_of_batch_error h
  obtain ⟨item, rest, hrest, hmoves⟩ := Batch.interleaves_of_run_error hrun
  have hlawful := hready.lawfulSoFar hmoves
  have hperm := items_perm_of_interleaves hmoves
  obtain ⟨before, hunsettled, hdeeds, hresult⟩ := (hlawful.good _ List.mem_cons_self).obeys
  refine ⟨item, hperm.mem_iff.2 List.mem_cons_self, failure, before, hstop, hdeeds, hunsettled,
    hresult, ?_⟩
  intro other hother another hfailed
  rcases List.mem_cons.1 (hperm.mem_iff.1 hother) with heq | hmem
  · exact heq
  · obtain ⟨⟨_, strand⟩, hp, rfl⟩ := List.mem_map.1 hmem
    have hgood := hlawful.good _ (List.mem_cons_of_mem _ hp)
    exact absurd hfailed (hgood.failure_not_mem (hrest _ hp) another)

/-- What a batch tells of its operations keeps to the rules, and it tells of no others. -/
theorem batch_accounts {result : Except Stop (List α)}
    (hready : Obedient operation rules task items run)
    (h : reconciler.batch operation task items run = (result, run')) :
    (∀ item ∈ items, (rules item).Account (deeds (operation item) run'.history)) ∧
      ∀ o, o ∉ items.map operation → deeds o run'.history = deeds o run.history := by
  obtain ⟨ends, hmoves, hends⟩ : ∃ ends : List (β × Strand α),
      Interleaves reconciler.plane operation (strands operation task items, run) (ends, run') ∧
        ∀ p ∈ ends, ∀ past, p.2.Lawful (rules p.1) past → (rules p.1).Account past := by
    cases result with
    | ok results =>
      obtain ⟨done, _, hmoves⟩ := Batch.interleaves_of_run_ok (run_of_batch_ok h)
      refine ⟨_, hmoves, ?_⟩
      intro p hp past hlawful
      obtain ⟨_, _, rfl⟩ := List.mem_map.1 hp
      exact hlawful.account trivial
    | error stop =>
      obtain ⟨failure, _, hrun⟩ := run_of_batch_error h
      obtain ⟨item, rest, hrest, hmoves⟩ := Batch.interleaves_of_run_error hrun
      refine ⟨_, hmoves, ?_⟩
      intro p hp past hlawful
      rcases List.mem_cons.1 hp with rfl | hp
      · obtain ⟨before, hunsettled, rfl, hresult⟩ := hlawful.obeys
        exact ⟨hlawful.allowed, .settled hunsettled hresult⟩
      · exact hlawful.account (hrest p hp)
  have hlawful := hready.lawfulSoFar hmoves
  have hperm := items_perm_of_interleaves hmoves
  refine ⟨?_, ?_⟩
  · intro item hitem
    obtain ⟨p, hp, rfl⟩ := List.mem_map.1 (hperm.mem_iff.1 hitem)
    exact hends p hp _ (hlawful.good p hp)
  · intro o ho
    apply hlawful.frame
    intro p hp heq
    exact ho (List.mem_map.2 ⟨p.1, hperm.mem_iff.2 (List.mem_map_of_mem hp), heq⟩)

end Reconciler

end MeshRoutes.Control

import MeshRoutes.Proofs.Interleaving
import MeshRoutes.Proofs.PlainStage
import MeshRoutes.Proofs.Sequence
/-!
# One operation at a time

Where one operation is in flight at a time, a batch works on its tasks in turn: the next one
begins after the last one has finished, however often it had to wait. So an errand makes the same
calls as the plain sequence, and has the same result.

* `Batch.inTurn_of_run` : a batch of width one does what is left of it in turn.
* `errands_in_sequence` : the errands are their sequences.
-/

namespace MeshRoutes.Control

open Remote

variable {σ α β : Type} {plane : Plane σ}

/-! ## Runs as exchanges -/

namespace Run

/-- What a run is to the control plane. -/
def exchange (run : Run σ) : Exchange σ where
  state := run.state
  calls := run.calls

theorem exchange_record {run : Run σ} {moment : Moment σ} (h : moment.after? = none) :
    (run.record moment).exchange = run.exchange :=
  congrArg (Exchange.mk run.state) (calls_record h)

@[simp] theorem exchange_log (run : Run σ) (event : Log.Event) :
    (run.log event).exchange = run.exchange :=
  exchange_record rfl

theorem exchange_answer (o : Operation) (call : Call) (run : Run σ) :
    (run.answer plane o call).2.exchange = ⟨(plane.answer run.state call).2, run.calls⟩ :=
  congrArg (Exchange.mk _) (run.calls_answer plane o call)

end Run

/-- An issue and its answer are one question. -/
theorem Sequence.ask_exchange (plane : Plane σ) (o : Operation) (call : Call) (run : Run σ) :
    Sequence.ask plane call run.exchange =
      (.ok ((run.issue plane o call).2.answer plane o call).1,
        ((run.issue plane o call).2.answer plane o call).2.exchange) := by
  rw [Run.exchange_answer, Run.calls_issue]
  rfl

/-- From every run on, an action has the result of a sequence, makes the same calls and leaves
the control plane in the same state. -/
def Action.Follows (action : Action σ Stop α) (sequence : Sequence σ α) : Prop :=
  ∀ run, sequence run.exchange = ((action run).1, (action run).2.exchange)

namespace Action.Follows

theorem pure (a : α) : (Pure.pure a : Action σ Stop α).Follows (Pure.pure a) := fun _ => rfl

theorem bind {action : Action σ Stop α} {sequence : Sequence σ α} {f : α → Action σ Stop β}
    {g : α → Sequence σ β} (h : action.Follows sequence) (hf : ∀ a, (f a).Follows (g a)) :
    (action >>= f).Follows (sequence >>= g) := by
  intro run
  have hfollows := h run
  rcases hrun : action run with ⟨stop | a, run₁⟩
  · rw [hrun] at hfollows
    rw [bind_of_error hrun, bind_of_error hfollows]
  · rw [hrun] at hfollows
    rw [bind_of_ok hrun, bind_of_ok hfollows]
    exact hf a run₁

/-- Events are nothing to the control plane. -/
theorem log {f : Unit → Action σ Stop β} {sequence : Sequence σ β} (event : Log.Event)
    (h : (f ()).Follows sequence) : (Reconciler.log event >>= f).Follows sequence := by
  intro run
  rw [bind_of_ok (Reconciler.log_eq event run), ← h, Run.exchange_log]

theorem logs {f : Unit → Action σ Stop β} {sequence : Sequence σ β} (event : α → Log.Event)
    (items : List α) (h : (f ()).Follows sequence) :
    ((items.forM fun item => Reconciler.log (event item)) >>= f).Follows sequence := by
  induction items with
  | nil => exact h
  | cons item rest ih =>
    have hassoc : ((item :: rest).forM fun item => Reconciler.log (event item)) >>= f =
        Reconciler.log (event item) >>= fun _ =>
          (rest.forM fun item => Reconciler.log (event item)) >>= f := bind_assoc _ _ _
    rw [hassoc]
    exact .log _ ih

theorem fail (failure : Failure) :
    (Reconciler.fail failure : Action σ Stop α).Follows (Sequence.fail failure) := fun _ => rfl

end Action.Follows

/-! ## Tasks -/

/-- Carries a task out without a break. -/
def Task.inTurn (plane : Plane σ) : {n : Nat} → Task α n → Sequence σ α
  | _, done (.ok a) => return a
  | _, done (.error failure) => Sequence.fail failure
  | _, log _ next => next.inTurn plane
  | _, call c next => do
    let outcome ← Sequence.ask plane c
    (next outcome).inTurn plane

/-- Carries a task on with the answer that it waits for. -/
def Suspension.inTurn (plane : Plane σ) (suspension : Suspension α) : Sequence σ α :=
  fun exchange =>
    let (outcome, state) := plane.answer exchange.state suspension.call
    (suspension.next outcome).inTurn plane { exchange with state }

def Flight.inTurn (plane : Plane σ) : Flight α → Sequence σ α
  | fresh job => job.task.inTurn plane
  | suspended suspension => suspension.inTurn plane

/-- What is left to do after a turn. -/
def Progress.inTurn (plane : Plane σ) : Progress α → Sequence σ α
  | finished (.ok a) => return a
  | finished (.error failure) => Sequence.fail failure
  | suspended suspension => suspension.inTurn plane

theorem Task.inTurn_of_advance (plane : Plane σ) {n : Nat} (task : Task α n) (o : Operation)
    (run : Run σ) :
    task.inTurn plane run.exchange =
      (task.advance plane o run).1.inTurn plane (task.advance plane o run).2.exchange := by
  induction task generalizing run with
  | done result =>
    cases result with
    | ok a =>
      rw [inTurn, advance, Run.exchange_record rfl]
      rfl
    | error failure =>
      rw [inTurn, advance, Run.exchange_record rfl]
      rfl
  | log event next ih =>
    rw [inTurn, advance, ← ih, Run.exchange_log]
  | call c next ih =>
    rw [inTurn, Action.bind_of_ok (Sequence.ask_exchange plane o c run)]
    unfold advance
    split
    · rename_i run₁ hissue
      rw [hissue]
      exact ih _ _
    · -- the call is made before the wait, so all that is left of the question is its answer
      rename_i waits run₁ hissue
      rw [hissue, Run.exchange_answer]
      rfl

theorem Suspension.inTurn_of_resume (suspension : Suspension α) (run : Run σ) :
    suspension.inTurn plane run.exchange =
      (suspension.resume plane run).1.inTurn plane (suspension.resume plane run).2.exchange := by
  obtain ⟨o, call, bound, next, waits⟩ := suspension
  cases waits with
  | succ waits => rfl
  | zero =>
    have hadvance := Task.inTurn_of_advance plane (next (run.answer plane o call).1) o
      (run.answer plane o call).2
    rw [Run.exchange_answer] at hadvance
    exact hadvance

/-- A turn is the first part of what a task has to do. -/
theorem Flight.inTurn_of_poll (flight : Flight α) (run : Run σ) :
    flight.inTurn plane run.exchange =
      (flight.poll plane run).1.inTurn plane (flight.poll plane run).2.exchange := by
  cases flight with
  | fresh job =>
    have hadvance := Task.inTurn_of_advance plane job.task job.operation
      (run.record (.began job.operation))
    rw [Run.exchange_record rfl] at hadvance
    exact hadvance
  | suspended suspension => exact suspension.inTurn_of_resume run

/-! ## Batches -/

namespace Batch

/-- The tasks that are not finished, in order. -/
def due (batch : Batch α) : List (Flight α) := batch.queue ++ batch.waiting.map .fresh

theorem due_fill (width : Nat) (batch : Batch α) : (batch.fill width).due = batch.due := by
  rw [due, fill, List.append_assoc, ← List.map_append, List.take_append_drop, due]

@[simp] theorem results_fill (width : Nat) (batch : Batch α) :
    (batch.fill width).results = batch.results := rfl

/-- What is left of a batch, one task after the other. -/
def inTurn (plane : Plane σ) (batch : Batch α) : Sequence σ (List α) := do
  let results ← batch.due.mapM (Flight.inTurn plane)
  return batch.results.reverse ++ results

variable {batch next : Batch α} {policy : Policy} {run run' : Run σ}

/-- The one task in flight is the first of those that are due. -/
theorem due_of_choose? {width place : Nat} {flight : Flight α} {rest : List (Flight α)}
    (hone : width = 1) (hroom : batch.queue.length ≤ 1)
    (hchoose : choose? place (batch.fill width).queue = some (flight, rest)) :
    rest = [] ∧ batch.due = flight :: (batch.fill width).waiting.map .fresh := by
  obtain ⟨front, behind, hqueue, hrest⟩ := queue_eq_of_choose? hchoose
  have hlength : (batch.fill width).queue.length ≤ 1 := by
    simp only [fill, List.length_append, List.length_map, List.length_take]
    omega
  rw [hqueue, List.length_append, List.length_cons] at hlength
  obtain rfl : front = [] := List.eq_nil_of_length_eq_zero (by omega)
  obtain rfl : behind = [] := List.eq_nil_of_length_eq_zero (by omega)
  refine ⟨hrest, ?_⟩
  rw [← due_fill width batch, due, hqueue]
  rfl

/-- The first task takes a turn, and the rest follows. -/
theorem inTurn_of_poll {flight : Flight α} {due : List (Flight α)} (h : batch.due = flight :: due)
    (run : Run σ) :
    batch.inTurn plane run.exchange =
      (do
        let a ← (flight.poll plane run.takeTurn).1.inTurn plane
        let results ← due.mapM (Flight.inTurn plane)
        return batch.results.reverse ++ a :: results)
      (flight.poll plane run.takeTurn).2.exchange := by
  have hturn : flight.inTurn plane run.exchange =
      (flight.poll plane run.takeTurn).1.inTurn plane
        (flight.poll plane run.takeTurn).2.exchange := flight.inTurn_of_poll run.takeTurn
  rw [← Sequence.bind_congr_at hturn, inTurn, h, List.mapM_cons]
  simp only [bind_assoc, pure_bind]

theorem inTurn_of_going (hone : policy.concurrency.width = 1) (hroom : batch.queue.length ≤ 1)
    (hstep : batch.step plane policy run = .going next run') :
    batch.inTurn plane run.exchange = next.inTurn plane run'.exchange ∧
      next.queue.length ≤ 1 := by
  cases turn_of_step hstep with
  | succeeds hchoose hpoll =>
    obtain ⟨rfl, hdue⟩ := due_of_choose? hone hroom hchoose
    rw [inTurn_of_poll hdue, hpoll]
    refine ⟨?_, Nat.zero_le _⟩
    simp only [Progress.inTurn, inTurn, due, pure_bind, List.nil_append, List.reverse_cons,
      List.append_assoc, List.singleton_append]
  | suspends hchoose hpoll =>
    obtain ⟨rfl, hdue⟩ := due_of_choose? hone hroom hchoose
    rw [inTurn_of_poll hdue, hpoll]
    refine ⟨?_, Nat.le_refl _⟩
    simp only [Progress.inTurn, Flight.inTurn, inTurn, due, results_fill, List.nil_append,
      List.singleton_append, List.mapM_cons, bind_assoc, pure_bind]

theorem inTurn_of_finished (hone : policy.concurrency.width = 1) (hroom : batch.queue.length ≤ 1)
    {result : Except Failure (List α)}
    (hstep : batch.step plane policy run = .finished result run') :
    batch.inTurn plane run.exchange = (result.mapError .failed, run'.exchange) := by
  cases turn_of_step hstep with
  | idle hchoose =>
    obtain ⟨hqueue, hwaiting⟩ := eq_nil_of_idle policy.concurrency.width_pos hchoose
    rw [inTurn, due, hqueue, hwaiting, List.nil_append, List.map_nil, List.mapM_nil, pure_bind,
      List.append_nil]
    rfl
  | fails hchoose hpoll =>
    obtain ⟨rfl, hdue⟩ := due_of_choose? hone hroom hchoose
    rw [inTurn_of_poll hdue, hpoll]
    rfl

/-- A batch of width one does what is left of it in turn. -/
theorem inTurn_of_run (plane : Plane σ) (hone : policy.concurrency.width = 1) (batch : Batch α)
    (hroom : batch.queue.length ≤ 1) (run : Run σ) :
    batch.inTurn plane run.exchange =
      ((Batch.run plane policy batch run).1.mapError .failed,
        (Batch.run plane policy batch run).2.exchange) := by
  -- by induction on the turns: each one takes its part from the front of what is left
  fun_induction Batch.run plane policy batch run with
  | case1 batch run result run₁ hstep => exact inTurn_of_finished hone hroom hstep
  | case2 batch run next run₁ hstep ih =>
    obtain ⟨hnext, hnextRoom⟩ := inTurn_of_going hone hroom hstep
    rw [hnext]
    exact ih hnextRoom

end Batch

/-! ## Single routes -/

namespace RouteTask

theorem create_inTurn (plane : Plane σ) (router : RouterRef) (scope : Declared.Scope)
    (route : Declared.Route) :
    (create router scope route).inTurn plane = Sequence.createRoute plane router scope route := by
  unfold create Sequence.createRoute
  cases route.resolve scope with
  | error defect => rfl
  | ok spec =>
    simp only [Task.inTurn, Sequence.demand, bind_assoc]
    refine bind_congr fun outcome => ?_
    cases outcome <;> rfl

theorem update_inTurn (plane : Plane σ) (scope : Declared.Scope) (pairing : Pairing) :
    (update scope pairing).inTurn plane =
      Sequence.updateRoute plane scope pairing.route pairing.ref := by
  unfold update Sequence.updateRoute
  simp only [Task.inTurn]
  refine bind_congr fun outcome => ?_
  cases outcome with
  | error error => cases error <;> rfl
  | ok actual =>
    dsimp only
    cases pairing.route.resolve scope with
    | error defect => rfl
    | ok spec =>
      dsimp only
      split
      · rfl
      · simp only [Task.inTurn, Sequence.demand, bind_assoc]
        refine bind_congr fun outcome => ?_
        cases outcome <;> rfl

theorem delete_inTurn (plane : Plane σ) {n : Nat} (ref : RouteRef) :
    (delete ref : Task Unit (n + 1)).inTurn plane = Sequence.deleteRoute plane ref := by
  unfold delete Sequence.deleteRoute
  simp only [Task.inTurn]
  refine bind_congr fun outcome => ?_
  rcases outcome with (_ | _) | _ <;> rfl

theorem retire_inTurn (plane : Plane σ) (ref : RouteRef) :
    (retire ref).inTurn plane = Sequence.retireRoute plane ref := by
  unfold retire Sequence.retireRoute
  simp only [Task.inTurn]
  refine bind_congr fun outcome => ?_
  rcases outcome with (_ | _) | actual
  · rfl
  · rfl
  · exact delete_inTurn plane actual.ref

end RouteTask

namespace Reconciler

variable {reconciler : Reconciler σ}

/-- A batch does its tasks in the order of its items. -/
theorem batch_follows (hone : reconciler.policy.concurrency.width = 1) {n : Nat}
    {operation : β → Operation} {task : β → Task α n} {sequence : β → Sequence σ α}
    (h : ∀ item, (task item).inTurn reconciler.plane = sequence item) (items : List β) :
    (reconciler.batch operation task items).Follows (items.mapM sequence) := by
  intro run
  have hrun := Batch.inTurn_of_run reconciler.plane hone
    { waiting := items.map fun item => ⟨operation item, n, task item⟩ } (Nat.zero_le _) run
  have hitems : (Batch.inTurn reconciler.plane
      { waiting := items.map fun item => ⟨operation item, n, task item⟩ }) =
      items.mapM sequence := by
    simp only [Batch.inTurn, Batch.due, List.nil_append, List.reverse_nil, List.mapM_map,
      bind_pure]
    exact congrArg (items.mapM ·) (funext h)
  rw [hitems] at hrun
  rw [hrun, batch]
  rcases Batch.run reconciler.plane reconciler.policy _ run with ⟨failure | results, run'⟩ <;> rfl

theorem listFrom_follows (plane : Plane σ) (router : RouterRef) (listed : List RouteRef)
    (token : Option String) (limit : Nat) :
    Action.Follows (listFrom plane router listed token limit) (do
      let refs ← Sequence.list plane router token limit
      return listed ++ refs) := by
  induction limit generalizing listed token with
  | zero => exact fun run => rfl
  | succ limit ih =>
    intro run
    have hask := Sequence.ask_exchange plane .listing (.list router token) run
    simp only [Sequence.list, Sequence.demand, bind_assoc, listFrom]
    rw [Action.bind_of_ok hask]
    rcases (run.issue plane .listing (.list router token)).2.answer plane .listing
      (.list router token) with ⟨error | page, run₁⟩
    · dsimp only
      rw [Run.exchange_record rfl]
      rfl
    · dsimp only
      rw [pure_bind]
      cases page.next with
      | none =>
        dsimp only
        rw [pure_bind, Run.exchange_record rfl]
        rfl
      | some next =>
        simp only [bind_assoc, pure_bind, ← List.append_assoc]
        exact ih (listed ++ page.refs) (some next) run₁

theorem list_follows (reconciler : Reconciler σ) (router : RouterRef) :
    (reconciler.list router).Follows
      (Sequence.list reconciler.plane router none reconciler.policy.pageLimit) := by
  intro run
  have hlist := listFrom_follows reconciler.plane router [] none reconciler.policy.pageLimit
    (run.record (.began .listing))
  simp only [List.nil_append, bind_pure] at hlist
  rw [Run.exchange_record rfl] at hlist
  rw [hlist, list_eq]
  split
  · rename_i refs run₁ h
    rw [h, Run.exchange_log]
  · rename_i stop run₁ h
    rw [h]

/-! ## Errands -/

variable (hone : reconciler.policy.concurrency.width = 1)
include hone

/-- A batch with nothing to return does its tasks for their effects. -/
theorem forM_follows {n : Nat} (operation : β → Operation) {task : β → Task Unit n}
    {sequence : β → Sequence σ Unit} {last : Action σ Stop α} {lastly : Sequence σ α}
    (h : ∀ item, (task item).inTurn reconciler.plane = sequence item) (hlast : last.Follows lastly)
    (items : List β) :
    (do
      let _ ← reconciler.batch operation task items
      last).Follows (do
      items.forM sequence
      lastly) := by
  rw [Sequence.forM_eq]
  simp only [bind_assoc, pure_bind]
  exact (batch_follows hone h items).bind fun _ => hlast

theorem reconcile_follows (router : RouterRef) (scope : Declared.Scope)
    (routes : List Declared.Route) (refs : List RouteRef) :
    (reconciler.reconcile router scope routes refs).Follows
      (Sequence.reconcile reconciler.plane router scope routes refs) := by
  unfold reconcile Sequence.reconcile
  rw [Sequence.distinct_distinct_eq]
  cases h : Partition.of routes refs with
  | error duplicate => exact .fail _
  | ok partition =>
    rw [Sequence.missing_eq h, Sequence.matched_eq h, Sequence.surplus_eq h]
    refine .log _ ?_
    refine .bind (batch_follows hone (RouteTask.create_inTurn _ _ _) _) fun created => ?_
    refine .bind (batch_follows hone (RouteTask.update_inTurn _ _) _) fun updated => ?_
    exact forM_follows hone _ (RouteTask.retire_inTurn _) (.pure _) _

theorem remove_follows (mesh : Declared.Mesh) (router : Declared.VirtualRouter)
    (listeners : List PortMapping) :
    (reconciler.remove mesh router listeners).Follows (Sequence.remove reconciler.plane
      reconciler.policy.pageLimit mesh router listeners) := by
  unfold remove Sequence.remove
  refine (reconciler.list_follows _).bind fun refs => ?_
  rw [Sequence.distinct_distinct_eq]
  cases h : Partition.of router.spec.routes refs with
  | error duplicate => exact .fail _
  | ok partition =>
    dsimp only
    rw [Sequence.tainted_eq h]
    refine .logs _ _ (.log _ ?_)
    have hdelete := forM_follows hone (.deleting ·.routeName)
      (RouteTask.delete_inTurn (n := 0) _) (.pure ()) (partition.tainted listeners)
    rwa [bind_pure_unit] at hdelete

end Reconciler

/-- One operation at a time, each errand makes the calls of its sequence and has its result. -/
theorem errands_in_sequence {reconciler : Reconciler σ}
    (hone : reconciler.policy.concurrency = .one) (mesh : Declared.Mesh)
    (router : Declared.VirtualRouter) (nodes : VirtualNode.Table) (listeners : List PortMapping) :
    (reconciler.update mesh router nodes).Follows
      (Sequence.update reconciler.plane reconciler.policy.pageLimit mesh router nodes) ∧
    (reconciler.create mesh router nodes).Follows
      (Sequence.create reconciler.plane mesh router nodes) ∧
    (reconciler.cleanup mesh router).Follows
      (Sequence.cleanup reconciler.plane reconciler.policy.pageLimit mesh router) ∧
    (reconciler.remove mesh router listeners).Follows
      (Sequence.remove reconciler.plane reconciler.policy.pageLimit mesh router listeners) := by
  have hwidth : reconciler.policy.concurrency.width = 1 := by
    rw [hone]
    rfl
  refine ⟨?_, ?_, ?_, ?_⟩
  · exact (reconciler.list_follows _).bind fun refs =>
      Reconciler.reconcile_follows hwidth _ _ _ _
  · rw [Sequence.create_eq]
    exact Reconciler.reconcile_follows hwidth _ _ _ _
  · rw [Sequence.cleanup_eq]
    exact (reconciler.list_follows _).bind fun refs =>
      (Reconciler.reconcile_follows hwidth _ _ _ _).bind fun _ => .pure ()
  · exact Reconciler.remove_follows hwidth mesh router listeners

open Rehearsal in
theorem errands_in_sequence_on_sample :
    Sequence.update (Sample.reconciler .one).plane 1 Sample.mesh Sample.router Sample.nodes
        { state := Sample.stage } =
      ((Sample.update .one Sample.stage).1, (Sample.update .one Sample.stage).2.exchange) :=
  (errands_in_sequence rfl Sample.mesh Sample.router Sample.nodes []).1 { state := Sample.stage }

end MeshRoutes.Control

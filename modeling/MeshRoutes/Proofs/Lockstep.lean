import MeshRoutes.Proofs.Removal
/-!
# Runs in lockstep

Two control planes are alike from some states on if what they do is the same function of what
they have been asked since. Runs that go through the same work on them stay in lockstep: they
make the same calls behind those that they had made before, and come to the same result.

* `Plane.Alike` : two control planes that cannot be told apart.
* `Batch.run_together`, `Reconciler.reconcile_together` : the same work, in lockstep.
* `Reconciler.update_together`, `Reconciler.remove_together` : errands that list in different
  ways, and go on in lockstep.
-/

namespace MeshRoutes.Control

open Remote

variable {σ τ α β : Type}

/-! ## Control planes alike -/

/-- What is asked of a control plane with a call: to take it on, or to answer it. -/
inductive Request where
  | accept (call : Call)
  | answer (call : Call)

/-- The state of a control plane after some requests. -/
def Plane.after (plane : Plane σ) (state : σ) : List Request → σ
  | [] => state
  | .accept call :: later => plane.after (plane.accept state call).2 later
  | .answer call :: later => plane.after (plane.answer state call).2 later

/-- From these states on, a call waits for as long and is answered with the same on both control
planes, whatever was requested since. -/
structure Plane.Alike (plane : Plane σ) (state : σ) (plane' : Plane τ) (state' : τ) : Prop where
  waits (since : List Request) (call : Call) :
    (plane.accept (plane.after state since) call).1 =
      (plane'.accept (plane'.after state' since) call).1
  outcome (since : List Request) (call : Call) :
    (plane.answer (plane.after state since) call).1 =
      (plane'.answer (plane'.after state' since) call).1

namespace Plane.Alike

variable {plane : Plane σ} {plane' : Plane τ} {state : σ} {state' : τ}

theorem refl (plane : Plane σ) (state : σ) : plane.Alike state plane state :=
  ⟨fun _ _ => rfl, fun _ _ => rfl⟩

theorem accept (h : plane.Alike state plane' state') (call : Call) :
    plane.Alike (plane.accept state call).2 plane' (plane'.accept state' call).2 :=
  ⟨fun since => h.waits (.accept call :: since), fun since => h.outcome (.accept call :: since)⟩

theorem answer (h : plane.Alike state plane' state') (call : Call) :
    plane.Alike (plane.answer state call).2 plane' (plane'.answer state' call).2 :=
  ⟨fun since => h.waits (.answer call :: since), fun since => h.outcome (.answer call :: since)⟩

end Plane.Alike

/-! ## Runs in step -/

/-- Two runs that have gone on alike since each of them had made its first calls. -/
structure InStep (plane : Plane σ) (plane' : Plane τ) (first first' : List Call) (run : Run σ)
    (run' : Run τ) : Prop where
  alike : plane.Alike run.state plane' run'.state
  turns : run.turns = run'.turns
  calls : ∃ later, run.calls = first ++ later ∧ run'.calls = first' ++ later

/-- The same outcome, of runs that are in step. -/
inductive Together (plane : Plane σ) (plane' : Plane τ) (first first' : List Call) :
    α × Run σ → α × Run τ → Prop where
  | intro {run : Run σ} {run' : Run τ} (a : α) (h : InStep plane plane' first first' run run') :
    Together plane plane' first first' (a, run) (a, run')

theorem Together.of_eq {plane : Plane σ} {plane' : Plane τ} {first first' : List Call}
    {x : α × Run σ} {x' : α × Run τ} (hresult : x.1 = x'.1)
    (h : InStep plane plane' first first' x.2 x'.2) : Together plane plane' first first' x x' := by
  obtain ⟨a, run⟩ := x
  obtain ⟨a', run'⟩ := x'
  obtain rfl : a = a' := hresult
  exact .intro a h

theorem Together.exists_eq {plane : Plane σ} {plane' : Plane τ} {first first' : List Call}
    {x : α × Run σ} {x' : α × Run τ} (h : Together plane plane' first first' x x') :
    ∃ a run run', x = (a, run) ∧ x' = (a, run') ∧ InStep plane plane' first first' run run' := by
  cases h with
  | intro a h => exact ⟨a, _, _, rfl, rfl, h⟩

section Steps

variable {plane : Plane σ} {plane' : Plane τ} {first first' : List Call} {run : Run σ}
  {run' : Run τ}

namespace InStep

theorem record (h : InStep plane plane' first first' run run') {moment : Moment σ}
    {moment' : Moment τ} (hmoment : moment.after? = none) (hmoment' : moment'.after? = none) :
    InStep plane plane' first first' (run.record moment) (run'.record moment') := by
  refine ⟨h.alike, h.turns, ?_⟩
  rw [Run.calls_record hmoment, Run.calls_record hmoment']
  exact h.calls

theorem log (h : InStep plane plane' first first' run run') (event : Log.Event) :
    InStep plane plane' first first' (run.log event) (run'.log event) :=
  h.record rfl rfl

theorem takeTurn (h : InStep plane plane' first first' run run') :
    InStep plane plane' first first' run.takeTurn run'.takeTurn :=
  ⟨h.alike, congrArg (· + 1) h.turns, h.calls⟩

theorem issue (h : InStep plane plane' first first' run run') (o : Operation) (call : Call) :
    Together plane plane' first first' (run.issue plane o call) (run'.issue plane' o call) := by
  refine .of_eq (h.alike.waits [] call) ⟨h.alike.accept call, h.turns, ?_⟩
  obtain ⟨later, hcalls, hcalls'⟩ := h.calls
  refine ⟨later ++ [call], ?_, ?_⟩
  · rw [Run.calls_issue, hcalls, List.append_assoc]
  · rw [Run.calls_issue, hcalls', List.append_assoc]

theorem answer (h : InStep plane plane' first first' run run') (o : Operation) (call : Call) :
    Together plane plane' first first' (run.answer plane o call) (run'.answer plane' o call) := by
  refine .of_eq (h.alike.outcome [] call) ⟨h.alike.answer call, h.turns, ?_⟩
  rw [Run.calls_answer, Run.calls_answer]
  exact h.calls

end InStep

/-! ## Tasks in step -/

theorem Task.advance_together {n : Nat} (task : Task α n) (o : Operation)
    (h : InStep plane plane' first first' run run') :
    Together plane plane' first first' (task.advance plane o run) (task.advance plane' o run') := by
  induction task generalizing run run' with
  | done result => exact .intro _ (h.record rfl rfl)
  | log event next ih => exact ih (h.log event)
  | call call next ih =>
    obtain ⟨waits, issued, issued', hissue, hissue', hissued⟩ := (h.issue o call).exists_eq
    rw [advance, advance, hissue, hissue']
    cases waits with
    | zero =>
      obtain ⟨outcome, _, _, hanswer, hanswer', hanswered⟩ := (hissued.answer o call).exists_eq
      dsimp only
      rw [hanswer, hanswer']
      exact ih outcome hanswered
    | succ waits => exact .intro _ hissued

theorem Suspension.resume_together (suspension : Suspension α)
    (h : InStep plane plane' first first' run run') :
    Together plane plane' first first' (suspension.resume plane run)
      (suspension.resume plane' run') := by
  unfold resume
  cases suspension.waits with
  | succ waits => exact .intro _ h
  | zero =>
    obtain ⟨outcome, _, _, hanswer, hanswer', hanswered⟩ :=
      (h.answer suspension.operation suspension.call).exists_eq
    dsimp only
    rw [hanswer, hanswer']
    exact Task.advance_together _ _ hanswered

theorem Flight.poll_together (flight : Flight α)
    (h : InStep plane plane' first first' run run') :
    Together plane plane' first first' (flight.poll plane run) (flight.poll plane' run') := by
  cases flight with
  | fresh job => exact job.task.advance_together job.operation (h.record rfl rfl)
  | suspended suspension => exact suspension.resume_together h

/-! ## Batches in step -/

namespace Batch

/-- Turns that make the same of a batch, in runs that are in step. -/
inductive Step.Together (plane : Plane σ) (plane' : Plane τ) (first first' : List Call) :
    Step σ α → Step τ α → Prop where
  | finished {run : Run σ} {run' : Run τ} (result : Except Failure (List α))
      (h : InStep plane plane' first first' run run') :
    Together plane plane' first first' (.finished result run) (.finished result run')
  | going {run : Run σ} {run' : Run τ} (batch : Batch α)
      (h : InStep plane plane' first first' run run') :
    Together plane plane' first first' (.going batch run) (.going batch run')

theorem step_together (policy : Policy) (batch : Batch α)
    (h : InStep plane plane' first first' run run') :
    Step.Together plane plane' first first' (batch.step plane policy run)
      (batch.step plane' policy run') := by
  simp only [step, ← h.turns]
  cases choose? (policy.order run.turns) (batch.fill policy.concurrency.width).queue with
  | none => exact .finished _ h
  | some chosen =>
    obtain ⟨flight, rest⟩ := chosen
    obtain ⟨progress, _, _, hpoll, hpoll', hpolled⟩ :=
      (flight.poll_together h.takeTurn).exists_eq
    dsimp only
    rw [hpoll, hpoll']
    cases progress with
    | finished result =>
      cases result with
      | ok a => exact .going _ hpolled
      | error failure => exact .finished _ hpolled
    | suspended suspension => exact .going _ hpolled

theorem run_together (policy : Policy) (batch : Batch α)
    (h : InStep plane plane' first first' run run') :
    Together plane plane' first first' (Batch.run plane policy batch run)
      (Batch.run plane' policy batch run') := by
  -- by induction on the turns of the one run: the other one takes each of them too
  fun_induction Batch.run plane policy batch run generalizing run' with
  | case1 batch run result finished hstep =>
    have hsteps := step_together policy batch h
    rw [hstep] at hsteps
    rw [Batch.run.eq_def plane' policy batch run']
    generalize batch.step plane' policy run' = step' at hsteps
    cases hsteps with
    | finished _ hfinished => exact .intro _ hfinished
  | case2 batch run next going hstep ih =>
    have hsteps := step_together policy batch h
    rw [hstep] at hsteps
    rw [Batch.run.eq_def plane' policy batch run']
    generalize batch.step plane' policy run' = step' at hsteps
    cases hsteps with
    | going _ hgoing => exact ih hgoing

end Batch

end Steps

/-! ## Actions in step -/

/-- From runs that are in step, both actions come to the same, and the runs stay in step. -/
def Action.Together (plane : Plane σ) (plane' : Plane τ) (first first' : List Call)
    (x : Action σ Stop α) (x' : Action τ Stop α) : Prop :=
  ∀ ⦃run : Run σ⦄ ⦃run' : Run τ⦄, InStep plane plane' first first' run run' →
    Control.Together plane plane' first first' (x run) (x' run')

namespace Action.Together

variable {plane : Plane σ} {plane' : Plane τ} {first first' : List Call}

theorem bind {x : Action σ Stop α} {x' : Action τ Stop α} {f : α → Action σ Stop β}
    {f' : α → Action τ Stop β} (hx : Together plane plane' first first' x x')
    (hf : ∀ a, Together plane plane' first first' (f a) (f' a)) :
    Together plane plane' first first' (x >>= f) (x' >>= f') := by
  intro run run' h
  obtain ⟨result, mid, mid', hrun, hrun', hmid⟩ := (hx h).exists_eq
  cases result with
  | error stop =>
    rw [Action.bind_of_error hrun, Action.bind_of_error hrun']
    exact .intro _ hmid
  | ok a =>
    rw [Action.bind_of_ok hrun, Action.bind_of_ok hrun']
    exact hf a hmid

theorem pure (a : α) : Together plane plane' first first' (Pure.pure a : Action σ Stop α)
    (Pure.pure a) :=
  fun _ _ h => .intro _ h

theorem fail (failure : Failure) : Together plane plane' first first'
    (Reconciler.fail failure : Action σ Stop α) (Reconciler.fail failure) :=
  fun _ _ h => .intro _ h

theorem log (event : Log.Event) : Together plane plane' first first' (Reconciler.log event)
    (Reconciler.log event) :=
  fun _ _ h => .intro _ (h.log event)

theorem forM_log (items : List α) (event : α → Log.Event) :
    Together plane plane' first first' (items.forM fun a => Reconciler.log (event a))
      (items.forM fun a => Reconciler.log (event a)) := by
  induction items with
  | nil => exact pure ()
  | cons a rest ih => exact (log (event a)).bind fun _ => ih

end Action.Together

namespace Reconciler

variable {plane : Plane σ} {plane' : Plane τ} {first first' : List Call} (policy : Policy)

theorem batch_together {n : Nat} (operation : β → Operation) (task : β → Task α n)
    (items : List β) :
    Action.Together plane plane' first first' (batch ⟨plane, policy⟩ operation task items)
      (batch ⟨plane', policy⟩ operation task items) := by
  intro run run' h
  obtain ⟨result, _, _, hbatch, hbatch', hran⟩ := (Batch.run_together policy
    { waiting := items.map fun item => ⟨operation item, n, task item⟩ } h).exists_eq
  unfold batch
  dsimp only
  rw [hbatch, hbatch']
  cases result with
  | ok results => exact .intro _ hran
  | error failure => exact .intro _ hran

variable {routes routes' : List Declared.Route} {refs refs' : List RouteRef}
  (h : Partition.of routes refs = Partition.of routes' refs')

include h

/-- What is reconciled is known by its partition. -/
theorem reconcile_together (router : RouterRef) (scope : Declared.Scope) :
    Action.Together plane plane' first first'
      (reconcile ⟨plane, policy⟩ router scope routes refs)
      (reconcile ⟨plane', policy⟩ router scope routes' refs') := by
  unfold reconcile
  rw [h]
  cases Partition.of routes' refs' with
  | error duplicate => exact .fail _
  | ok partition =>
    refine (Action.Together.log _).bind fun _ => ?_
    refine (batch_together policy _ _ _).bind fun created => ?_
    refine (batch_together policy _ _ _).bind fun updated => ?_
    exact (batch_together policy _ _ _).bind fun _ => .pure _

end Reconciler

/-! ## Errands in step -/

/-- A listing takes no turn. -/
theorem Reconciler.turns_of_list {reconciler : Reconciler σ} {router : RouterRef}
    {run run' : Run σ} {result : Except Stop (List RouteRef)}
    (h : reconciler.list router run = (result, run')) : run'.turns = run.turns :=
  list_keeps (P := fun later => later.turns = run.turns)
    ⟨fun _ hrun => hrun, fun _ hrun => hrun, fun _ hrun => hrun⟩ h rfl

/-- The same outcome, after the same calls behind those that each run had made first. -/
def SameBehind (first first' : List Call) (x : α × Run σ) (x' : α × Run τ) : Prop :=
  x.1 = x'.1 ∧ ∃ later, x.2.calls = first ++ later ∧ x'.2.calls = first' ++ later

/-- An errand that ends with a failure, after these calls and no other. -/
def EndsWith (failure : Failure) (calls : List Call) (x : Except Stop α × Run σ) : Prop :=
  x.1 = .error (.failed failure) ∧ x.2.calls = calls

namespace Together

variable {plane : Plane σ} {plane' : Plane τ} {first first' : List Call} {state : σ} {state' : τ}

theorem sameBehind {x : α × Run σ} {x' : α × Run τ}
    (h : Together plane plane' first first' x x') : SameBehind first first' x x' := by
  obtain ⟨_, _, _, rfl, rfl, hstep⟩ := h.exists_eq
  exact ⟨rfl, hstep.calls⟩

theorem of_perform {action : Action σ Stop α} {action' : Action τ Stop α}
    (halike : plane.Alike state plane' state')
    (h : Action.Together plane plane' [] [] action action') :
    Together plane plane' [] [] (action.perform state) (action'.perform state') :=
  h ⟨halike, rfl, [], rfl, rfl⟩

/-- What follows a listing goes on from the states that the listings led to. -/
theorem of_list {reconciler : Reconciler σ} {reconciler' : Reconciler τ}
    {router router' : RouterRef} {refs refs' : List RouteRef} {mid : Run σ} {mid' : Run τ}
    {body : List RouteRef → Action σ Stop α} {body' : List RouteRef → Action τ Stop α}
    (hlist : (reconciler.list router).perform state = (.ok refs, mid))
    (hlist' : (reconciler'.list router').perform state' = (.ok refs', mid'))
    (halike : plane.Alike mid.state plane' mid'.state)
    (hbody : Action.Together plane plane' mid.calls mid'.calls (body refs) (body' refs')) :
    Together plane plane' mid.calls mid'.calls
      ((reconciler.list router >>= body).perform state)
      ((reconciler'.list router' >>= body').perform state') := by
  have hstep : InStep plane plane' mid.calls mid'.calls mid mid' := by
    refine ⟨halike, ?_, [], (List.append_nil _).symm, (List.append_nil _).symm⟩
    exact (Reconciler.turns_of_list hlist).trans (Reconciler.turns_of_list hlist').symm
  have hgoes : (reconciler.list router >>= body).perform state = body refs mid :=
    Action.bind_of_ok hlist
  have hgoes' : (reconciler'.list router' >>= body').perform state' = body' refs' mid' :=
    Action.bind_of_ok hlist'
  rw [hgoes, hgoes']
  exact hbody hstep

end Together

namespace Reconciler

variable {plane : Plane σ} {plane' : Plane τ} {policy : Policy} {mesh : Declared.Mesh}
  {router router' : Declared.VirtualRouter} {state : σ} {state' : τ} {mid : Run σ} {mid' : Run τ}
  {refs refs' : List RouteRef}

/-- Routers in one namespace have the same scope. -/
theorem scope_eq (hspace : router'.metadata.space = router.metadata.space)
    (nodes : VirtualNode.Table) : router'.scope nodes = router.scope nodes :=
  congrArg (Declared.Scope.mk · nodes) hspace

section Rewritten

variable (haddress : RouterRef.of mesh router' = .of mesh router)

include haddress

theorem create_together (hspace : router'.metadata.space = router.metadata.space)
    (halike : plane.Alike state plane' state')
    (h : Partition.of router.spec.routes [] = Partition.of router'.spec.routes [])
    (nodes : VirtualNode.Table) :
    Together plane plane' [] [] ((create ⟨plane, policy⟩ mesh router nodes).perform state)
      ((create ⟨plane', policy⟩ mesh router' nodes).perform state') := by
  unfold create
  rw [haddress, scope_eq hspace]
  exact .of_perform halike (reconcile_together policy h _ _)

section Listed

variable (hlist : (list ⟨plane, policy⟩ (.of mesh router)).perform state = (.ok refs, mid))
  (hlist' : (list ⟨plane', policy⟩ (.of mesh router)).perform state' = (.ok refs', mid'))
  (halike : plane.Alike mid.state plane' mid'.state)
  (h : Partition.of router.spec.routes refs = Partition.of router'.spec.routes refs')

include hlist hlist' halike h

theorem update_together (hspace : router'.metadata.space = router.metadata.space)
    (nodes : VirtualNode.Table) :
    Together plane plane' mid.calls mid'.calls
      ((update ⟨plane, policy⟩ mesh router nodes).perform state)
      ((update ⟨plane', policy⟩ mesh router' nodes).perform state') := by
  unfold update
  rw [haddress, scope_eq hspace]
  exact .of_list hlist hlist' halike (reconcile_together policy h _ _)

theorem remove_together (listeners : List PortMapping) :
    Together plane plane' mid.calls mid'.calls
      ((remove ⟨plane, policy⟩ mesh router listeners).perform state)
      ((remove ⟨plane', policy⟩ mesh router' listeners).perform state') := by
  unfold remove
  rw [haddress]
  refine .of_list hlist hlist' halike ?_
  rw [h]
  cases Partition.of router'.spec.routes refs' with
  | error duplicate => exact .fail _
  | ok partition =>
    refine (Action.Together.forM_log _ _).bind fun _ => ?_
    refine (Action.Together.log _).bind fun _ => ?_
    exact (batch_together policy _ _ _).bind fun _ => .pure ()

end Listed

end Rewritten

theorem cleanup_together
    (hlist : (list ⟨plane, policy⟩ (.of mesh router)).perform state = (.ok refs, mid))
    (hlist' : (list ⟨plane', policy⟩ (.of mesh router)).perform state' = (.ok refs, mid'))
    (halike : plane.Alike mid.state plane' mid'.state) :
    Together plane plane' mid.calls mid'.calls
      ((cleanup ⟨plane, policy⟩ mesh router).perform state)
      ((cleanup ⟨plane', policy⟩ mesh router).perform state') :=
  .of_list hlist hlist' halike ((reconcile_together policy rfl _ _).bind fun _ => .pure ())

end Reconciler

end MeshRoutes.Control

import MeshRoutes.Control.Run
/-!
# Tasks

A task is the work on one route: a few calls, one after the other, each chosen by the answers
so far. Its type bounds the number of its calls.
-/

namespace MeshRoutes.Control

/-- Work that issues at most so many calls and gives an `α`. -/
inductive Task (α : Type) : Nat → Type where
  | done (result : Except Failure α) : Task α n
  | log (event : Log.Event) (next : Task α n) : Task α n
  | call (call : Call) (next : call.Outcome → Task α n) : Task α (n + 1)

/-- A task that waits for the answer to a call. -/
structure Suspension (α : Type) where
  operation : Operation
  call : Call
  /-- The bound on the calls to come. -/
  bound : Nat
  next : call.Outcome → Task α bound
  /-- How many more turns it waits. -/
  waits : Nat

/-- How far a task got in one turn. -/
inductive Progress (α : Type) where
  | finished (result : Except Failure α)
  | suspended (suspension : Suspension α)

namespace Task

variable {σ α : Type}

/-- Carries a task on until it finishes or has to wait. A call that waits for no turn is
answered at once. -/
def advance (plane : Plane σ) (operation : Operation) :
    {n : Nat} → Task α n → Run σ → Progress α × Run σ
  | _, done result, run =>
    let failure := match result with
      | .ok _ => none
      | .error failure => some failure
    (.finished result, run.record (.settled operation failure))
  | _, log event next, run => next.advance plane operation (run.log event)
  | _, call c next, run =>
    match run.issue plane operation c with
    | (0, run) =>
      let (outcome, run) := run.answer plane operation c
      (next outcome).advance plane operation run
    | (waits + 1, run) => (.suspended ⟨operation, c, _, next, waits⟩, run)

/-- A task that waits has a call less to make. -/
theorem bound_lt_of_advance {plane : Plane σ} {operation : Operation} {n : Nat}
    {task : Task α n} {run : Run σ} {suspension : Suspension α}
    (h : (task.advance plane operation run).1 = .suspended suspension) :
    suspension.bound < n := by
  induction task generalizing run with
  | done result => simp [advance] at h
  | log event next ih => exact ih (by simpa [advance] using h)
  | @call n c next ih =>
    rw [advance] at h
    split at h
    · exact Nat.lt_succ_of_lt (ih _ h)
    · cases h
      exact Nat.lt_succ_self n

end Task

namespace Suspension

variable {σ α : Type}

/-- Lets a suspended task take its turn. -/
def resume (plane : Plane σ) (suspension : Suspension α) (run : Run σ) :
    Progress α × Run σ :=
  match suspension.waits with
  | waits + 1 => (.suspended { suspension with waits }, run)
  | 0 =>
    let (outcome, run) := run.answer plane suspension.operation suspension.call
    (suspension.next outcome).advance plane suspension.operation run

/-- A turn brings a suspended task nearer to its next call, or that call is made. -/
theorem resume_decreases {plane : Plane σ} {suspension next : Suspension α} {run : Run σ}
    (h : (suspension.resume plane run).1 = .suspended next) :
    next.bound < suspension.bound ∨
      next.bound = suspension.bound ∧ next.waits < suspension.waits := by
  unfold resume at h
  split at h
  · rename_i waits hw
    cases h
    exact .inr ⟨rfl, by simp [hw]⟩
  · exact .inl (Task.bound_lt_of_advance h)

end Suspension

end MeshRoutes.Control

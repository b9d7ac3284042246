import MeshRoutes.Control.Task
import MeshRoutes.Settings
/-!
# Batches

A batch works on tasks of one kind, a bounded number of them in flight. The tasks in flight
stand in a queue and take turns: a task that has to wait goes to the end of the queue, and one
that finishes makes room for the next task. The first failure ends the batch and drops what is
still in flight.

`Batch.step` is one turn, `Batch.run` all of them. `Batch.Turn` says what a turn can be.
-/

namespace MeshRoutes.Control

/-- How the tasks of a batch take turns, and how long a listing may be. -/
structure Policy where
  concurrency : Concurrency
  /-- The place in the queue, counted round and round, of the task that takes a turn. -/
  order : Nat → Nat := fun _ => 0
  /-- The number of pages after which a listing is given up. -/
  pageLimit : Nat

/-- A task and the operation that it carries out. -/
structure Job (α : Type) where
  operation : Operation
  bound : Nat
  task : Task α bound

/-- A task in flight. -/
inductive Flight (α : Type) where
  | fresh (job : Job α)
  | suspended (suspension : Suspension α)

namespace Flight

variable {σ α : Type}

def operation : Flight α → Operation
  | fresh job => job.operation
  | suspended suspension => suspension.operation

def isFresh : Flight α → Bool
  | fresh _ => true
  | suspended _ => false

/-- Lets a task take its turn. -/
def poll (plane : Plane σ) (flight : Flight α) (run : Run σ) : Progress α × Run σ :=
  match flight with
  | fresh job => job.task.advance plane job.operation (run.record (.began job.operation))
  | suspended suspension => suspension.resume plane run

/-- A bound on the calls to come, and one more. -/
def weight : Flight α → Nat
  | fresh job => job.bound + 1
  | suspended suspension => suspension.bound + 1

def waits : Flight α → Nat
  | fresh _ => 0
  | suspended suspension => suspension.waits

theorem weight_pos (flight : Flight α) : 0 < flight.weight := by
  cases flight <;> exact Nat.succ_pos _

theorem poll_decreases {plane : Plane σ} {flight : Flight α} {run : Run σ}
    {next : Suspension α} (h : (flight.poll plane run).1 = .suspended next) :
    (suspended next).weight < flight.weight ∨
      (suspended next).weight = flight.weight ∧ next.waits < flight.waits := by
  cases flight with
  | fresh job => exact .inl (Nat.succ_lt_succ (Task.bound_lt_of_advance h))
  | suspended suspension =>
    exact (Suspension.resume_decreases h).imp Nat.succ_lt_succ fun ⟨hb, hw⟩ =>
      ⟨congrArg (· + 1) hb, hw⟩

end Flight

/-- Where a batch stands. -/
structure Batch (α : Type) where
  /-- The jobs that are not yet in flight, in order. -/
  waiting : List (Job α)
  queue : List (Flight α) := []
  /-- What the finished tasks gave, the latest in front. -/
  results : List α := []

namespace Batch

variable {σ α : Type}

/-- Fills the queue up to `width` tasks. -/
def fill (width : Nat) (batch : Batch α) : Batch α :=
  let room := width - batch.queue.length
  { batch with
    waiting := batch.waiting.drop room
    queue := batch.queue ++ (batch.waiting.take room).map .fresh }

/-- The place in a queue, counted round and round. Fresh tasks start in the order of the
queue, so the first of them stands in for any other. -/
def placeIn (queue : List (Flight α)) (place : Nat) : Nat :=
  let place := place % queue.length
  if queue[place]?.any Flight.isFresh then queue.findIdx Flight.isFresh else place

/-- Takes the task at a place out of a queue. -/
def choose? (place : Nat) (queue : List (Flight α)) :
    Option (Flight α × List (Flight α)) :=
  match queue.drop (placeIn queue place) with
  | flight :: behind => some (flight, queue.take (placeIn queue place) ++ behind)
  | [] => none

/-- What a turn makes of a batch. -/
inductive Step (σ α : Type) where
  | finished (result : Except Failure (List α)) (run : Run σ)
  | going (batch : Batch α) (run : Run σ)

/-- One turn of a batch: the queue is filled, and one task takes its turn. -/
def step (plane : Plane σ) (policy : Policy) (batch : Batch α) (run : Run σ) : Step σ α :=
  let batch := batch.fill policy.concurrency.width
  match choose? (policy.order run.turns) batch.queue with
  | none => .finished (.ok batch.results.reverse) run
  | some (flight, rest) =>
    match flight.poll plane run.takeTurn with
    | (.finished (.ok a), run) =>
      .going { batch with queue := rest, results := a :: batch.results } run
    | (.finished (.error failure), run) => .finished (.error failure) run
    | (.suspended suspension, run) =>
      .going { batch with queue := rest ++ [.suspended suspension] } run

/-- What a turn can be: none where no task is in flight, or else that of the task which takes it. -/
inductive Turn (plane : Plane σ) (policy : Policy) (batch : Batch α) (run : Run σ) :
    Step σ α → Prop where
  | idle (hchoose : choose? (policy.order run.turns)
        (batch.fill policy.concurrency.width).queue = none) :
      Turn plane policy batch run (.finished (.ok batch.results.reverse) run)
  | succeeds {flight : Flight α} {rest : List (Flight α)} {a : α} {run' : Run σ}
      (hchoose : choose? (policy.order run.turns) (batch.fill policy.concurrency.width).queue =
        some (flight, rest))
      (hpoll : flight.poll plane run.takeTurn = (.finished (.ok a), run')) :
      Turn plane policy batch run (.going { batch.fill policy.concurrency.width with
        queue := rest, results := a :: batch.results } run')
  | fails {flight : Flight α} {rest : List (Flight α)} {failure : Failure} {run' : Run σ}
      (hchoose : choose? (policy.order run.turns) (batch.fill policy.concurrency.width).queue =
        some (flight, rest))
      (hpoll : flight.poll plane run.takeTurn = (.finished (.error failure), run')) :
      Turn plane policy batch run (.finished (.error failure) run')
  | suspends {flight : Flight α} {rest : List (Flight α)} {suspension : Suspension α}
      {run' : Run σ}
      (hchoose : choose? (policy.order run.turns) (batch.fill policy.concurrency.width).queue =
        some (flight, rest))
      (hpoll : flight.poll plane run.takeTurn = (.suspended suspension, run')) :
      Turn plane policy batch run (.going { batch.fill policy.concurrency.width with
        queue := rest ++ [.suspended suspension] } run')

theorem turn_of_step {plane : Plane σ} {policy : Policy} {batch : Batch α} {run : Run σ}
    {step : Step σ α} (h : batch.step plane policy run = step) :
    Turn plane policy batch run step := by
  subst h
  simp only [Batch.step]
  split
  · rename_i hchoose
    exact .idle hchoose
  · rename_i flight rest hchoose
    split
    · rename_i hpoll
      exact .succeeds hchoose hpoll
    · rename_i hpoll
      exact .fails hchoose hpoll
    · rename_i hpoll
      exact .suspends hchoose hpoll

/-! ## Every batch ends -/

/-- The sum of a measure over a list. -/
def total {β : Type} (measure : β → Nat) : List β → Nat
  | [] => 0
  | item :: rest => measure item + total measure rest

theorem total_append {β : Type} (measure : β → Nat) (front behind : List β) :
    total measure (front ++ behind) = total measure front + total measure behind := by
  induction front with
  | nil => exact (Nat.zero_add _).symm
  | cons item rest ih => rw [List.cons_append, total, total, ih, Nat.add_assoc]

/-- A bound on the calls to come, counting every unfinished task once more. -/
def weight (batch : Batch α) : Nat :=
  total (fun job => job.bound + 1) batch.waiting + total Flight.weight batch.queue

/-- The turns that the tasks in flight are going to wait. -/
def waits (batch : Batch α) : Nat := total Flight.waits batch.queue

theorem total_fresh (jobs : List (Job α)) :
    total Flight.weight (jobs.map Flight.fresh) = total (fun job => job.bound + 1) jobs ∧
      total Flight.waits (jobs.map Flight.fresh) = 0 := by
  induction jobs with
  | nil => exact ⟨rfl, rfl⟩
  | cons job rest ih =>
    obtain ⟨hweight, hwaits⟩ := ih
    rw [List.map_cons, total, total, total, hweight, hwaits]
    exact ⟨rfl, rfl⟩

theorem weight_fill (width : Nat) (batch : Batch α) :
    (batch.fill width).weight = batch.weight := by
  obtain ⟨waiting, queue, results⟩ := batch
  have h := congrArg (total fun job => job.bound + 1)
    (List.take_append_drop (width - queue.length) waiting)
  rw [total_append] at h
  simp only [fill, weight, total_append, total_fresh]
  omega

theorem waits_fill (width : Nat) (batch : Batch α) :
    (batch.fill width).waits = batch.waits := by
  simp only [fill, waits, total_append, total_fresh, Nat.add_zero]

theorem queue_eq_of_choose? {place : Nat} {queue rest : List (Flight α)} {flight : Flight α}
    (h : choose? place queue = some (flight, rest)) :
    ∃ front behind, queue = front ++ flight :: behind ∧ rest = front ++ behind := by
  unfold choose? at h
  split at h
  · rename_i head behind hdrop
    cases h
    exact ⟨queue.take (placeIn queue place), behind,
      by rw [← hdrop, List.take_append_drop], rfl⟩
  · cases h

/-- A measure of a queue, split at the task that was taken out. -/
theorem total_of_choose? {place : Nat} {queue rest : List (Flight α)} {flight : Flight α}
    (h : choose? place queue = some (flight, rest)) (measure : Flight α → Nat) :
    total measure queue = measure flight + total measure rest := by
  obtain ⟨front, behind, rfl, rfl⟩ := queue_eq_of_choose? h
  rw [total_append, total_append, total]
  omega

theorem step_decreases {plane : Plane σ} {policy : Policy} {batch next : Batch α}
    {run run' : Run σ} (h : batch.step plane policy run = .going next run') :
    Prod.Lex (· < ·) (· < ·) (next.weight, next.waits) (batch.weight, batch.waits) := by
  rw [← weight_fill policy.concurrency.width batch, ← waits_fill policy.concurrency.width batch]
  cases turn_of_step h with
  | @succeeds flight _ _ _ hchoose _ =>
    have hweight := total_of_choose? hchoose Flight.weight
    have hpos := flight.weight_pos
    refine .left _ _ ?_
    simp only [weight]
    omega
  | @suspends flight _ suspension _ hchoose hpoll =>
    have hweight := total_of_choose? hchoose Flight.weight
    have hwaits := total_of_choose? hchoose Flight.waits
    simp only [weight, waits, total_append, total]
    rw [Prod.lex_def]
    have hturn : (Flight.suspended suspension).waits = suspension.waits := rfl
    rcases Flight.poll_decreases (congrArg Prod.fst hpoll) with hlt | ⟨heq, hlt⟩
    · exact .inl (by dsimp only; omega)
    · exact .inr ⟨by dsimp only; omega, by dsimp only; omega⟩

/-- Takes turns until every task has finished or one has failed. -/
def run (plane : Plane σ) (policy : Policy) (batch : Batch α) (run : Run σ) :
    Except Failure (List α) × Run σ :=
  match _h : batch.step plane policy run with
  | .finished result run => (result, run)
  | .going next run => next.run plane policy run
termination_by (batch.weight, batch.waits)
decreasing_by exact step_decreases _h

end Batch

end MeshRoutes.Control

import MeshRoutes.Proofs.Discipline
import MeshRoutes.Proofs.Ownership
/-!
# Turns and batches in order

A turn of a batch lets an operation begin, or lets one that is in flight go on. Either way an
orderly history is carried on, and a batch that succeeds leaves nothing in flight.

* `Afoot.began`, `Afoot.works`, `Afoot.succeeded`, `Afoot.failed` : what a turn is made of.
* `Reconciler.afoot_of_batch` : a batch takes an orderly history through one phase.
-/

namespace MeshRoutes.Control

variable {σ α β : Type}

/-! ## One phase -/

/-- What is known of the operations of a phase, given those that are done. -/
structure Phase (planned : Operation → Prop) (done operations : List Operation) : Prop where
  planned_of_mem {o : Operation} (h : o ∈ operations) : planned o
  together {a b : Operation} (ha : a ∈ operations) (hb : b ∈ operations) : a.phase = b.phase
  mem_done {o earlier : Operation} (h : o ∈ operations) (hplanned : planned earlier)
    (hlt : earlier.phase < o.phase) : earlier ∈ done
  sorted : (done ++ operations).Pairwise Operation.Precedes

/-- How far the operations of a phase have got: some are flying, some are due. -/
structure Afoot (planned : Operation → Prop) (width : Nat) (done operations : List Operation)
    (history : List (Moment σ)) (flying due : List Operation) : Prop where
  orderly : Orderly planned width history
  unfailed : Unfailed history
  begun_eq : begun history ++ due = done ++ operations
  inFlight_perm : (inFlight history).Perm flying
  settled : ∀ o ∈ begun history, o ∈ flying ∨ .settled o none ∈ history
  done_settled : ∀ o ∈ done, .settled o none ∈ history
  flying_mem : ∀ o ∈ flying, o ∈ operations
  due_mem : ∀ o ∈ due, o ∈ operations

/-- Something that an operation does while it is in flight. -/
def Moment.IsWork (operation : Operation) : Moment σ → Prop
  | .logged _ => True
  | .issued o _ _ | .answered o _ _ _ => o = operation
  | .began _ | .settled _ _ => False

namespace Afoot

variable {planned : Operation → Prop} {width : Nat} {done operations flying due : List Operation}
  {history : List (Moment σ)} {o : Operation}

theorem reorder {flying' : List Operation}
    (h : Afoot planned width done operations history flying due) (hperm : flying.Perm flying') :
    Afoot planned width done operations history flying' due where
  orderly := h.orderly
  unfailed := h.unfailed
  begun_eq := h.begun_eq
  inFlight_perm := h.inFlight_perm.trans hperm
  settled o ho := (h.settled o ho).imp_left hperm.mem_iff.1
  done_settled := h.done_settled
  flying_mem o ho := h.flying_mem o (hperm.mem_iff.2 ho)
  due_mem := h.due_mem

theorem phase_le (hphase : Phase planned done operations)
    (h : Afoot planned width done operations history flying due) (ho : o ∈ operations)
    {earlier : Operation} (hbegun : earlier ∈ begun history) : earlier.phase ≤ o.phase := by
  have hmem : earlier ∈ done ++ operations := by
    rw [← h.begun_eq]
    exact List.mem_append_left _ hbegun
  rcases List.mem_append.1 hmem with hdone | hhere
  · exact ((List.pairwise_append.1 hphase.sorted).2.2 earlier hdone o ho).phase_le
  · exact Nat.le_of_eq (hphase.together hhere ho)

/-- An operation in flight may go on. -/
theorem permitted (hphase : Phase planned done operations)
    (h : Afoot planned width done operations history (o :: flying) due) {moment : Moment σ}
    (hof : moment.operation? = some o) (hbegan : moment.began? = none) :
    Permitted planned width history moment := by
  have ho : o ∈ operations := h.flying_mem o List.mem_cons_self
  refine ⟨h.unfailed, ?_, ?_, ?_, ?_⟩
  · intro o' hof' earlier hplanned hlt
    cases hof.symm.trans hof'
    exact h.done_settled earlier (hphase.mem_done ho hplanned hlt)
  · intro o' hof' earlier hearlier
    cases hof.symm.trans hof'
    exact h.phase_le hphase ho hearlier
  · rintro o' rfl
    cases hbegan
  · intro o' hof'
    cases hof.symm.trans hof'
    exact .inr (h.inFlight_perm.mem_iff.2 List.mem_cons_self)

/-- The next operation that is due may begin, if there is room. -/
theorem permitted_began (hphase : Phase planned done operations)
    (h : Afoot planned width done operations history flying (o :: due))
    (hroom : flying.length < width) : Permitted planned width history (.began o) := by
  have ho : o ∈ operations := h.due_mem o List.mem_cons_self
  have hsorted : (begun history ++ o :: due).Pairwise Operation.Precedes := by
    rw [h.begun_eq]
    exact hphase.sorted
  refine ⟨h.unfailed, ?_, ?_, ?_, ?_⟩
  · intro o' hof earlier hplanned hlt
    cases hof
    exact h.done_settled earlier (hphase.mem_done ho hplanned hlt)
  · intro o' hof earlier hearlier
    cases hof
    exact h.phase_le hphase ho hearlier
  · intro o' hof
    cases hof
    refine ⟨hphase.planned_of_mem ho, ?_, ?_, ?_⟩
    · rw [h.inFlight_perm.length_eq]
      exact hroom
    · intro other hother
      exact hphase.together (h.flying_mem other (h.inFlight_perm.mem_iff.1 hother)) ho
    · intro earlier hearlier
      exact (List.pairwise_append.1 hsorted).2.2 earlier hearlier o List.mem_cons_self
  · intro o' hof
    cases hof
    exact .inl rfl

theorem began (hphase : Phase planned done operations)
    (h : Afoot planned width done operations history flying (o :: due))
    (hroom : flying.length < width) :
    Afoot planned width done operations (history ++ [.began o]) (o :: flying) due := by
  have hbegun : begun (history ++ [.began o]) = begun history ++ [o] := begun_concat _ _
  refine ⟨h.orderly.concat (h.permitted_began hphase hroom), h.unfailed.concat (by simp), ?_, ?_,
    ?_, ?_, ?_, ?_⟩
  · rw [hbegun, List.append_assoc]
    exact h.begun_eq
  · rw [inFlight_concat]
    exact (List.perm_append_singleton o _).trans (h.inFlight_perm.cons o)
  · intro o' ho'
    rw [hbegun] at ho'
    rcases List.mem_append.1 ho' with hold | hnew
    · exact (h.settled o' hold).imp (List.mem_cons_of_mem _) (List.mem_append_left _)
    · rw [List.mem_singleton.1 hnew]
      exact .inl List.mem_cons_self
  · intro o' ho'
    exact List.mem_append_left _ (h.done_settled o' ho')
  · exact List.forall_mem_cons.2 ⟨h.due_mem o List.mem_cons_self, h.flying_mem⟩
  · intro o' ho'
    exact h.due_mem o' (List.mem_cons_of_mem _ ho')

/-- A moment at which nothing begins or is settled leaves all operations as they are. -/
theorem concat (h : Afoot planned width done operations history flying due) {moment : Moment σ}
    (hpermitted : Permitted planned width history moment) (hbegan : moment.began? = none)
    (htally : ∀ flying, moment.tally flying = flying)
    (hsettled : ∀ o failure, moment ≠ .settled o failure) :
    Afoot planned width done operations (history ++ [moment]) flying due := by
  have hbegun : begun (history ++ [moment]) = begun history := by
    rw [begun_concat, hbegan, Option.toList_none, List.append_nil]
  refine ⟨h.orderly.concat hpermitted, h.unfailed.concat fun o _ => hsettled o _, ?_, ?_, ?_, ?_,
    h.flying_mem, h.due_mem⟩
  · rw [hbegun]
    exact h.begun_eq
  · rw [inFlight_concat, htally]
    exact h.inFlight_perm
  · intro o ho
    rw [hbegun] at ho
    exact (h.settled o ho).imp_right (List.mem_append_left _)
  · intro o ho
    exact List.mem_append_left _ (h.done_settled o ho)

theorem logged (h : Afoot planned width done operations history flying due) (event : Log.Event) :
    Afoot planned width done operations (history ++ [.logged event]) flying due := by
  refine h.concat ⟨h.unfailed, ?_, ?_, ?_, ?_⟩ rfl (fun _ => rfl) (by simp)
  · intro o hof
    cases hof
  · intro o hof
    cases hof
  · intro o hof
    cases hof
  · intro o hof
    cases hof

/-- An operation in flight does its work. -/
theorem work (hphase : Phase planned done operations)
    (h : Afoot planned width done operations history (o :: flying) due) {moment : Moment σ}
    (hwork : moment.IsWork o) :
    Afoot planned width done operations (history ++ [moment]) (o :: flying) due := by
  cases moment with
  | logged event => exact h.logged event
  | issued o' call after | answered o' call outcome after =>
    obtain rfl : o' = o := hwork
    exact h.concat (h.permitted hphase rfl rfl) rfl (fun _ => rfl) (by simp)
  | began _ | settled _ _ => cases hwork

theorem works (hphase : Phase planned done operations)
    (h : Afoot planned width done operations history (o :: flying) due)
    {moments : List (Moment σ)} (hwork : ∀ moment ∈ moments, moment.IsWork o) :
    Afoot planned width done operations (history ++ moments) (o :: flying) due := by
  induction moments generalizing history with
  | nil =>
    rw [List.append_nil]
    exact h
  | cons moment rest ih =>
    obtain ⟨hfirst, hrest⟩ := List.forall_mem_cons.1 hwork
    rw [← List.singleton_append, ← List.append_assoc]
    exact ih (h.work hphase hfirst) hrest

/-- An operation in flight succeeds. -/
theorem succeeded (hphase : Phase planned done operations)
    (h : Afoot planned width done operations history (o :: flying) due) :
    Afoot planned width done operations (history ++ [.settled o none]) flying due := by
  have hpermitted : Permitted planned width history (.settled o none) :=
    h.permitted hphase rfl rfl
  have hbegun : begun (history ++ [.settled o none]) = begun history := by
    rw [begun_concat]
    exact List.append_nil _
  refine ⟨h.orderly.concat hpermitted, h.unfailed.concat (by simp), ?_, ?_, ?_, ?_, ?_, h.due_mem⟩
  · rw [hbegun]
    exact h.begun_eq
  · rw [inFlight_concat]
    have herased := h.inFlight_perm.erase o
    rwa [List.erase_cons_head] at herased
  · intro o' ho'
    rw [hbegun] at ho'
    rcases h.settled o' ho' with hflying | hsettled
    · rcases List.mem_cons.1 hflying with rfl | hflying
      · exact .inr (List.mem_append_right _ List.mem_cons_self)
      · exact .inl hflying
    · exact .inr (List.mem_append_left _ hsettled)
  · intro o' ho'
    exact List.mem_append_left _ (h.done_settled o' ho')
  · intro o' ho'
    exact h.flying_mem o' (List.mem_cons_of_mem _ ho')

/-- An operation in flight fails, and that is the end. -/
theorem failed (hphase : Phase planned done operations)
    (h : Afoot planned width done operations history (o :: flying) due) (failure : Failure) :
    Orderly planned width (history ++ [.settled o (some failure)]) :=
  h.orderly.concat (h.permitted hphase rfl rfl)

/-- Once nothing is left of a phase, the next one may begin. -/
theorem next (h : Afoot planned width done operations history [] []) {more : List Operation} :
    Afoot planned width (done ++ operations) more history [] more where
  orderly := h.orderly
  unfailed := h.unfailed
  begun_eq := by
    rw [← h.begun_eq, List.append_nil]
  inFlight_perm := h.inFlight_perm
  settled := h.settled
  done_settled o ho := by
    rw [← h.begun_eq, List.append_nil] at ho
    rcases h.settled o ho with hflying | hsettled
    · cases hflying
    · exact hsettled
  flying_mem _ ho := absurd ho List.not_mem_nil
  due_mem _ ho := ho

/-- A run in which nothing has happened may begin with any phase. -/
theorem start (planned : Operation → Prop) (width : Nat) (operations : List Operation) :
    Afoot planned width [] operations ([] : List (Moment σ)) [] operations where
  orderly := .nil
  unfailed _ _ := List.not_mem_nil
  begun_eq := rfl
  inFlight_perm := .refl _
  settled _ ho := absurd ho List.not_mem_nil
  done_settled _ ho := absurd ho List.not_mem_nil
  flying_mem _ ho := absurd ho List.not_mem_nil
  due_mem _ ho := ho

end Afoot

/-! ## Turns -/

/-- What a turn tells at its end. -/
def Progress.closing (o : Operation) : Progress α → List (Moment σ)
  | finished result => [.settled o (failureOf result)]
  | suspended _ => []

variable {plane : Plane σ}

theorem Task.history_of_advance {n : Nat} (task : Task α n) (o : Operation) (run : Run σ) :
    ∃ work : List (Moment σ), (∀ moment ∈ work, moment.IsWork o) ∧
      (task.advance plane o run).2.history =
        run.history ++ work ++ (task.advance plane o run).1.closing o := by
  induction task generalizing run with
  | done result =>
    refine ⟨[], by simp, ?_⟩
    rw [List.append_nil]
    cases result <;> exact run.history_record _
  | log event next ih =>
    obtain ⟨work, hwork, hhistory⟩ := ih (run.log event)
    refine ⟨.logged event :: work, List.forall_mem_cons.2 ⟨trivial, hwork⟩, ?_⟩
    rw [advance, hhistory, Run.history_log]
    simp
  | call call next ih =>
    have hissue := run.history_issue plane o call
    unfold advance
    split
    · rename_i run₁ hrun
      rw [hrun] at hissue
      have hanswer := run₁.history_answer plane o call
      obtain ⟨work, hwork, hhistory⟩ := ih (run₁.answer plane o call).1
        (run₁.answer plane o call).2
      refine ⟨.issued o call run₁.state :: .answered o call (run₁.answer plane o call).1
        (run₁.answer plane o call).2.state :: work, ?_, ?_⟩
      · exact List.forall_mem_cons.2 ⟨rfl, List.forall_mem_cons.2 ⟨rfl, hwork⟩⟩
      · rw [hhistory, hanswer, hissue]
        simp
    · rename_i waits run₁ hrun
      rw [hrun] at hissue
      refine ⟨[.issued o call run₁.state], ?_, ?_⟩
      · exact List.forall_mem_singleton.2 rfl
      · rw [hissue]
        simp [Progress.closing]

theorem Suspension.history_of_resume (suspension : Suspension α) (run : Run σ) :
    ∃ work : List (Moment σ), (∀ moment ∈ work, moment.IsWork suspension.operation) ∧
      (suspension.resume plane run).2.history =
        run.history ++ work ++ (suspension.resume plane run).1.closing suspension.operation := by
  obtain ⟨o, call, bound, next, waits⟩ := suspension
  cases waits with
  | succ waits => exact ⟨[], by simp, by simp [resume, Progress.closing]⟩
  | zero =>
    obtain ⟨work, hwork, hhistory⟩ := (next (run.answer plane o call).1).history_of_advance o
      (run.answer plane o call).2
    refine ⟨.answered o call (run.answer plane o call).1 (run.answer plane o call).2.state :: work,
      List.forall_mem_cons.2 ⟨rfl, hwork⟩, ?_⟩
    change ((next (run.answer plane o call).1).advance plane o
      (run.answer plane o call).2).2.history = _
    rw [hhistory, Run.history_answer]
    simp [resume]

namespace Flight

/-- The operation of a task that is in flight in truth. -/
def flying? : Flight α → Option Operation
  | fresh _ => none
  | suspended suspension => some suspension.operation

/-- The operation of a task that is yet to begin. -/
def due? : Flight α → Option Operation
  | fresh job => some job.operation
  | suspended _ => none

/-- What is told before a task goes on. -/
def opening : Flight α → List (Moment σ)
  | fresh job => [.began job.operation]
  | suspended _ => []

theorem history_of_poll (plane : Plane σ) (flight : Flight α) (run : Run σ) :
    ∃ work : List (Moment σ), (∀ moment ∈ work, moment.IsWork flight.operation) ∧
      (flight.poll plane run).2.history = run.history ++ flight.opening ++ work ++
        (flight.poll plane run).1.closing flight.operation := by
  cases flight with
  | fresh job =>
    obtain ⟨work, hwork, hhistory⟩ :=
      job.task.history_of_advance job.operation (run.record (.began job.operation))
    rw [Run.history_record] at hhistory
    exact ⟨work, hwork, hhistory⟩
  | suspended suspension =>
    obtain ⟨work, hwork, hhistory⟩ := suspension.history_of_resume run
    refine ⟨work, hwork, ?_⟩
    rw [opening, List.append_nil]
    exact hhistory

@[simp] theorem filterMap_flying?_fresh (jobs : List (Job α)) :
    (jobs.map fresh).filterMap flying? = [] := by
  rw [List.filterMap_map]
  exact List.filterMap_eq_nil_iff.2 fun _ _ => rfl

@[simp] theorem filterMap_due?_fresh (jobs : List (Job α)) :
    (jobs.map fresh).filterMap due? = jobs.map Job.operation := by
  rw [List.filterMap_map]
  exact congrFun List.filterMap_eq_map jobs

end Flight

/-! ## Batches -/

/-- A batch in the course of a phase. -/
structure Standing (planned : Operation → Prop) (width : Nat) (done operations : List Operation)
    (history : List (Moment σ)) (batch : Batch α) : Prop where
  afoot : Afoot planned width done operations history (batch.queue.filterMap Flight.flying?)
    (batch.queue.filterMap Flight.due? ++ batch.waiting.map Job.operation)
  room : batch.queue.length ≤ width

namespace Batch

variable {planned : Operation → Prop} {done operations : List Operation}
  {history : List (Moment σ)} {batch : Batch α} {policy : Policy} {run run' : Run σ}

theorem standing_fill {width : Nat} (h : Standing planned width done operations history batch) :
    Standing planned width done operations history (batch.fill width) := by
  obtain ⟨hafoot, hroom⟩ := h
  refine ⟨?_, ?_⟩
  · have hflying : (batch.fill width).queue.filterMap Flight.flying? =
        batch.queue.filterMap Flight.flying? := by
      rw [fill, List.filterMap_append, Flight.filterMap_flying?_fresh, List.append_nil]
    have hdue : (batch.fill width).queue.filterMap Flight.due? ++
        (batch.fill width).waiting.map Job.operation =
          batch.queue.filterMap Flight.due? ++ batch.waiting.map Job.operation := by
      rw [fill, List.filterMap_append, Flight.filterMap_due?_fresh, List.append_assoc,
        ← List.map_append, List.take_append_drop]
    rw [hflying, hdue]
    exact hafoot
  · simp only [fill, List.length_append, List.length_map, List.length_take]
    omega

theorem placeIn_of_fresh {place : Nat} {queue : List (Flight α)} {job : Job α}
    (h : queue[placeIn queue place]? = some (.fresh job)) :
    placeIn queue place = queue.findIdx Flight.isFresh := by
  by_cases hfresh : queue[place % queue.length]?.any Flight.isFresh
  · exact if_pos hfresh
  · have hplace : placeIn queue place = place % queue.length := if_neg hfresh
    rw [hplace] at h
    rw [h] at hfresh
    exact absurd rfl hfresh

/-- Fresh tasks begin in the order of the queue. -/
theorem exists_of_choose?_fresh {place : Nat} {queue rest : List (Flight α)} {job : Job α}
    (h : choose? place queue = some (.fresh job, rest)) :
    ∃ front behind, queue = front ++ .fresh job :: behind ∧ rest = front ++ behind ∧
      front.filterMap Flight.due? = [] := by
  unfold choose? at h
  split at h
  · rename_i flight behind hdrop
    cases h
    refine ⟨_, behind, by rw [← hdrop, List.take_append_drop], rfl, ?_⟩
    have hat : queue[placeIn queue place]? = some (.fresh job) := by
      rw [← List.head?_drop, hdrop]
      rfl
    rw [placeIn_of_fresh hat]
    apply List.filterMap_eq_nil_iff.2
    intro flight hflight
    obtain ⟨i, hi, rfl⟩ := List.mem_take_iff_getElem.1 hflight
    have hnot := List.not_of_lt_findIdx (show i < queue.findIdx Flight.isFresh by omega)
    cases hcase : queue[i] with
    | fresh job =>
      rw [hcase] at hnot
      cases hnot
    | suspended suspension => rfl
  · cases h

variable {width : Nat} {place : Nat} {rest : List (Flight α)} {flight : Flight α}

/-- Once the task that is chosen has begun, it is in flight. -/
theorem afoot_of_choose? (hphase : Phase planned done operations)
    (h : Standing planned width done operations history batch)
    (hchoose : choose? place batch.queue = some (flight, rest)) :
    rest.length < width ∧ Afoot planned width done operations (history ++ flight.opening)
      (flight.operation :: rest.filterMap Flight.flying?)
      (rest.filterMap Flight.due? ++ batch.waiting.map Job.operation) := by
  obtain ⟨hafoot, hroom⟩ := h
  cases flight with
  | fresh job =>
    obtain ⟨front, behind, hqueue, rfl, hfront⟩ := exists_of_choose?_fresh hchoose
    rw [hqueue, List.filterMap_append, List.filterMap_append, hfront] at hafoot
    rw [hqueue, List.length_append, List.length_cons] at hroom
    rw [List.filterMap_append, List.filterMap_append, hfront, List.length_append]
    have hdue : Afoot planned width done operations history
        (front.filterMap Flight.flying? ++ behind.filterMap Flight.flying?)
        (job.operation :: (behind.filterMap Flight.due? ++ batch.waiting.map Job.operation)) :=
      hafoot
    refine ⟨by omega, hdue.began hphase ?_⟩
    have hfrontLength := List.length_filterMap_le Flight.flying? front
    have hbehindLength := List.length_filterMap_le Flight.flying? behind
    rw [List.length_append]
    omega
  | suspended suspension =>
    obtain ⟨front, behind, hqueue, rfl⟩ := queue_eq_of_choose? hchoose
    rw [hqueue, List.filterMap_append, List.filterMap_append] at hafoot
    rw [hqueue, List.length_append, List.length_cons] at hroom
    rw [List.filterMap_append, List.filterMap_append, List.length_append, Flight.opening,
      List.append_nil]
    have hflying : Afoot planned width done operations history
        (front.filterMap Flight.flying? ++
          suspension.operation :: behind.filterMap Flight.flying?)
        (front.filterMap Flight.due? ++ behind.filterMap Flight.due? ++
          batch.waiting.map Job.operation) := hafoot
    exact ⟨by omega, hflying.reorder List.perm_middle⟩

/-- What the chosen task does in its turn is orderly, up to the point where it ends or waits. -/
theorem afoot_of_poll (plane : Plane σ) (hphase : Phase planned done operations)
    (h : Standing planned width done operations run.history batch)
    (hchoose : choose? place batch.queue = some (flight, rest)) :
    rest.length < width ∧ ∃ before,
      (flight.poll plane run.takeTurn).2.history =
        before ++ (flight.poll plane run.takeTurn).1.closing flight.operation ∧
      Afoot planned width done operations before
        (flight.operation :: rest.filterMap Flight.flying?)
        (rest.filterMap Flight.due? ++ batch.waiting.map Job.operation) := by
  obtain ⟨hroom, hafoot⟩ := afoot_of_choose? hphase h hchoose
  obtain ⟨work, hwork, hhistory⟩ := flight.history_of_poll plane run.takeTurn
  exact ⟨hroom, _, hhistory, hafoot.works hphase hwork⟩

/-- A turn of a batch that goes on carries an orderly history on. -/
theorem standing_of_going (hphase : Phase planned done operations)
    (h : Standing planned policy.concurrency.width done operations run.history batch)
    {next : Batch α} (hstep : batch.step plane policy run = .going next run') :
    Standing planned policy.concurrency.width done operations run'.history next := by
  cases turn_of_step hstep with
  | succeeds hchoose hpoll =>
    obtain ⟨hroom, before, hhistory, hafoot⟩ :=
      afoot_of_poll plane hphase (standing_fill h) hchoose
    rw [hpoll] at hhistory
    rw [hhistory]
    exact ⟨hafoot.succeeded hphase, Nat.le_of_lt hroom⟩
  | @suspends flight rest suspension _ hchoose hpoll =>
    obtain ⟨hroom, before, hhistory, hafoot⟩ :=
      afoot_of_poll plane hphase (standing_fill h) hchoose
    rw [hpoll, Progress.closing, List.append_nil] at hhistory
    rw [hhistory]
    have hop : suspension.operation = flight.operation :=
      Flight.operation_of_poll (congrArg Prod.fst hpoll)
    refine ⟨?_, ?_⟩
    · rw [List.filterMap_append, List.filterMap_append]
      have hlanded : Afoot planned policy.concurrency.width done operations before
          (rest.filterMap Flight.flying? ++ [suspension.operation])
          (rest.filterMap Flight.due? ++
            (batch.fill policy.concurrency.width).waiting.map Job.operation) := by
        rw [hop]
        exact hafoot.reorder (List.perm_append_singleton _ _).symm
      rw [show [Flight.suspended suspension].filterMap Flight.due? = [] from rfl, List.append_nil]
      exact hlanded
    · rw [List.length_append]
      exact hroom

theorem orderly_of_error (hphase : Phase planned done operations)
    (h : Standing planned policy.concurrency.width done operations run.history batch)
    {failure : Failure} (hstep : batch.step plane policy run = .finished (.error failure) run') :
    Orderly planned policy.concurrency.width run'.history := by
  cases turn_of_step hstep with
  | fails hchoose hpoll =>
    obtain ⟨_, before, hhistory, hafoot⟩ := afoot_of_poll plane hphase (standing_fill h) hchoose
    rw [hpoll] at hhistory
    rw [hhistory]
    exact hafoot.failed hphase failure

theorem afoot_of_ok
    (h : Standing planned policy.concurrency.width done operations run.history batch)
    {results : List α} (hstep : batch.step plane policy run = .finished (.ok results) run') :
    Afoot planned policy.concurrency.width done operations run'.history [] [] := by
  cases turn_of_step hstep with
  | idle hchoose =>
    obtain ⟨hqueue, hwaiting⟩ := eq_nil_of_idle policy.concurrency.width_pos hchoose
    have hafoot := h.afoot
    rw [hqueue, hwaiting] at hafoot
    exact hafoot

/-- A batch takes an orderly history through its phase, to the end or to a failure. -/
theorem orderly_of_run (hphase : Phase planned done operations)
    (h : Standing planned policy.concurrency.width done operations run.history batch) :
    (∀ results run', Batch.run plane policy batch run = (.ok results, run') →
      Afoot planned policy.concurrency.width done operations run'.history [] []) ∧
    (∀ failure run', Batch.run plane policy batch run = (.error failure, run') →
      Orderly planned policy.concurrency.width run'.history) := by
  fun_induction Batch.run plane policy batch run with
  | case1 batch run result run₁ hstep =>
    refine ⟨fun results run' hrun => ?_, fun failure run' hrun => ?_⟩
    · cases hrun
      exact afoot_of_ok h hstep
    · cases hrun
      exact orderly_of_error hphase h hstep
  | case2 batch run next run₁ hstep ih => exact ih (standing_of_going hphase h hstep)

end Batch

namespace Reconciler

variable {reconciler : Reconciler σ} {operation : β → Operation} {n : Nat} {task : β → Task α n}
  {items : List β} {planned : Operation → Prop} {done : List Operation} {run run' : Run σ}

theorem standing_start {width : Nat}
    (h : Afoot planned width done (items.map operation) run.history [] (items.map operation)) :
    Standing planned width done (items.map operation) run.history
      ({ waiting := items.map fun item => ⟨operation item, n, task item⟩ } : Batch α) where
  afoot := by
    simpa [Function.comp_def] using h
  room := Nat.zero_le _

/-- A batch that succeeds is a phase gone through. -/
theorem afoot_of_batch (hphase : Phase planned done (items.map operation))
    (h : Afoot planned reconciler.policy.concurrency.width done (items.map operation) run.history
      [] (items.map operation))
    {results : List α} (hrun : reconciler.batch operation task items run = (.ok results, run')) :
    Afoot planned reconciler.policy.concurrency.width done (items.map operation) run'.history
      [] [] :=
  (Batch.orderly_of_run hphase (standing_start h)).1 results run' (run_of_batch_ok hrun)

/-- A batch that fails leaves an orderly history. -/
theorem orderly_of_batch_error (hphase : Phase planned done (items.map operation))
    (h : Afoot planned reconciler.policy.concurrency.width done (items.map operation) run.history
      [] (items.map operation))
    {stop : Stop} (hrun : reconciler.batch operation task items run = (.error stop, run')) :
    Orderly planned reconciler.policy.concurrency.width run'.history := by
  obtain ⟨failure, _, hbatch⟩ := run_of_batch_error hrun
  exact (Batch.orderly_of_run hphase (standing_start h)).2 failure run' hbatch

end Reconciler

end MeshRoutes.Control

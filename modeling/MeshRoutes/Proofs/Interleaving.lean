import MeshRoutes.Control.Batch
import Mathlib.Data.List.Perm.Basic
import Mathlib.Logic.Relation
/-!
# Batches as interleavings

A batch with its queue, its turns and its delays is one way to interleave the events of its
tasks. What holds of every interleaving therefore holds of every batch, whatever its policy.

* `Batch.interleaves_of_run_ok` : a batch that succeeds has settled all of its items.
* `Batch.interleaves_of_run_error` : a batch that fails does so by one task that failed.
-/

namespace MeshRoutes.Control

variable {σ α β ι τ : Type} {plane : Plane σ}

/-- How far the work on one item of a batch has got. -/
inductive Strand (α : Type) where
  | fresh (task : Task α n)
  | running (task : Task α n)
  | awaiting (call : Call) (next : call.Outcome → Task α n)
  | settled (result : Except Failure α)

/-- A strand between its turns, whose task has not failed. -/
def Strand.AtRest : Strand α → Prop
  | .fresh _ | .awaiting _ _ | .settled (.ok _) => True
  | .running _ | .settled (.error _) => False

/-- The next event of a strand, and what it makes of the strand and of the run. -/
inductive Strand.Event (plane : Plane σ) (operation : Operation) :
    Strand α → Run σ → Strand α → Run σ → Prop where
  | begin {n : Nat} {task : Task α n} {run : Run σ} :
    Event plane operation (.fresh task) run (.running task) (run.record (.began operation))
  | log {n : Nat} {event : Log.Event} {next : Task α n} {run : Run σ} :
    Event plane operation (.running (.log event next)) run (.running next) (run.log event)
  | issue {n : Nat} {call : Call} {next : call.Outcome → Task α n} {run : Run σ} :
    Event plane operation (.running (.call call next)) run (.awaiting call next)
      (run.issue plane operation call).2
  | answer {n : Nat} {call : Call} {next : call.Outcome → Task α n} {run : Run σ} :
    Event plane operation (.awaiting call next) run
      (.running (next (run.answer plane operation call).1)) (run.answer plane operation call).2
  | settle {n : Nat} {result : Except Failure α} {run : Run σ} :
    Event plane operation (.running (.done result : Task α n)) run (.settled result)
      (run.record (.settled operation (match result with
        | .ok _ => none
        | .error failure => some failure)))

/-- One move of an interleaving: an event of some strand. The order of the strands and the
count of turns are of no account. -/
inductive Move (plane : Plane σ) (operation : β → Operation) :
    List (β × Strand α) × Run σ → List (β × Strand α) × Run σ → Prop where
  | event {item : β} {strand strand' : Strand α} {rest : List (β × Strand α)}
      {run run' : Run σ} (h : strand.Event plane (operation item) run strand' run') :
    Move plane operation ((item, strand) :: rest, run) ((item, strand') :: rest, run')
  | reorder {strands strands' : List (β × Strand α)} {run : Run σ}
      (h : strands.Perm strands') : Move plane operation (strands, run) (strands', run)
  | turn {strands : List (β × Strand α)} {run : Run σ} :
    Move plane operation (strands, run) (strands, run.takeTurn)

abbrev Interleaves (plane : Plane σ) (operation : β → Operation) :
    List (β × Strand α) × Run σ → List (β × Strand α) × Run σ → Prop :=
  Relation.ReflTransGen (Move plane operation)

variable {operation : β → Operation}

/-! ## What an interleaving keeps -/

theorem Strand.Event.past_suffix {o : Operation} {strand strand' : Strand α}
    {run run' : Run σ} (h : strand.Event plane o run strand' run') :
    run.past <:+ run'.past := by
  cases h <;> exact List.suffix_cons _ _

theorem Interleaves.past_suffix {a b : List (β × Strand α) × Run σ}
    (h : Interleaves plane operation a b) : a.2.past <:+ b.2.past := by
  induction h with
  | refl => exact List.suffix_rfl
  | tail _ hmove ih =>
    cases hmove with
    | event hevent => exact ih.trans hevent.past_suffix
    | reorder _ => exact ih
    | turn => exact ih

theorem Strand.Event.state_of_mem_past {o : Operation} {strand strand' : Strand α}
    {run run' : Run σ} (h : strand.Event plane o run strand' run') {moment : Moment σ}
    (hmem : moment ∈ run'.past) :
    moment ∈ run.past ∨ ∀ after, moment.after? = some after → run'.state = after := by
  cases h <;> rcases List.mem_cons.1 hmem with rfl | hold
  case issue.inl | answer.inl => exact .inr fun _ hafter => Option.some.inj hafter
  case begin.inl | log.inl | settle.inl => exact .inr fun _ hafter => nomatch hafter
  all_goals exact .inl hold

/-- A state that the history of an interleaving tells of was reached in its course. -/
theorem Interleaves.exists_of_mem_past {a b : List (β × Strand α) × Run σ}
    (h : Interleaves plane operation a b) {moment : Moment σ} {after : σ}
    (hmem : moment ∈ b.2.past) (hafter : moment.after? = some after) :
    moment ∈ a.2.past ∨ ∃ c, Interleaves plane operation a c ∧
      Interleaves plane operation c b ∧ c.2.state = after := by
  induction h with
  | refl => exact .inl hmem
  | @tail b d hmoves hmove ih =>
    have hkeep (hold : moment ∈ b.2.past) : moment ∈ a.2.past ∨ ∃ c,
        Interleaves plane operation a c ∧ Interleaves plane operation c d ∧
          c.2.state = after := by
      rcases ih hold with hold | ⟨c, hac, hcb, hstate⟩
      · exact .inl hold
      · exact .inr ⟨c, hac, hcb.tail hmove, hstate⟩
    cases hmove with
    | event hevent =>
      rcases hevent.state_of_mem_past hmem with hold | hnew
      · exact hkeep hold
      · exact .inr ⟨_, hmoves.tail (.event hevent), .refl, hnew after hafter⟩
    | reorder _ => exact hkeep hmem
    | turn => exact hkeep hmem

/-- Strands that each have a share of the run to themselves, and keep it as it should be. -/
structure Apart (share : Run σ → ι → τ) (key : β → ι) (good : β → Strand α → τ → Prop)
    (start : Run σ) (strands : List (β × Strand α)) (run : Run σ) : Prop where
  distinct : (strands.map fun p => key p.1).Nodup
  good : ∀ p ∈ strands, good p.1 p.2 (share run (key p.1))
  frame : ∀ i, (∀ p ∈ strands, key p.1 ≠ i) → share run i = share start i

namespace Apart

variable {share : Run σ → ι → τ} {key : β → ι} {good : β → Strand α → τ → Prop}
  {start : Run σ}

theorem event {item : β} {strand strand' : Strand α} {rest : List (β × Strand α)}
    {run run' : Run σ} (h : Apart share key good start ((item, strand) :: rest) run)
    (hgood : good item strand' (share run' (key item)))
    (hframe : ∀ i, i ≠ key item → share run' i = share run i) :
    Apart share key good start ((item, strand') :: rest) run' := by
  have hdistinct := h.distinct
  rw [List.map_cons, List.nodup_cons] at hdistinct
  refine ⟨h.distinct, ?_, ?_⟩
  · intro p hp
    rcases List.mem_cons.1 hp with rfl | hp
    · exact hgood
    · -- the strands that do not move look at other shares
      have hother : key p.1 ≠ key item := by
        intro heq
        exact hdistinct.1 (List.mem_map.2 ⟨p, hp, heq⟩)
      rw [hframe _ hother]
      exact h.good p (List.mem_cons_of_mem _ hp)
  · intro i hi
    have hne : i ≠ key item := (hi _ List.mem_cons_self).symm
    rw [hframe i hne]
    apply h.frame
    intro p hp
    rcases List.mem_cons.1 hp with rfl | hp
    · exact hne.symm
    · exact hi p (List.mem_cons_of_mem _ hp)

theorem reorder {strands strands' : List (β × Strand α)} {run : Run σ}
    (h : Apart share key good start strands run) (hperm : strands.Perm strands') :
    Apart share key good start strands' run where
  distinct := (hperm.map _).nodup_iff.1 h.distinct
  good p hp := h.good p (hperm.mem_iff.2 hp)
  frame i hi := h.frame i fun p hp => hi p (hperm.mem_iff.1 hp)

/-- What every event keeps of the strand that it is of, and of the other shares, stays so in
an interleaving. `admits` restricts the histories that are looked at. -/
theorem interleaves (admits : List (Moment σ) → Prop) {a b : List (β × Strand α) × Run σ}
    (hmoves : Interleaves plane operation a b) (h : Apart share key good start a.1 a.2)
    (hsuffix : ∀ {past past' : List (Moment σ)}, past <:+ past' → admits past' → admits past)
    (hturn : ∀ run : Run σ, share run.takeTurn = share run)
    (hevent : ∀ {item : β} {strand strand' : Strand α} {run run' : Run σ},
      strand.Event plane (operation item) run strand' run' → admits run'.past →
        good item strand (share run (key item)) → good item strand' (share run' (key item)) ∧
          ∀ i, i ≠ key item → share run' i = share run i)
    (hadmits : admits b.2.past) : Apart share key good start b.1 b.2 := by
  induction hmoves with
  | refl => exact h
  | tail _ hmove ih =>
    cases hmove with
    | event hstep =>
      have hheld := ih (hsuffix hstep.past_suffix hadmits)
      obtain ⟨hgood, hframe⟩ := hevent hstep hadmits (hheld.good _ List.mem_cons_self)
      exact hheld.event hgood hframe
    | reorder hperm => exact (ih hadmits).reorder hperm
    | @turn strands run =>
      obtain ⟨hdistinct, hgood, hframe⟩ := ih hadmits
      refine ⟨hdistinct, ?_, ?_⟩
      · rw [hturn]
        exact hgood
      · rw [hturn]
        exact hframe

end Apart

/-- Strands keep their items. -/
theorem Interleaves.items_perm {a b : List (β × Strand α) × Run σ}
    (h : Interleaves plane operation a b) : (a.1.map Prod.fst).Perm (b.1.map Prod.fst) := by
  induction h with
  | refl => exact .refl _
  | tail _ hmove ih =>
    cases hmove with
    | event _ => exact ih
    | reorder hperm => exact ih.trans (hperm.map _)
    | turn => exact ih

/-! ## Turns as moves -/

def Progress.strand : Progress α → Strand α
  | finished result => .settled result
  | suspended suspension => .awaiting suspension.call suspension.next

def Flight.strand : Flight α → Strand α
  | fresh job => .fresh job.task
  | suspended suspension => .awaiting suspension.call suspension.next

theorem Task.interleaves_advance {n : Nat} (task : Task α n) (item : β)
    (rest : List (β × Strand α)) (run : Run σ) :
    Interleaves plane operation ((item, .running task) :: rest, run)
      ((item, (task.advance plane (operation item) run).1.strand) :: rest,
        (task.advance plane (operation item) run).2) := by
  induction task generalizing run with
  | done result => exact .single (.event .settle)
  | log event next ih => exact .head (.event .log) (ih (run.log event))
  | call call next ih =>
    have hissue : Move plane operation ((item, .running (.call call next)) :: rest, run)
        ((item, .awaiting call next) :: rest, (run.issue plane (operation item) call).2) :=
      .event .issue
    unfold advance
    split
    · rename_i run₁ hrun
      rw [hrun] at hissue
      exact .head hissue (.head (.event .answer) (ih _ _))
    · rename_i waits run₁ hrun
      rw [hrun] at hissue
      exact .single hissue

theorem Task.operation_of_advance {n : Nat} {task : Task α n} {o : Operation} {run : Run σ}
    {suspension : Suspension α}
    (h : (task.advance plane o run).1 = .suspended suspension) :
    suspension.operation = o := by
  induction task generalizing run with
  | done result => cases h
  | log event next ih => exact ih h
  | call call next ih =>
    rw [advance] at h
    split at h
    · exact ih _ h
    · cases h
      rfl

theorem Suspension.interleaves_resume (suspension : Suspension α) (item : β)
    (rest : List (β × Strand α)) (run : Run σ) (hop : suspension.operation = operation item) :
    Interleaves plane operation
      ((item, .awaiting suspension.call suspension.next) :: rest, run)
      ((item, (suspension.resume plane run).1.strand) :: rest,
        (suspension.resume plane run).2) := by
  obtain ⟨o, call, bound, next, waits⟩ := suspension
  change o = operation item at hop
  subst hop
  cases waits with
  | succ waits => exact .refl
  | zero => exact .head (.event .answer) ((next _).interleaves_advance item rest _)

theorem Flight.interleaves_poll (flight : Flight α) (item : β)
    (rest : List (β × Strand α)) (run : Run σ) (hop : flight.operation = operation item) :
    Interleaves plane operation ((item, flight.strand) :: rest, run)
      ((item, (flight.poll plane run).1.strand) :: rest, (flight.poll plane run).2) := by
  cases flight with
  | fresh job =>
    obtain ⟨o, bound, task⟩ := job
    change o = operation item at hop
    subst hop
    exact .head (.event .begin) (task.interleaves_advance item rest _)
  | suspended suspension => exact suspension.interleaves_resume item rest run hop

theorem Flight.operation_of_poll {flight : Flight α} {run : Run σ}
    {suspension : Suspension α} (h : (flight.poll plane run).1 = .suspended suspension) :
    suspension.operation = flight.operation := by
  cases flight with
  | fresh job => exact Task.operation_of_advance h
  | suspended old =>
    simp only [poll] at h
    unfold Suspension.resume at h
    split at h
    · cases h
      rfl
    · exact Task.operation_of_advance h

/-! ## Batches as moves -/

namespace Batch

/-- The items of a batch, by how far they have got. -/
structure Labels (job : β → Job α) (batch : Batch α) where
  done : List (β × α)
  flying : List (β × Flight α)
  waiting : List β
  results_eq : batch.results = done.map Prod.snd
  queue_eq : batch.queue = flying.map Prod.snd
  waiting_eq : batch.waiting = waiting.map job
  operation_eq : ∀ p ∈ flying, p.2.operation = (job p.1).operation

variable {job : β → Job α} {batch : Batch α}

/-- The strand of a task that succeeded. -/
def settledOk (p : β × α) : β × Strand α := (p.1, .settled (.ok p.2))

/-- The strand of an item before its task begins. -/
def fresh (job : β → Job α) (item : β) : β × Strand α := (item, .fresh (job item).task)

def Labels.strands (labels : Labels job batch) : List (β × Strand α) :=
  labels.done.map settledOk ++ labels.flying.map (fun p => (p.1, p.2.strand))
    ++ labels.waiting.map (fresh job)

/-- Filling the queue moves no strand. -/
theorem Labels.exists_fill (labels : Labels job batch) (width : Nat) :
    ∃ filled : Labels job (batch.fill width), filled.strands = labels.strands := by
  obtain ⟨done, flying, waiting, hresults, hqueue, hwaiting, hop⟩ := labels
  let room := width - batch.queue.length
  refine ⟨⟨done, flying ++ (waiting.take room).map fun item => (item, .fresh (job item)),
    waiting.drop room, hresults, ?_, ?_, ?_⟩, ?_⟩
  · simp [fill, hqueue, hwaiting, room, List.map_take, Function.comp_def]
  · simp [fill, hwaiting, room, List.map_drop]
  · intro p hp
    rcases List.mem_append.1 hp with hp | hp
    · exact hop p hp
    · obtain ⟨item, _, rfl⟩ := List.mem_map.1 hp
      rfl
  · have hsplit : waiting.map (fresh job) =
        (waiting.take room).map (fresh job) ++ (waiting.drop room).map (fresh job) := by
      rw [← List.map_append, List.take_append_drop]
    simp only [strands, hsplit, List.map_append, List.map_map, List.append_assoc]
    rfl

theorem placeIn_lt {queue : List (Flight α)} (h : queue ≠ []) (place : Nat) :
    placeIn queue place < queue.length := by
  have hlt : place % queue.length < queue.length := Nat.mod_lt _ (List.length_pos_iff.2 h)
  simp only [placeIn]
  split
  · rename_i hfresh
    rw [List.getElem?_eq_getElem hlt, Option.any_some] at hfresh
    exact List.findIdx_lt_length_of_exists ⟨_, List.getElem_mem hlt, hfresh⟩
  · exact hlt

theorem queue_eq_nil_of_choose? {place : Nat} {queue : List (Flight α)}
    (h : choose? place queue = none) : queue = [] := by
  by_contra hne
  have hlt := placeIn_lt hne place
  unfold choose? at h
  split at h
  · cases h
  · rename_i hdrop
    have := List.drop_eq_nil_iff.1 hdrop
    omega

/-- No task takes a turn only if nothing is left to do. -/
theorem eq_nil_of_idle {width place : Nat} (hwidth : 0 < width)
    (h : choose? place (batch.fill width).queue = none) :
    batch.queue = [] ∧ batch.waiting = [] := by
  have hempty := queue_eq_nil_of_choose? h
  simp only [fill, List.append_eq_nil_iff, List.map_eq_nil_iff] at hempty
  obtain ⟨hqueue, htake⟩ := hempty
  refine ⟨hqueue, ?_⟩
  rcases List.take_eq_nil_iff.1 htake with hzero | hnil
  · rw [hqueue, List.length_nil] at hzero
    omega
  · exact hnil

/-- The strands besides that of a task which is taken out of the queue. -/
def Labels.others (labels : Labels job batch) (flying : List (β × Flight α)) :
    List (β × Strand α) :=
  labels.done.map settledOk ++ flying.map (fun p => (p.1, p.2.strand))
    ++ labels.waiting.map (fresh job)

theorem Labels.atRest_of_mem_others (labels : Labels job batch) {flying : List (β × Flight α)}
    {p : β × Strand α} (hp : p ∈ labels.others flying) : p.2.AtRest := by
  rcases List.mem_append.1 hp with hp | hp
  · rcases List.mem_append.1 hp with hp | hp
    · obtain ⟨_, _, rfl⟩ := List.mem_map.1 hp
      trivial
    · obtain ⟨⟨item, flight⟩, _, rfl⟩ := List.mem_map.1 hp
      cases flight <;> trivial
  · obtain ⟨_, _, rfl⟩ := List.mem_map.1 hp
    trivial

/-- The strand of a task in the middle of the queue may stand in front of all others. -/
theorem strands_perm_cons (done waiting : List (β × Strand α)) (front behind : List (β × Flight α))
    (item : β) (flight : Flight α) :
    (done ++ (front ++ (item, flight) :: behind).map (fun p => (p.1, p.2.strand))
      ++ waiting).Perm
      ((item, flight.strand) ::
        (done ++ (front ++ behind).map (fun p => (p.1, p.2.strand)) ++ waiting)) := by
  simp only [List.map_append, List.map_cons, List.append_assoc, List.cons_append]
  rw [← List.append_assoc, ← List.append_assoc done]
  exact List.perm_middle

theorem Labels.exists_choose (labels : Labels job batch) {place : Nat} {flight : Flight α}
    {rest : List (Flight α)} (h : choose? place batch.queue = some (flight, rest)) :
    ∃ (item : β) (flying : List (β × Flight α)), rest = flying.map Prod.snd ∧
      flight.operation = (job item).operation ∧
      (∀ p ∈ flying, p.2.operation = (job p.1).operation) ∧
      labels.strands.Perm ((item, flight.strand) :: labels.others flying) := by
  obtain ⟨front, behind, hqueue, hrest⟩ := queue_eq_of_choose? h
  rw [labels.queue_eq] at hqueue
  obtain ⟨before, tail, hflying, hbefore, htail⟩ := List.map_eq_append_iff.1 hqueue
  obtain ⟨⟨item, chosen⟩, after, rfl, hchosen, hafter⟩ := List.map_eq_cons_iff.1 htail
  change chosen = flight at hchosen
  subst hchosen
  refine ⟨item, before ++ after, ?_, ?_, ?_, ?_⟩
  · rw [hrest, List.map_append, hbefore, hafter]
  · exact labels.operation_eq (item, chosen) (by simp [hflying])
  · intro p hp
    apply labels.operation_eq p
    rw [hflying]
    simp only [List.mem_append, List.mem_cons] at hp ⊢
    exact hp.imp id .inr
  · rw [strands, hflying]
    exact strands_perm_cons _ _ before after item chosen

/-- A turn of the chosen task, from the strands of the batch on. -/
theorem Labels.interleaves_poll (plane : Plane σ) (labels : Labels job batch) {item : β}
    {flight : Flight α} {flying : List (β × Flight α)} (run : Run σ)
    (hop : flight.operation = (job item).operation)
    (hperm : labels.strands.Perm ((item, flight.strand) :: labels.others flying)) :
    Interleaves plane (fun item => (job item).operation) (labels.strands, run)
      ((item, (flight.poll plane run.takeTurn).1.strand) :: labels.others flying,
        (flight.poll plane run.takeTurn).2) :=
  .head .turn (.head (.reorder hperm) (flight.interleaves_poll item _ _ hop))

variable {policy : Policy} {run run' : Run σ}

theorem Labels.interleaves_of_going {next : Batch α} (labels : Labels job batch)
    (h : batch.step plane policy run = .going next run') :
    ∃ labels' : Labels job next, Interleaves plane (fun item => (job item).operation)
      (labels.strands, run) (labels'.strands, run') := by
  obtain ⟨filled, hfilled⟩ := labels.exists_fill policy.concurrency.width
  rw [← hfilled]
  cases turn_of_step h with
  | succeeds hchoose hpoll =>
    obtain ⟨item, flying, hrest, hop, hops, hperm⟩ := filled.exists_choose hchoose
    have hmoves := filled.interleaves_poll plane run hop hperm
    rw [hpoll] at hmoves
    exact ⟨⟨(item, _) :: filled.done, flying, filled.waiting,
      congrArg (_ :: ·) filled.results_eq, hrest, filled.waiting_eq, hops⟩, hmoves⟩
  | @suspends _ _ suspension _ hchoose hpoll =>
    obtain ⟨item, flying, hrest, hop, hops, hperm⟩ := filled.exists_choose hchoose
    have hmoves := filled.interleaves_poll plane run hop hperm
    rw [hpoll] at hmoves
    have hsuspension : suspension.operation = (job item).operation :=
      (Flight.operation_of_poll (congrArg Prod.fst hpoll)).trans hop
    refine ⟨⟨filled.done, flying ++ [(item, .suspended suspension)], filled.waiting,
      filled.results_eq, by simp [hrest], filled.waiting_eq, ?_⟩, hmoves.tail (.reorder ?_)⟩
    · intro p hp
      rcases List.mem_append.1 hp with hp | hp
      · exact hops p hp
      · rw [List.mem_singleton.1 hp]
        exact hsuspension
    · have hmoved := strands_perm_cons (filled.done.map settledOk)
        (filled.waiting.map (fresh job)) flying [] item (.suspended suspension)
      rw [List.append_nil] at hmoved
      exact hmoved.symm

theorem Labels.strands_of_step_ok {results : List α} (labels : Labels job batch)
    (h : batch.step plane policy run = .finished (.ok results) run') :
    labels.strands = labels.done.map settledOk ∧ results = (labels.done.map Prod.snd).reverse ∧
      run' = run := by
  cases turn_of_step h with
  | idle hchoose =>
    obtain ⟨hqueue, hwaiting⟩ := eq_nil_of_idle policy.concurrency.width_pos hchoose
    have hflying : labels.flying = [] := List.map_eq_nil_iff.1 (labels.queue_eq ▸ hqueue)
    have hnone : labels.waiting = [] := List.map_eq_nil_iff.1 (labels.waiting_eq ▸ hwaiting)
    refine ⟨?_, congrArg List.reverse labels.results_eq, rfl⟩
    simp [strands, hflying, hnone]

theorem Labels.interleaves_of_error {failure : Failure} (labels : Labels job batch)
    (h : batch.step plane policy run = .finished (.error failure) run') :
    ∃ item rest, (∀ p ∈ rest, p.2.AtRest) ∧
      Interleaves plane (fun item => (job item).operation) (labels.strands, run)
        ((item, .settled (.error failure)) :: rest, run') := by
  obtain ⟨filled, hfilled⟩ := labels.exists_fill policy.concurrency.width
  rw [← hfilled]
  cases turn_of_step h with
  | fails hchoose hpoll =>
    obtain ⟨item, flying, _, hop, _, hperm⟩ := filled.exists_choose hchoose
    have hmoves := filled.interleaves_poll plane run hop hperm
    rw [hpoll] at hmoves
    exact ⟨item, _, fun p hp => filled.atRest_of_mem_others hp, hmoves⟩

/-! ## Whole batches -/

theorem Labels.interleaves_run (labels : Labels job batch) (run : Run σ) :
    (∀ results run', Batch.run plane policy batch run = (.ok results, run') →
      ∃ done : List (β × α), results = (done.map Prod.snd).reverse ∧
        Interleaves plane (fun item => (job item).operation) (labels.strands, run)
          (done.map settledOk, run')) ∧
    (∀ failure run', Batch.run plane policy batch run = (.error failure, run') →
      ∃ item rest, (∀ p ∈ rest, p.2.AtRest) ∧
        Interleaves plane (fun item => (job item).operation) (labels.strands, run)
          ((item, .settled (.error failure)) :: rest, run')) := by
  fun_induction Batch.run plane policy batch run with
  | case1 batch run result run₁ hstep =>
    refine ⟨fun results run' h => ?_, fun failure run' h => ?_⟩
    · cases h
      obtain ⟨hstrands, hresults, rfl⟩ := labels.strands_of_step_ok hstep
      exact ⟨labels.done, hresults, hstrands ▸ .refl⟩
    · cases h
      exact labels.interleaves_of_error hstep
  | case2 batch run next run₁ hstep ih =>
    obtain ⟨labels', hgoing⟩ := labels.interleaves_of_going hstep
    obtain ⟨hok, herror⟩ := ih labels'
    refine ⟨fun results run' h => ?_, fun failure run' h => ?_⟩
    · obtain ⟨done, hresults, hrest⟩ := hok results run' h
      exact ⟨done, hresults, hgoing.trans hrest⟩
    · obtain ⟨item, rest, hatRest, hrest⟩ := herror failure run' h
      exact ⟨item, rest, hatRest, hgoing.trans hrest⟩

/-- The labels of a batch that has yet to begin. -/
def Labels.start (job : β → Job α) (items : List β) :
    Labels job { waiting := items.map job } where
  done := []
  flying := []
  waiting := items
  results_eq := rfl
  queue_eq := rfl
  waiting_eq := rfl
  operation_eq _ h := nomatch h

theorem interleaves_of_run_ok {items : List β} {results : List α}
    (h : Batch.run plane policy { waiting := items.map job } run = (.ok results, run')) :
    ∃ done : List (β × α), results = (done.map Prod.snd).reverse ∧
      Interleaves plane (fun item => (job item).operation) (items.map (fresh job), run)
        (done.map settledOk, run') :=
  ((Labels.start job items).interleaves_run run).1 results run' h

theorem interleaves_of_run_error {items : List β} {failure : Failure}
    (h : Batch.run plane policy { waiting := items.map job } run = (.error failure, run')) :
    ∃ item rest, (∀ p ∈ rest, p.2.AtRest) ∧
      Interleaves plane (fun item => (job item).operation) (items.map (fresh job), run)
        ((item, .settled (.error failure)) :: rest, run') :=
  ((Labels.start job items).interleaves_run run).2 failure run' h

end Batch

end MeshRoutes.Control

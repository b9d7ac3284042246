import MeshRoutes.Control.Reconciler
import MeshRoutes.Proofs.Interleaving
/-!
# Shares of a run

The tasks of a batch do not get in each other's way when each of them works on a share of its
own: its calls change that share and no other. A task can then be judged by itself, from what
its share holds when the batch begins, and the judgement stands in every interleaving.

* `Reconciler.batch_ok` : in a batch that succeeds, every task reached its aim.
* `Reconciler.batch_error` : a batch that fails has a task that failed.
* `Reconciler.batch_throughout` : what tasks keep up holds in every state on the way.
-/

namespace MeshRoutes.Control

variable {σ α β ι τ : Type} {plane : Plane σ}

/-- A run divided into shares. What a call does to the share of its caller may depend on that
share only. -/
structure Division (plane : Plane σ) (ι τ : Type) where
  share : Run σ → ι → τ
  /-- The calls by which the owner of a share keeps to it. -/
  own : ι → Call → Prop
  /-- The answers that the run is taken to hold. -/
  expected : (call : Call) → call.Outcome → Prop
  issue : Call → τ → τ → Prop
  answer : (call : Call) → call.Outcome → τ → τ → Prop
  share_takeTurn (run : Run σ) : share run.takeTurn = share run
  share_record (run : Run σ) {moment : Moment σ} (h : moment.after? = none) :
    share (run.record moment) = share run
  share_issue (run : Run σ) (operation : Operation) {call : Call} {i : ι} (h : own i call) :
    issue call (share run i) (share (run.issue plane operation call).2 i) ∧
      ∀ j, j ≠ i → share (run.issue plane operation call).2 j = share run j
  share_answer (run : Run σ) (operation : Operation) {call : Call} {i : ι} (h : own i call)
    (hexpected : expected call (run.answer plane operation call).1) :
    answer call (run.answer plane operation call).1 (share run i)
        (share (run.answer plane operation call).2 i) ∧
      ∀ j, j ≠ i → share (run.answer plane operation call).2 j = share run j

/-- What a task is to make of its share. -/
structure Aim (α τ : Type) where
  /-- What holds of the share at every moment. -/
  throughout : τ → Prop
  /-- What holds of the share once the task has its result. -/
  settled : Except Failure α → τ → Prop

/-- The answers in a history are among those expected. -/
def Division.Admits (D : Division plane ι τ) (past : List (Moment σ)) : Prop :=
  ∀ operation call outcome after, Moment.answered operation call outcome after ∈ past →
    D.expected call outcome

theorem Division.Admits.of_suffix {D : Division plane ι τ} {past past' : List (Moment σ)}
    (h : D.Admits past') (hsuffix : past <:+ past') : D.Admits past :=
  fun operation call outcome after hmem =>
    h operation call outcome after (hsuffix.subset hmem)

/-! ## One task -/

/-- From a share `x` on, the task keeps to its share and reaches its aim. -/
def Task.Meets (D : Division plane ι τ) (i : ι) (aim : Aim α τ) :
    {n : Nat} → Task α n → τ → Prop
  | _, .done result, x => aim.settled result x
  | _, .log _ next, x => next.Meets D i aim x
  | _, .call c next, x =>
    D.own i c ∧ ∀ y, D.issue c x y → aim.throughout y ∧
      ∀ outcome z, D.expected c outcome → D.answer c outcome y z →
        aim.throughout z ∧ (next outcome).Meets D i aim z

def Strand.Meets (D : Division plane ι τ) (i : ι) (aim : Aim α τ) : Strand α → τ → Prop
  | .fresh task, x | .running task, x => task.Meets D i aim x
  | .awaiting call next, x =>
    D.own i call ∧ ∀ outcome z, D.expected call outcome → D.answer call outcome x z →
      aim.throughout z ∧ (next outcome).Meets D i aim z
  | .settled result, x => aim.settled result x

theorem Strand.Event.meets {D : Division plane ι τ} {i : ι} {aim : Aim α τ} {o : Operation}
    {strand strand' : Strand α} {run run' : Run σ}
    (h : strand.Event plane o run strand' run') (hadmits : D.Admits run'.past)
    (hkept : aim.throughout (D.share run i)) (hmeets : strand.Meets D i aim (D.share run i)) :
    aim.throughout (D.share run' i) ∧ strand'.Meets D i aim (D.share run' i) ∧
      ∀ j, j ≠ i → D.share run' j = D.share run j := by
  cases h with
  | begin =>
    rw [D.share_record run rfl]
    exact ⟨hkept, hmeets, fun _ _ => rfl⟩
  | log =>
    rw [Run.log, D.share_record run rfl]
    exact ⟨hkept, hmeets, fun _ _ => rfl⟩
  | settle =>
    rw [D.share_record run rfl]
    exact ⟨hkept, hmeets, fun _ _ => rfl⟩
  | @issue _ call next =>
    obtain ⟨hown, hnext⟩ := hmeets
    obtain ⟨hissue, hframe⟩ := D.share_issue run o hown
    obtain ⟨hkept', hanswer⟩ := hnext _ hissue
    exact ⟨hkept', ⟨hown, hanswer⟩, hframe⟩
  | @answer _ call next =>
    obtain ⟨hown, hnext⟩ := hmeets
    have hexpected := hadmits o call _ _ List.mem_cons_self
    obtain ⟨hanswer, hframe⟩ := D.share_answer run o hown hexpected
    obtain ⟨hkept', hmeets'⟩ := hnext _ _ hexpected hanswer
    exact ⟨hkept', hmeets', hframe⟩

/-! ## Many tasks -/

/-- The strand has kept to its share so far and is on the way to its aim. -/
structure Strand.Held (D : Division plane ι τ) (i : ι) (aim : Aim α τ) (strand : Strand α)
    (x : τ) : Prop where
  kept : aim.throughout x
  meets : strand.Meets D i aim x

/-- Each strand has kept to its share so far and is on the way to its aim. -/
abbrev Held (D : Division plane ι τ) (key : β → ι) (aim : β → Aim α τ) (start : Run σ)
    (strands : List (β × Strand α)) (run : Run σ) : Prop :=
  Apart D.share key (fun item => Strand.Held D (key item) (aim item)) start strands run

theorem Held.interleaves {D : Division plane ι τ} {key : β → ι} {aim : β → Aim α τ}
    {start : Run σ} {operation : β → Operation} {a b : List (β × Strand α) × Run σ}
    (h : Held D key aim start a.1 a.2) (hmoves : Interleaves plane operation a b)
    (hadmits : D.Admits b.2.past) : Held D key aim start b.1 b.2 := by
  refine Apart.interleaves D.Admits hmoves h (fun hsuffix h => h.of_suffix hsuffix)
    D.share_takeTurn ?_ hadmits
  intro item strand strand' run run' hevent hadmits hheld
  obtain ⟨hkept, hmeets, hframe⟩ := hevent.meets hadmits hheld.kept hheld.meets
  exact ⟨⟨hkept, hmeets⟩, hframe⟩

/-! ## Batches -/

/-- What is known of a run in the course of a batch on some items. -/
structure Amid (D : Division plane ι τ) (key : β → ι) (aim : β → Aim α τ) (items : List β)
    (start run : Run σ) : Prop where
  kept : ∀ item ∈ items, (aim item).throughout (D.share run (key item))
  frame : ∀ i, (∀ item ∈ items, key item ≠ i) → D.share run i = D.share start i

theorem Held.amid {D : Division plane ι τ} {key : β → ι} {aim : β → Aim α τ}
    {items : List β} {start run : Run σ} {strands : List (β × Strand α)}
    (h : Held D key aim start strands run) (hitems : items.Perm (strands.map Prod.fst)) :
    Amid D key aim items start run where
  kept item hitem := by
    obtain ⟨p, hp, rfl⟩ := List.mem_map.1 (hitems.mem_iff.1 hitem)
    exact (h.good p hp).kept
  frame i hi := h.frame i fun p hp => hi p.1 (hitems.mem_iff.2 (List.mem_map_of_mem hp))

namespace Reconciler

variable {reconciler : Reconciler σ} {operation : β → Operation} {n : Nat}
  {task : β → Task α n} {items : List β} {run run' : Run σ}

theorem run_of_batch_ok {results : List α}
    (h : reconciler.batch operation task items run = (.ok results, run')) :
    Batch.run reconciler.plane reconciler.policy
      { waiting := items.map fun item => ⟨operation item, n, task item⟩ } run =
        (.ok results, run') := by
  simp only [batch] at h
  split at h
  · rename_i hrun
    cases h
    exact hrun
  · cases h

theorem run_of_batch_error {stop : Stop}
    (h : reconciler.batch operation task items run = (.error stop, run')) :
    ∃ failure, stop = .failed failure ∧
      Batch.run reconciler.plane reconciler.policy
        { waiting := items.map fun item => ⟨operation item, n, task item⟩ } run =
          (.error failure, run') := by
  simp only [batch] at h
  split at h
  · cases h
  · rename_i failure run₁ hrun
    cases h
    exact ⟨failure, rfl, hrun⟩

/-- The strands that a batch starts with. -/
abbrev strands (operation : β → Operation) (task : β → Task α n) (items : List β) :
    List (β × Strand α) :=
  items.map (Batch.fresh fun item => ⟨operation item, n, task item⟩)

theorem exists_interleaves (result : Except Stop (List α))
    (h : reconciler.batch operation task items run = (result, run')) :
    ∃ ends, Interleaves reconciler.plane operation (strands operation task items, run)
      (ends, run') := by
  cases result with
  | ok results =>
    obtain ⟨done, _, hmoves⟩ := Batch.interleaves_of_run_ok (run_of_batch_ok h)
    exact ⟨_, hmoves⟩
  | error stop =>
    obtain ⟨failure, _, hrun⟩ := run_of_batch_error h
    obtain ⟨item, rest, _, hmoves⟩ := Batch.interleaves_of_run_error hrun
    exact ⟨_, hmoves⟩

theorem past_suffix_of_batch {result : Except Stop (List α)}
    (h : reconciler.batch operation task items run = (result, run')) :
    run.past <:+ run'.past := by
  obtain ⟨ends, hmoves⟩ := exists_interleaves result h
  exact hmoves.past_suffix

section Aims

variable {D : Division reconciler.plane ι τ} {key : β → ι} {aim : β → Aim α τ}

/-- The tasks of a batch can reach their aims from where they start. -/
structure Ready (D : Division reconciler.plane ι τ) (key : β → ι) (aim : β → Aim α τ)
    (task : β → Task α n) (items : List β) (run : Run σ) : Prop where
  distinct : (items.map key).Nodup
  kept : ∀ item ∈ items, (aim item).throughout (D.share run (key item))
  meets : ∀ item ∈ items, (task item).Meets D (key item) (aim item) (D.share run (key item))

theorem Ready.held (h : Ready D key aim task items run) :
    Held D key aim run (strands operation task items) run where
  distinct := by
    rw [strands, List.map_map]
    exact h.distinct
  good p hp := by
    obtain ⟨item, hitem, rfl⟩ := List.mem_map.1 hp
    exact ⟨h.kept item hitem, h.meets item hitem⟩
  frame i _ := rfl

theorem items_perm_of_interleaves {ends : List (β × Strand α)}
    (h : Interleaves plane operation (strands operation task items, run) (ends, run')) :
    items.Perm (ends.map Prod.fst) := by
  have hperm := h.items_perm
  rw [strands, List.map_map] at hperm
  have hfst : Prod.fst ∘ Batch.fresh (fun item => ⟨operation item, n, task item⟩) =
      (id : β → β) := rfl
  rwa [hfst, List.map_id] at hperm

/-- In a batch that succeeds, every task reached its aim. -/
theorem batch_ok {results : List α} (hready : Ready D key aim task items run)
    (h : reconciler.batch operation task items run = (.ok results, run'))
    (hadmits : D.Admits run'.past) :
    ∃ done : List (β × α), (done.map Prod.fst).Perm items ∧
      results = (done.map Prod.snd).reverse ∧
      ∀ p ∈ done, (aim p.1).settled (.ok p.2) (D.share run' (key p.1)) := by
  obtain ⟨done, hresults, hmoves⟩ := Batch.interleaves_of_run_ok (run_of_batch_ok h)
  have hheld := hready.held.interleaves hmoves hadmits
  refine ⟨done, ?_, hresults, ?_⟩
  · have hperm := items_perm_of_interleaves hmoves
    rw [List.map_map] at hperm
    exact hperm.symm
  · intro p hp
    exact (hheld.good _ (List.mem_map_of_mem hp)).meets

/-- A batch that fails has a task that failed. -/
theorem batch_error {stop : Stop} (hready : Ready D key aim task items run)
    (h : reconciler.batch operation task items run = (.error stop, run'))
    (hadmits : D.Admits run'.past) :
    ∃ item ∈ items, ∃ failure, stop = .failed failure ∧
      (aim item).settled (.error failure) (D.share run' (key item)) := by
  obtain ⟨failure, hstop, hrun⟩ := run_of_batch_error h
  obtain ⟨item, rest, _, hmoves⟩ := Batch.interleaves_of_run_error hrun
  have hheld := hready.held.interleaves hmoves hadmits
  have hitem : item ∈ items :=
    (items_perm_of_interleaves hmoves).mem_iff.2 List.mem_cons_self
  exact ⟨item, hitem, failure, hstop, (hheld.good _ List.mem_cons_self).meets⟩

theorem batch_amid {result : Except Stop (List α)} (hready : Ready D key aim task items run)
    (h : reconciler.batch operation task items run = (result, run'))
    (hadmits : D.Admits run'.past) : Amid D key aim items run run' := by
  obtain ⟨ends, hmoves⟩ := exists_interleaves result h
  exact (hready.held.interleaves hmoves hadmits).amid (items_perm_of_interleaves hmoves)

/-- What the tasks of a batch keep up holds in every state on the way. -/
theorem batch_throughout {result : Except Stop (List α)}
    (hready : Ready D key aim task items run)
    (h : reconciler.batch operation task items run = (result, run'))
    (hadmits : D.Admits run'.past) {moment : Moment σ} {after : σ}
    (hmem : moment ∈ run'.past) (hafter : moment.after? = some after) :
    moment ∈ run.past ∨ ∃ mid : Run σ, mid.state = after ∧ Amid D key aim items run mid := by
  obtain ⟨ends, hmoves⟩ := exists_interleaves result h
  rcases hmoves.exists_of_mem_past hmem hafter with hold | ⟨⟨strands, mid⟩, hto, hfrom, hstate⟩
  · exact .inl hold
  · have hadmits' : D.Admits mid.past := hadmits.of_suffix hfrom.past_suffix
    exact .inr ⟨mid, hstate, (hready.held.interleaves hto hadmits').amid
      (items_perm_of_interleaves hto)⟩

end Aims

end Reconciler

end MeshRoutes.Control

import MeshRoutes.Proofs.Deeds
import Mathlib.Data.List.Induction
/-!
# The discipline of a run

An errand works in phases. What may happen next is settled by what happened before: an operation
begins in its turn, while there is room and once all earlier phases are done, and nothing happens
after a failure. A history in which every moment is permitted is orderly, and whatever is asked of
a disciplined errand holds of an orderly history.

* `Orderly.disciplined` : an orderly history is disciplined.
-/

namespace MeshRoutes.Control

variable {σ : Type}

/-! ## Operations in order -/

namespace Operation

/-- The phase of an errand that an operation belongs to. -/
def phase : Operation → Nat
  | listing => 0
  | creating _ => 1
  | updating _ => 2
  | deleting _ => 3

/-- The name of the route that an operation works on. A listing works on none. -/
def route : Operation → String
  | listing => ""
  | creating route | updating route | deleting route => route

/-- The order in which operations begin: by phases, and by names within a phase. -/
def Precedes (a b : Operation) : Prop := a.phase < b.phase ∨ a.phase = b.phase ∧ a.route < b.route

theorem Precedes.phase_le {a b : Operation} (h : a.Precedes b) : a.phase ≤ b.phase := by
  rcases h with hlt | ⟨heq, _⟩
  · exact Nat.le_of_lt hlt
  · exact Nat.le_of_eq heq

/-- The calls that an operation makes. -/
def Makes : Operation → Call → Prop
  | listing, .list .. => True
  | creating _, .create .. => True
  | updating _, .describe _ | updating _, .update .. => True
  | deleting _, .describe _ | deleting _, .delete _ => True
  | _, _ => False

end Operation

/-! ## What a history tells of its operations -/

def Moment.began? : Moment σ → Option Operation
  | .began operation => some operation
  | .logged _ | .issued .. | .answered .. | .settled .. => none

/-- The operations that began, in order. -/
def begun (history : List (Moment σ)) : List Operation := history.filterMap Moment.began?

/-- What a moment makes of the operations in flight. -/
def Moment.tally (flying : List Operation) : Moment σ → List Operation
  | .began operation => flying ++ [operation]
  | .settled operation _ => flying.erase operation
  | .logged _ | .issued .. | .answered .. => flying

/-- The operations that began and were not settled. -/
def inFlight (history : List (Moment σ)) : List Operation := history.foldl Moment.tally []

section Tallies

variable (history : List (Moment σ)) (moment : Moment σ)

theorem begun_concat : begun (history ++ [moment]) = begun history ++ moment.began?.toList := by
  rw [begun, List.filterMap_append]
  cases h : moment.began? <;> simp [begun, h]

theorem inFlight_concat : inFlight (history ++ [moment]) = moment.tally (inFlight history) := by
  rw [inFlight, List.foldl_append]
  rfl

theorem mem_begun_of_mem_inFlight {o : Operation} (h : o ∈ inFlight history) :
    o ∈ begun history := by
  induction history using List.reverseRecOn with
  | nil => exact h
  | append_singleton history moment ih =>
    rw [inFlight_concat] at h
    rw [begun_concat, List.mem_append]
    cases moment with
    | began operation =>
      rcases List.mem_append.1 h with hold | hnew
      · exact .inl (ih hold)
      · exact .inr hnew
    | settled operation failure => exact .inl (ih (List.mem_of_mem_erase h))
    | logged _ | issued _ _ _ | answered _ _ _ _ => exact .inl (ih h)

end Tallies

def Unfailed (history : List (Moment σ)) : Prop :=
  ∀ o failure, .settled o (some failure) ∉ history

theorem Unfailed.concat {history : List (Moment σ)} {moment : Moment σ} (h : Unfailed history)
    (hmoment : ∀ o failure, moment ≠ .settled o (some failure)) : Unfailed (history ++ [moment]) := by
  intro o failure hmem
  rcases List.mem_append.1 hmem with hold | hnew
  · exact h o failure hold
  · exact hmoment o failure (List.mem_singleton.1 hnew).symm

/-! ## Orderly histories -/

/-- What may happen next, given what happened before. -/
structure Permitted (planned : Operation → Prop) (width : Nat) (before : List (Moment σ))
    (moment : Moment σ) : Prop where
  unfailed : Unfailed before
  /-- The work that is planned for earlier phases is done. -/
  barrier {o : Operation} (h : moment.operation? = some o) {earlier : Operation}
    (hplanned : planned earlier) (hlt : earlier.phase < o.phase) : .settled earlier none ∈ before
  onward {o : Operation} (h : moment.operation? = some o) {earlier : Operation}
    (hbegun : earlier ∈ begun before) : earlier.phase ≤ o.phase
  begins {o : Operation} (h : moment = .began o) :
    planned o ∧ (inFlight before).length < width ∧
      (∀ flying ∈ inFlight before, flying.phase = o.phase) ∧
      ∀ earlier ∈ begun before, earlier.Precedes o
  flies {o : Operation} (h : moment.operation? = some o) : moment = .began o ∨ o ∈ inFlight before

/-- Every moment of a history was permitted. -/
def Orderly (planned : Operation → Prop) (width : Nat) (history : List (Moment σ)) : Prop :=
  ∀ before moment later, history = before ++ moment :: later →
    Permitted planned width before moment

namespace Orderly

variable {planned : Operation → Prop} {width : Nat} {history earlier later : List (Moment σ)}
  {moment : Moment σ}

theorem nil : Orderly planned width ([] : List (Moment σ)) := by
  intro before moment later h
  simp at h

theorem concat (h : Orderly planned width history)
    (hmoment : Permitted planned width history moment) :
    Orderly planned width (history ++ [moment]) := by
  intro before other later hsplit
  rcases eq_or_exists_of_concat_eq hsplit with ⟨rfl, rfl⟩ | ⟨rest, hsplit'⟩
  · exact hmoment
  · exact h before other rest hsplit'

theorem of_initial (h : Orderly planned width history) (hinitial : earlier <+: history) :
    Orderly planned width earlier := by
  obtain ⟨rest, rfl⟩ := hinitial
  intro before moment later hsplit
  refine h before moment (later ++ rest) ?_
  rw [hsplit, List.append_assoc, List.cons_append]

theorem init (h : Orderly planned width (history ++ [moment])) : Orderly planned width history :=
  h.of_initial (List.prefix_append _ _)

theorem last (h : Orderly planned width (history ++ [moment])) :
    Permitted planned width history moment :=
  h history moment [] rfl

/-! ## What holds of an orderly history -/

theorem sorted (h : Orderly planned width history) :
    (begun history).Pairwise Operation.Precedes := by
  induction history using List.reverseRecOn with
  | nil => exact .nil
  | append_singleton history moment ih =>
    rw [begun_concat]
    have hbefore := ih h.init
    cases moment with
    | began o =>
      have hprecedes := (h.last.begins rfl).2.2.2
      refine List.pairwise_append.2 ⟨hbefore, List.pairwise_singleton _ _, ?_⟩
      intro earlier hearlier new hnew
      rw [List.mem_singleton.1 hnew]
      exact hprecedes earlier hearlier
    | logged _ | issued _ _ _ | answered _ _ _ _ | settled _ _ =>
      rw [Moment.began?, Option.toList_none, List.append_nil]
      exact hbefore

theorem bounded (h : Orderly planned width history) :
    (inFlight history).length ≤ width ∧
      ∀ a ∈ inFlight history, ∀ b ∈ inFlight history, a.phase = b.phase := by
  induction history using List.reverseRecOn with
  | nil => exact ⟨Nat.zero_le _, fun a ha => absurd ha List.not_mem_nil⟩
  | append_singleton history moment ih =>
    rw [inFlight_concat]
    obtain ⟨hlength, htogether⟩ := ih h.init
    cases moment with
    | began o =>
      obtain ⟨_, hroom, hphase, _⟩ := h.last.begins rfl
      have hall : ∀ a ∈ inFlight history ++ [o], a.phase = o.phase := by
        intro a ha
        rcases List.mem_append.1 ha with hold | hnew
        · exact hphase a hold
        · rw [List.mem_singleton.1 hnew]
      refine ⟨?_, ?_⟩
      · rw [Moment.tally, List.length_append, List.length_singleton]
        exact hroom
      · intro a ha b hb
        rw [hall a ha, hall b hb]
    | settled o failure =>
      refine ⟨Nat.le_trans List.length_erase_le hlength, ?_⟩
      intro a ha b hb
      exact htogether a (List.mem_of_mem_erase ha) b (List.mem_of_mem_erase hb)
    | logged _ | issued _ _ _ | answered _ _ _ _ => exact ⟨hlength, htogether⟩

theorem mem_begun (h : Orderly planned width history) {o : Operation}
    (hmem : o ∈ history.filterMap Moment.operation?) : o ∈ begun history := by
  induction history using List.reverseRecOn with
  | nil => cases hmem
  | append_singleton history moment ih =>
    rw [List.filterMap_append, List.mem_append] at hmem
    rw [begun_concat, List.mem_append]
    rcases hmem with hold | hnew
    · exact .inl (ih h.init hold)
    · have hof : moment.operation? = some o := by simpa using hnew
      rcases h.last.flies hof with rfl | hflying
      · exact .inr (List.mem_singleton.2 rfl)
      · exact .inl (mem_begun_of_mem_inFlight history hflying)

/-- What is told of operations is told phase by phase. -/
theorem onward (h : Orderly planned width history) :
    (history.filterMap Moment.operation?).Pairwise fun a b => a.phase ≤ b.phase := by
  induction history using List.reverseRecOn with
  | nil => exact .nil
  | append_singleton history moment ih =>
    have hbefore := h.init
    rw [List.filterMap_append]
    refine List.pairwise_append.2 ⟨ih hbefore, ?_, ?_⟩
    · cases hof : moment.operation? <;> simp [hof]
    · intro a ha b hb
      have hof : moment.operation? = some b := by simpa using hb
      exact h.last.onward hof (hbefore.mem_begun ha)

theorem planned_of_begun (h : Orderly planned width history) {o : Operation}
    (hbegun : o ∈ begun history) : planned o := by
  induction history using List.reverseRecOn with
  | nil => cases hbegun
  | append_singleton history moment ih =>
    rw [begun_concat, List.mem_append] at hbegun
    rcases hbegun with hold | hnew
    · exact ih h.init hold
    · cases moment with
      | began operation =>
        rw [List.mem_singleton.1 hnew]
        exact (h.last.begins rfl).1
      | logged _ | issued _ _ _ | answered _ _ _ _ | settled _ _ => cases hnew

end Orderly

/-- How an errand goes about the operations that are planned, with so many in flight at most. -/
structure Disciplined (planned : Operation → Prop) (width : Nat) (history : List (Moment σ)) :
    Prop where
  /-- A call is made by an operation of its phase, while it is in flight. -/
  calls {before later : List (Moment σ)} {o : Operation} {call : Call} {after : σ}
    (h : history = before ++ .issued o call after :: later) : o ∈ inFlight before ∧ o.Makes call
  /-- Only what is planned begins, phase by phase and in the order of names. -/
  planned_of_begun {o : Operation} (h : o ∈ begun history) : planned o
  sorted : (begun history).Pairwise Operation.Precedes
  onward : (history.filterMap Moment.operation?).Pairwise fun a b => a.phase ≤ b.phase
  /-- Nothing happens in a phase before all that is planned for earlier phases has succeeded. -/
  barrier {before later : List (Moment σ)} {moment : Moment σ} {o earlier : Operation}
    (h : history = before ++ moment :: later) (hof : moment.operation? = some o)
    (hplanned : planned earlier) (hlt : earlier.phase < o.phase) :
    .settled earlier none ∈ before
  /-- At every moment, what is in flight is not too much, and of one phase. -/
  bounded {before : List (Moment σ)} (h : before <+: history) : (inFlight before).length ≤ width
  together {before : List (Moment σ)} (h : before <+: history) {a b : Operation}
    (ha : a ∈ inFlight before) (hb : b ∈ inFlight before) : a.phase = b.phase
  /-- Nothing happens after a failure. -/
  stops {before later : List (Moment σ)} {o : Operation} {failure : Failure}
    (h : history = before ++ .settled o (some failure) :: later) : later = []

theorem Orderly.disciplined {planned : Operation → Prop} {width : Nat}
    {history : List (Moment σ)} (h : Orderly planned width history)
    (hmakes : ∀ o call after, .issued o call after ∈ history → o.Makes call) :
    Disciplined planned width history where
  calls {before later o call after} hsplit := by
    refine ⟨?_, hmakes o call after (by rw [hsplit]; simp)⟩
    rcases (h _ _ _ hsplit).flies rfl with hbegan | hflying
    · cases hbegan
    · exact hflying
  planned_of_begun hbegun := h.planned_of_begun hbegun
  sorted := h.sorted
  onward := h.onward
  barrier hsplit hof hplanned hlt := (h _ _ _ hsplit).barrier hof hplanned hlt
  bounded hinitial := (h.of_initial hinitial).bounded.1
  together {_} hinitial {a b} ha hb := (h.of_initial hinitial).bounded.2 a ha b hb
  stops {before later o failure} hsplit := by
    cases later with
    | nil => rfl
    | cons moment rest =>
      have hnext : history = (before ++ [.settled o (some failure)]) ++ moment :: rest := by
        simpa using hsplit
      have hunfailed := (h _ _ _ hnext).unfailed
      exact absurd (List.mem_append_right _ List.mem_cons_self) (hunfailed o failure)

end MeshRoutes.Control

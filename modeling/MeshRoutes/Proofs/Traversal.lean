import Mathlib.Data.List.Forall2
/-!
# Traversals that may fail

A computation that may fail goes on as long as its steps succeed. So a list is traversed item by
item, and the first item that fails ends the traversal with its error.

* `mapM_eq_ok_iff` : a traversal that succeeds does so at every item.
* `mapM_eq_error_iff` : one that fails does so at the first item that fails.
-/

namespace MeshRoutes

variable {α β ε : Type}

/-! ## One step -/

theorem bind_eq_ok_iff {x : Except ε α} {f : α → Except ε β} {b : β} :
    x >>= f = .ok b ↔ ∃ a, x = .ok a ∧ f a = .ok b := by
  cases x with
  | error error => simp [bind, Except.bind]
  | ok a => simp [bind, Except.bind]

theorem bind_eq_error_iff {x : Except ε α} {f : α → Except ε β} {error : ε} :
    x >>= f = .error error ↔ x = .error error ∨ ∃ a, x = .ok a ∧ f a = .error error := by
  cases x with
  | error cause => simp [bind, Except.bind]
  | ok a => simp [bind, Except.bind]

theorem map_eq_ok_iff {f : α → β} {x : Except ε α} {b : β} :
    x.map f = .ok b ↔ ∃ a, x = .ok a ∧ b = f a := by
  cases x <;> simp [Except.map, eq_comm]

theorem exists_map_eq_ok_iff {f : α → β} {x : Except ε α} :
    (∃ b, x.map f = .ok b) ↔ ∃ a, x = .ok a := by
  cases x <;> simp [Except.map]

theorem map_eq_error_iff {f : α → β} {x : Except ε α} {error : ε} :
    x.map f = .error error ↔ x = .error error := by
  cases x <;> simp [Except.map]

/-! ## Lists -/

variable {f g : α → Except ε β} {items : List α}

theorem mapM_eq_ok_iff {results : List β} :
    items.mapM f = .ok results ↔ List.Forall₂ (fun a b => f a = .ok b) items results := by
  induction items generalizing results with
  | nil =>
    rw [List.forall₂_nil_left_iff]
    constructor
    · rintro ⟨⟩
      rfl
    · rintro rfl
      rfl
  | cons a rest ih =>
    rw [List.mapM_cons, List.forall₂_cons_left_iff]
    simp only [bind_eq_ok_iff, ih]
    constructor
    · rintro ⟨b, hb, others, hothers, ⟨⟩⟩
      exact ⟨b, others, hb, hothers, rfl⟩
    · rintro ⟨b, others, hb, hothers, rfl⟩
      exact ⟨b, hb, others, hothers, rfl⟩

theorem mapM_cons_eq_error_iff {a : α} {error : ε} : (a :: items).mapM f = .error error ↔
    f a = .error error ∨ ∃ b, f a = .ok b ∧ items.mapM f = .error error := by
  simp only [List.mapM_cons, bind_eq_error_iff]
  simp [pure, Except.pure]

/-- A traversal fails at the first item that fails. -/
theorem mapM_eq_error_iff {error : ε} :
    items.mapM f = .error error ↔ ∃ before a behind, items = before ++ a :: behind ∧
      (∀ earlier ∈ before, ∃ b, f earlier = .ok b) ∧ f a = .error error := by
  induction items with
  | nil => simp [pure, Except.pure]
  | cons a rest ih =>
    rw [mapM_cons_eq_error_iff]
    constructor
    · rintro (ha | ⟨b, hb, hrest⟩)
      · exact ⟨[], a, rest, rfl, nofun, ha⟩
      · obtain ⟨before, failing, behind, rfl, hbefore, hfailing⟩ := ih.1 hrest
        exact ⟨a :: before, failing, behind, rfl,
          List.forall_mem_cons.2 ⟨⟨b, hb⟩, hbefore⟩, hfailing⟩
    · rintro ⟨_ | ⟨first, before⟩, failing, behind, ⟨⟩, hbefore, hfailing⟩
      · exact .inl hfailing
      · obtain ⟨⟨b, hb⟩, hbefore⟩ := List.forall_mem_cons.1 hbefore
        exact .inr ⟨b, hb, ih.2 ⟨before, failing, behind, rfl, hbefore, hfailing⟩⟩

theorem exists_mapM_eq_ok_iff :
    (∃ results, items.mapM f = .ok results) ↔ ∀ a ∈ items, ∃ b, f a = .ok b := by
  constructor
  · rintro ⟨results, h⟩ a ha
    obtain ⟨i, hi, rfl⟩ := List.getElem_of_mem ha
    have hsame := mapM_eq_ok_iff.1 h
    exact ⟨_, hsame.get hi (hsame.length_eq ▸ hi)⟩
  · intro h
    cases hresults : items.mapM f with
    | ok results => exact ⟨results, rfl⟩
    | error error =>
      obtain ⟨before, a, behind, rfl, -, ha⟩ := mapM_eq_error_iff.1 hresults
      obtain ⟨b, hb⟩ := h a (by simp)
      cases ha.symm.trans hb

theorem mapM_congr (h : ∀ a ∈ items, f a = g a) : items.mapM f = items.mapM g := by
  induction items with
  | nil => rfl
  | cons a rest ih =>
    obtain ⟨ha, hrest⟩ := List.forall_mem_cons.1 h
    rw [List.mapM_cons, List.mapM_cons, ha, ih hrest]

end MeshRoutes

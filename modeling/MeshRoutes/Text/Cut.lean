/-!
# Cutting a text at a separator
-/

namespace MeshRoutes.Text

/-- What stands before and behind the first `separator`. -/
def cut? (separator : Char) : List Char → Option (List Char × List Char)
  | [] => none
  | c :: rest =>
    if c = separator then some ([], rest)
    else (cut? separator rest).map fun (before, behind) => (c :: before, behind)

/-- A cut is made at the first separator, and nothing else is lost. -/
theorem cut?_eq_some_iff {separator : Char} {cs before behind : List Char} :
    cut? separator cs = some (before, behind) ↔
      cs = before ++ separator :: behind ∧ separator ∉ before := by
  induction cs generalizing before with
  | nil => simp [cut?]
  | cons c rest ih =>
    by_cases h : c = separator
    · rw [cut?, if_pos h]
      cases before with
      | nil => simp [h, eq_comm]
      | cons b before =>
        constructor
        · intro hcut
          cases hcut
        · rintro ⟨heq, hnot⟩
          obtain ⟨hb, _⟩ := List.cons.inj heq
          apply absurd _ hnot
          rw [← hb, h]
          exact List.mem_cons_self
    · rw [cut?, if_neg h, Option.map_eq_some_iff]
      cases before with
      | nil => simp [h]
      | cons b before =>
        constructor
        · rintro ⟨⟨before', behind'⟩, hcut, heq⟩
          cases heq
          obtain ⟨hrest, hnot⟩ := ih.1 hcut
          refine ⟨congrArg (c :: ·) hrest, ?_⟩
          simp [Ne.symm h, hnot]
        · rintro ⟨heq, hnot⟩
          obtain ⟨hb, hrest⟩ := List.cons.inj heq
          have hbefore : separator ∉ before := fun hmem => hnot (List.mem_cons_of_mem _ hmem)
          exact ⟨(before, behind), ih.2 ⟨hrest, hbefore⟩, by rw [hb]⟩

theorem cut?_append {separator : Char} {before : List Char} (behind : List Char)
    (h : separator ∉ before) :
    cut? separator (before ++ separator :: behind) = some (before, behind) :=
  cut?_eq_some_iff.2 ⟨rfl, h⟩

/-- A text is known by what stands before and behind its last separator. -/
theorem append_separator_inj {separator : Char} {before behind before' behind' : List Char}
    (h : separator ∉ behind) (h' : separator ∉ behind') :
    before ++ separator :: behind = before' ++ separator :: behind' ↔
      before = before' ∧ behind = behind' := by
  constructor
  · intro heq
    -- read backwards, the last separator is the first one
    have hrev : behind.reverse ++ separator :: before.reverse =
        behind'.reverse ++ separator :: before'.reverse := by
      simpa using congrArg List.reverse heq
    have hcut := cut?_append before.reverse (mt List.mem_reverse.1 h)
    rw [hrev, cut?_append before'.reverse (mt List.mem_reverse.1 h'), Option.some_inj,
      Prod.mk.injEq, List.reverse_inj, List.reverse_inj] at hcut
    exact ⟨hcut.2.symm, hcut.1.symm⟩
  · rintro ⟨rfl, rfl⟩
    rfl

end MeshRoutes.Text

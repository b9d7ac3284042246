import Mathlib.Data.List.Induction
import Mathlib.Data.List.TakeWhile
import MeshRoutes.Text.Blank
import MeshRoutes.Text.Numeral
/-!
# Parts of a text

A text is told apart at the first character without a property. So the blanks at its ends come off
in one way only, and so do the digits in front of it. Digits write a number in the decimal system,
and without superfluous zeros there is one way to write it.

* `TrimsTo` : the text between the blanks, which is what trimming leaves.
* `Writes` : the number that digits write, which is what a numeral is read as.
* `dropLeadingZeros` : a text without the zeros that stand in front of another digit.
-/

namespace MeshRoutes.Text

/-! ## Where a property ends -/

theorem span_eq_iff {p : Char → Bool} {cs front rest : List Char} :
    cs.takeWhile p = front ∧ cs.dropWhile p = rest ↔
      cs = front ++ rest ∧ (∀ c ∈ front, p c = true) ∧ ∀ c ∈ rest.head?, p c = false := by
  constructor
  · rintro ⟨rfl, rfl⟩
    refine ⟨List.takeWhile_append_dropWhile.symm, fun c hc => List.mem_takeWhile_imp hc, ?_⟩
    intro c hc
    have hstop := List.head?_dropWhile_not p cs
    rwa [Option.mem_def.1 hc] at hstop
  · rintro ⟨rfl, hfront, hrest⟩
    rw [List.takeWhile_append_of_pos hfront, List.dropWhile_append_of_pos hfront]
    cases rest with
    | nil => simp
    | cons c rest =>
      have hc : ¬p c = true := by simp [hrest c rfl]
      rw [List.takeWhile_cons_of_neg hc, List.dropWhile_cons_of_neg hc, List.append_nil]
      exact ⟨rfl, rfl⟩

/-! ## Blanks at the ends -/

/-- The text stands between blanks, and has none at its own ends. -/
structure TrimsTo (cs text : List Char) : Prop where
  between : ∃ front behind, cs = front ++ (text ++ behind) ∧
    (∀ c ∈ front, isBlank c = true) ∧ ∀ c ∈ behind, isBlank c = true
  first : ∀ c ∈ text.head?, isBlank c = false
  last : ∀ c ∈ text.getLast?, isBlank c = false

theorem trimsTo_trim (cs : List Char) : TrimsTo cs (trim cs) := by
  obtain ⟨hcs, hfront, hfirst⟩ := span_eq_iff.1 ⟨rfl, Eq.refl (trimLeft cs)⟩
  obtain ⟨hrev, hbehind, hlast⟩ :=
    span_eq_iff.1 ⟨rfl, Eq.refl ((trimLeft cs).reverse.dropWhile isBlank)⟩
  have hleft : trimLeft cs =
      trim cs ++ ((trimLeft cs).reverse.takeWhile isBlank).reverse := by
    rw [trim, trimRight, ← List.reverse_append, ← hrev, List.reverse_reverse]
  constructor
  · refine ⟨_, _, hcs.trans (congrArg (_ ++ ·) hleft), hfront, ?_⟩
    intro c hc
    exact hbehind c (List.mem_reverse.1 hc)
  · intro c hc
    apply hfirst c
    rw [hleft, List.head?_append, Option.mem_def.1 hc]
    rfl
  · intro c hc
    apply hlast c
    rwa [trim, trimRight, List.getLast?_reverse] at hc

theorem TrimsTo.trim_eq {cs text : List Char} (h : TrimsTo cs text) : trim cs = text := by
  obtain ⟨front, behind, rfl, hfront, hbehind⟩ := h.between
  cases text with
  | nil =>
    -- nothing but blanks, and all of them come off in front
    have hblank : ∀ c ∈ front ++ behind, isBlank c = true := by
      intro c hc
      exact (List.mem_append.1 hc).elim (hfront c) (hbehind c)
    rw [List.nil_append, trim, trimLeft, List.dropWhile_eq_nil_iff.2 hblank]
    rfl
  | cons first text =>
    have hfirst : ∀ c ∈ (first :: text ++ behind).head?, isBlank c = false := h.first
    have hleft : trimLeft (front ++ (first :: text ++ behind)) = first :: text ++ behind :=
      (span_eq_iff.2 ⟨rfl, hfront, hfirst⟩).2
    have hright : ((first :: text ++ behind).reverse).dropWhile isBlank =
        (first :: text).reverse := by
      apply (span_eq_iff.2 ⟨List.reverse_append, ?_, ?_⟩).2
      · intro c hc
        exact hbehind c (List.mem_reverse.1 hc)
      · rw [List.head?_reverse]
        exact h.last
    rw [trim, hleft, trimRight, hright, List.reverse_reverse]

/-! ## Numbers that digits write -/

/-- The digits write the number in the decimal system. -/
inductive Writes : List Char → Nat → Prop
  | one {d : Nat} (hd : d < 10) : Writes [Nat.digitChar d] d
  | more {digits : List Char} {n d : Nat} (h : Writes digits n) (hd : d < 10) :
      Writes (digits ++ [Nat.digitChar d]) (10 * n + d)

theorem toNat_of_isDigit {c : Char} (h : c.isDigit = true) : 48 ≤ c.toNat ∧ c.toNat ≤ 57 := by
  simp only [Char.isDigit, Bool.and_eq_true, decide_eq_true_eq] at h
  exact h

theorem isBlank_of_isDigit {c : Char} (h : c.isDigit = true) : isBlank c = false := by
  have hc := toNat_of_isDigit h
  simp only [isBlank, blankRanges, List.any_cons, List.any_nil, Bool.or_false, Bool.or_eq_false_iff,
    Bool.and_eq_false_iff, decide_eq_false_iff_not]
  omega

theorem exists_digit {c : Char} (h : c.isDigit = true) :
    ∃ d < 10, c = Nat.digitChar d ∧ c.toNat - '0'.toNat = d := by
  obtain ⟨hlow, hhigh⟩ := toNat_of_isDigit h
  refine ⟨c.toNat - 48, by omega, ?_, rfl⟩
  apply Char.toNat_inj.1
  rw [Nat.toNat_digitChar_of_lt_ten (by omega)]
  omega

theorem isDigit_digitChar {d : Nat} (h : d < 10) : (Nat.digitChar d).isDigit = true := by
  apply Nat.isDigit_of_mem_toDigits (b := 10) (n := d) (by decide) (by decide)
  rw [Nat.toDigits_of_lt_base h]
  exact List.mem_singleton_self _

theorem numeralValue_concat {digits : List Char} {d : Nat} (h : d < 10) :
    numeralValue (digits ++ [Nat.digitChar d]) = 10 * numeralValue digits + d := by
  have hd : (Nat.digitChar d).toNat - '0'.toNat = d := by
    rw [Nat.toNat_digitChar_of_lt_ten h]
    exact Nat.add_sub_cancel_left 48 d
  rw [numeralValue, Nat.ofDigitChars_append, Nat.ofDigitChars_cons, hd]
  rfl

/-- Digits write a number exactly if there are any, and it is their value. -/
theorem writes_iff {digits : List Char} {n : Nat} : Writes digits n ↔
    digits ≠ [] ∧ (∀ c ∈ digits, c.isDigit = true) ∧ numeralValue digits = n := by
  constructor
  · intro h
    induction h with
    | @one d hd =>
      refine ⟨List.cons_ne_nil _ _, ?_, ?_⟩
      · simpa using isDigit_digitChar hd
      · rw [← List.nil_append [Nat.digitChar d], numeralValue_concat hd]
        exact Nat.zero_add d
    | @more digits n d _ hd ih =>
      obtain ⟨-, hdigits, rfl⟩ := ih
      refine ⟨by simp, ?_, numeralValue_concat hd⟩
      intro c hc
      rcases List.mem_append.1 hc with hc | hc
      · exact hdigits c hc
      · rw [List.mem_singleton.1 hc]
        exact isDigit_digitChar hd
  · rintro ⟨hne, hdigits, rfl⟩
    induction digits using List.reverseRecOn with
    | nil => exact absurd rfl hne
    | append_singleton digits c ih =>
      obtain ⟨d, hd, rfl, -⟩ := exists_digit (hdigits c (by simp))
      rw [numeralValue_concat hd]
      cases digits with
      | nil =>
        have hzero : 10 * numeralValue [] + d = d := Nat.zero_add d
        rw [hzero]
        exact .one hd
      | cons first digits =>
        refine .more (ih (List.cons_ne_nil _ _) ?_) hd
        intro c hc
        exact hdigits c (List.mem_append_left _ hc)

theorem writes_numeral (n : Nat) : Writes (numeral n) n :=
  writes_iff.2 ⟨numeral_ne_nil n, List.all_eq_true.1 (all_isDigit_numeral n),
    numeralValue_numeral n⟩

/-! ## One way to write a number -/

/-- Drops the zeros that stand in front of another digit. -/
def dropLeadingZeros : List Char → List Char
  | '0' :: c :: rest => if c.isDigit then dropLeadingZeros (c :: rest) else '0' :: c :: rest
  | cs => cs

/-- More digits behind those of a number that is not zero are those of a greater number. -/
theorem numeral_append {digits : List Char} (h : ∀ c ∈ digits, c.isDigit = true) {n : Nat}
    (hn : 0 < n) : numeral n ++ digits = numeral (Nat.ofDigitChars 10 digits n) := by
  induction digits generalizing n with
  | nil => exact List.append_nil _
  | cons c digits ih =>
    obtain ⟨hc, hdigits⟩ := List.forall_mem_cons.1 h
    obtain ⟨d, hd, rfl, hvalue⟩ := exists_digit hc
    calc
      numeral n ++ Nat.digitChar d :: digits = numeral n ++ Nat.toDigits 10 d ++ digits := by
        rw [Nat.toDigits_of_lt_base hd, List.append_assoc, List.singleton_append]
      _ = numeral (10 * n + d) ++ digits := by
        rw [numeral, Nat.toDigits_append_toDigits (by decide) hn hd, numeral]
      _ = numeral (Nat.ofDigitChars 10 digits (10 * n + d)) := ih hdigits (by omega)
      _ = numeral (Nat.ofDigitChars 10 (Nat.digitChar d :: digits) n) := by
        rw [Nat.ofDigitChars_cons, hvalue]

theorem numeral_numeralValue_cons {c : Char} {digits : List Char} (hc : c.isDigit = true)
    (hzero : c ≠ '0') (h : ∀ c ∈ digits, c.isDigit = true) :
    numeral (numeralValue (c :: digits)) = c :: digits := by
  obtain ⟨d, hd, rfl, hvalue⟩ := exists_digit hc
  have hpos : 0 < d := by
    rw [Nat.pos_iff_ne_zero]
    rintro rfl
    exact hzero rfl
  rw [numeralValue, Nat.ofDigitChars_cons, hvalue, Nat.mul_zero, Nat.zero_add,
    ← numeral_append h hpos, numeral, Nat.toDigits_of_lt_base hd, List.singleton_append]

theorem dropLeadingZeros_of_ne {c : Char} (h : c ≠ '0') (rest : List Char) :
    dropLeadingZeros (c :: rest) = c :: rest := by
  rw [dropLeadingZeros]
  intro _ _ heq
  exact absurd (List.cons.inj heq).1 h

/-- Without superfluous zeros, digits are the numeral of their value. -/
theorem dropLeadingZeros_append {digits rest : List Char} (hne : digits ≠ [])
    (hdigits : ∀ c ∈ digits, c.isDigit = true) (hrest : ∀ c ∈ rest.head?, c.isDigit = false) :
    dropLeadingZeros (digits ++ rest) = numeral (numeralValue digits) ++ rest := by
  induction digits with
  | nil => exact absurd rfl hne
  | cons c digits ih =>
    obtain ⟨hc, hmore⟩ := List.forall_mem_cons.1 hdigits
    by_cases hzero : c = '0'
    · subst hzero
      cases digits with
      | nil =>
        -- the last digit stays, even if it is a zero
        cases rest with
        | nil => rfl
        | cons r rest =>
          have hr : ¬r.isDigit = true := by simp [hrest r rfl]
          rw [List.singleton_append, dropLeadingZeros, if_neg hr]
          rfl
      | cons d digits =>
        have hd : d.isDigit = true := hmore d List.mem_cons_self
        rw [List.cons_append, List.cons_append, dropLeadingZeros, if_pos hd, ← List.cons_append,
          ih (List.cons_ne_nil _ _) hmore]
        rfl
    · rw [List.cons_append, dropLeadingZeros_of_ne hzero, ← List.cons_append,
        numeral_numeralValue_cons hc hzero hmore]

end MeshRoutes.Text

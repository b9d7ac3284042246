import Mathlib.Data.List.Basic
import MeshRoutes.Duration
import MeshRoutes.Proofs.TextParts
/-!
# Texts of durations

A text is read as a duration if, the blanks at its ends apart, it is a number of 64 bits in decimal
digits with the symbol of a unit behind it. Any other text is refused for one reason, which its form
tells. What is written is read back, and what was read is written without superfluous zeros.

* `Duration.Amounts` : a text that is a number and a unit.
* `Duration.ReadsAs` : what a text without blanks at its ends is read as.
* `Duration.read_by_form` : the texts of each outcome.
* `Duration.render_read_inverse` : writing and reading undo each other.
-/

namespace MeshRoutes

open Text

/-! ## Symbols of units -/

namespace TimeUnit

theorem ofSymbol?_eq_some_iff {symbol : String} {unit : TimeUnit} :
    ofSymbol? symbol = some unit ↔ symbol = unit.symbol := by
  constructor
  · intro h
    unfold ofSymbol? at h
    split at h
    · cases h
      rfl
    · cases h
      rfl
    · cases h
  · rintro rfl
    exact ofSymbol?_symbol unit

theorem symbol_ne_nil (unit : TimeUnit) : unit.symbol.toList ≠ [] := by
  cases unit <;> decide

theorem isDigit_head_symbol (unit : TimeUnit) :
    ∀ c ∈ unit.symbol.toList.head?, c.isDigit = false := by
  intro c hc
  cases unit with
  | seconds =>
    obtain rfl : 's' = c := Option.some.inj hc
    rfl
  | milliseconds =>
    obtain rfl : 'm' = c := Option.some.inj hc
    rfl

theorem isBlank_last_symbol (unit : TimeUnit) :
    ∀ c ∈ unit.symbol.toList.getLast?, isBlank c = false := by
  intro c hc
  cases unit with
  | seconds | milliseconds =>
    obtain rfl : 's' = c := Option.some.inj hc
    rfl

end TimeUnit

namespace Duration

/-! ## What a text is read as -/

/-- The text is a number in decimal digits with the symbol of the unit behind it. -/
def Amounts (text : List Char) (n : Nat) (unit : TimeUnit) : Prop :=
  ∃ digits, Writes digits n ∧ text = digits ++ unit.symbol.toList

/-- What a text is read as that has no blanks at its ends. -/
inductive ReadsAs : List Char → Except ReadError Duration → Prop
  | duration {text : List Char} {d : Duration} (h : Amounts text d.value.toNat d.unit) :
      ReadsAs text (.ok d)
  | noUnit {text : List Char} (h : ∀ c ∈ text, c.isDigit = true) : ReadsAs text (.error .noUnit)
  | noNumber (unit : TimeUnit) : ReadsAs unit.symbol.toList (.error .noNumber)
  | numberTooLarge {text : List Char} {n : Nat} {unit : TimeUnit} (h : Amounts text n unit)
      (hn : UInt64.size ≤ n) : ReadsAs text (.error .numberTooLarge)
  | invalidUnit {digits symbol : List Char} (hdigits : ∀ c ∈ digits, c.isDigit = true)
      (hsymbol : ∀ c ∈ symbol.head?, c.isDigit = false) (hne : symbol ≠ [])
      (hunit : ∀ unit : TimeUnit, symbol ≠ unit.symbol.toList) :
      ReadsAs (digits ++ symbol) (.error .invalidUnit)

variable {text : String} {t digits symbol : List Char} {result : Except ReadError Duration}
  {n : Nat} {unit : TimeUnit}

theorem Amounts.readsAs_ok (h : Amounts t n unit) (hn : n < UInt64.size) :
    ReadsAs t (.ok ⟨unit, UInt64.ofNat n⟩) := by
  have hvalue : (UInt64.ofNat n).toNat = n := UInt64.toNat_ofNat_of_lt' hn
  rw [← hvalue] at h
  exact .duration (d := ⟨unit, UInt64.ofNat n⟩) h

theorem read_of_digits (htrim : TrimsTo text.toList digits)
    (hdigits : ∀ c ∈ digits, c.isDigit = true) : read text = .error .noUnit := by
  have hdrop : digits.dropWhile Char.isDigit = [] := List.dropWhile_eq_nil_iff.2 hdigits
  simp only [read, htrim.trim_eq, hdrop, List.isEmpty_nil, if_true]

theorem read_of_unit (htrim : TrimsTo text.toList (digits ++ unit.symbol.toList))
    (hdigits : ∀ c ∈ digits, c.isDigit = true) :
    read text = if digits.isEmpty then .error .noNumber
      else if numeralValue digits < UInt64.size then
        .ok ⟨unit, UInt64.ofNat (numeralValue digits)⟩
      else .error .numberTooLarge := by
  obtain ⟨htake, hdrop⟩ := span_eq_iff.2 ⟨rfl, hdigits, unit.isDigit_head_symbol⟩
  have hsome : ¬unit.symbol.toList.isEmpty = true := by simpa using unit.symbol_ne_nil
  simp only [read, htrim.trim_eq, htake, hdrop, String.ofList_toList, TimeUnit.ofSymbol?_symbol]
  rw [if_neg hsome]

theorem read_of_amounts (htrim : TrimsTo text.toList t) (h : Amounts t n unit) :
    read text = if n < UInt64.size then .ok ⟨unit, UInt64.ofNat n⟩
      else .error .numberTooLarge := by
  obtain ⟨digits, hwrites, rfl⟩ := h
  obtain ⟨hne, hdigits, rfl⟩ := writes_iff.1 hwrites
  have hsome : ¬digits.isEmpty = true := by simpa using hne
  rw [read_of_unit htrim hdigits, if_neg hsome]

/-- What stands behind the digits is looked at before them, so their number does not matter. -/
theorem read_of_other (htrim : TrimsTo text.toList (digits ++ symbol))
    (hdigits : ∀ c ∈ digits, c.isDigit = true) (hsymbol : ∀ c ∈ symbol.head?, c.isDigit = false)
    (hne : symbol ≠ []) (hunit : ∀ unit : TimeUnit, symbol ≠ unit.symbol.toList) :
    read text = .error .invalidUnit := by
  have hdrop := (span_eq_iff.2 ⟨rfl, hdigits, hsymbol⟩).2
  have hsome : ¬symbol.isEmpty = true := by simpa using hne
  have hnone : TimeUnit.ofSymbol? (String.ofList symbol) = none := by
    rw [Option.eq_none_iff_forall_ne_some]
    intro unit hunitSymbol
    apply hunit unit
    rw [← TimeUnit.ofSymbol?_eq_some_iff.1 hunitSymbol, String.toList_ofList]
  simp only [read, htrim.trim_eq, hdrop, hnone]
  rw [if_neg hsome]

theorem ReadsAs.read_eq (htrim : TrimsTo text.toList t) (h : ReadsAs t result) :
    read text = result := by
  cases h with
  | @duration _ d h =>
    rw [read_of_amounts htrim h, if_pos d.value.toNat_lt_size, UInt64.ofNat_toNat]
  | noUnit hdigits => exact read_of_digits htrim hdigits
  | noNumber unit => exact @read_of_unit text [] unit htrim nofun
  | numberTooLarge h hn => rw [read_of_amounts htrim h, if_neg (Nat.not_lt.2 hn)]
  | invalidUnit hdigits hsymbol hne hunit => exact read_of_other htrim hdigits hsymbol hne hunit

/-- The text is told apart at the first character that is no digit, and its outcome hangs on what
the two parts are. -/
theorem exists_readsAs (t : List Char) : ∃ result, ReadsAs t result := by
  obtain ⟨ht, hdigits, hsymbol⟩ := span_eq_iff.1 ⟨rfl, Eq.refl (t.dropWhile Char.isDigit)⟩
  generalize t.takeWhile Char.isDigit = digits at ht hdigits
  generalize t.dropWhile Char.isDigit = symbol at ht hsymbol
  subst ht
  by_cases hnil : symbol = []
  · rw [hnil, List.append_nil]
    exact ⟨_, .noUnit hdigits⟩
  by_cases hunit : ∃ unit : TimeUnit, symbol = unit.symbol.toList
  · obtain ⟨unit, rfl⟩ := hunit
    -- the unit is right, so it is the number that decides
    by_cases hne : digits = []
    · rw [hne, List.nil_append]
      exact ⟨_, .noNumber unit⟩
    have hamounts : Amounts (digits ++ unit.symbol.toList) (numeralValue digits) unit :=
      ⟨digits, writes_iff.2 ⟨hne, hdigits, rfl⟩, rfl⟩
    by_cases hsmall : numeralValue digits < UInt64.size
    · exact ⟨_, hamounts.readsAs_ok hsmall⟩
    · exact ⟨_, .numberTooLarge hamounts (Nat.not_lt.1 hsmall)⟩
  · rw [not_exists] at hunit
    exact ⟨_, .invalidUnit hdigits hsymbol hnil hunit⟩

theorem read_eq_iff (htrim : TrimsTo text.toList t) : read text = result ↔ ReadsAs t result := by
  constructor
  · rintro rfl
    obtain ⟨result, h⟩ := exists_readsAs t
    rwa [h.read_eq htrim]
  · exact ReadsAs.read_eq htrim

/-! ## The texts of each outcome -/

theorem read_eq_ok_iff (htrim : TrimsTo text.toList t) {d : Duration} :
    read text = .ok d ↔ Amounts t d.value.toNat d.unit := by
  rw [read_eq_iff htrim]
  constructor
  · intro h
    cases h with
    | duration hamounts => exact hamounts
  · exact .duration

theorem exists_read_eq_ok_iff (htrim : TrimsTo text.toList t) :
    (∃ d, read text = .ok d) ↔ ∃ n unit, n < UInt64.size ∧ Amounts t n unit := by
  constructor
  · rintro ⟨d, h⟩
    exact ⟨d.value.toNat, d.unit, d.value.toNat_lt_size, (read_eq_ok_iff htrim).1 h⟩
  · rintro ⟨n, unit, hn, h⟩
    exact ⟨_, (h.readsAs_ok hn).read_eq htrim⟩

theorem read_eq_noUnit_iff (htrim : TrimsTo text.toList t) :
    read text = .error .noUnit ↔ ∀ c ∈ t, c.isDigit = true := by
  rw [read_eq_iff htrim]
  constructor
  · intro h
    cases h with
    | noUnit hdigits => exact hdigits
  · exact .noUnit

theorem read_eq_noNumber_iff (htrim : TrimsTo text.toList t) :
    read text = .error .noNumber ↔ ∃ unit : TimeUnit, t = unit.symbol.toList := by
  rw [read_eq_iff htrim]
  constructor
  · intro h
    cases h with
    | noNumber unit => exact ⟨unit, rfl⟩
  · rintro ⟨unit, rfl⟩
    exact .noNumber unit

theorem read_eq_numberTooLarge_iff (htrim : TrimsTo text.toList t) :
    read text = .error .numberTooLarge ↔ ∃ n unit, UInt64.size ≤ n ∧ Amounts t n unit := by
  rw [read_eq_iff htrim]
  constructor
  · intro h
    cases h with
    | numberTooLarge hamounts hn => exact ⟨_, _, hn, hamounts⟩
  · rintro ⟨n, unit, hn, h⟩
    exact .numberTooLarge h hn

/-- Since a text has one outcome, the unit is wrong where no other outcome applies. -/
theorem read_eq_invalidUnit_iff (htrim : TrimsTo text.toList t) :
    read text = .error .invalidUnit ↔ ¬(∀ c ∈ t, c.isDigit = true) ∧
      (∀ unit : TimeUnit, t ≠ unit.symbol.toList) ∧ ∀ n unit, ¬Amounts t n unit := by
  constructor
  · intro h
    refine ⟨?_, ?_, ?_⟩
    · intro hdigits
      cases h.symm.trans ((read_eq_noUnit_iff htrim).2 hdigits)
    · intro unit hsymbol
      cases h.symm.trans ((read_eq_noNumber_iff htrim).2 ⟨unit, hsymbol⟩)
    · intro n unit hamounts
      by_cases hn : n < UInt64.size
      · cases h.symm.trans ((hamounts.readsAs_ok hn).read_eq htrim)
      · have hlarge : UInt64.size ≤ n := Nat.not_lt.1 hn
        cases h.symm.trans ((read_eq_numberTooLarge_iff htrim).2 ⟨n, unit, hlarge, hamounts⟩)
  · rintro ⟨hdigits, hsymbol, hamounts⟩
    obtain ⟨result, h⟩ := exists_readsAs t
    rw [h.read_eq htrim]
    cases h with
    | duration h => exact absurd h (hamounts _ _)
    | noUnit h => exact absurd h hdigits
    | noNumber unit => exact absurd rfl (hsymbol unit)
    | numberTooLarge h _ => exact absurd h (hamounts _ _)
    | invalidUnit => rfl

/-- A text is trimmed first. It is read as a duration exactly if it is a number of 64 bits with the
symbol of a unit behind it then, leading zeros allowed. It has no unit exactly if it is nothing but
digits, no number exactly if it is nothing but a symbol, too large a number exactly if the number in
front of the symbol has more bits, and a wrong unit in every other case. -/
theorem read_by_form (text : String) : ∃ t, TrimsTo text.toList t ∧
    ((∃ d, read text = .ok d) ↔ ∃ n unit, n < UInt64.size ∧ Amounts t n unit) ∧
    (∀ d, read text = .ok d ↔ Amounts t d.value.toNat d.unit) ∧
    (read text = .error .noUnit ↔ ∀ c ∈ t, c.isDigit = true) ∧
    (read text = .error .noNumber ↔ ∃ unit : TimeUnit, t = unit.symbol.toList) ∧
    (read text = .error .numberTooLarge ↔ ∃ n unit, UInt64.size ≤ n ∧ Amounts t n unit) ∧
    (read text = .error .invalidUnit ↔ ¬(∀ c ∈ t, c.isDigit = true) ∧
      (∀ unit : TimeUnit, t ≠ unit.symbol.toList) ∧ ∀ n unit, ¬Amounts t n unit) := by
  have htrim := trimsTo_trim text.toList
  exact ⟨_, htrim, exists_read_eq_ok_iff htrim, fun _ => read_eq_ok_iff htrim,
    read_eq_noUnit_iff htrim, read_eq_noNumber_iff htrim, read_eq_numberTooLarge_iff htrim,
    read_eq_invalidUnit_iff htrim⟩

/-! ## Writing and reading -/

theorem toList_render (d : Duration) :
    d.render.toList = numeral d.value.toNat ++ d.unit.symbol.toList :=
  String.toList_ofList

theorem amounts_render (d : Duration) : Amounts d.render.toList d.value.toNat d.unit :=
  ⟨_, writes_numeral _, d.toList_render⟩

theorem trimsTo_render (d : Duration) {front behind : List Char}
    (hfront : ∀ c ∈ front, isBlank c = true) (hbehind : ∀ c ∈ behind, isBlank c = true) :
    TrimsTo (front ++ (d.render.toList ++ behind)) d.render.toList := by
  refine ⟨⟨front, behind, rfl, hfront, hbehind⟩, ?_, ?_⟩
  · intro c hc
    obtain ⟨hne, hdigits, -⟩ := writes_iff.1 (writes_numeral d.value.toNat)
    rw [toList_render, List.head?_append_of_ne_nil _ hne] at hc
    exact isBlank_of_isDigit (hdigits c (List.mem_of_mem_head? hc))
  · rw [toList_render, List.getLast?_append_of_ne_nil _ d.unit.symbol_ne_nil]
    exact d.unit.isBlank_last_symbol

theorem read_render_between (d : Duration) {front behind : String}
    (hfront : ∀ c ∈ front.toList, isBlank c = true)
    (hbehind : ∀ c ∈ behind.toList, isBlank c = true) :
    read (front ++ d.render ++ behind) = .ok d := by
  have htrim : TrimsTo (front ++ d.render ++ behind).toList d.render.toList := by
    rw [String.toList_append, String.toList_append, List.append_assoc]
    exact d.trimsTo_render hfront hbehind
  exact (read_eq_ok_iff htrim).2 d.amounts_render

theorem read_render (d : Duration) : read d.render = .ok d := by
  have h : read ("" ++ d.render ++ "") = .ok d := d.read_render_between nofun nofun
  rwa [String.empty_append, String.append_empty] at h

theorem render_injective : Function.Injective render := by
  intro a b h
  have hread : read a.render = read b.render := congrArg read h
  rw [read_render, read_render] at hread
  exact Except.ok.inj hread

theorem toList_render_of_read {d : Duration} (htrim : TrimsTo text.toList t)
    (h : read text = .ok d) : d.render.toList = dropLeadingZeros t := by
  obtain ⟨digits, hwrites, rfl⟩ := (read_eq_ok_iff htrim).1 h
  obtain ⟨hne, hdigits, hvalue⟩ := writes_iff.1 hwrites
  rw [toList_render, dropLeadingZeros_append hne hdigits d.unit.isDigit_head_symbol, hvalue]

/-- What is written is read back, with any blanks in front and behind, so distinct durations have
distinct texts. And what is read is written as it was, without the blanks and without the zeros that
stand in front of another digit. -/
theorem render_read_inverse :
    (∀ (d : Duration) (front behind : String), (∀ c ∈ front.toList, isBlank c = true) →
      (∀ c ∈ behind.toList, isBlank c = true) → read (front ++ d.render ++ behind) = .ok d) ∧
    Function.Injective render ∧
    ∀ text d, read text = .ok d →
      ∃ t, TrimsTo text.toList t ∧ d.render.toList = dropLeadingZeros t := by
  refine ⟨fun d _ _ => d.read_render_between, render_injective, ?_⟩
  intro text d h
  have htrim := trimsTo_trim text.toList
  exact ⟨_, htrim, toList_render_of_read htrim h⟩

theorem render_read_inverse_on_sample :
    read ("\t" ++ render ⟨.milliseconds, 18446744073709551615⟩ ++ "\u00a0\u3000") =
        .ok ⟨.milliseconds, 18446744073709551615⟩ ∧
      render ⟨.seconds, 1⟩ ≠ render ⟨.milliseconds, 1000⟩ ∧
      ∃ t, TrimsTo " 000s\n".toList t ∧ (render ⟨.seconds, 0⟩).toList = dropLeadingZeros t := by
  obtain ⟨hread, hinjective, hwritten⟩ := render_read_inverse
  refine ⟨hread _ _ _ (List.all_eq_true.1 rfl) (List.all_eq_true.1 rfl), ?_, hwritten _ _ rfl⟩
  exact hinjective.ne (by decide)

end Duration

end MeshRoutes

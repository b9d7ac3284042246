/-!
# Decimal numerals

Numbers written in the ASCII digits, leading zeros allowed.
-/

namespace MeshRoutes.Text

/-- The number that the digits write. -/
def numeralValue (digits : List Char) : Nat := Nat.ofDigitChars 10 digits 0

/-- Reads a text of one or more ASCII digits and nothing else. -/
def readNumeral? (cs : List Char) : Option Nat :=
  if !cs.isEmpty && cs.all Char.isDigit then some (numeralValue cs) else none

/-- The digits of a number, without superfluous zeros. -/
def numeral (n : Nat) : List Char := Nat.toDigits 10 n

theorem numeralValue_numeral (n : Nat) : numeralValue (numeral n) = n :=
  Nat.ofDigitChars_ten_toDigits

theorem all_isDigit_numeral (n : Nat) : (numeral n).all Char.isDigit = true :=
  List.all_eq_true.2 fun _ hc => Nat.isDigit_of_mem_toDigits (b := 10) (by decide) (by decide) hc

theorem numeral_ne_nil (n : Nat) : numeral n ≠ [] := Nat.toDigits_ne_nil

theorem readNumeral?_numeral (n : Nat) : readNumeral? (numeral n) = some n := by
  simp only [readNumeral?, all_isDigit_numeral, List.isEmpty_eq_false_iff.2 (numeral_ne_nil n),
    numeralValue_numeral, Bool.not_false, Bool.and_self, if_true]

end MeshRoutes.Text

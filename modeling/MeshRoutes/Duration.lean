import MeshRoutes.Json.Codec
import MeshRoutes.Text.Blank
import MeshRoutes.Text.Numeral
/-!
# Durations

A duration is a whole number of seconds or of milliseconds. It is never normalized: one
second and a thousand milliseconds are different settings. Its text is the number and the
unit's symbol, with nothing between them.
-/

namespace MeshRoutes

inductive TimeUnit where
  | seconds
  | milliseconds
deriving DecidableEq

structure Duration where
  unit : TimeUnit
  value : UInt64
deriving DecidableEq

namespace TimeUnit

def symbol : TimeUnit → String
  | seconds => "s"
  | milliseconds => "ms"

def ofSymbol? : String → Option TimeUnit
  | "s" => some seconds
  | "ms" => some milliseconds
  | _ => none

theorem ofSymbol?_symbol (unit : TimeUnit) : ofSymbol? unit.symbol = some unit := by
  cases unit <;> rfl

instance : Codec TimeUnit where
  encode unit := encode unit.symbol
  decode? := Json.word? ofSymbol?

end TimeUnit

namespace Duration

/-! ## Length -/

def wholeSeconds (d : Duration) : Nat :=
  match d.unit with
  | .seconds => d.value.toNat
  | .milliseconds => d.value.toNat / 1000

/-- What is left after the whole seconds. -/
def nanoseconds (d : Duration) : Nat :=
  match d.unit with
  | .seconds => 0
  | .milliseconds => d.value.toNat % 1000 * 1000000

/-! ## Text -/

def render (d : Duration) : String :=
  String.ofList (Text.numeral d.value.toNat ++ d.unit.symbol.toList)

/-- Why a text is no duration. -/
inductive ReadError where
  /-- Nothing but digits, or nothing at all. -/
  | noUnit
  /-- What follows the digits is no unit. -/
  | invalidUnit
  /-- A unit without a number. -/
  | noNumber
  /-- The number has more than 64 bits. -/
  | numberTooLarge
deriving DecidableEq

def ReadError.message : ReadError → String
  | noUnit => "missing a unit: expected one of 'ms' or 's'"
  | invalidUnit => "invalid unit: expected one of 'ms' or 's'"
  | noNumber => "invalid integer: cannot parse integer from empty string"
  | numberTooLarge => "invalid integer: number too large to fit in target type"

/-- Reads a text, blanks at its ends apart. The unit is looked at before the number. -/
def read (text : String) : Except ReadError Duration :=
  let cs := Text.trim text.toList
  let digits := cs.takeWhile Char.isDigit
  let symbol := cs.dropWhile Char.isDigit
  if symbol.isEmpty then .error .noUnit
  else
    match TimeUnit.ofSymbol? (String.ofList symbol) with
    | none => .error .invalidUnit
    | some unit =>
      if digits.isEmpty then .error .noNumber
      else if Text.numeralValue digits < UInt64.size then
        .ok ⟨unit, UInt64.ofNat (Text.numeralValue digits)⟩
      else .error .numberTooLarge

example : read " 007ms\u3000" = .ok ⟨.milliseconds, 7⟩ := rfl

/-- A sign is no part of a number, and so the unit is wrong. -/
example : read "+5s" = .error .invalidUnit := rfl

/-! ## JSON -/

instance : Codec Duration where
  encode d := .object [("unit", encode d.unit), ("value", encode d.value)]
  decode? json := do
    let members ← json.members?
    return { unit := ← members.required "unit", value := ← members.required "value" }

end Duration

end MeshRoutes

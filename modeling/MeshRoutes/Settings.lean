import MeshRoutes.Text.Numeral
/-!
# Settings

The one setting of the reconciler: how many operations may be in flight at once. It is read
from the command line, or else from the environment, or else it is one.
-/

namespace MeshRoutes

/-- A positive number of 64 bits. -/
structure Concurrency where
  value : UInt64
  ne_zero : value ≠ 0
deriving DecidableEq

namespace Concurrency

/-- The number of operations that may be in flight. -/
def width (concurrency : Concurrency) : Nat := concurrency.value.toNat

theorem width_pos (concurrency : Concurrency) : 0 < concurrency.width :=
  Nat.pos_of_ne_zero fun h => concurrency.ne_zero (UInt64.toNat_inj.1 h)

def ofUInt64? (n : UInt64) : Option Concurrency :=
  if h : n = 0 then none else some ⟨n, h⟩

/-- One operation at a time. -/
def one : Concurrency := ⟨1, by decide⟩

/-- Reads a text of ASCII digits, after an optional plus sign. -/
def read? (text : String) : Option Concurrency := do
  let digits := match text.toList with
    | '+' :: rest => rest
    | cs => cs
  let n ← Text.readNumeral? digits
  if n < UInt64.size then ofUInt64? (UInt64.ofNat n) else none

/-! ## Command line and environment -/

def flag : String := "--route-reconcile-concurrency"

/-- The value that the arguments give: `none` within if they give none, and no result if
they are not understood. The flag stands once, with its value behind it or behind an equals
sign, and two hyphens may end the arguments. -/
def argument? (args : List String) : Option (Option String) :=
  let args := if args.getLast? = some "--" then args.dropLast else args
  match args with
  | [] => some none
  | [arg] =>
    ((flag ++ "=").toList.isPrefixOf? arg.toList).map fun value => some (String.ofList value)
  | [arg, value] =>
    if arg = flag ∧ value.toList.head? ≠ some '-' then some (some value) else none
  | _ => none

/-- The setting. The environment is not looked at where the arguments give a value. -/
def ofCommandLine? (args : List String) (environment : Option String) : Option Concurrency := do
  let argument ← argument? args
  match argument.or environment with
  | some text => read? text
  | none => some one

example : (read? "+4").map value = some 4 := rfl

example : read? "0" = none := rfl

/-- A value on the command line wins, and is not made good by the environment. -/
example : ofCommandLine? [flag, "x"] (some "7") = none := rfl

end Concurrency

end MeshRoutes

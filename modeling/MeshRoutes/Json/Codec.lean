import MeshRoutes.Json.Basic
/-!
# Values with a JSON form

`Codec` pairs the JSON form of a type with its reader. Readers ignore the members that they
do not know, and an integer is read only if it lies in the range of its type.

Each type has one form here. A record is read from an object, and not from the array of its fields in
order; a word is read from a string, and not from the object that has it as its only key with null for
the value. These two other forms, which a reader derived from the types would take as well, are
left out, in this module and in all that declare codecs.
-/

namespace MeshRoutes

class Codec (α : Type) where
  encode : α → Json
  decode? : Json → Option α

export Codec (encode decode?)

namespace Json

/-- An integer from `low` up to, but not including, `high`. -/
def integerIn? (low high : Int) : Json → Option Int
  | integer n => if low ≤ n ∧ n < high then some n else none
  | _ => none

/-- A natural number below `bound`. -/
def naturalBelow? (bound : Nat) (json : Json) : Option Nat :=
  (json.integerIn? 0 bound).map Int.toNat

/-- The items of an array; no other value has any. -/
def items? : Json → Option (List Json)
  | array items => some items
  | _ => none

end Json

instance : Codec Bool where
  encode := .boolean
  decode?
    | .boolean b => some b
    | _ => none

instance : Codec String where
  encode := .string
  decode?
    | .string s => some s
    | _ => none

instance : Codec UInt16 where
  encode n := .integer n.toNat
  decode? json := (json.naturalBelow? UInt16.size).map UInt16.ofNat

instance : Codec UInt32 where
  encode n := .integer n.toNat
  decode? json := (json.naturalBelow? UInt32.size).map UInt32.ofNat

instance : Codec UInt64 where
  encode n := .integer n.toNat
  decode? json := (json.naturalBelow? UInt64.size).map UInt64.ofNat

instance : Codec Int64 where
  encode n := .integer n.toInt
  decode? json := (json.integerIn? Int64.minValue.toInt (Int64.maxValue.toInt + 1)).map Int64.ofInt

instance [Codec α] : Codec (List α) where
  encode items := .array (items.map encode)
  decode? json := json.items?.bind fun items => items.mapM decode?

/-- An absent value is null. -/
instance [Codec α] : Codec (Option α) where
  encode
    | some a => encode a
    | none => .null
  decode?
    | .null => some none
    | json => (decode? json).map some

/-- A type of names: what the JSON form says is one of a few exact words. -/
def Json.word? (read : String → Option α) (json : Json) : Option α :=
  (decode? json : Option String).bind read

namespace Json.Members

variable [Codec α]

/-- A member that must be there. -/
def required (members : Members) (key : String) : Option α :=
  (members.get? key).bind decode?

/-- A member that may be left out or null. -/
def optional (members : Members) (key : String) : Option (Option α) :=
  match members.get? key with
  | none => some none
  | some json => decode? json

/-- A list that may be left out, but not null, when it is empty. -/
def listOrEmpty (members : Members) (key : String) : Option (List α) :=
  match members.get? key with
  | none => some []
  | some json => decode? json

/-- A member that is left out when there is no value. -/
def omitted (key : String) : Option α → Members
  | some a => [(key, encode a)]
  | none => []

end Json.Members

end MeshRoutes

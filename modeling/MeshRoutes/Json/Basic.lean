/-!
# JSON values

A value as it was written: members keep their order and their repetitions, and a number
that is not a plain integer keeps its spelling, for no datum of this library is one.
-/

namespace MeshRoutes

inductive Json where
  | null
  | boolean (value : Bool)
  | integer (value : Int)
  /-- A number with a fraction or an exponent, or minus zero. -/
  | decimal (spelling : String)
  | string (value : String)
  | array (items : List Json)
  | object (members : List (String × Json))
deriving Inhabited

namespace Json

/-- The members of an object. -/
abbrev Members := List (String × Json)

/-- The value of a member. Where a key is repeated, its last value counts. -/
def Members.get? (key : String) : Members → Option Json
  | [] => none
  | (k, v) :: rest => (Members.get? key rest).or (if k = key then some v else none)

/-- The members of an object; no other value has any. -/
def members? : Json → Option Members
  | object members => some members
  | _ => none

/-- A member of an object. -/
def get? (json : Json) (key : String) : Option Json :=
  json.members?.bind (Members.get? key)

end Json

end MeshRoutes

import MeshRoutes.Traffic
/-!
# Agreement of values

The control plane may leave out a collection that was submitted empty, so a value read back
need not equal the value that was sent. `agree` compares two values part by part, either
exactly or up to such omissions.
-/

namespace MeshRoutes

inductive Comparison where
  /-- An absent collection and an empty one differ. -/
  | exact
  /-- An absent collection agrees with an empty one. -/
  | upToEmpty
deriving DecidableEq

class Agreement (α : Type) where
  agree : Comparison → α → α → Bool
  isEmptyCollection : α → Bool := fun _ => false

export Agreement (agree isEmptyCollection)

/-- Values that hold no collection agree when they are equal. -/
@[reducible] def Agreement.byEquality (α : Type) [DecidableEq α] : Agreement α where
  agree _ a b := a == b

/-- An absent value agrees with an empty collection up to omissions, and never with anything
else: an optional value is not itself a collection. -/
instance [Agreement α] : Agreement (Option α) where
  agree comparison
    | some a, some b => agree comparison a b
    | none, none => true
    | some a, none | none, some a => comparison == .upToEmpty && isEmptyCollection a

instance [Agreement α] : Agreement (List α) where
  agree comparison a b :=
    a.length == b.length && (a.zip b).all fun (x, y) => agree comparison x y
  isEmptyCollection := List.isEmpty

instance : Agreement Bool := .byEquality Bool
instance : Agreement String := .byEquality String
instance : Agreement UInt16 := .byEquality UInt16
instance : Agreement UInt32 := .byEquality UInt32
instance : Agreement UInt64 := .byEquality UInt64
instance : Agreement Int64 := .byEquality Int64
instance : Agreement Duration := .byEquality Duration
instance : Agreement PathMatch := .byEquality PathMatch
instance : Agreement ValueMatch := .byEquality ValueMatch
instance : Agreement HeaderMatch := .byEquality HeaderMatch
instance : Agreement MetadataMatch := .byEquality MetadataMatch
instance : Agreement QueryValueMatch := .byEquality QueryValueMatch
instance : Agreement QueryMatch := .byEquality QueryMatch
instance : Agreement TcpMatch := .byEquality TcpMatch
instance : Agreement RequestTimeout := .byEquality RequestTimeout
instance : Agreement TcpTimeout := .byEquality TcpTimeout

end MeshRoutes

import MeshRoutes.Declared.Json
import MeshRoutes.Remote.Json
/-!
# Laws of the JSON forms

A form is lawful if what is written is read back, and solid if besides nothing is written as null,
so that an absent value can be told apart. A record is read back member by member, each of them
found under its own key.

* `Codec.Lawful`, `Codec.Solid` : the laws, with instances for what remote specs consist of.
* `read_required`, `read_optional`, `read_omitted`, `read_listOrEmpty` : the members of a record,
  one by one.
-/

namespace MeshRoutes

variable {α β : Type}

/-- What is written is read back. -/
class Codec.Lawful (α : Type) [Codec α] : Prop where
  decode_encode (a : α) : decode? (encode a) = some a

/-- What is written is read back, and is not null. -/
class Codec.Solid (α : Type) [Codec α] : Prop extends Codec.Lawful α where
  encode_ne_null (a : α) : encode a ≠ .null

export Codec.Lawful (decode_encode)

attribute [simp] decode_encode

/-- Different values are written differently. -/
theorem encode_inj [Codec α] [Codec.Lawful α] {a b : α} : encode a = encode b ↔ a = b := by
  refine ⟨fun h => Option.some.inj ?_, congrArg encode⟩
  rw [← decode_encode a, h, decode_encode]

/-! ## Single values -/

instance : Codec.Solid Bool where
  decode_encode _ := rfl
  encode_ne_null _ := nofun

instance : Codec.Solid String where
  decode_encode _ := rfl
  encode_ne_null _ := nofun

theorem Json.naturalBelow?_of_lt {n bound : Nat} (h : n < bound) :
    (integer n).naturalBelow? bound = some n := by
  simp [naturalBelow?, integerIn?, h]

instance : Codec.Solid UInt16 where
  decode_encode n := by
    change (Json.naturalBelow? UInt16.size (.integer n.toNat)).map UInt16.ofNat = some n
    rw [Json.naturalBelow?_of_lt n.toNat_lt, Option.map_some, UInt16.ofNat_toNat]
  encode_ne_null _ := nofun

instance : Codec.Solid UInt32 where
  decode_encode n := by
    change (Json.naturalBelow? UInt32.size (.integer n.toNat)).map UInt32.ofNat = some n
    rw [Json.naturalBelow?_of_lt n.toNat_lt, Option.map_some, UInt32.ofNat_toNat]
  encode_ne_null _ := nofun

instance : Codec.Solid UInt64 where
  decode_encode n := by
    change (Json.naturalBelow? UInt64.size (.integer n.toNat)).map UInt64.ofNat = some n
    rw [Json.naturalBelow?_of_lt n.toNat_lt, Option.map_some, UInt64.ofNat_toNat]
  encode_ne_null _ := nofun

instance : Codec.Solid Int64 where
  decode_encode n := by
    have hlow : Int64.minValue.toInt ≤ n.toInt := n.minValue_le_toInt
    have hhigh : n.toInt < Int64.maxValue.toInt + 1 := Int.lt_add_one_of_le n.toInt_le
    change ((Json.integer n.toInt).integerIn? Int64.minValue.toInt
      (Int64.maxValue.toInt + 1)).map Int64.ofInt = some n
    rw [Json.integerIn?, if_pos ⟨hlow, hhigh⟩, Option.map_some, Int64.ofInt_toInt]
  encode_ne_null _ := nofun

/-! ## Lists and absent values -/

instance [Codec α] [Codec.Lawful α] : Codec.Solid (List α) where
  decode_encode items := by
    change (items.map encode).mapM decode? = some items
    induction items with
    | nil => rfl
    | cons a rest ih =>
      rw [List.map_cons, List.mapM_cons, decode_encode, ih]
      rfl
  encode_ne_null _ := nofun

instance [Codec α] [Codec.Solid α] : Codec.Lawful (Option α) where
  decode_encode a? := by
    cases a? with
    | none => rfl
    | some a =>
      have hsome : (decode? (encode (some a)) : Option (Option α)) =
          (decode? (encode a) : Option α).map some := by
        have hnull := Codec.Solid.encode_ne_null a
        change (decode? (encode a) : Option (Option α)) = _
        generalize encode a = json at hnull
        cases json with
        | null => exact absurd rfl hnull
        | boolean _ | integer _ | decimal _ | string _ | array _ | object _ => rfl
      rw [hsome, decode_encode, Option.map_some]

/-! ## The members of a record -/

namespace Json

namespace Members

theorem get?_append (key : String) (front behind : Members) :
    get? key (front ++ behind) = (get? key behind).or (get? key front) := by
  induction front with
  | nil => exact Option.or_none.symm
  | cons member rest ih => rw [List.cons_append, get?, ih, Option.or_assoc, get?]

theorem get?_omitted [Codec α] (key own : String) (a? : Option α) :
    get? key (omitted own a?) = if own = key then a?.map encode else none := by
  cases a? with
  | none => exact (ite_self none).symm
  | some a => rfl

end Members

variable {members : Members} {key : String} {b : β}

theorem read_object {f : Members → Option β} (h : f members = some b) :
    ((object members).members? >>= f) = some b := h

theorem read_required [Codec α] [Codec.Lawful α] {f : α → Option β} {a : α}
    (hget : members.get? key = some (encode a)) (h : f a = some b) :
    (members.required key >>= f) = some b := by
  rw [Members.required, hget, Option.bind_some, decode_encode]
  exact h

/-- An absent value may be written as null. -/
theorem read_optional [Codec α] [Codec.Solid α] {f : Option α → Option β} {a? : Option α}
    (hget : members.get? key = some (encode a?)) (h : f a? = some b) :
    (members.optional key >>= f) = some b := by
  rw [Members.optional, hget]
  dsimp only
  rw [decode_encode]
  exact h

/-- An absent value may be left out. -/
theorem read_omitted [Codec α] [Codec.Solid α] {f : Option α → Option β} {a? : Option α}
    (hget : members.get? key = a?.map encode) (h : f a? = some b) :
    (members.optional key >>= f) = some b := by
  cases a? with
  | none =>
    rw [Members.optional, hget]
    exact h
  | some a =>
    have hsome : members.get? key = some (encode (some a)) := hget
    exact read_optional hsome h

/-- An empty list may be left out, but is written. -/
theorem read_listOrEmpty [Codec α] [Codec.Lawful α] {f : List α → Option β} {items : List α}
    (hget : members.get? key = some (encode items)) (h : f items = some b) :
    (members.listOrEmpty key >>= f) = some b := by
  rw [Members.listOrEmpty, hget]
  dsimp only
  rw [decode_encode]
  exact h

end Json

open Json

/-! ## Traffic -/

instance : Codec.Solid TimeUnit where
  decode_encode := TimeUnit.ofSymbol?_symbol
  encode_ne_null _ := nofun

instance : Codec.Solid Duration where
  decode_encode _ := read_object <| read_required rfl <| read_required rfl rfl
  encode_ne_null _ := nofun

instance : Codec.Solid ValueRange where
  decode_encode _ := read_object <| read_required rfl <| read_required rfl rfl
  encode_ne_null _ := nofun

instance : Codec.Solid ValueMatch where
  decode_encode _ := read_object <| read_optional rfl <| read_optional rfl <|
    read_optional rfl <| read_optional rfl <| read_optional rfl rfl
  encode_ne_null _ := nofun

instance : Codec.Solid PathMatch where
  decode_encode _ := read_object <| read_optional rfl <| read_optional rfl rfl
  encode_ne_null _ := nofun

instance : Codec.Solid HeaderMatch where
  decode_encode _ := read_object <| read_required rfl <| read_optional rfl <|
    read_optional rfl rfl
  encode_ne_null _ := nofun

instance : Codec.Solid MetadataMatch where
  decode_encode _ := read_object <| read_required rfl <| read_optional rfl <|
    read_optional rfl rfl
  encode_ne_null _ := nofun

instance : Codec.Solid QueryValueMatch where
  decode_encode _ := read_object <| read_optional rfl rfl
  encode_ne_null _ := nofun

instance : Codec.Solid QueryMatch where
  decode_encode _ := read_object <| read_required rfl <| read_optional rfl rfl
  encode_ne_null _ := nofun

instance : Codec.Solid TcpMatch where
  decode_encode _ := read_object <| read_optional rfl rfl
  encode_ne_null _ := nofun

instance : Codec.Solid RequestTimeout where
  decode_encode _ := read_object <| read_optional rfl <| read_optional rfl rfl
  encode_ne_null _ := nofun

instance : Codec.Solid TcpTimeout where
  decode_encode _ := read_object <| read_optional rfl rfl
  encode_ne_null _ := nofun

/-! ## Declared targets -/

namespace Declared

instance : Codec.Solid NodeReference where
  decode_encode _ := read_object <| read_optional rfl <| read_required rfl rfl
  encode_ne_null _ := nofun

instance : Codec.Solid WeightedTarget where
  decode_encode _ := read_object <| read_optional rfl <| read_optional rfl <|
    read_required rfl <| read_optional rfl rfl
  encode_ne_null _ := nofun

end Declared

/-! ## Remote specs -/

namespace Remote

instance : Codec.Solid WeightedTarget where
  decode_encode _ := read_object <| read_required rfl <| read_required rfl <|
    read_optional rfl rfl
  encode_ne_null _ := nofun

instance : Codec.Solid RouteAction where
  decode_encode _ := read_object <| read_required rfl rfl
  encode_ne_null _ := nofun

instance : Codec.Solid HttpRouteMatch where
  decode_encode _ := read_object <| read_optional rfl <| read_optional rfl <|
    read_optional rfl <| read_optional rfl <| read_optional rfl <| read_optional rfl <|
    read_optional rfl rfl
  encode_ne_null _ := nofun

instance : Codec.Solid HttpRetryPolicy where
  decode_encode _ := read_object <| read_optional rfl <| read_optional rfl <|
    read_required rfl <| read_required rfl rfl
  encode_ne_null _ := nofun

instance : Codec.Solid HttpRoute where
  decode_encode _ := read_object <| read_required rfl <| read_required rfl <|
    read_optional rfl <| read_optional rfl rfl
  encode_ne_null _ := nofun

instance : Codec.Solid GrpcRouteMatch where
  decode_encode _ := read_object <| read_optional rfl <| read_optional rfl <|
    read_optional rfl <| read_optional rfl rfl
  encode_ne_null _ := nofun

instance : Codec.Solid GrpcRetryPolicy where
  decode_encode _ := read_object <| read_optional rfl <| read_optional rfl <|
    read_optional rfl <| read_required rfl <| read_required rfl rfl
  encode_ne_null _ := nofun

instance : Codec.Solid GrpcRoute where
  decode_encode _ := read_object <| read_required rfl <| read_required rfl <|
    read_optional rfl <| read_optional rfl rfl
  encode_ne_null _ := nofun

instance : Codec.Solid TcpRoute where
  decode_encode _ := read_object <| read_optional rfl <| read_required rfl <|
    read_optional rfl rfl
  encode_ne_null _ := nofun

instance : Codec.Solid RouteSpec where
  decode_encode _ := read_object <| read_optional rfl <| read_optional rfl <|
    read_optional rfl <| read_optional rfl <| read_optional rfl rfl
  encode_ne_null _ := nofun

end Remote

end MeshRoutes

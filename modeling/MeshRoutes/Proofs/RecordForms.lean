import MeshRoutes.Proofs.CodecLaws
import MeshRoutes.Proofs.NormalForm
import MeshRoutes.Remote.Route
/-!
# Remote records in JSON

A record of the control plane is read back as it was written, so an absent collection and an empty
one have different forms. Agreement up to omissions shows in the forms as well: it is their equality
once null stands in the place of every empty array, the weighted targets apart, which are a list
that is never absent.

* `Json.nullEmpty` : null in the place of empty arrays.
* `Remote.RouteSpec.bare_encode` : the form of a spec becomes that of its normal form.
* `Remote.agreement_by_form` : what the forms of records and of specs tell.
-/

namespace MeshRoutes

variable {α : Type}

namespace Json

/-- An array without items. -/
def isEmptyArray : Json → Bool
  | array items => items.isEmpty
  | _ => false

mutual

/-- The value with null in the place of each empty array, wherever it stands. Only where it is the
value of a member named `kept`, an empty array stays. -/
def nullEmpty (kept : String) : Json → Json
  | array [] => null
  | array (item :: rest) => array (item.nullEmpty kept :: nullItems kept rest)
  | object members => object (nullMembers kept members)
  | json => json

def nullItems (kept : String) : List Json → List Json
  | [] => []
  | item :: rest => item.nullEmpty kept :: nullItems kept rest

def nullMembers (kept : String) : List (String × Json) → List (String × Json)
  | [] => []
  | (key, value) :: rest =>
    (key, if key = kept && value.isEmptyArray then value else value.nullEmpty kept)
      :: nullMembers kept rest

end

example : (object [("targets", array []), ("rest", array [array [], object []])]).nullEmpty
    "targets" = object [("targets", array []), ("rest", array [null, object []])] := rfl

end Json

namespace Remote

/-- The form with null in the place of each empty array, the weighted targets apart. -/
def bare : Json → Json := Json.nullEmpty "weightedTargets"

/-- Values whose form has no empty array to be replaced. -/
class Bare (α : Type) [Codec α] : Prop where
  bare_encode (a : α) : bare (encode a) = encode a

export Bare (bare_encode)

/-! ## Single values -/

instance : Bare Bool := ⟨fun _ => rfl⟩
instance : Bare String := ⟨fun _ => rfl⟩
instance : Bare UInt16 := ⟨fun _ => rfl⟩
instance : Bare UInt32 := ⟨fun _ => rfl⟩
instance : Bare UInt64 := ⟨fun _ => rfl⟩
instance : Bare Int64 := ⟨fun _ => rfl⟩
instance : Bare TimeUnit := ⟨fun _ => rfl⟩

theorem bare_option [Codec α] {normalize : α → α}
    (h : ∀ a : α, bare (encode a) = encode (normalize a)) (a? : Option α) :
    bare (encode a?) = encode (a?.map normalize) := by
  cases a? with
  | none => rfl
  | some a => exact h a

instance [Codec α] [Bare α] : Bare (Option α) where
  bare_encode a? := by
    have hsame : ∀ a : α, bare (encode a) = encode (id a) := bare_encode
    rw [bare_option hsame, Option.map_id_apply]

/-! ## Lists -/

section List

variable [Codec α] [Bare α]

theorem nullItems_encode (items : List α) :
    Json.nullItems "weightedTargets" (items.map encode) = items.map encode := by
  induction items with
  | nil => rfl
  | cons item rest ih =>
    rw [List.map_cons, Json.nullItems, ih]
    exact congrArg (· :: rest.map encode) (bare_encode item)

theorem bare_cons (item : α) (rest : List α) :
    bare (encode (item :: rest)) = encode (item :: rest) :=
  congrArg Json.array (nullItems_encode (item :: rest))

/-- An empty collection is replaced by null, as a normal form leaves it out. -/
theorem bare_collection (items : Option (List α)) :
    bare (encode items) = encode (omitEmpty items) := by
  rcases items with _ | _ | ⟨item, rest⟩
  · rfl
  · rfl
  · exact bare_cons item rest

end List

/-! ## Members -/

section Members

open Json

variable {members members' rest rest' : Members} {key : String} {value value' : Json}

theorem bare_object (h : nullMembers "weightedTargets" members = members') :
    bare (object members) = object members' :=
  congrArg object h

theorem bare_member (hkey : key ≠ "weightedTargets") (hvalue : bare value = value')
    (hrest : nullMembers "weightedTargets" rest = rest') :
    nullMembers "weightedTargets" ((key, value) :: rest) = (key, value') :: rest' := by
  rw [nullMembers, hrest, decide_eq_false hkey, Bool.false_and, if_neg Bool.false_ne_true]
  exact congrArg (fun value => (key, value) :: rest') hvalue

theorem bare_same [Codec α] [Bare α] {a : α}
    (hrest : nullMembers "weightedTargets" rest = rest') :
    nullMembers "weightedTargets" ((key, encode a) :: rest) = (key, encode a) :: rest' := by
  have hvalue : (encode a).nullEmpty "weightedTargets" = encode a := bare_encode a
  rw [nullMembers, hrest, hvalue, ite_self]

theorem bare_targets [Codec α] [Bare α] {items : List α} :
    nullMembers "weightedTargets" [("weightedTargets", encode items)] =
      [("weightedTargets", encode items)] := by
  cases items with
  | nil => rfl
  | cons item rest =>
    exact congrArg (fun value => [("weightedTargets", value)]) (bare_cons item rest)

end Members

/-! ## Records without optional collections -/

instance : Bare Duration := ⟨fun _ => bare_object <| bare_same <| bare_same rfl⟩

instance : Bare ValueRange := ⟨fun _ => bare_object <| bare_same <| bare_same rfl⟩

instance : Bare ValueMatch := ⟨fun _ => bare_object <| bare_same <| bare_same <|
  bare_same <| bare_same <| bare_same rfl⟩

instance : Bare PathMatch := ⟨fun _ => bare_object <| bare_same <| bare_same rfl⟩

instance : Bare HeaderMatch := ⟨fun _ => bare_object <| bare_same <| bare_same <|
  bare_same rfl⟩

instance : Bare MetadataMatch := ⟨fun _ => bare_object <| bare_same <| bare_same <|
  bare_same rfl⟩

instance : Bare QueryValueMatch := ⟨fun _ => bare_object <| bare_same rfl⟩

instance : Bare QueryMatch := ⟨fun _ => bare_object <| bare_same <| bare_same rfl⟩

instance : Bare TcpMatch := ⟨fun _ => bare_object <| bare_same rfl⟩

instance : Bare RequestTimeout := ⟨fun _ => bare_object <| bare_same <| bare_same rfl⟩

instance : Bare TcpTimeout := ⟨fun _ => bare_object <| bare_same rfl⟩

instance : Bare WeightedTarget := ⟨fun _ => bare_object <| bare_same <| bare_same <|
  bare_same rfl⟩

instance : Bare RouteAction := ⟨fun _ => bare_object bare_targets⟩

instance : Bare TcpRoute := ⟨fun _ => bare_object <| bare_same <| bare_same <|
  bare_same rfl⟩

/-! ## Records with optional collections -/

theorem HttpRouteMatch.bare_encode (criteria : HttpRouteMatch) :
    bare (encode criteria) = encode (criteria.mapCollections @omitEmpty) :=
  bare_object <| bare_same <| bare_same <| bare_same <| bare_same <|
    bare_member (by decide) (bare_collection _) <|
    bare_member (by decide) (bare_collection _) <| bare_same rfl

theorem HttpRetryPolicy.bare_encode (policy : HttpRetryPolicy) :
    bare (encode policy) = encode (policy.mapCollections @omitEmpty) :=
  bare_object <| bare_member (by decide) (bare_collection _) <|
    bare_member (by decide) (bare_collection _) <| bare_same <| bare_same rfl

theorem HttpRoute.bare_encode (route : HttpRoute) :
    bare (encode route) = encode (route.mapCollections @omitEmpty) :=
  bare_object <| bare_member (by decide) (HttpRouteMatch.bare_encode _) <| bare_same <|
    bare_member (by decide) (bare_option HttpRetryPolicy.bare_encode _) <| bare_same rfl

theorem GrpcRouteMatch.bare_encode (criteria : GrpcRouteMatch) :
    bare (encode criteria) = encode (criteria.mapCollections @omitEmpty) :=
  bare_object <| bare_same <| bare_same <|
    bare_member (by decide) (bare_collection _) <| bare_same rfl

theorem GrpcRetryPolicy.bare_encode (policy : GrpcRetryPolicy) :
    bare (encode policy) = encode (policy.mapCollections @omitEmpty) :=
  bare_object <| bare_member (by decide) (bare_collection _) <|
    bare_member (by decide) (bare_collection _) <|
    bare_member (by decide) (bare_collection _) <| bare_same <| bare_same rfl

theorem GrpcRoute.bare_encode (route : GrpcRoute) :
    bare (encode route) = encode (route.mapCollections @omitEmpty) :=
  bare_object <| bare_member (by decide) (GrpcRouteMatch.bare_encode _) <| bare_same <|
    bare_member (by decide) (bare_option GrpcRetryPolicy.bare_encode _) <| bare_same rfl

theorem RouteSpec.bare_encode (spec : RouteSpec) :
    bare (encode spec) = encode spec.normalize :=
  bare_object <| bare_same <|
    bare_member (by decide) (bare_option GrpcRoute.bare_encode _) <|
    bare_member (by decide) (bare_option HttpRoute.bare_encode _) <|
    bare_member (by decide) (bare_option HttpRoute.bare_encode _) <| bare_same rfl

/-! ## Records of the control plane -/

instance : Codec.Solid RouteMetadata where
  decode_encode _ := Json.read_object <| Json.read_required rfl <| Json.read_optional rfl <|
    Json.read_optional rfl <| Json.read_required rfl <| Json.read_required rfl rfl
  encode_ne_null _ := nofun

instance : Codec.Solid RouteRecord where
  decode_encode _ := Json.read_object <| Json.read_required rfl <| Json.read_required rfl <|
    Json.read_required rfl <| Json.read_required rfl <| Json.read_required rfl rfl
  encode_ne_null _ := nofun

/-- A record is read back from what is written for it. Specs agree exactly, where an absent
collection and an empty one differ, if they have the same form, and up to omissions if their forms
are the same once null stands in the place of every empty array but the weighted targets. -/
theorem agreement_by_form :
    (∀ record : RouteRecord, decode? (encode record) = some record) ∧
    (∀ a b : RouteSpec, agree .exact a b ↔ encode a = encode b) ∧
    ∀ a b : RouteSpec, agree .upToEmpty a b ↔ bare (encode a) = bare (encode b) := by
  refine ⟨decode_encode, fun a b => ?_, fun a b => ?_⟩
  · rw [RouteSpec.agree_exact_iff, encode_inj]
  · rw [RouteSpec.agree_upToEmpty_iff, RouteSpec.bare_encode, RouteSpec.bare_encode, encode_inj]

end Remote

end MeshRoutes

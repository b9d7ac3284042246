import MeshRoutes.Declared.Resource
import MeshRoutes.Proofs.CodecLaws
/-!
# Custom resources in JSON

A mesh and a virtual router are read back as they were written. An absent value takes three forms
on the way: most are written as null, the priority and the variants of a route and the names of a
resource are left out, and an empty list is written as one although a reader would not miss it. The
law is shown from the leaves up, member by member of each record.

* `Declared.resources_read_back` : what is written is read back, and what was read from any JSON
  value is read again from what is written for it.
-/

namespace MeshRoutes

open Json

/-! ## Listeners -/

instance : Codec.Solid Protocol where
  decode_encode := Protocol.ofSymbol?_symbol
  encode_ne_null _ := nofun

instance : Codec.Solid PortMapping where
  decode_encode _ := read_object <| read_required rfl <| read_required rfl rfl
  encode_ne_null _ := nofun

instance : Codec.Solid Listener where
  decode_encode _ := read_object <| read_required rfl rfl
  encode_ne_null _ := nofun

namespace Declared

/-! ## Routes -/

instance : Codec.Solid RouteAction where
  decode_encode _ := read_object <| read_required rfl rfl
  encode_ne_null _ := nofun

instance : Codec.Solid HttpRouteMatch where
  decode_encode _ := read_object <| read_optional rfl <| read_optional rfl <|
    read_optional rfl <| read_optional rfl <| read_listOrEmpty rfl <| read_listOrEmpty rfl <|
    read_optional rfl rfl
  encode_ne_null _ := nofun

instance : Codec.Solid HttpRetryPolicy where
  decode_encode _ := read_object <| read_listOrEmpty rfl <| read_listOrEmpty rfl <|
    read_required rfl <| read_required rfl rfl
  encode_ne_null _ := nofun

instance : Codec.Solid HttpRoute where
  decode_encode _ := read_object <| read_required rfl <| read_required rfl <|
    read_optional rfl <| read_optional rfl rfl
  encode_ne_null _ := nofun

instance : Codec.Solid GrpcRouteMatch where
  decode_encode _ := read_object <| read_optional rfl <| read_optional rfl <|
    read_listOrEmpty rfl <| read_optional rfl rfl
  encode_ne_null _ := nofun

instance : Codec.Solid GrpcRetryPolicy where
  decode_encode _ := read_object <| read_listOrEmpty rfl <| read_listOrEmpty rfl <|
    read_listOrEmpty rfl <| read_required rfl <| read_required rfl rfl
  encode_ne_null _ := nofun

instance : Codec.Solid GrpcRoute where
  decode_encode _ := read_object <| read_required rfl <| read_required rfl <|
    read_optional rfl <| read_optional rfl rfl
  encode_ne_null _ := nofun

instance : Codec.Solid TcpRoute where
  decode_encode _ := read_object <| read_optional rfl <| read_required rfl <|
    read_optional rfl rfl
  encode_ne_null _ := nofun

/-- What is not set is left out, so each member is looked for behind all that may be missing. -/
instance : Codec.Solid Route where
  decode_encode route := by
    refine read_object <| read_required ?_ <| read_omitted ?_ <| read_omitted ?_ <|
      read_omitted ?_ <| read_omitted ?_ <| read_omitted ?_ rfl
    all_goals simp [Members.get?, Members.get?_append, Members.get?_omitted]
  encode_ne_null _ := nofun

/-! ## Resources -/

instance : Codec.Solid Metadata where
  decode_encode metadata := by
    refine read_object <| read_omitted ?_ <| read_omitted ?_ <| read_omitted ?_ rfl
    all_goals simp [Members.get?_append, Members.get?_omitted]
  encode_ne_null _ := nofun

instance : Codec.Solid MeshSpec where
  decode_encode _ := read_object <| read_optional rfl <| read_optional rfl rfl
  encode_ne_null _ := nofun

instance : Codec.Solid VirtualRouterSpec where
  decode_encode _ := read_object <| read_optional rfl <| read_listOrEmpty rfl <|
    read_listOrEmpty rfl rfl
  encode_ne_null _ := nofun

instance : Codec.Solid Mesh where
  decode_encode _ := read_object <| read_required rfl <| read_required rfl rfl
  encode_ne_null _ := nofun

instance : Codec.Solid VirtualRouter where
  decode_encode _ := read_object <| read_required rfl <| read_required rfl rfl
  encode_ne_null _ := nofun

/-- Every mesh and every virtual router is read back from what is written for it. So of any JSON
value that is read as a virtual router, whatever it leaves out or has besides, nothing that was read
is lost when the router is written and read again. -/
theorem resources_read_back :
    (∀ mesh : Mesh, decode? (encode mesh) = some mesh) ∧
    (∀ router : VirtualRouter, decode? (encode router) = some router) ∧
    ∀ (json : Json) (router : VirtualRouter), decode? json = some router →
      decode? (encode router) = (decode? json : Option VirtualRouter) := by
  refine ⟨decode_encode, decode_encode, fun json router h => ?_⟩
  rw [decode_encode, h]

end Declared

namespace Rehearsal.Sample

/-- A router with members that are left out, null, repeated or of no account. -/
def handwritten : Json := .object
  [("kind", .boolean true),
    ("metadata", .object [("name", .string "draft"), ("namespace", .null), ("labels", .object []),
      ("name", .string "edge")]),
    ("spec", .object
      [("listeners", .array [.object [("portMapping",
          .object [("port", .integer 65535), ("protocol", .string "http2")])]]),
        ("routes", .array [.object [("name", .string "all"), ("priority", .null),
          ("http2Route", .object [("match", .object [("headers", .array [])]),
            ("action", .object [("weightedTargets", .array [])])])]])])]

end Rehearsal.Sample

namespace Declared

open Rehearsal in
theorem resources_read_back_on_sample :
    ∃ router : VirtualRouter, decode? Sample.handwritten = some router ∧
      router.metadata = { name := some "edge" } ∧
      router.spec.listeners = [⟨⟨65535, .http2⟩⟩] ∧
      router.spec.routes = [{ name := "all", http2 := some ⟨{}, ⟨[]⟩, none, none⟩ }] ∧
      decode? (encode router) = (decode? Sample.handwritten : Option VirtualRouter) :=
  ⟨_, rfl, rfl, rfl, rfl, resources_read_back.2.2 Sample.handwritten _ rfl⟩

end Declared

end MeshRoutes

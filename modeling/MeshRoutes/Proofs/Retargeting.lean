import MeshRoutes.Proofs.CodecLaws
import MeshRoutes.Proofs.PlainStage
import MeshRoutes.Proofs.Variants
/-!
# The remote spec by way of JSON

Apart from their targets, a declared route and its remote spec have the same JSON form: what they
call the same is written alike, and a collection that is always present is written like one that
may be absent and is not. So the spec of a route can be had from its form alone, by writing into it
the names that its targets resolve to.

* `Declared.retarget` : the form of a route, with its targets resolved.
* `Declared.resolve_via_json` : what is read from it is the spec.
-/

namespace MeshRoutes

variable {α β ε : Type}

namespace Json

/-- Rewrites the values of some members. -/
def Members.mapAt (keys : List String) (f : Json → Json) (members : Members) : Members :=
  members.map fun (key, value) => (key, if key ∈ keys then f value else value)

/-- Rewrites the values of some members of an object. -/
def mapMembers (keys : List String) (f : Json → Json) : Json → Json
  | object members => object (Members.mapAt keys f members)
  | json => json

/-- Rewrites the items of an array. -/
def mapItems (f : Json → Json) : Json → Json
  | array items => array (items.map f)
  | json => json

theorem Members.mapAt_append (keys : List String) (f : Json → Json) (front behind : Members) :
    (front ++ behind).mapAt keys f = front.mapAt keys f ++ behind.mapAt keys f :=
  List.map_append

theorem Members.mapAt_omitted_of_notMem [Codec α] {keys : List String} {key : String}
    (hkey : key ∉ keys) (f : Json → Json) (a? : Option α) :
    (omitted key a?).mapAt keys f = omitted key a? := by
  cases a? with
  | none => rfl
  | some a => exact congrArg (fun value => [(key, value)]) (if_neg hkey)

section Resolved

variable [Codec α] [Codec β] {f : Json → Json} {resolve : α → Except ε β}
  (hf : ∀ a b, resolve a = .ok b → f (encode a) = encode b)

include hf

theorem mapItems_encode {items : List α} {resolved : List β}
    (h : items.mapM resolve = .ok resolved) : (encode items).mapItems f = encode resolved := by
  refine congrArg array (?_ : (items.map encode).map f = resolved.map encode)
  rw [mapM_eq_ok_iff] at h
  induction h with
  | nil => rfl
  | cons hb _ ih => rw [List.map_cons, List.map_cons, List.map_cons, hf _ _ hb, ih]

theorem mapAt_omitted {keys : List String} {key : String} (hkey : key ∈ keys)
    {a? : Option α} {b? : Option β} (h : a?.mapM resolve = .ok b?) :
    (Members.omitted key a?).mapAt keys f = Members.omitted key b? := by
  cases a? with
  | none =>
    cases h
    rfl
  | some a =>
    obtain ⟨b, hb, ⟨⟩⟩ := bind_eq_ok_iff.1 h
    rw [Members.omitted, Members.mapAt, List.map_singleton]
    dsimp only
    rw [if_pos hkey, hf a b hb]
    rfl

end Resolved

end Json

namespace Declared

variable {scope : Scope}

/-- The form of a target, with the name of its node in place of what refers to the node, where it
is one that can be resolved. The weight and the port stay as they are written. -/
def retargetItem (scope : Scope) (json : Json) : Json :=
  let target? : Option WeightedTarget := decode? json
  match target?.bind fun target => (target.nodeName scope).toOption with
  | some node => .object [("virtualNode", encode node),
      ("weight", (json.get? "weight").getD .null), ("port", (json.get? "port").getD .null)]
  | none => json

/-- The form of an action, with its targets resolved. -/
def retargetAction (scope : Scope) : Json → Json :=
  Json.mapMembers ["weightedTargets"] (Json.mapItems (retargetItem scope))

/-- The form of a route, with the targets of its variants resolved. -/
def retarget (scope : Scope) : Json → Json :=
  Json.mapMembers ["grpcRoute", "httpRoute", "http2Route", "tcpRoute"]
    (Json.mapMembers ["action"] (retargetAction scope))

theorem retargetItem_encode (target : WeightedTarget) (resolved : Remote.WeightedTarget)
    (h : target.resolve scope = .ok resolved) :
    retargetItem scope (encode target) = encode resolved := by
  obtain ⟨node, hnode, ⟨⟩⟩ := bind_eq_ok_iff.1 h
  unfold retargetItem
  rw [decode_encode]
  dsimp only
  rw [Option.bind_some, hnode]
  rfl

theorem retargetAction_encode (action : RouteAction) (resolved : Remote.RouteAction)
    (h : action.resolve scope = .ok resolved) :
    retargetAction scope (encode action) = encode resolved := by
  obtain ⟨targets, htargets, ⟨⟩⟩ := bind_eq_ok_iff.1 h
  have hitems := Json.mapItems_encode retargetItem_encode htargets
  change Json.object [("weightedTargets", Json.mapItems _ (encode action.targets))] = _
  rw [hitems]
  rfl

theorem HttpRoute.retarget_encode (route : HttpRoute) (resolved : Remote.HttpRoute)
    (h : route.resolve scope = .ok resolved) :
    Json.mapMembers ["action"] (retargetAction scope) (encode route) = encode resolved := by
  obtain ⟨action, haction, ⟨⟩⟩ := bind_eq_ok_iff.1 h
  have hpolicy : encode (route.retryPolicy.map (·.remote)) = encode route.retryPolicy := by
    cases route.retryPolicy <;> rfl
  change Json.object [("match", encode route.criteria),
    ("action", retargetAction scope (encode route.action)),
    ("retryPolicy", encode route.retryPolicy), ("timeout", encode route.timeout)] = _
  rw [retargetAction_encode route.action action haction, ← hpolicy]
  rfl

theorem GrpcRoute.retarget_encode (route : GrpcRoute) (resolved : Remote.GrpcRoute)
    (h : route.resolve scope = .ok resolved) :
    Json.mapMembers ["action"] (retargetAction scope) (encode route) = encode resolved := by
  obtain ⟨action, haction, ⟨⟩⟩ := bind_eq_ok_iff.1 h
  have hpolicy : encode (route.retryPolicy.map (·.remote)) = encode route.retryPolicy := by
    cases route.retryPolicy <;> rfl
  change Json.object [("match", encode route.criteria),
    ("action", retargetAction scope (encode route.action)),
    ("retryPolicy", encode route.retryPolicy), ("timeout", encode route.timeout)] = _
  rw [retargetAction_encode route.action action haction, ← hpolicy]
  rfl

theorem TcpRoute.retarget_encode (route : TcpRoute) (resolved : Remote.TcpRoute)
    (h : route.resolve scope = .ok resolved) :
    Json.mapMembers ["action"] (retargetAction scope) (encode route) = encode resolved := by
  obtain ⟨action, haction, ⟨⟩⟩ := bind_eq_ok_iff.1 h
  change Json.object [("match", encode route.criteria),
    ("action", retargetAction scope (encode route.action)),
    ("timeout", encode route.timeout)] = _
  rw [retargetAction_encode route.action action haction]
  rfl

/-- The members of a route's form with its targets resolved: the name, and what is set of the
spec. -/
def retargetedMembers (name : String) (spec : Remote.RouteSpec) : Json.Members :=
  ("name", encode name)
    :: (Json.Members.omitted "priority" spec.priority
      ++ Json.Members.omitted "grpcRoute" spec.grpc
      ++ Json.Members.omitted "httpRoute" spec.http
      ++ Json.Members.omitted "http2Route" spec.http2
      ++ Json.Members.omitted "tcpRoute" spec.tcp)

theorem Route.retarget_encode {route : Route} {spec : Remote.RouteSpec}
    (h : route.resolve scope = .ok spec) :
    retarget scope (encode route) = .object (retargetedMembers route.name spec) := by
  obtain ⟨hpriority, hgrpc, hhttp, hhttp2, htcp⟩ := parts_of_resolve h
  refine congrArg (Json.object <| ("name", encode route.name) :: ·) ?_
  change Json.Members.mapAt _ _ _ = _
  rw [Json.Members.mapAt_append, Json.Members.mapAt_append, Json.Members.mapAt_append,
    Json.Members.mapAt_append, Json.Members.mapAt_omitted_of_notMem (by decide), hpriority,
    Json.mapAt_omitted GrpcRoute.retarget_encode (by decide) hgrpc,
    Json.mapAt_omitted HttpRoute.retarget_encode (by decide) hhttp,
    Json.mapAt_omitted HttpRoute.retarget_encode (by decide) hhttp2,
    Json.mapAt_omitted TcpRoute.retarget_encode (by decide) htcp]

/-- A spec is read from what is set of it, and another member is of no account. -/
theorem decode_retargetedMembers (name : String) (spec : Remote.RouteSpec) :
    decode? (.object (retargetedMembers name spec)) = some spec := by
  refine Json.read_object <| Json.read_omitted ?_ <| Json.read_omitted ?_ <|
    Json.read_omitted ?_ <| Json.read_omitted ?_ <| Json.read_omitted ?_ rfl
  all_goals
    simp [retargetedMembers, Json.Members.get?, Json.Members.get?_append,
      Json.Members.get?_omitted]

/-- Where a route has a remote spec, that spec is what is read from the route's own form with its
targets resolved in it. -/
theorem resolve_via_json (router : VirtualRouter) (nodes : VirtualNode.Table) (route : Route)
    (spec : Remote.RouteSpec) (h : route.resolve (router.scope nodes) = .ok spec) :
    decode? (retarget (router.scope nodes) (encode route)) = some spec := by
  rw [Route.retarget_encode h, decode_retargetedMembers]

end Declared

namespace Rehearsal.Sample

/-- It names one node by its resource and another one by its ARN. -/
def mixed : Declared.Route where
  name := "mixed"
  priority := some 7
  http := some {
    criteria := { leading := some "/", headers := [{ name := "host", invert := some true }] }
    action := ⟨[{ node := some { name := "backend" }, weight := 3, port := some 80 },
      { arn := some "arn:aws:appmesh:eu-west-1:1:mesh/mesh/virtualNode/edge", weight := 1 }]⟩
    timeout := some { idle := some ⟨.seconds, 5⟩ } }

end Rehearsal.Sample

namespace Declared

open Rehearsal in
theorem resolve_via_json_on_sample :
    ∃ spec : Remote.RouteSpec,
      Sample.mixed.resolve (Sample.router.scope Sample.nodes) = .ok spec ∧
        spec.http.map (·.action.targets) =
          some [⟨"backend_web", 3, some 80⟩, ⟨"edge", 1, none⟩] ∧
        decode? (retarget (Sample.router.scope Sample.nodes) (encode Sample.mixed)) =
          some spec :=
  ⟨_, rfl, rfl, resolve_via_json Sample.router Sample.nodes Sample.mixed _ rfl⟩

end Declared

end MeshRoutes

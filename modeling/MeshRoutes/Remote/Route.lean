import MeshRoutes.Declared.Resource
import MeshRoutes.Remote.Json
/-!
# Routers and routes in the remote control plane

A router and a route are addressed by refs. The control plane describes a route by a record,
whose metadata says who owns the mesh that the route is in.
-/

namespace MeshRoutes.Remote

/-- The address of a virtual router. -/
structure RouterRef where
  meshName : String
  meshOwner : Option String := none
  routerName : String
deriving DecidableEq

/-- The address of a route. -/
structure RouteRef where
  meshName : String
  meshOwner : Option String := none
  routerName : String
  routeName : String
deriving DecidableEq

structure RouteMetadata where
  arn : String
  meshOwner : Option String := none
  resourceOwner : Option String := none
  uid : String
  version : UInt64
deriving DecidableEq, Inhabited

/-- A route as the control plane describes it. -/
structure RouteRecord where
  meshName : String
  routerName : String
  routeName : String
  spec : RouteSpec
  metadata : RouteMetadata
deriving DecidableEq

/-- The address of a declared router in its mesh. -/
def RouterRef.of (mesh : Declared.Mesh) (router : Declared.VirtualRouter) : RouterRef where
  meshName := mesh.remoteName
  meshOwner := mesh.spec.owner
  routerName := router.remoteName

/-- The address of a route on this router. -/
def RouterRef.route (router : RouterRef) (name : String) : RouteRef where
  meshName := router.meshName
  meshOwner := router.meshOwner
  routerName := router.routerName
  routeName := name

/-- The address under which the control plane itself reports the route. -/
def RouteRecord.ref (record : RouteRecord) : RouteRef where
  meshName := record.meshName
  meshOwner := record.metadata.meshOwner
  routerName := record.routerName
  routeName := record.routeName

/-! ## JSON -/

instance : Codec RouterRef where
  encode ref := .object
    [("meshName", encode ref.meshName), ("meshOwner", encode ref.meshOwner),
      ("virtualRouterName", encode ref.routerName)]
  decode? json := do
    let members ← json.members?
    return {
      meshName := ← members.required "meshName"
      meshOwner := ← members.optional "meshOwner"
      routerName := ← members.required "virtualRouterName" }

instance : Codec RouteRef where
  encode ref := .object
    [("meshName", encode ref.meshName), ("meshOwner", encode ref.meshOwner),
      ("virtualRouterName", encode ref.routerName), ("routeName", encode ref.routeName)]
  decode? json := do
    let members ← json.members?
    return {
      meshName := ← members.required "meshName"
      meshOwner := ← members.optional "meshOwner"
      routerName := ← members.required "virtualRouterName"
      routeName := ← members.required "routeName" }

instance : Codec RouteMetadata where
  encode metadata := .object
    [("arn", encode metadata.arn), ("meshOwner", encode metadata.meshOwner),
      ("resourceOwner", encode metadata.resourceOwner), ("uid", encode metadata.uid),
      ("version", encode metadata.version)]
  decode? json := do
    let members ← json.members?
    return {
      arn := ← members.required "arn"
      meshOwner := ← members.optional "meshOwner"
      resourceOwner := ← members.optional "resourceOwner"
      uid := ← members.required "uid"
      version := ← members.required "version" }

instance : Codec RouteRecord where
  encode record := .object
    [("meshName", encode record.meshName), ("virtualRouterName", encode record.routerName),
      ("routeName", encode record.routeName), ("spec", encode record.spec),
      ("metadata", encode record.metadata)]
  decode? json := do
    let members ← json.members?
    return {
      meshName := ← members.required "meshName"
      routerName := ← members.required "virtualRouterName"
      routeName := ← members.required "routeName"
      spec := ← members.required "spec"
      metadata := ← members.required "metadata" }

end MeshRoutes.Remote

import MeshRoutes.Declared.Json
/-!
# Meshes and virtual routers

The two custom resources of the API group, with the names that they have in the remote
control plane: the name that the spec gives, or one made from the resource's own.
-/

namespace MeshRoutes.Declared

/-- The part of a resource's metadata that names it. -/
structure Metadata where
  name : Option String := none
  /-- The namespace. -/
  space : Option String := none
  /-- What a name will be generated from, where there is none yet. -/
  nameSeed : Option String := none
deriving DecidableEq

/-- The name, or else the seed of one. -/
def Metadata.ownName (metadata : Metadata) : String :=
  (metadata.name.or metadata.nameSeed).getD ""

structure MeshSpec where
  remoteName : Option String := none
  /-- The account that owns the mesh, where it is shared. -/
  owner : Option String := none
deriving DecidableEq, Inhabited

structure Mesh where
  metadata : Metadata
  spec : MeshSpec
deriving DecidableEq

structure VirtualRouterSpec where
  remoteName : Option String := none
  listeners : List Listener := []
  routes : List Route := []
deriving DecidableEq, Inhabited

structure VirtualRouter where
  metadata : Metadata
  spec : VirtualRouterSpec
deriving DecidableEq

def Mesh.remoteName (mesh : Mesh) : String :=
  mesh.spec.remoteName.getD mesh.metadata.ownName

/-- Unless the spec names it, a router's name ends in its namespace. -/
def VirtualRouter.remoteName (router : VirtualRouter) : String :=
  router.spec.remoteName.getD <|
    match router.metadata.space with
    | some space => router.metadata.ownName ++ "_" ++ space
    | none => router.metadata.ownName

/-! ## Kinds -/

/-- The identity of a kind of resource in its cluster. -/
structure Kind where
  name : String
  plural : String
deriving DecidableEq

/-- The API group of all kinds. -/
def apiGroup : String := "appmesh.k8s.aws"

namespace Kind

def version : String := "v1beta2"

def apiVersion : String := apiGroup ++ "/" ++ version

def mesh : Kind := ⟨"Mesh", "meshes"⟩

def virtualRouter : Kind := ⟨"VirtualRouter", "virtualrouters"⟩

/-- The JSON form of a resource of this kind. -/
def encodeResource (kind : Kind) (metadata spec : Json) : Json :=
  .object
    [("apiVersion", encode apiVersion), ("kind", encode kind.name), ("metadata", metadata),
      ("spec", spec)]

end Kind

/-! ## JSON -/

instance : Codec Metadata where
  encode metadata := .object <|
    Json.Members.omitted "generateName" metadata.nameSeed
      ++ Json.Members.omitted "name" metadata.name
      ++ Json.Members.omitted "namespace" metadata.space
  decode? json := do
    let members ← json.members?
    return {
      name := ← members.optional "name"
      space := ← members.optional "namespace"
      nameSeed := ← members.optional "generateName" }

instance : Codec MeshSpec where
  encode spec := .object
    [("awsName", encode spec.remoteName), ("meshOwner", encode spec.owner)]
  decode? json := do
    let members ← json.members?
    return {
      remoteName := ← members.optional "awsName"
      owner := ← members.optional "meshOwner" }

instance : Codec Mesh where
  encode mesh := Kind.mesh.encodeResource (encode mesh.metadata) (encode mesh.spec)
  decode? json := do
    let members ← json.members?
    return { metadata := ← members.required "metadata", spec := ← members.required "spec" }

instance : Codec VirtualRouterSpec where
  encode spec := .object
    [("awsName", encode spec.remoteName), ("listeners", encode spec.listeners),
      ("routes", encode spec.routes)]
  decode? json := do
    let members ← json.members?
    return {
      remoteName := ← members.optional "awsName"
      listeners := ← members.listOrEmpty "listeners"
      routes := ← members.listOrEmpty "routes" }

instance : Codec VirtualRouter where
  encode router :=
    Kind.virtualRouter.encodeResource (encode router.metadata) (encode router.spec)
  decode? json := do
    let members ← json.members?
    return { metadata := ← members.required "metadata", spec := ← members.required "spec" }

end MeshRoutes.Declared

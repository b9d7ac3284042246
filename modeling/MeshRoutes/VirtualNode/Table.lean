/-!
# Tables of virtual nodes

A virtual node's resource is identified by its namespace and its name. A table says what
each node is called in the remote control plane.
-/

namespace MeshRoutes.VirtualNode

structure Id where
  /-- The namespace. -/
  space : String
  name : String
deriving DecidableEq

namespace Id

def render (id : Id) : String := id.space ++ "/" ++ id.name

/-- Whether `a` comes before `b`: by namespace, then by name. -/
def before (a b : Id) : Bool := a.space < b.space || (a.space == b.space && a.name < b.name)

/-- The ids in ascending order, each of them once. -/
def ascending (ids : List Id) : List Id := (ids.mergeSort fun a b => !b.before a).eraseReps

end Id

/-- Remote names of virtual nodes, the latest entry in front. -/
structure Table where
  entries : List (Id × String) := []

namespace Table

/-- The remote name of a node. Where an id is repeated, its latest entry counts. -/
def get? (table : Table) (id : Id) : Option String :=
  (table.entries.find? fun entry => entry.1 == id).map Prod.snd

def insert (table : Table) (id : Id) (remoteName : String) : Table :=
  ⟨(id, remoteName) :: table.entries⟩

/-- The table of some entries, of which later ones win. -/
def ofList (entries : List (Id × String)) : Table := ⟨entries.reverse⟩

@[simp] theorem get?_insert (table : Table) (id other : Id) (remoteName : String) :
    (table.insert id remoteName).get? other =
      if id = other then some remoteName else table.get? other := by
  by_cases h : id = other <;> simp [insert, get?, h]

end Table

end MeshRoutes.VirtualNode

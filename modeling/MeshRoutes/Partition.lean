import MeshRoutes.NameMap
import MeshRoutes.Remote.Route
/-!
# Declared routes against listed refs

Routes and refs are matched by name alone, never by content, so a route that stands on one
side only is created or deleted and never updated. Each part of a partition is in ascending
order of names.
-/

namespace MeshRoutes

/-- A route that is both declared and listed. -/
structure Pairing where
  route : Declared.Route
  ref : Remote.RouteRef
deriving DecidableEq

structure Partition where
  matched : List Pairing
  /-- The declared routes that are not listed. -/
  missing : List Declared.Route
  /-- The listed refs that are not declared. -/
  surplus : List Remote.RouteRef
deriving DecidableEq

/-- A name that stands twice on one side. -/
structure DuplicateName where
  name : String
deriving DecidableEq

def DuplicateName.message (duplicate : DuplicateName) : String :=
  "duplicate route name: " ++ duplicate.name

namespace NameMap

/-- The map of some items by their names, or the first name that repeats an earlier one. -/
def index (name : α → String) (items : List α) : Except DuplicateName (NameMap α) :=
  items.foldlM (fun map item =>
    if (map.get? (name item)).isSome then .error ⟨name item⟩
    else .ok (map.insert (name item) item)) empty

end NameMap

/-- Partitions by name. A name repeated among the routes is reported before one among the
refs. -/
def Partition.of (routes : List Declared.Route) (refs : List Remote.RouteRef) :
    Except DuplicateName Partition := do
  let routes ← NameMap.index Declared.Route.name routes
  let refs ← NameMap.index Remote.RouteRef.routeName refs
  return {
    matched := routes.entries.filterMap fun (name, route) =>
      (refs.get? name).map fun ref => ⟨route, ref⟩
    missing := routes.entries.filterMap fun (name, route) =>
      if (refs.get? name).isSome then none else some route
    surplus := refs.entries.filterMap fun (name, ref) =>
      if (routes.get? name).isSome then none else some ref }

end MeshRoutes

import MeshRoutes.Listener
import MeshRoutes.Partition
/-!
# Tainted routes

A remote route is tainted if it has to go before the router's listeners can change: because
it is no longer declared, or because it matches a port that is not bound to its protocol.
-/

namespace MeshRoutes

/-- A port that a route matches by a protocol other than the one bound to it. -/
structure Conflict where
  route : String
  port : UInt16
  protocol : Protocol
  /-- What the port is bound to, if there is a listener on it at all. -/
  bound : Option Protocol
deriving DecidableEq

/-- The first conflict of a route with the listeners. -/
def Declared.Route.conflict? (listeners : List PortMapping) (route : Declared.Route) :
    Option Conflict :=
  route.matchPorts.findSome? fun (protocol, port) =>
    let bound := boundProtocol? listeners port
    if bound = some protocol then none else some ⟨route.name, port, protocol, bound⟩

namespace Partition

/-- The conflicts of the matched routes, in their order. -/
def conflicts (partition : Partition) (listeners : List PortMapping) : List Conflict :=
  partition.matched.filterMap fun pairing => pairing.route.conflict? listeners

/-- The tainted refs in ascending order of names. Where refs share a name, the last one in
conflict counts, or else the last surplus one. -/
def tainted (partition : Partition) (listeners : List PortMapping) : List Remote.RouteRef :=
  let inConflict := partition.matched.filter fun pairing =>
    (pairing.route.conflict? listeners).isSome
  let refs := partition.surplus ++ inConflict.map Pairing.ref
  (NameMap.ofList (refs.map fun ref => (ref.routeName, ref))).values

end Partition

/-- The refs that are tainted by the declared routes and the listeners. -/
def taintedRefs (routes : List Declared.Route) (listeners : List PortMapping)
    (refs : List Remote.RouteRef) : Except DuplicateName (List Remote.RouteRef) := do
  return (← Partition.of routes refs).tainted listeners

end MeshRoutes

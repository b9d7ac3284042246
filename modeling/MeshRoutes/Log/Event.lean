import MeshRoutes.Log.Spec
import MeshRoutes.Taint
/-!
# Events

What the reconciler reports about its work: an event for each thing that happens, with a
level, a message and named fields.
-/

namespace MeshRoutes.Log

inductive Level where
  | trace
  | debug
  | info
deriving DecidableEq

def Level.name : Level → String
  | trace => "TRACE"
  | debug => "DEBUG"
  | info => "INFO"

/-- The value of a field. -/
inductive Datum where
  | number (n : Nat)
  | text (s : String)
deriving DecidableEq

inductive Event where
  /-- The listing ended with so many refs. -/
  | listed (routes : Nat)
  /-- The routes were partitioned. -/
  | reconciling (create update delete : Nat)
  /-- So many tainted routes are about to go. -/
  | removing (routes : Nat)
  | conflicting (conflict : Conflict)
  | creating (route : String)
  /-- The described spec agrees with the declared route. -/
  | upToDate (route : String)
  | changed (route : String) (actual desired : Remote.RouteSpec)
  | updating (route : String)
  | deleting (route : String)
  /-- Somebody else deleted the route first. -/
  | alreadyDeleted (route : String)
deriving DecidableEq

namespace Event

def level : Event → Level
  | listed .. | upToDate .. => .trace
  | creating .. | updating .. | deleting .. => .info
  | reconciling .. | removing .. | conflicting .. | changed .. | alreadyDeleted .. => .debug

def message : Event → String
  | listed .. => "Listed routes"
  | reconciling .. => "Reconciling routes"
  | removing .. => "Removing tainted routes"
  | conflicting .. => "Route conflicts with listener"
  | creating .. => "Creating route"
  | upToDate .. => "Route is up to date"
  | changed .. => "Route spec changed"
  | updating .. => "Updating route"
  | deleting .. => "Deleting route"
  | alreadyDeleted .. => "Route already deleted"

def fields : Event → List (String × Datum)
  | listed routes | removing routes => [("routes", .number routes)]
  | reconciling create update delete =>
    [("create", .number create), ("update", .number update), ("delete", .number delete)]
  | conflicting conflict =>
    [("route", .text conflict.route), ("port", .number conflict.port.toNat),
      ("protocol", .text conflict.protocol.symbol),
      ("listener", .text (outline conflict.bound).render)]
  | changed route actual desired =>
    [("route", .text route), ("actual", .text (outline actual).render),
      ("desired", .text (outline desired).render)]
  | creating route | upToDate route | updating route | deleting route | alreadyDeleted route =>
    [("route", .text route)]

end Event

/-- The kinds of work that the reconciler is asked for. -/
inductive Errand where
  | create
  | update
  | remove
  | cleanup
deriving DecidableEq

def Errand.name : Errand → String
  | create => "create"
  | update => "update"
  | remove => "remove"
  | cleanup => "cleanup"

/-- What the events of one errand have in common. -/
structure Span where
  errand : Errand
  router : Remote.RouterRef
deriving DecidableEq

namespace Span

def name : String := "routes"

def level : Level := .info

def fields (span : Span) : List (String × Datum) :=
  [("op", .text span.errand.name), ("mesh", .text span.router.meshName),
    ("router", .text span.router.routerName)]

end Span

end MeshRoutes.Log

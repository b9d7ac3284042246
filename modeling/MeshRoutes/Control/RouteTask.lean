import MeshRoutes.Control.Task
import MeshRoutes.Remote.Agreement
/-!
# The work on one route

A missing route is created, a matched one is described and updated if its spec does not agree
with its declaration, and a surplus one is described and deleted. A route that somebody else
deleted first counts as deleted.
-/

namespace MeshRoutes.Control.RouteTask

open Remote

/-- Creates a missing route. One that cannot be resolved costs no call. -/
def create (router : RouterRef) (scope : Declared.Scope) (route : Declared.Route) :
    Task (String × RouteRecord) 1 :=
  match route.resolve scope with
  | .error defect => .done (.error (.conversion route.name defect))
  | .ok spec =>
    .log (.creating route.name) <|
      .call (.create router route.name spec) fun
        | .ok record => .done (.ok (route.name, record))
        | .error error => .done (.error (.api error))

/-- Brings a matched route to the spec of its declaration, unless it agrees with it. -/
def update (scope : Declared.Scope) (pairing : Pairing) : Task (String × RouteRecord) 2 :=
  let name := pairing.route.name
  .call (.describe pairing.ref) fun
    | .error (.notFound _) => .done (.error (.routeNotFound name))
    | .error error => .done (.error (.api error))
    | .ok actual =>
      match pairing.route.resolve scope with
      | .error defect => .done (.error (.conversion name defect))
      | .ok desired =>
        if agree .upToEmpty desired actual.spec then
          .log (.upToDate name) (.done (.ok (name, actual)))
        else
          .log (.changed name actual.spec desired) <|
            .log (.updating name) <|
              .call (.update actual.ref desired) fun
                | .ok record => .done (.ok (name, record))
                | .error error => .done (.error (.api error))

/-- Deletes the route at a ref. -/
def delete (ref : RouteRef) : Task Unit (n + 1) :=
  .log (.deleting ref.routeName) <|
    .call (.delete ref) fun
      | .ok _ => .done (.ok ())
      | .error (.notFound _) => .log (.alreadyDeleted ref.routeName) (.done (.ok ()))
      | .error error => .done (.error (.api error))

/-- Deletes a surplus route, at the address under which it is described. -/
def retire (ref : RouteRef) : Task Unit 2 :=
  .call (.describe ref) fun
    | .ok actual => delete actual.ref
    | .error (.notFound _) => .log (.alreadyDeleted ref.routeName) (.done (.ok ()))
    | .error error => .done (.error (.api error))

end MeshRoutes.Control.RouteTask

import MeshRoutes.Remote.Spec
/-!
# The normal form of a spec

A control plane that leaves out every collection that is empty holds a spec in normal form.
The list of weighted targets is no optional collection and stays.
-/

namespace MeshRoutes.Remote

/-- Leaves out a collection that is empty. -/
def omitEmpty (collection : Option (List α)) : Option (List α) :=
  collection.filter fun items => !items.isEmpty

/-- A map of the optional collections of every type. -/
abbrev CollectionMap := (α : Type) → Option (List α) → Option (List α)

/-- The optional collections of a match, a policy, a route and a spec, each replaced. -/
def HttpRouteMatch.mapCollections (f : CollectionMap) (criteria : HttpRouteMatch) :
    HttpRouteMatch :=
  { criteria with
    headers := f _ criteria.headers
    queryParameters := f _ criteria.queryParameters }

def HttpRetryPolicy.mapCollections (f : CollectionMap) (policy : HttpRetryPolicy) :
    HttpRetryPolicy :=
  { policy with httpEvents := f _ policy.httpEvents, tcpEvents := f _ policy.tcpEvents }

def HttpRoute.mapCollections (f : CollectionMap) (route : HttpRoute) : HttpRoute :=
  { route with
    criteria := route.criteria.mapCollections f
    retryPolicy := route.retryPolicy.map (·.mapCollections f) }

def GrpcRouteMatch.mapCollections (f : CollectionMap) (criteria : GrpcRouteMatch) :
    GrpcRouteMatch :=
  { criteria with metadata := f _ criteria.metadata }

def GrpcRetryPolicy.mapCollections (f : CollectionMap) (policy : GrpcRetryPolicy) :
    GrpcRetryPolicy :=
  { policy with
    grpcEvents := f _ policy.grpcEvents
    httpEvents := f _ policy.httpEvents
    tcpEvents := f _ policy.tcpEvents }

def GrpcRoute.mapCollections (f : CollectionMap) (route : GrpcRoute) : GrpcRoute :=
  { route with
    criteria := route.criteria.mapCollections f
    retryPolicy := route.retryPolicy.map (·.mapCollections f) }

def RouteSpec.mapCollections (f : CollectionMap) (spec : RouteSpec) : RouteSpec :=
  { spec with
    grpc := spec.grpc.map (·.mapCollections f)
    http := spec.http.map (·.mapCollections f)
    http2 := spec.http2.map (·.mapCollections f) }

/-- The spec without the collections that are empty. -/
def RouteSpec.normalize (spec : RouteSpec) : RouteSpec :=
  spec.mapCollections @omitEmpty

end MeshRoutes.Remote

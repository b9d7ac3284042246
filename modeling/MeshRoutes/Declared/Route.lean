import MeshRoutes.Listener
import MeshRoutes.Traffic
/-!
# Declared routes

A route as its owner declares it on a virtual router. Weighted targets are symbolic: they
refer to a virtual node by its resource or by its ARN. Collections are never absent.
-/

namespace MeshRoutes.Declared

/-- A virtual node's resource. Without a namespace, the router's own is meant. -/
structure NodeReference where
  /-- The namespace. -/
  space : Option String := none
  name : String
deriving DecidableEq, Inhabited

/-- A share of a route's traffic. -/
structure WeightedTarget where
  node : Option NodeReference := none
  arn : Option String := none
  weight : UInt32
  port : Option UInt16 := none
deriving DecidableEq, Inhabited

structure RouteAction where
  targets : List WeightedTarget
deriving DecidableEq, Inhabited

structure HttpRouteMatch where
  leading : Option String := none
  path : Option PathMatch := none
  method : Option String := none
  scheme : Option String := none
  headers : List HeaderMatch := []
  queryParameters : List QueryMatch := []
  port : Option UInt16 := none
deriving DecidableEq, Inhabited

structure HttpRetryPolicy where
  httpEvents : List String := []
  tcpEvents : List String := []
  perRetryTimeout : Duration
  maxRetries : UInt64
deriving DecidableEq

/-- A route of HTTP/1 or HTTP/2 traffic; which of them, its place in the route says. -/
structure HttpRoute where
  criteria : HttpRouteMatch
  action : RouteAction
  retryPolicy : Option HttpRetryPolicy := none
  timeout : Option RequestTimeout := none
deriving DecidableEq, Inhabited

structure GrpcRouteMatch where
  serviceName : Option String := none
  methodName : Option String := none
  metadata : List MetadataMatch := []
  port : Option UInt16 := none
deriving DecidableEq, Inhabited

structure GrpcRetryPolicy where
  grpcEvents : List String := []
  httpEvents : List String := []
  tcpEvents : List String := []
  perRetryTimeout : Duration
  maxRetries : UInt64
deriving DecidableEq

structure GrpcRoute where
  criteria : GrpcRouteMatch
  action : RouteAction
  retryPolicy : Option GrpcRetryPolicy := none
  timeout : Option RequestTimeout := none
deriving DecidableEq, Inhabited

structure TcpRoute where
  criteria : Option TcpMatch := none
  action : RouteAction
  timeout : Option TcpTimeout := none
deriving DecidableEq, Inhabited

/-- A named route. Its name identifies it on its router, and one variant should be set. -/
structure Route where
  name : String
  priority : Option UInt32 := none
  grpc : Option GrpcRoute := none
  http : Option HttpRoute := none
  http2 : Option HttpRoute := none
  tcp : Option TcpRoute := none
deriving DecidableEq, Inhabited

namespace Route

/-- How many variants are set. -/
def variantCount (route : Route) : Nat :=
  [route.grpc.isSome, route.http.isSome, route.http2.isSome, route.tcp.isSome].count true

/-- The port that each variant matches, if it names one: TCP, gRPC, HTTP/2, HTTP. -/
def matchPorts (route : Route) : List (Protocol × UInt16) :=
  [(Protocol.tcp, (route.tcp.bind TcpRoute.criteria).bind TcpMatch.port),
    (Protocol.grpc, route.grpc.bind (·.criteria.port)),
    (Protocol.http2, route.http2.bind (·.criteria.port)),
    (Protocol.http, route.http.bind (·.criteria.port))].filterMap
      fun (protocol, port) => port.map (protocol, ·)

end Route

end MeshRoutes.Declared

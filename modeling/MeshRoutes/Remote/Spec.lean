import MeshRoutes.Traffic
/-!
# Remote route specs

A route's spec as the remote control plane holds it. A weighted target names its virtual
node, and the control plane may leave out a collection that is empty.
-/

namespace MeshRoutes.Remote

structure WeightedTarget where
  node : String
  weight : UInt32
  port : Option UInt16 := none
deriving DecidableEq, Inhabited

structure RouteAction where
  targets : List WeightedTarget
deriving DecidableEq, Inhabited

structure HttpRouteMatch where
  leading : Option String := none
  path : Option PathMatch := none
  method : Option String := none
  scheme : Option String := none
  headers : Option (List HeaderMatch) := none
  queryParameters : Option (List QueryMatch) := none
  port : Option UInt16 := none
deriving DecidableEq, Inhabited

structure HttpRetryPolicy where
  httpEvents : Option (List String) := none
  tcpEvents : Option (List String) := none
  perRetryTimeout : Duration
  maxRetries : UInt64
deriving DecidableEq

structure HttpRoute where
  criteria : HttpRouteMatch
  action : RouteAction
  retryPolicy : Option HttpRetryPolicy := none
  timeout : Option RequestTimeout := none
deriving DecidableEq, Inhabited

structure GrpcRouteMatch where
  serviceName : Option String := none
  methodName : Option String := none
  metadata : Option (List MetadataMatch) := none
  port : Option UInt16 := none
deriving DecidableEq, Inhabited

structure GrpcRetryPolicy where
  grpcEvents : Option (List String) := none
  httpEvents : Option (List String) := none
  tcpEvents : Option (List String) := none
  perRetryTimeout : Duration
  maxRetries : UInt64
deriving DecidableEq

structure GrpcRoute where
  criteria : GrpcRouteMatch
  action : RouteAction
  retryPolicy : Option GrpcRetryPolicy := none
  timeout : Option RequestTimeout := none
deriving DecidableEq, Inhabited

structure TcpRoute where
  criteria : Option TcpMatch := none
  action : RouteAction
  timeout : Option TcpTimeout := none
deriving DecidableEq, Inhabited

structure RouteSpec where
  priority : Option UInt32 := none
  grpc : Option GrpcRoute := none
  http : Option HttpRoute := none
  http2 : Option HttpRoute := none
  tcp : Option TcpRoute := none
deriving DecidableEq, Inhabited

end MeshRoutes.Remote

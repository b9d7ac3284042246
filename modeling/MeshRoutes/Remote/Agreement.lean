import MeshRoutes.Agreement
import MeshRoutes.Remote.Spec
/-!
# Agreement of remote specs

Two specs agree when every field does. The optional collections of a spec are the headers,
the query parameters, the metadata and the retry events.
-/

namespace MeshRoutes.Remote

instance : Agreement WeightedTarget where
  agree c a b := agree c a.node b.node && agree c a.weight b.weight && agree c a.port b.port

instance : Agreement RouteAction where
  agree c a b := agree c a.targets b.targets

instance : Agreement HttpRouteMatch where
  agree c a b :=
    agree c a.leading b.leading && agree c a.path b.path && agree c a.method b.method
      && agree c a.scheme b.scheme && agree c a.headers b.headers
      && agree c a.queryParameters b.queryParameters && agree c a.port b.port

instance : Agreement HttpRetryPolicy where
  agree c a b :=
    agree c a.httpEvents b.httpEvents && agree c a.tcpEvents b.tcpEvents
      && agree c a.perRetryTimeout b.perRetryTimeout && agree c a.maxRetries b.maxRetries

instance : Agreement HttpRoute where
  agree c a b :=
    agree c a.criteria b.criteria && agree c a.action b.action
      && agree c a.retryPolicy b.retryPolicy && agree c a.timeout b.timeout

instance : Agreement GrpcRouteMatch where
  agree c a b :=
    agree c a.serviceName b.serviceName && agree c a.methodName b.methodName
      && agree c a.metadata b.metadata && agree c a.port b.port

instance : Agreement GrpcRetryPolicy where
  agree c a b :=
    agree c a.grpcEvents b.grpcEvents && agree c a.httpEvents b.httpEvents
      && agree c a.tcpEvents b.tcpEvents && agree c a.perRetryTimeout b.perRetryTimeout
      && agree c a.maxRetries b.maxRetries

instance : Agreement GrpcRoute where
  agree c a b :=
    agree c a.criteria b.criteria && agree c a.action b.action
      && agree c a.retryPolicy b.retryPolicy && agree c a.timeout b.timeout

instance : Agreement TcpRoute where
  agree c a b :=
    agree c a.criteria b.criteria && agree c a.action b.action && agree c a.timeout b.timeout

instance : Agreement RouteSpec where
  agree c a b :=
    agree c a.priority b.priority && agree c a.grpc b.grpc && agree c a.http b.http
      && agree c a.http2 b.http2 && agree c a.tcp b.tcp

end MeshRoutes.Remote

import MeshRoutes.Listener
import MeshRoutes.Log.Outline
import MeshRoutes.Remote.Spec
/-!
# Outlines of protocols and remote specs
-/

namespace MeshRoutes.Log

instance : Outlined Protocol where
  outline protocol := .word <|
    match protocol with
    | .http => "Http"
    | .http2 => "Http2"
    | .grpc => "Grpc"
    | .tcp => "Tcp"

instance : Outlined TimeUnit where
  outline unit := .word <|
    match unit with
    | .seconds => "Seconds"
    | .milliseconds => "Milliseconds"

instance : Outlined Duration where
  outline d := .record "Duration" [("unit", outline d.unit), ("value", outline d.value)]

/-! ## Criteria and timeouts -/

instance : Outlined ValueRange where
  outline range :=
    .record "MatchRange" [("start", outline range.first), ("end", outline range.last)]

instance : Outlined ValueMatch where
  outline m := .record "HeaderMatchMethod"
    [("exact", outline m.exact), ("prefix", outline m.leading), ("suffix", outline m.trailing),
      ("regex", outline m.regex), ("range", outline m.range)]

instance : Outlined PathMatch where
  outline m := .record "HttpPathMatch" [("exact", outline m.exact), ("regex", outline m.regex)]

instance : Outlined HeaderMatch where
  outline m := .record "HttpRouteHeader"
    [("name", outline m.name), ("invert", outline m.invert), ("match_", outline m.value)]

instance : Outlined MetadataMatch where
  outline m := .record "GrpcRouteMetadata"
    [("name", outline m.name), ("invert", outline m.invert), ("match_", outline m.value)]

instance : Outlined QueryValueMatch where
  outline m := .record "QueryParameterMatch" [("exact", outline m.exact)]

instance : Outlined QueryMatch where
  outline m :=
    .record "HttpQueryParameter" [("name", outline m.name), ("match_", outline m.value)]

instance : Outlined TcpMatch where
  outline m := .record "TcpRouteMatch" [("port", outline m.port)]

instance : Outlined RequestTimeout where
  outline t :=
    .record "RouteTimeout" [("per_request", outline t.perRequest), ("idle", outline t.idle)]

instance : Outlined TcpTimeout where
  outline t := .record "TcpTimeout" [("idle", outline t.idle)]

/-! ## Specs -/

instance : Outlined Remote.WeightedTarget where
  outline target := .record "WeightedTarget"
    [("virtual_node", outline target.node), ("weight", outline target.weight),
      ("port", outline target.port)]

instance : Outlined Remote.RouteAction where
  outline action := .record "RouteAction" [("weighted_targets", outline action.targets)]

instance : Outlined Remote.HttpRouteMatch where
  outline m := .record "HttpRouteMatch"
    [("prefix", outline m.leading), ("path", outline m.path), ("method", outline m.method),
      ("scheme", outline m.scheme), ("headers", outline m.headers),
      ("query_parameters", outline m.queryParameters), ("port", outline m.port)]

instance : Outlined Remote.HttpRetryPolicy where
  outline policy := .record "HttpRetryPolicy"
    [("http_retry_events", outline policy.httpEvents),
      ("tcp_retry_events", outline policy.tcpEvents),
      ("per_retry_timeout", outline policy.perRetryTimeout),
      ("max_retries", outline policy.maxRetries)]

instance : Outlined Remote.HttpRoute where
  outline route := .record "HttpRoute"
    [("match_", outline route.criteria), ("action", outline route.action),
      ("retry_policy", outline route.retryPolicy), ("timeout", outline route.timeout)]

instance : Outlined Remote.GrpcRouteMatch where
  outline m := .record "GrpcRouteMatch"
    [("service_name", outline m.serviceName), ("method_name", outline m.methodName),
      ("metadata", outline m.metadata), ("port", outline m.port)]

instance : Outlined Remote.GrpcRetryPolicy where
  outline policy := .record "GrpcRetryPolicy"
    [("grpc_retry_events", outline policy.grpcEvents),
      ("http_retry_events", outline policy.httpEvents),
      ("tcp_retry_events", outline policy.tcpEvents),
      ("per_retry_timeout", outline policy.perRetryTimeout),
      ("max_retries", outline policy.maxRetries)]

instance : Outlined Remote.GrpcRoute where
  outline route := .record "GrpcRoute"
    [("match_", outline route.criteria), ("action", outline route.action),
      ("retry_policy", outline route.retryPolicy), ("timeout", outline route.timeout)]

instance : Outlined Remote.TcpRoute where
  outline route := .record "TcpRoute"
    [("match_", outline route.criteria), ("action", outline route.action),
      ("timeout", outline route.timeout)]

instance : Outlined Remote.RouteSpec where
  outline spec := .record "RouteSpec"
    [("priority", outline spec.priority), ("grpc_route", outline spec.grpc),
      ("http_route", outline spec.http), ("http2_route", outline spec.http2),
      ("tcp_route", outline spec.tcp)]

end MeshRoutes.Log

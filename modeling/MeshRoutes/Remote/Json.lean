import MeshRoutes.Remote.Spec
/-!
# The JSON form of remote specs

Every member is written, an absent value as null, so that an absent collection and an empty
one stay apart. Every record is read from an object alone (see `Codec`).
-/

namespace MeshRoutes.Remote

instance : Codec WeightedTarget where
  encode target := .object
    [("virtualNode", encode target.node), ("weight", encode target.weight),
      ("port", encode target.port)]
  decode? json := do
    let members ← json.members?
    return {
      node := ← members.required "virtualNode"
      weight := ← members.required "weight"
      port := ← members.optional "port" }

instance : Codec RouteAction where
  encode action := .object [("weightedTargets", encode action.targets)]
  decode? json := do
    let members ← json.members?
    return { targets := ← members.required "weightedTargets" }

instance : Codec HttpRouteMatch where
  encode m := .object
    [("prefix", encode m.leading), ("path", encode m.path), ("method", encode m.method),
      ("scheme", encode m.scheme), ("headers", encode m.headers),
      ("queryParameters", encode m.queryParameters), ("port", encode m.port)]
  decode? json := do
    let members ← json.members?
    return {
      leading := ← members.optional "prefix"
      path := ← members.optional "path"
      method := ← members.optional "method"
      scheme := ← members.optional "scheme"
      headers := ← members.optional "headers"
      queryParameters := ← members.optional "queryParameters"
      port := ← members.optional "port" }

instance : Codec HttpRetryPolicy where
  encode policy := .object
    [("httpRetryEvents", encode policy.httpEvents), ("tcpRetryEvents", encode policy.tcpEvents),
      ("perRetryTimeout", encode policy.perRetryTimeout),
      ("maxRetries", encode policy.maxRetries)]
  decode? json := do
    let members ← json.members?
    return {
      httpEvents := ← members.optional "httpRetryEvents"
      tcpEvents := ← members.optional "tcpRetryEvents"
      perRetryTimeout := ← members.required "perRetryTimeout"
      maxRetries := ← members.required "maxRetries" }

instance : Codec HttpRoute where
  encode route := .object
    [("match", encode route.criteria), ("action", encode route.action),
      ("retryPolicy", encode route.retryPolicy), ("timeout", encode route.timeout)]
  decode? json := do
    let members ← json.members?
    return {
      criteria := ← members.required "match"
      action := ← members.required "action"
      retryPolicy := ← members.optional "retryPolicy"
      timeout := ← members.optional "timeout" }

instance : Codec GrpcRouteMatch where
  encode m := .object
    [("serviceName", encode m.serviceName), ("methodName", encode m.methodName),
      ("metadata", encode m.metadata), ("port", encode m.port)]
  decode? json := do
    let members ← json.members?
    return {
      serviceName := ← members.optional "serviceName"
      methodName := ← members.optional "methodName"
      metadata := ← members.optional "metadata"
      port := ← members.optional "port" }

instance : Codec GrpcRetryPolicy where
  encode policy := .object
    [("grpcRetryEvents", encode policy.grpcEvents), ("httpRetryEvents", encode policy.httpEvents),
      ("tcpRetryEvents", encode policy.tcpEvents),
      ("perRetryTimeout", encode policy.perRetryTimeout),
      ("maxRetries", encode policy.maxRetries)]
  decode? json := do
    let members ← json.members?
    return {
      grpcEvents := ← members.optional "grpcRetryEvents"
      httpEvents := ← members.optional "httpRetryEvents"
      tcpEvents := ← members.optional "tcpRetryEvents"
      perRetryTimeout := ← members.required "perRetryTimeout"
      maxRetries := ← members.required "maxRetries" }

instance : Codec GrpcRoute where
  encode route := .object
    [("match", encode route.criteria), ("action", encode route.action),
      ("retryPolicy", encode route.retryPolicy), ("timeout", encode route.timeout)]
  decode? json := do
    let members ← json.members?
    return {
      criteria := ← members.required "match"
      action := ← members.required "action"
      retryPolicy := ← members.optional "retryPolicy"
      timeout := ← members.optional "timeout" }

instance : Codec TcpRoute where
  encode route := .object
    [("match", encode route.criteria), ("action", encode route.action),
      ("timeout", encode route.timeout)]
  decode? json := do
    let members ← json.members?
    return {
      criteria := ← members.optional "match"
      action := ← members.required "action"
      timeout := ← members.optional "timeout" }

instance : Codec RouteSpec where
  encode spec := .object
    [("priority", encode spec.priority), ("grpcRoute", encode spec.grpc),
      ("httpRoute", encode spec.http), ("http2Route", encode spec.http2),
      ("tcpRoute", encode spec.tcp)]
  decode? json := do
    let members ← json.members?
    return {
      priority := ← members.optional "priority"
      grpc := ← members.optional "grpcRoute"
      http := ← members.optional "httpRoute"
      http2 := ← members.optional "http2Route"
      tcp := ← members.optional "tcpRoute" }

end MeshRoutes.Remote

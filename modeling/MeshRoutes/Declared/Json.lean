import MeshRoutes.Declared.Route
/-!
# The JSON form of declared routes

A list may be left out when it is empty. The priority and the variants of a route are left
out when they are not set; any other absent value is written as null. Every record is read from
an object alone (see `Codec`).
-/

namespace MeshRoutes.Declared

instance : Codec NodeReference where
  encode ref := .object [("namespace", encode ref.space), ("name", encode ref.name)]
  decode? json := do
    let members ← json.members?
    return { space := ← members.optional "namespace", name := ← members.required "name" }

instance : Codec WeightedTarget where
  encode target := .object
    [("virtualNodeRef", encode target.node), ("virtualNodeARN", encode target.arn),
      ("weight", encode target.weight), ("port", encode target.port)]
  decode? json := do
    let members ← json.members?
    return {
      node := ← members.optional "virtualNodeRef"
      arn := ← members.optional "virtualNodeARN"
      weight := ← members.required "weight"
      port := ← members.optional "port" }

instance : Codec RouteAction where
  encode action := .object [("weightedTargets", encode action.targets)]
  decode? json := do
    let members ← json.members?
    return { targets := ← members.required "weightedTargets" }

instance : Codec HttpRouteMatch where
  encode m := .object
    [("prefix", encode m.leading), ("path", encode m.path), ("method", encode m.method),
      ("scheme", encode m.scheme), ("headers", encode m.headers),
      ("queryParameters", encode m.queryParameters), ("port", encode m.port)]
  decode? json := do
    let members ← json.members?
    return {
      leading := ← members.optional "prefix"
      path := ← members.optional "path"
      method := ← members.optional "method"
      scheme := ← members.optional "scheme"
      headers := ← members.listOrEmpty "headers"
      queryParameters := ← members.listOrEmpty "queryParameters"
      port := ← members.optional "port" }

instance : Codec HttpRetryPolicy where
  encode policy := .object
    [("httpRetryEvents", encode policy.httpEvents), ("tcpRetryEvents", encode policy.tcpEvents),
      ("perRetryTimeout", encode policy.perRetryTimeout),
      ("maxRetries", encode policy.maxRetries)]
  decode? json := do
    let members ← json.members?
    return {
      httpEvents := ← members.listOrEmpty "httpRetryEvents"
      tcpEvents := ← members.listOrEmpty "tcpRetryEvents"
      perRetryTimeout := ← members.required "perRetryTimeout"
      maxRetries := ← members.required "maxRetries" }

instance : Codec HttpRoute where
  encode route := .object
    [("match", encode route.criteria), ("action", encode route.action),
      ("retryPolicy", encode route.retryPolicy), ("timeout", encode route.timeout)]
  decode? json := do
    let members ← json.members?
    return {
      criteria := ← members.required "match"
      action := ← members.required "action"
      retryPolicy := ← members.optional "retryPolicy"
      timeout := ← members.optional "timeout" }

instance : Codec GrpcRouteMatch where
  encode m := .object
    [("serviceName", encode m.serviceName), ("methodName", encode m.methodName),
      ("metadata", encode m.metadata), ("port", encode m.port)]
  decode? json := do
    let members ← json.members?
    return {
      serviceName := ← members.optional "serviceName"
      methodName := ← members.optional "methodName"
      metadata := ← members.listOrEmpty "metadata"
      port := ← members.optional "port" }

instance : Codec GrpcRetryPolicy where
  encode policy := .object
    [("grpcRetryEvents", encode policy.grpcEvents), ("httpRetryEvents", encode policy.httpEvents),
      ("tcpRetryEvents", encode policy.tcpEvents),
      ("perRetryTimeout", encode policy.perRetryTimeout),
      ("maxRetries", encode policy.maxRetries)]
  decode? json := do
    let members ← json.members?
    return {
      grpcEvents := ← members.listOrEmpty "grpcRetryEvents"
      httpEvents := ← members.listOrEmpty "httpRetryEvents"
      tcpEvents := ← members.listOrEmpty "tcpRetryEvents"
      perRetryTimeout := ← members.required "perRetryTimeout"
      maxRetries := ← members.required "maxRetries" }

instance : Codec GrpcRoute where
  encode route := .object
    [("match", encode route.criteria), ("action", encode route.action),
      ("retryPolicy", encode route.retryPolicy), ("timeout", encode route.timeout)]
  decode? json := do
    let members ← json.members?
    return {
      criteria := ← members.required "match"
      action := ← members.required "action"
      retryPolicy := ← members.optional "retryPolicy"
      timeout := ← members.optional "timeout" }

instance : Codec TcpRoute where
  encode route := .object
    [("match", encode route.criteria), ("action", encode route.action),
      ("timeout", encode route.timeout)]
  decode? json := do
    let members ← json.members?
    return {
      criteria := ← members.optional "match"
      action := ← members.required "action"
      timeout := ← members.optional "timeout" }

instance : Codec Route where
  encode route := .object <|
    ("name", encode route.name)
      :: (Json.Members.omitted "priority" route.priority
        ++ Json.Members.omitted "grpcRoute" route.grpc
        ++ Json.Members.omitted "httpRoute" route.http
        ++ Json.Members.omitted "http2Route" route.http2
        ++ Json.Members.omitted "tcpRoute" route.tcp)
  decode? json := do
    let members ← json.members?
    return {
      name := ← members.required "name"
      priority := ← members.optional "priority"
      grpc := ← members.optional "grpcRoute"
      http := ← members.optional "httpRoute"
      http2 := ← members.optional "http2Route"
      tcp := ← members.optional "tcpRoute" }

end MeshRoutes.Declared

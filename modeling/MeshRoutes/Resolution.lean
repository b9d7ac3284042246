import MeshRoutes.Declared.Resource
import MeshRoutes.Remote.Spec
import MeshRoutes.VirtualNode.Arn
import MeshRoutes.VirtualNode.Table
/-!
# From declared routes to remote specs

The remote spec of a declared route has every collection present and every weighted target
resolved to a virtual node. A target is resolved in a scope: the router's namespace and the
table of virtual nodes. The first defect of a route is the one reported.
-/

namespace MeshRoutes

/-- Why a declared route has no remote spec. -/
inductive Defect where
  /-- Not one variant is set, but `count` of them. -/
  | variants (count : Nat)
  /-- A target has both a reference and an ARN, or neither. -/
  | ambiguousTarget
  | unknownNode (id : VirtualNode.Id)
  /-- The ARN is not that of a virtual node. -/
  | invalidArn (arn : String)
  /-- A reference leaves its namespace to a router that has none. -/
  | missingNamespace
deriving DecidableEq

def Defect.message : Defect → String
  | variants count =>
    "route must specify exactly one of grpcRoute, httpRoute, http2Route or tcpRoute; "
      ++ toString count ++ " are set"
  | ambiguousTarget =>
    "weighted target must specify exactly one of virtualNodeRef or virtualNodeARN"
  | unknownNode id => "unknown virtual node: " ++ id.render
  | invalidArn arn => "virtual node ARN does not name a virtual node: " ++ arn
  | missingNamespace => "virtual router has no namespace"

namespace Declared

/-- What targets are resolved in. -/
structure Scope where
  space : Option String
  nodes : VirtualNode.Table

/-- The scope of a router's routes. -/
def VirtualRouter.scope (router : VirtualRouter) (nodes : VirtualNode.Table) : Scope :=
  ⟨router.metadata.space, nodes⟩

/-- The remote name of the node referred to. The router's namespace stands in for none. -/
def NodeReference.resolve (scope : Scope) (ref : NodeReference) : Except Defect String :=
  match ref.space.or scope.space with
  | none => .error .missingNamespace
  | some space =>
    match scope.nodes.get? ⟨space, ref.name⟩ with
    | none => .error (.unknownNode ⟨space, ref.name⟩)
    | some name => .ok name

/-- The remote name of the node that a target names in one of two ways. -/
def WeightedTarget.nodeName (scope : Scope) (target : WeightedTarget) : Except Defect String :=
  match target.node, target.arn with
  | some ref, none => ref.resolve scope
  | none, some arn =>
    match VirtualNode.Arn.read? arn with
    | some parts => .ok parts.node
    | none => .error (.invalidArn arn)
  | _, _ => .error .ambiguousTarget

def WeightedTarget.resolve (scope : Scope) (target : WeightedTarget) :
    Except Defect Remote.WeightedTarget := do
  return { node := ← target.nodeName scope, weight := target.weight, port := target.port }

def RouteAction.resolve (scope : Scope) (action : RouteAction) :
    Except Defect Remote.RouteAction := do
  return { targets := ← action.targets.mapM (·.resolve scope) }

def HttpRouteMatch.remote (criteria : HttpRouteMatch) : Remote.HttpRouteMatch where
  leading := criteria.leading
  path := criteria.path
  method := criteria.method
  scheme := criteria.scheme
  headers := some criteria.headers
  queryParameters := some criteria.queryParameters
  port := criteria.port

def HttpRetryPolicy.remote (policy : HttpRetryPolicy) : Remote.HttpRetryPolicy where
  httpEvents := some policy.httpEvents
  tcpEvents := some policy.tcpEvents
  perRetryTimeout := policy.perRetryTimeout
  maxRetries := policy.maxRetries

def HttpRoute.resolve (scope : Scope) (route : HttpRoute) : Except Defect Remote.HttpRoute := do
  return {
    criteria := route.criteria.remote
    action := ← route.action.resolve scope
    retryPolicy := route.retryPolicy.map (·.remote)
    timeout := route.timeout }

def GrpcRouteMatch.remote (criteria : GrpcRouteMatch) : Remote.GrpcRouteMatch where
  serviceName := criteria.serviceName
  methodName := criteria.methodName
  metadata := some criteria.metadata
  port := criteria.port

def GrpcRetryPolicy.remote (policy : GrpcRetryPolicy) : Remote.GrpcRetryPolicy where
  grpcEvents := some policy.grpcEvents
  httpEvents := some policy.httpEvents
  tcpEvents := some policy.tcpEvents
  perRetryTimeout := policy.perRetryTimeout
  maxRetries := policy.maxRetries

def GrpcRoute.resolve (scope : Scope) (route : GrpcRoute) : Except Defect Remote.GrpcRoute := do
  return {
    criteria := route.criteria.remote
    action := ← route.action.resolve scope
    retryPolicy := route.retryPolicy.map (·.remote)
    timeout := route.timeout }

def TcpRoute.resolve (scope : Scope) (route : TcpRoute) : Except Defect Remote.TcpRoute := do
  return {
    criteria := route.criteria
    action := ← route.action.resolve scope
    timeout := route.timeout }

/-- The remote spec of a route. Its variants are counted before any target is looked at. -/
def Route.resolve (scope : Scope) (route : Route) : Except Defect Remote.RouteSpec :=
  if route.variantCount ≠ 1 then .error (.variants route.variantCount)
  else do
    return {
      priority := route.priority
      grpc := ← route.grpc.mapM (·.resolve scope)
      http := ← route.http.mapM (·.resolve scope)
      http2 := ← route.http2.mapM (·.resolve scope)
      tcp := ← route.tcp.mapM (·.resolve scope) }

end Declared

end MeshRoutes

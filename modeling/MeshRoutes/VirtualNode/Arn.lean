import MeshRoutes.Text.Cut
/-!
# Resource names of virtual nodes

An ARN of a virtual node has the form
`arn:partition:service:region:account:mesh/<mesh>/virtualNode/<node>`. Its first five parts
end in colons; the resource behind them has four parts between slashes.
-/

namespace MeshRoutes.VirtualNode

/-- The parts of an ARN. -/
structure Arn where
  partition : String
  service : String
  region : String
  account : String
  mesh : String
  node : String
deriving DecidableEq

namespace Arn

def render (arn : Arn) : String :=
  "arn:" ++ arn.partition ++ ":" ++ arn.service ++ ":" ++ arn.region ++ ":" ++ arn.account
    ++ ":mesh/" ++ arn.mesh ++ "/virtualNode/" ++ arn.node

/-- Reads an ARN. The four parts behind the scheme may be anything; mesh and node must be
named. -/
def read? (text : String) : Option Arn := do
  let (scheme, rest) ← Text.cut? ':' text.toList
  let (partition, rest) ← Text.cut? ':' rest
  let (service, rest) ← Text.cut? ':' rest
  let (region, rest) ← Text.cut? ':' rest
  let (account, rest) ← Text.cut? ':' rest
  let (parent, rest) ← Text.cut? '/' rest
  let (mesh, rest) ← Text.cut? '/' rest
  let (kind, node) ← Text.cut? '/' rest
  if scheme = "arn".toList ∧ parent = "mesh".toList ∧ kind = "virtualNode".toList
      ∧ mesh ≠ [] ∧ node ≠ [] ∧ '/' ∉ node then
    some {
      partition := String.ofList partition
      service := String.ofList service
      region := String.ofList region
      account := String.ofList account
      mesh := String.ofList mesh
      node := String.ofList node }
  else none

/-- A colon in the mesh or in the node is part of its name. -/
example : read? "arn:aws:appmesh:eu:1:mesh/m:1/virtualNode/n:2" =
    some ⟨"aws", "appmesh", "eu", "1", "m:1", "n:2"⟩ := rfl

example : read? "arn:aws:appmesh:eu:1:mesh/m/virtualRouter/r" = none := rfl

end Arn

end MeshRoutes.VirtualNode

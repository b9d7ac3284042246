import MeshRoutes.Json.Codec
/-!
# Listeners

A router listens on ports, each bound to one protocol. A protocol is read from its word alone, a
mapping and a listener from an object alone (see `Codec`).
-/

namespace MeshRoutes

inductive Protocol where
  | http
  | http2
  | grpc
  | tcp
deriving DecidableEq

/-- A port and the protocol spoken on it. -/
structure PortMapping where
  port : UInt16
  protocol : Protocol
deriving DecidableEq

structure Listener where
  mapping : PortMapping
deriving DecidableEq

namespace Protocol

def symbol : Protocol → String
  | http => "http"
  | http2 => "http2"
  | grpc => "grpc"
  | tcp => "tcp"

def ofSymbol? : String → Option Protocol
  | "http" => some http
  | "http2" => some http2
  | "grpc" => some grpc
  | "tcp" => some tcp
  | _ => none

theorem ofSymbol?_symbol (protocol : Protocol) :
    ofSymbol? protocol.symbol = some protocol := by
  cases protocol <;> rfl

instance : Codec Protocol where
  encode protocol := encode protocol.symbol
  decode? := Json.word? ofSymbol?

end Protocol

instance : Codec PortMapping where
  encode mapping :=
    .object [("port", encode mapping.port), ("protocol", encode mapping.protocol)]
  decode? json := do
    let members ← json.members?
    return { port := ← members.required "port", protocol := ← members.required "protocol" }

instance : Codec Listener where
  encode listener := .object [("portMapping", encode listener.mapping)]
  decode? json := do
    let members ← json.members?
    return { mapping := ← members.required "portMapping" }

/-- The protocol bound to a port. Where listeners share a port, the last one counts. -/
def boundProtocol? (listeners : List PortMapping) (port : UInt16) : Option Protocol :=
  (listeners.reverse.find? fun mapping => mapping.port == port).map PortMapping.protocol

end MeshRoutes

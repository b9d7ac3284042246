import MeshRoutes.Duration
/-!
# Traffic

The criteria and timeouts that a declared route and its remote spec have in common: how a
path, a header, a query parameter or a gRPC metadata entry is matched, and how long a request
may take. None of them holds a collection.
-/

namespace MeshRoutes

/-- The whole numbers from `first` to `last`. -/
structure ValueRange where
  first : Int64
  last : Int64
deriving DecidableEq

/-- How the value of a header or of a metadata entry is matched. -/
structure ValueMatch where
  exact : Option String := none
  leading : Option String := none
  trailing : Option String := none
  regex : Option String := none
  range : Option ValueRange := none
deriving DecidableEq

structure PathMatch where
  exact : Option String := none
  regex : Option String := none
deriving DecidableEq

structure HeaderMatch where
  name : String
  invert : Option Bool := none
  value : Option ValueMatch := none
deriving DecidableEq

/-- The match of one gRPC metadata entry. -/
structure MetadataMatch where
  name : String
  invert : Option Bool := none
  value : Option ValueMatch := none
deriving DecidableEq

structure QueryValueMatch where
  exact : Option String := none
deriving DecidableEq

/-- The match of one query parameter. -/
structure QueryMatch where
  name : String
  value : Option QueryValueMatch := none
deriving DecidableEq

structure TcpMatch where
  port : Option UInt16 := none
deriving DecidableEq

structure RequestTimeout where
  perRequest : Option Duration := none
  idle : Option Duration := none
deriving DecidableEq

structure TcpTimeout where
  idle : Option Duration := none
deriving DecidableEq

/-! ## JSON -/

instance : Codec ValueRange where
  encode range := .object [("start", encode range.first), ("end", encode range.last)]
  decode? json := do
    let members ← json.members?
    return { first := ← members.required "start", last := ← members.required "end" }

instance : Codec ValueMatch where
  encode m := .object
    [("exact", encode m.exact), ("prefix", encode m.leading), ("suffix", encode m.trailing),
      ("regex", encode m.regex), ("range", encode m.range)]
  decode? json := do
    let members ← json.members?
    return {
      exact := ← members.optional "exact"
      leading := ← members.optional "prefix"
      trailing := ← members.optional "suffix"
      regex := ← members.optional "regex"
      range := ← members.optional "range" }

instance : Codec PathMatch where
  encode m := .object [("exact", encode m.exact), ("regex", encode m.regex)]
  decode? json := do
    let members ← json.members?
    return { exact := ← members.optional "exact", regex := ← members.optional "regex" }

instance : Codec HeaderMatch where
  encode m := .object
    [("name", encode m.name), ("invert", encode m.invert), ("match", encode m.value)]
  decode? json := do
    let members ← json.members?
    return {
      name := ← members.required "name"
      invert := ← members.optional "invert"
      value := ← members.optional "match" }

instance : Codec MetadataMatch where
  encode m := .object
    [("name", encode m.name), ("invert", encode m.invert), ("match", encode m.value)]
  decode? json := do
    let members ← json.members?
    return {
      name := ← members.required "name"
      invert := ← members.optional "invert"
      value := ← members.optional "match" }

instance : Codec QueryValueMatch where
  encode m := .object [("exact", encode m.exact)]
  decode? json := do
    let members ← json.members?
    return { exact := ← members.optional "exact" }

instance : Codec QueryMatch where
  encode m := .object [("name", encode m.name), ("match", encode m.value)]
  decode? json := do
    let members ← json.members?
    return { name := ← members.required "name", value := ← members.optional "match" }

instance : Codec TcpMatch where
  encode m := .object [("port", encode m.port)]
  decode? json := do
    let members ← json.members?
    return { port := ← members.optional "port" }

instance : Codec RequestTimeout where
  encode t := .object [("perRequest", encode t.perRequest), ("idle", encode t.idle)]
  decode? json := do
    let members ← json.members?
    return { perRequest := ← members.optional "perRequest", idle := ← members.optional "idle" }

instance : Codec TcpTimeout where
  encode t := .object [("idle", encode t.idle)]
  decode? json := do
    let members ← json.members?
    return { idle := ← members.optional "idle" }

end MeshRoutes

import MeshRoutes.Rehearsal.Stage
/-!
# Scripts

A script sets a part of the stage and leaves the rest as it is.
-/

namespace MeshRoutes.Rehearsal

open Remote

structure Script where
  routes : Option (List RouteRecord) := none
  pageSize : Option UInt64 := none
  pages : Option (List (List RouteRef)) := none
  phantoms : Option (List String) := none
  normalizes : Option Bool := none
  faults : Option (List Fault) := none
  delays : Option (List Delay) := none

/-- Sets the stage. Of routes with one name the last one is stored. -/
def Stage.apply (stage : Stage) (script : Script) : Stage where
  routes := match script.routes with
    | some records => NameMap.ofList (records.map fun record => (record.routeName, record))
    | none => stage.routes
  pageSize := (script.pageSize.map UInt64.toNat).getD stage.pageSize
  pages := script.pages.getD stage.pages
  phantoms := script.phantoms.getD stage.phantoms
  normalizes := script.normalizes.getD stage.normalizes
  faults := script.faults.getD stage.faults
  delays := script.delays.getD stage.delays

/-! ## JSON -/

instance : Codec FaultKind where
  encode
    | .notFound => .string "notFound"
    | .gone => .string "gone"
    | .other => .string "other"
  decode? json := do
    match (← decode? json : String) with
    | "notFound" => some .notFound
    | "gone" => some .gone
    | _ => some .other

instance : Codec Fault where
  encode fault := .object
    [("call", encode fault.cue.verb), ("name", encode fault.cue.name),
      ("kind", encode fault.kind), ("message", encode fault.text),
      ("times", encode fault.times)]
  decode? json := do
    let members ← json.members?
    return {
      cue := ⟨← members.required "call", ← members.required "name"⟩
      kind := ← members.required "kind"
      text := ← members.optional "message"
      times := ← members.optional "times" }

instance : Codec Delay where
  encode delay := .object
    [("call", encode delay.cue.verb), ("name", encode delay.cue.name),
      ("polls", encode delay.turns)]
  decode? json := do
    let members ← json.members?
    return {
      cue := ⟨← members.required "call", ← members.required "name"⟩
      turns := ← members.required "polls" }

namespace Script

def keys : List String :=
  ["routes", "pageSize", "pages", "phantoms", "normalize", "faults", "delays"]

/-- A script has no members but those that it knows. -/
instance : Codec Script where
  encode script := .object
    [("routes", encode script.routes), ("pageSize", encode script.pageSize),
      ("pages", encode script.pages), ("phantoms", encode script.phantoms),
      ("normalize", encode script.normalizes), ("faults", encode script.faults),
      ("delays", encode script.delays)]
  decode? json := do
    let members ← json.members?
    if members.all fun (key, _) => keys.contains key then
      return {
        routes := ← members.optional "routes"
        pageSize := ← members.optional "pageSize"
        pages := ← members.optional "pages"
        phantoms := ← members.optional "phantoms"
        normalizes := ← members.optional "normalize"
        faults := ← members.optional "faults"
        delays := ← members.optional "delays" }
    else none

end Script

end MeshRoutes.Rehearsal

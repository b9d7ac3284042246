import MeshRoutes.Control.Plane
import MeshRoutes.NameMap
import MeshRoutes.Remote.NormalForm
import MeshRoutes.Text.Numeral
/-!
# A control plane in memory

A stage on which the reconciler can be rehearsed: a control plane that stores its routes by
name, and that can be told which calls fail, which calls wait, and how it lists.
-/

namespace MeshRoutes.Rehearsal

open Control Remote

/-- What faults and delays are assigned to: a verb and the name that the call is about. -/
structure Cue where
  verb : String
  name : String
deriving DecidableEq

/-- A listing is about its token; any other call is about a route. -/
def cueOf : Call → Cue
  | .list _ token => ⟨"list", token.getD ""⟩
  | .describe ref => ⟨"describe", ref.routeName⟩
  | .create _ name _ => ⟨"create", name⟩
  | .update ref _ => ⟨"update", ref.routeName⟩
  | .delete ref => ⟨"delete", ref.routeName⟩

structure Delay where
  cue : Cue
  turns : UInt64
deriving DecidableEq

inductive FaultKind where
  | notFound
  /-- The route is deleted by somebody else, and then not found. -/
  | gone
  | other
deriving DecidableEq

structure Fault where
  cue : Cue
  kind : FaultKind
  text : Option String := none
  /-- How many more times it strikes, if not for ever. -/
  times : Option UInt64 := none
deriving DecidableEq

def Fault.strikes (cue : Cue) (fault : Fault) : Bool := fault.cue == cue && fault.times != some 0

def Fault.struck (fault : Fault) : Fault := { fault with times := fault.times.map (· - 1) }

def Fault.error (fault : Fault) : ApiError :=
  let text := fault.text.getD fault.cue.name
  match fault.kind with
  | .notFound | .gone => .notFound text
  | .other => .other text

/-- The first fault that strikes, and what is left of all of them. -/
def strike (cue : Cue) : List Fault → Option (Fault × List Fault)
  | [] => none
  | fault :: rest =>
    if fault.strikes cue then some (fault, fault.struck :: rest)
    else (strike cue rest).map fun (struck, rest) => (struck, fault :: rest)

/-- The state of the control plane. -/
structure Stage where
  routes : NameMap RouteRecord := .empty
  /-- How many refs a page holds; zero stands for all of them. -/
  pageSize : Nat := 0
  /-- Pages to list instead of the stored routes. -/
  pages : List (List RouteRef) := []
  /-- Names that are listed although nothing is stored under them. -/
  phantoms : List String := []
  /-- Whether specs are stored in normal form. -/
  normalizes : Bool := false
  faults : List Fault := []
  delays : List Delay := []

instance : Inhabited Stage := ⟨{}⟩

namespace Stage

/-- The turns that a call waits. -/
def waitsFor (stage : Stage) (call : Call) : Nat :=
  ((stage.delays.find? fun delay => delay.cue == cueOf call).map (·.turns.toNat)).getD 0

/-! ## Listing -/

/-- The names that are listed, in ascending order. -/
def listedNames (stage : Stage) : List String :=
  (NameMap.ofList ((stage.routes.names ++ stage.phantoms).map (·, ()))).names

/-- The place that a token stands for. -/
def startOf (token : Option String) : Nat :=
  ((token.map String.toList).bind Text.readNumeral?).getD 0

/-- The token of a place, unless the listing ends there. -/
def tokenAt (place count : Nat) : Option String :=
  if place < count then some (toString place) else none

def page (stage : Stage) (router : RouterRef) (token : Option String) : Page :=
  let start := startOf token
  if stage.pages.isEmpty then
    let names := stage.listedNames
    let count := names.length
    let stop := if stage.pageSize = 0 then count else min (start + stage.pageSize) count
    { refs := ((names.take stop).drop start).map router.route, next := tokenAt stop count }
  else
    { refs := stage.pages[start]?.getD [], next := tokenAt (start + 1) stage.pages.length }

/-- A number of pages that no listing exceeds. -/
def pageLimit (stage : Stage) : Nat := stage.pages.length + stage.listedNames.length + 1

/-! ## Changes -/

/-- The spec as it is stored. -/
def kept (stage : Stage) (spec : RouteSpec) : RouteSpec :=
  if stage.normalizes then spec.normalize else spec

/-- The record of a route that was just created. -/
def created (stage : Stage) (router : RouterRef) (name : String) (spec : RouteSpec) :
    RouteRecord where
  meshName := router.meshName
  routerName := router.routerName
  routeName := name
  spec := stage.kept spec
  metadata := {
    arn := "arn:" ++ name
    meshOwner := router.meshOwner
    uid := "uid-" ++ name
    version := 1 }

/-- The version after a change. The last one stays. -/
def nextVersion (version : UInt64) : UInt64 :=
  if version.toNat + 1 < UInt64.size then version + 1 else version

def updated (stage : Stage) (record : RouteRecord) (spec : RouteSpec) : RouteRecord :=
  { record with
    spec := stage.kept spec
    metadata := { record.metadata with version := nextVersion record.metadata.version } }

/-- What a call does when no fault strikes. -/
def respond (stage : Stage) : (call : Call) → call.Outcome × Stage
  | .list router token => (.ok (stage.page router token), stage)
  | .describe ref =>
    match stage.routes.get? ref.routeName with
    | some record => (.ok record, stage)
    | none => (.error (.notFound ref.routeName), stage)
  | .create router name spec =>
    let record := stage.created router name spec
    (.ok record, { stage with routes := stage.routes.insert name record })
  | .update ref spec =>
    match stage.routes.get? ref.routeName with
    | some record =>
      let record := stage.updated record spec
      (.ok record, { stage with routes := stage.routes.insert ref.routeName record })
    | none => (.error (.notFound ref.routeName), stage)
  | .delete ref =>
    match stage.routes.get? ref.routeName with
    | some _ => (.ok (), { stage with routes := stage.routes.erase ref.routeName })
    | none => (.error (.notFound ref.routeName), stage)

/-- What a fault does. -/
def fail (stage : Stage) (fault : Fault) : Stage :=
  match fault.kind with
  | .gone => { stage with routes := stage.routes.erase fault.cue.name }
  | .notFound | .other => stage

def answer (stage : Stage) (call : Call) : call.Outcome × Stage :=
  match strike (cueOf call) stage.faults with
  | some (fault, faults) => (.error fault.error, { stage with faults }.fail fault)
  | none => stage.respond call

end Stage

/-- The stage as a control plane. -/
def plane : Plane Stage where
  accept stage call := (stage.waitsFor call, stage)
  answer := Stage.answer

end MeshRoutes.Rehearsal

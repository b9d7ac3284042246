import Mathlib
import MeshRoutes.Proofs.Stages
/-!
# Plain stages

A stage that makes up no listing, and on which faults do no more than refuse calls, is a control
plane that stores by name: it lists every stored name once, whatever the size of its pages, and
stores what agrees with what it was sent. A call that fails leaves what is stored.
-/

namespace MeshRoutes.Rehearsal

open Control Remote

/-! ## Stages that stay plain -/

/-- No fault deletes anything. -/
abbrev Refusals : List Fault → Prop := FaultsObey fun _ kind => kind ≠ .gone

theorem refusals_nil : Refusals [] :=
  nofun

/-- Nothing is set on the stage but its routes, which bear their names, and faults that refuse
calls. -/
structure Stage.Plain (stage : Stage) : Prop where
  pages : stage.pages = []
  phantoms : stage.phantoms = []
  refusals : Refusals stage.faults
  named : Named stage.routes

namespace Stage.Plain

variable {stage : Stage}

/-- A call is responded to, or refused. -/
theorem answer_cases (h : stage.Plain) (call : Call) :
    stage.answer call = stage.respond call ∨ ∃ error faults,
      Refusals faults ∧ stage.answer call = (.error error, { stage with faults }) := by
  rcases stage.answer_cases call with heq | ⟨fault, faults, hstrike, heq⟩
  · exact .inl heq
  · obtain ⟨hmem, _, _⟩ := strike_eq_some hstrike
    have hkind := h.refusals fault hmem
    refine .inr ⟨fault.error, faults, h.refusals.of_strike hstrike, ?_⟩
    rw [heq, Stage.fail]
    cases hfault : fault.kind with
    | gone => exact absurd hfault hkind
    | notFound | other => rfl

theorem answer (call : Call) (h : stage.Plain) : (stage.answer call).2.Plain := by
  rcases h.answer_cases call with heq | ⟨error, faults, hfaults, heq⟩
  · rw [heq]
    have hresponds := responds_respond stage call
    have hnamed := h.named.of_responds hresponds
    rw [eq_of_responds hresponds]
    exact ⟨h.pages, h.phantoms, h.refusals, hnamed⟩
  · rw [heq]
    exact ⟨h.pages, h.phantoms, hfaults, h.named⟩

end Stage.Plain

abbrev PlainStage : Type := { stage : Stage // stage.Plain }

/-- The control plane of plain stages. -/
def plainPlane : Plane PlainStage := planeOn Stage.Plain fun _ => Stage.Plain.answer

/-! ## The named store -/

/-- A call that succeeds was responded to. -/
theorem responds_of_answer_ok {stage stage' : PlainStage} {call : Call} {answer : call.Answer}
    (h : plainPlane.answer stage call = (.ok answer, stage')) :
    Responds stage.1 call (.ok answer) stage'.1 := by
  have hanswer := answer_of_planeOn h
  rcases stage.2.answer_cases call with heq | ⟨_, _, _, heq⟩
  · have hresponds := responds_respond stage.1 call
    rwa [← heq, hanswer] at hresponds
  · rw [heq] at hanswer
    cases hanswer

/-- A plain stage stores by name. -/
theorem namedStore_plainPlane : NamedStore plainPlane fun state => state.1.routes where
  named {state _ _} h := state.2.named _ _ h
  lists {_ _ state _ _} h := by
    rw [(Stage.map_refs_of_list (listing_of_planeOn h) state.2.pages).1]
    exact Stage.perm_listedNames state.2.phantoms
  accepted _ _ := .inl rfl
  answered h := changes_of_responds (responds_of_answer_ok h)

theorem leavesOnFailure_plainPlane :
    LeavesOnFailure plainPlane fun state => state.1.routes := by
  intro state state' call error h
  have hanswer := answer_of_planeOn h
  rcases state.2.answer_cases call with heq | ⟨_, _, _, heq⟩
  · have hresponds := responds_respond state.1 call
    rw [← heq, hanswer] at hresponds
    exact routes_of_responds_error hresponds
  · rw [heq] at hanswer
    exact (congrArg (·.2.routes) hanswer).symm

/-! ## Samples

Runs on the samples are evaluated, by the equations that the library has for the monads of an
action. They are spread over it, so it is imported whole. -/

/-- The stage on which some records are stored, where some calls wait and some are refused. -/
def PlainStage.of (records : List RouteRecord) (delays : List Delay) (faults : List Fault)
    (h : Refusals faults) : PlainStage where
  val := { routes := .ofList (NameMap.keyed RouteRecord.routeName records), delays, faults }
  property := ⟨rfl, rfl, h, fun _ _ => NameMap.name_of_get?_keyed⟩

namespace Sample

def mesh : Declared.Mesh := ⟨{ name := some "mesh" }, {}⟩

def route (name : String) : Declared.Route where
  name
  tcp := some { action := ⟨[{ node := some { name := "backend" }, weight := 1 }]⟩ }

/-- It declares a route that is stored and one that is not. -/
def router : Declared.VirtualRouter :=
  ⟨{ name := some "router", space := some "web" }, { routes := [route "added", route "kept"] }⟩

def nodes : VirtualNode.Table := .ofList [(⟨"web", "backend"⟩, "backend_web")]

def record (name : String) : RouteRecord := ⟨"mesh", "router_web", name, {}, default⟩

/-- It stores a declared route, with another spec, and one that is not declared. -/
def stage : PlainStage :=
  .of [record "gone", record "kept"] [⟨⟨"create", "added"⟩, 2⟩] [] refusals_nil

def two : Concurrency := ⟨2, by decide⟩

def reconciler (concurrency : Concurrency) : Reconciler PlainStage where
  plane := plainPlane
  policy := { concurrency, pageLimit := 1 }

/-- An update of the routes, from a state of the stage on. -/
def update (concurrency : Concurrency) (state : PlainStage) :
    Except Stop (NameMap RouteRecord) × Run PlainStage :=
  ((reconciler concurrency).update mesh router nodes).perform state

/-- It declares one more route that is stored. -/
def longRouter : Declared.VirtualRouter :=
  ⟨router.metadata, { routes := router.spec.routes ++ [route "late"] }⟩

/-- It refuses to update a declared route, while another one waits. -/
def busy : PlainStage :=
  .of [record "gone", record "kept", record "late"] [⟨⟨"describe", "late"⟩, 2⟩]
    [⟨⟨"update", "kept"⟩, .other, some "busy", none⟩] <| by
      intro fault hfault
      rw [List.mem_singleton.1 hfault]
      decide

/-- An update that stops at the route that is refused. -/
def stopped : Except Stop (NameMap RouteRecord) × Run PlainStage :=
  ((reconciler two).update mesh longRouter nodes).perform busy

/-- A TCP route that matches a port. -/
def portRoute (name : String) (port : UInt16) : Declared.Route where
  name
  tcp := some { criteria := some ⟨some port⟩, action := ⟨[]⟩ }

/-- It declares a route on a port of another protocol, and one that fits. -/
def gateway : Declared.VirtualRouter :=
  ⟨{ name := some "router", space := some "web" },
    { routes := [portRoute "clashing" 443, portRoute "fitting" 80] }⟩

def listeners : List PortMapping := [⟨443, .tcp⟩, ⟨80, .tcp⟩, ⟨443, .http⟩]

/-- An update of the gateway's routes. -/
def opening : Except Stop (NameMap RouteRecord) × Run PlainStage :=
  ((reconciler two).update mesh gateway nodes).perform stage

/-- A removal of the gateway's routes that do not fit, after the update. -/
def clearing : Except Stop Unit × Run PlainStage :=
  ((reconciler two).remove mesh gateway listeners).perform opening.2.state

end Sample

end MeshRoutes.Rehearsal

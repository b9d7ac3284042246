import MeshRoutes.Control.Plane
import MeshRoutes.Log.Event
import MeshRoutes.Resolution
/-!
# Runs

A run of the reconciler is the state that it brought the control plane to, and its history:
every operation that began and settled, every call that was issued and answered, and every
event.
-/

namespace MeshRoutes.Control

/-- Why an errand failed. -/
inductive Failure where
  | conversion (route : String) (defect : Defect)
  /-- A route vanished between its listing and its description. -/
  | routeNotFound (route : String)
  | duplicateName (duplicate : DuplicateName)
  | api (error : ApiError)
deriving DecidableEq

def Failure.message : Failure → String
  | conversion route defect => "failed to convert route " ++ route ++ ": " ++ defect.message
  | routeNotFound route => "route not found: " ++ route
  | duplicateName duplicate => duplicate.message
  | api error => error.message

/-- The whole listing, or the work on one route. -/
inductive Operation where
  | listing
  | creating (route : String)
  | updating (route : String)
  | deleting (route : String)
deriving DecidableEq

/-- Something that happened in a run over states in `σ`. -/
inductive Moment (σ : Type) where
  | began (operation : Operation)
  | logged (event : Log.Event)
  /-- A call was issued, and left the control plane in the state `after`. -/
  | issued (operation : Operation) (call : Call) (after : σ)
  /-- A call was answered, and left the control plane in the state `after`. -/
  | answered (operation : Operation) (call : Call) (outcome : call.Outcome) (after : σ)
  | settled (operation : Operation) (failure : Option Failure)

/-- The state in which a moment left the control plane, where it is one of a call. -/
def Moment.after? : Moment σ → Option σ
  | .issued _ _ after | .answered _ _ _ after => some after
  | .began _ | .logged _ | .settled _ _ => none

structure Run (σ : Type) where
  state : σ
  /-- What happened, the latest in front. -/
  past : List (Moment σ) := []
  /-- How many turns were taken. -/
  turns : Nat := 0

namespace Run

variable {σ : Type}

/-- What happened, in order. -/
def history (run : Run σ) : List (Moment σ) := run.past.reverse

/-- The calls that were issued, in order. -/
def calls (run : Run σ) : List Call :=
  run.history.filterMap fun
    | .issued _ call _ => some call
    | _ => none

/-- The events, in order. -/
def events (run : Run σ) : List Log.Event :=
  run.history.filterMap fun
    | .logged event => some event
    | _ => none

def record (run : Run σ) (moment : Moment σ) : Run σ :=
  { run with past := moment :: run.past }

def log (run : Run σ) (event : Log.Event) : Run σ := run.record (.logged event)

def takeTurn (run : Run σ) : Run σ := { run with turns := run.turns + 1 }

/-- Issues a call. It waits for as many turns as the result says. -/
def issue (plane : Plane σ) (operation : Operation) (call : Call) (run : Run σ) :
    Nat × Run σ :=
  let (waits, state) := plane.accept run.state call
  (waits, { run with state }.record (.issued operation call state))

/-- Gets the answer to a call that was issued. -/
def answer (plane : Plane σ) (operation : Operation) (call : Call) (run : Run σ) :
    call.Outcome × Run σ :=
  let (outcome, state) := plane.answer run.state call
  (outcome, { run with state }.record (.answered operation call outcome state))

end Run

/-- What changes a run, and may fail with an error of type `ε`. -/
abbrev Action (σ ε : Type) : Type → Type := ExceptT ε (StateM (Run σ))

/-- The result of an action on a control plane in some state, and its run. -/
def Action.perform (action : Action σ ε α) (state : σ) : Except ε α × Run σ :=
  action.run.run { state }

end MeshRoutes.Control

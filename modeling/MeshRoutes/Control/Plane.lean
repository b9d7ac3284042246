import MeshRoutes.Remote.Route
/-!
# The control plane

A control plane is known by its calls. It takes a call on, lets it wait for a number of turns,
and then answers it; what it answers may depend on everything that it was asked before.
-/

namespace MeshRoutes.Control

open Remote

/-- Why the control plane did not do what it was asked. -/
inductive ApiError where
  | notFound (text : String)
  | other (text : String)
deriving DecidableEq

namespace ApiError

def message : ApiError → String
  | notFound text => "not found: " ++ text
  | other text => text

def isNotFound : ApiError → Bool
  | notFound _ => true
  | other _ => false

end ApiError

/-- A part of the listing of a router's routes. -/
structure Page where
  refs : List RouteRef
  /-- What to ask for the rest with, if there is more. -/
  next : Option String := none
deriving DecidableEq

inductive Call where
  | list (router : RouterRef) (token : Option String)
  | describe (ref : RouteRef)
  | create (router : RouterRef) (name : String) (spec : RouteSpec)
  | update (ref : RouteRef) (spec : RouteSpec)
  | delete (ref : RouteRef)
deriving DecidableEq

namespace Call

/-- What a call is answered with when it succeeds. -/
abbrev Answer : Call → Type
  | list .. => Page
  | describe .. | create .. | update .. => RouteRecord
  | delete .. => Unit

abbrev Outcome (call : Call) : Type := Except ApiError call.Answer

end Call

/-- A control plane with states in `σ`. -/
structure Plane (σ : Type) where
  /-- Takes a call on, and says how many turns it waits before its answer. -/
  accept : σ → Call → Nat × σ
  answer : σ → (call : Call) → call.Outcome × σ

end MeshRoutes.Control

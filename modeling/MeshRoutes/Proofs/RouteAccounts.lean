import MeshRoutes.Proofs.Partition
import MeshRoutes.Proofs.Rules
/-!
# Accounts of the work on routes

The rules of the kinds of work: what a creation, an update and a deletion may ask for,
given what they were answered, and what comes of it. A reconciliation keeps to them in all of
its operations, whatever the control plane does.
-/

namespace MeshRoutes.Control

open Remote

variable {σ : Type}

namespace RouteTask

/-! ## Creations -/

inductive CreateCall (router : RouterRef) (scope : Declared.Scope) (route : Declared.Route) :
    List Deed → Call → Prop where
  | create {spec : RouteSpec} (h : route.resolve scope = .ok spec) :
    CreateCall router scope route [.began] (.create router route.name spec)

inductive CreateResult (router : RouterRef) (scope : Declared.Scope) (route : Declared.Route) :
    List Deed → Except Failure (String × RouteRecord) → Prop where
  | unresolved {defect : Defect} (h : route.resolve scope = .error defect) :
    CreateResult router scope route [.began] (.error (.conversion route.name defect))
  | refused {spec : RouteSpec} {error : ApiError} (h : route.resolve scope = .ok spec) :
    CreateResult router scope route
      [.began, .issued (.create router route.name spec),
        .answered (.create router route.name spec) (.error error)]
      (.error (.api error))
  | created {spec : RouteSpec} {record : RouteRecord} (h : route.resolve scope = .ok spec) :
    CreateResult router scope route
      [.began, .issued (.create router route.name spec),
        .answered (.create router route.name spec) (.ok record)]
      (.ok (route.name, record))

def createRules (router : RouterRef) (scope : Declared.Scope) (route : Declared.Route) :
    Rules (String × RouteRecord) where
  call := CreateCall router scope route
  result := CreateResult router scope route

theorem create_obeys (router : RouterRef) (scope : Declared.Scope) (route : Declared.Route) :
    (create router scope route).Obeys (createRules router scope route) [.began] := by
  unfold create
  cases hresolve : route.resolve scope with
  | error defect => exact .unresolved hresolve
  | ok spec =>
    refine ⟨.create hresolve, ?_⟩
    intro outcome
    cases outcome with
    | error error => exact .refused hresolve
    | ok record => exact .created hresolve

/-! ## Updates -/

inductive UpdateCall (scope : Declared.Scope) (pairing : Pairing) : List Deed → Call → Prop where
  | describe : UpdateCall scope pairing [.began] (.describe pairing.ref)
  | update {actual : RouteRecord} {desired : RouteSpec}
      (h : pairing.route.resolve scope = .ok desired)
      (hdiffers : ¬agree .upToEmpty desired actual.spec) :
    UpdateCall scope pairing
      [.began, .issued (.describe pairing.ref), .answered (.describe pairing.ref) (.ok actual)]
      (.update actual.ref desired)

inductive UpdateResult (scope : Declared.Scope) (pairing : Pairing) :
    List Deed → Except Failure (String × RouteRecord) → Prop where
  | vanished {text : String} :
    UpdateResult scope pairing
      [.began, .issued (.describe pairing.ref),
        .answered (.describe pairing.ref) (.error (.notFound text))]
      (.error (.routeNotFound pairing.route.name))
  | undescribed {text : String} :
    UpdateResult scope pairing
      [.began, .issued (.describe pairing.ref),
        .answered (.describe pairing.ref) (.error (.other text))]
      (.error (.api (.other text)))
  | unresolved {actual : RouteRecord} {defect : Defect}
      (h : pairing.route.resolve scope = .error defect) :
    UpdateResult scope pairing
      [.began, .issued (.describe pairing.ref), .answered (.describe pairing.ref) (.ok actual)]
      (.error (.conversion pairing.route.name defect))
  | upToDate {actual : RouteRecord} {desired : RouteSpec}
      (h : pairing.route.resolve scope = .ok desired)
      (hagrees : agree .upToEmpty desired actual.spec) :
    UpdateResult scope pairing
      [.began, .issued (.describe pairing.ref), .answered (.describe pairing.ref) (.ok actual)]
      (.ok (pairing.route.name, actual))
  | refused {actual : RouteRecord} {desired : RouteSpec} {error : ApiError}
      (h : pairing.route.resolve scope = .ok desired)
      (hdiffers : ¬agree .upToEmpty desired actual.spec) :
    UpdateResult scope pairing
      [.began, .issued (.describe pairing.ref), .answered (.describe pairing.ref) (.ok actual),
        .issued (.update actual.ref desired),
        .answered (.update actual.ref desired) (.error error)]
      (.error (.api error))
  | updated {actual record : RouteRecord} {desired : RouteSpec}
      (h : pairing.route.resolve scope = .ok desired)
      (hdiffers : ¬agree .upToEmpty desired actual.spec) :
    UpdateResult scope pairing
      [.began, .issued (.describe pairing.ref), .answered (.describe pairing.ref) (.ok actual),
        .issued (.update actual.ref desired),
        .answered (.update actual.ref desired) (.ok record)]
      (.ok (pairing.route.name, record))

def updateRules (scope : Declared.Scope) (pairing : Pairing) : Rules (String × RouteRecord) where
  call := UpdateCall scope pairing
  result := UpdateResult scope pairing

theorem update_obeys (scope : Declared.Scope) (pairing : Pairing) :
    (update scope pairing).Obeys (updateRules scope pairing) [.began] := by
  refine ⟨.describe, ?_⟩
  intro outcome
  cases outcome with
  | error error =>
    cases error with
    | notFound text => exact .vanished
    | other text => exact .undescribed
  | ok actual =>
    dsimp only
    cases hresolve : pairing.route.resolve scope with
    | error defect => exact .unresolved hresolve
    | ok desired =>
      dsimp only
      split
      · rename_i hagrees
        exact .upToDate hresolve hagrees
      · rename_i hdiffers
        refine ⟨.update hresolve hdiffers, ?_⟩
        intro outcome
        cases outcome with
        | error error => exact .refused hresolve hdiffers
        | ok record => exact .updated hresolve hdiffers

/-! ## Deletions -/

inductive RetireCall (ref : RouteRef) : List Deed → Call → Prop where
  | describe : RetireCall ref [.began] (.describe ref)
  | delete {actual : RouteRecord} :
    RetireCall ref [.began, .issued (.describe ref), .answered (.describe ref) (.ok actual)]
      (.delete actual.ref)

/-- A route that is not found counts as deleted. -/
inductive RetireResult (ref : RouteRef) : List Deed → Except Failure Unit → Prop where
  | vanished {text : String} :
    RetireResult ref
      [.began, .issued (.describe ref), .answered (.describe ref) (.error (.notFound text))]
      (.ok ())
  | undescribed {text : String} :
    RetireResult ref
      [.began, .issued (.describe ref), .answered (.describe ref) (.error (.other text))]
      (.error (.api (.other text)))
  | deleted {actual : RouteRecord} :
    RetireResult ref
      [.began, .issued (.describe ref), .answered (.describe ref) (.ok actual),
        .issued (.delete actual.ref), .answered (.delete actual.ref) (.ok ())]
      (.ok ())
  | deletedBefore {actual : RouteRecord} {text : String} :
    RetireResult ref
      [.began, .issued (.describe ref), .answered (.describe ref) (.ok actual),
        .issued (.delete actual.ref), .answered (.delete actual.ref) (.error (.notFound text))]
      (.ok ())
  | refused {actual : RouteRecord} {text : String} :
    RetireResult ref
      [.began, .issued (.describe ref), .answered (.describe ref) (.ok actual),
        .issued (.delete actual.ref), .answered (.delete actual.ref) (.error (.other text))]
      (.error (.api (.other text)))

def retireRules (ref : RouteRef) : Rules Unit where
  call := RetireCall ref
  result := RetireResult ref

theorem retire_obeys (ref : RouteRef) : (retire ref).Obeys (retireRules ref) [.began] := by
  refine ⟨.describe, ?_⟩
  intro outcome
  cases outcome with
  | error error =>
    cases error with
    | notFound text => exact .vanished
    | other text => exact .undescribed
  | ok actual =>
    refine ⟨.delete, ?_⟩
    intro outcome
    cases outcome with
    | error error =>
      cases error with
      | notFound text => exact .deletedBefore
      | other text => exact .refused
    | ok _ => exact .deleted

/-- A surplus route is described, and then deleted at the address under which it is. -/
inductive RetireAsked (ref : RouteRef) (past : List Deed) : Call → Prop where
  | describe : RetireAsked ref past (.describe ref)
  | delete {actual : RouteRecord} (h : .answered (.describe ref) (.ok actual) ∈ past) :
    RetireAsked ref past (.delete actual.ref)

theorem retireAsked_of_account {ref : RouteRef} {past : List Deed}
    (h : (retireRules ref).Account past) :
    ∀ deed ∈ past, ∀ call, deed.about? = some call → RetireAsked ref past call := by
  rcases h.cases with rfl | ⟨before, issued, rfl, hissued⟩ | ⟨before, result, rfl, hresult⟩
  · simp
  · cases hissued <;> simp [Deed.about?, RetireAsked.describe, RetireAsked.delete]
  · cases hresult <;> simp [Deed.about?, RetireAsked.describe, RetireAsked.delete]

/-! ## Deletions without a description -/

inductive DeleteCall (ref : RouteRef) : List Deed → Call → Prop where
  | delete : DeleteCall ref [.began] (.delete ref)

inductive DeleteResult (ref : RouteRef) : List Deed → Except Failure Unit → Prop where
  | deleted :
    DeleteResult ref [.began, .issued (.delete ref), .answered (.delete ref) (.ok ())] (.ok ())
  | deletedBefore {text : String} :
    DeleteResult ref
      [.began, .issued (.delete ref), .answered (.delete ref) (.error (.notFound text))] (.ok ())
  | refused {text : String} :
    DeleteResult ref
      [.began, .issued (.delete ref), .answered (.delete ref) (.error (.other text))]
      (.error (.api (.other text)))

def deleteRules (ref : RouteRef) : Rules Unit where
  call := DeleteCall ref
  result := DeleteResult ref

theorem delete_obeys (ref : RouteRef) :
    (delete ref : Task Unit 1).Obeys (deleteRules ref) [.began] := by
  refine ⟨.delete, ?_⟩
  intro outcome
  cases outcome with
  | error error =>
    cases error with
    | notFound text => exact .deletedBefore
    | other text => exact .refused
  | ok _ => exact .deleted

/-- A deletion without a description asks for nothing else. -/
theorem eq_delete_of_account {ref : RouteRef} {past : List Deed}
    (h : (deleteRules ref).Account past) :
    ∀ deed ∈ past, ∀ call, deed.about? = some call → call = .delete ref := by
  rcases h.cases with rfl | ⟨before, issued, rfl, hissued⟩ | ⟨before, result, rfl, hresult⟩
  · simp
  · cases hissued
    simp [Deed.about?]
  · cases hresult <;> simp [Deed.about?]

end RouteTask

end MeshRoutes.Control

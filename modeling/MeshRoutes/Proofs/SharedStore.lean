import MeshRoutes.NameMap.Lemmas
import MeshRoutes.Proofs.Deeds
import MeshRoutes.Proofs.Trails
/-!
# Stores that are shared

A control plane may have other clients, which delete routes while an errand is under way. All
that can then be said of a call that stores nothing is that entries may go: the one that it
deletes, and those of names over which there is a race. What is gone stays gone, so an errand
that stores nothing knows of every name that it deleted that nothing is stored there in the
end.
-/

namespace MeshRoutes

/-- Entries of names that may go are as before or gone, and all others are as before. -/
def NameMap.Thins {α : Type} (may : String → Prop) (before after : NameMap α) : Prop :=
  ∀ name, after.get? name = before.get? name ∨ may name ∧ after.get? name = none

namespace NameMap.Thins

variable {α : Type} {may may' : String → Prop} {a b c : NameMap α} {name : String}

theorem refl (may : String → Prop) (a : NameMap α) : Thins may a a := fun _ => .inl rfl

theorem get?_eq_none (h : Thins may a b) (hnone : a.get? name = none) : b.get? name = none := by
  rcases h name with hsame | ⟨_, hgone⟩
  · exact hsame.trans hnone
  · exact hgone

theorem get?_eq_some (h : Thins may a b) {value : α} (hsome : b.get? name = some value) :
    a.get? name = some value := by
  rcases h name with hsame | ⟨_, hgone⟩
  · exact hsame.symm.trans hsome
  · rw [hgone] at hsome
    cases hsome

theorem get?_eq (h : Thins may a b) (hname : ¬may name) : b.get? name = a.get? name :=
  (h name).resolve_right fun hgone => hname hgone.1

theorem trans (h : Thins may a b) (h' : Thins may b c) : Thins may a c := by
  intro name
  rcases h' name with hsame | hgone
  · rw [hsame]
    exact h name
  · exact .inr hgone

theorem mono (h : Thins may a b) (himp : ∀ name, may name → may' name) : Thins may' a b :=
  fun name => (h name).imp_right fun hgone => ⟨himp name hgone.1, hgone.2⟩

theorem erase (map : NameMap α) (hname : may name) : Thins may map (map.erase name) := by
  intro other
  rw [get?_erase]
  by_cases heq : other = name
  · rw [if_pos heq, heq]
    exact .inr ⟨hname, rfl⟩
  · rw [if_neg heq]
    exact .inl rfl

end NameMap.Thins

namespace Control

open Remote

variable {σ : Type}

/-! ## Calls that store nothing -/

namespace Call

/-- The call stores a record. -/
def stores : Call → Bool
  | create .. | update .. => true
  | list .. | describe _ | delete _ => false

/-- The call deletes what is stored at a name. -/
def Deletes (name : String) : Call → Prop
  | delete ref => ref.routeName = name
  | list .. | describe _ | create .. | update .. => False

end Call

/-- No call of a run stores anything, and none deletes what may not go. -/
abbrev Run.Thinning (may : String → Prop) (run : Run σ) : Prop :=
  run.CallsAre fun _ call => ¬call.stores ∧ ∀ name, call.Deletes name → may name

/-- Every answer of a run was one of those that are expected. -/
def Run.Expects (expected : (call : Call) → call.Outcome → Prop) (run : Run σ) : Prop :=
  ∀ operation call outcome after, .answered operation call outcome after ∈ run.history →
    expected call outcome

/-- The call succeeded, or the route that it was to describe or to delete was not found. -/
def Tolerable (call : Call) (outcome : call.Outcome) : Prop :=
  ∀ error, outcome = .error error →
    error.isNotFound ∧ ∃ ref, call = .describe ref ∨ call = .delete ref

theorem Tolerable.not_list_error {router : RouterRef} {token : Option String} {error : ApiError} :
    ¬Tolerable (.list router token) (.error error) := by
  intro h
  obtain ⟨_, _, hdescribe | hdelete⟩ := h error rfl
  · cases hdescribe
  · cases hdelete

theorem Tolerable.not_other {call : Call} {text : String} :
    ¬Tolerable call (.error (.other text)) := by
  intro h
  cases (h _ rfl).1

theorem tolerable_ok {call : Call} (answer : call.Answer) : Tolerable call (.ok answer) := nofun

/-- The call was answered, if at all, as is tolerable. -/
def Moment.tolerable : Moment σ → Bool
  | .answered _ (.describe _) (.error error) _ | .answered _ (.delete _) (.error error) _ =>
    error.isNotFound
  | .answered _ _ outcome _ => outcome.isOk
  | .began _ | .logged _ | .issued .. | .settled .. => true

theorem Run.expects_tolerable_of_all {run : Run σ} (h : run.history.all Moment.tolerable) :
    run.Expects Tolerable := by
  intro operation call outcome after hmem
  have htolerable := List.all_eq_true.1 h _ hmem
  cases outcome with
  | ok answer => exact tolerable_ok answer
  | error error =>
    rintro _ ⟨⟩
    cases call with
    | describe ref => exact ⟨htolerable, ref, .inl rfl⟩
    | delete ref => exact ⟨htolerable, ref, .inr rfl⟩
    | list _ _ | create _ _ _ | update _ _ => cases htolerable

/-! ## The laws -/

/-- A control plane that stores records by their names, and may have other clients that delete
those of raced names. -/
structure SharedStore (plane : Plane σ) (store : σ → NameMap RouteRecord)
    (raced : String → Prop) (expected : (call : Call) → call.Outcome → Prop) : Prop where
  accepted {state : σ} {call : Call} (h : ¬call.stores) :
    NameMap.Thins (fun name => raced name ∨ call.Deletes name) (store state)
      (store (plane.accept state call).2)
  answered {state state' : σ} {call : Call} {outcome : call.Outcome} (h : ¬call.stores)
      (hexpected : expected call outcome) (hanswer : plane.answer state call = (outcome, state')) :
    NameMap.Thins (fun name => raced name ∨ call.Deletes name) (store state) (store state')
  described {state state' : σ} {ref : RouteRef} {record : RouteRecord}
      (hexpected : expected (.describe ref) (.ok record))
      (hanswer : plane.answer state (.describe ref) = (.ok record, state')) :
    record.routeName = ref.routeName
  /-- What cannot be described is not stored. -/
  vanished {state state' : σ} {ref : RouteRef} {error : ApiError}
      (hexpected : expected (.describe ref) (.error error))
      (hanswer : plane.answer state (.describe ref) = (.error error, state')) :
    (store state').get? ref.routeName = none
  deleted {state state' : σ} {ref : RouteRef} {outcome : (Call.delete ref).Outcome}
      (hexpected : expected (.delete ref) outcome)
      (hanswer : plane.answer state (.delete ref) = (outcome, state')) :
    (store state').get? ref.routeName = none

/-- A listing that comes to its end has no name twice. -/
def ListsDistinctly (plane : Plane σ) : Prop :=
  ∀ {router : RouterRef} {pages : Nat} {state state' : σ} {refs : List RouteRef},
    Listing plane router pages state none (.ok refs) state' →
      (refs.map RouteRef.routeName).Nodup

/-- A listing that comes to its end has each name that is stored then. -/
def ListsCompletely (plane : Plane σ) (store : σ → NameMap RouteRecord) : Prop :=
  ∀ {router : RouterRef} {pages : Nat} {state state' : σ} {refs : List RouteRef},
    Listing plane router pages state none (.ok refs) state' →
      (store state').names ⊆ refs.map RouteRef.routeName

/-- A listing that comes to its end has each stored name once. Names that are deleted while it
is under way may stand on it or not. -/
structure ListsFaithfully (plane : Plane σ) (store : σ → NameMap RouteRecord) : Prop where
  distinct : ListsDistinctly plane
  sound {router : RouterRef} {pages : Nat} {state state' : σ} {refs : List RouteRef}
      (h : Listing plane router pages state none (.ok refs) state') :
    refs.map RouteRef.routeName ⊆ (store state).names
  complete : ListsCompletely plane store

/-! ## Runs that store nothing -/

namespace SharedStore

variable {plane : Plane σ} {store : σ → NameMap RouteRecord} {raced may : String → Prop}
  {expected : (call : Call) → call.Outcome → Prop} {run run' : Run σ}
  (hstore : SharedStore plane store raced expected)
  (hraced : ∀ name, raced name → may name) (hthinning : run'.Thinning may)
  (hexpects : run'.Expects expected)

include hstore hraced hthinning hexpects

/-- Whatever a run that stores nothing does, and other clients with it, entries only go. -/
theorem thins (h : Run.Leads plane run run') :
    NameMap.Thins may (store run.state) (store run'.state) := by
  have hmay {call : Call} (hcall : ∀ name, call.Deletes name → may name) (name : String)
      (hname : raced name ∨ call.Deletes name) : may name :=
    hname.elim (hraced name) (hcall name)
  refine h.related (R := fun a b => NameMap.Thins may (store a) (store b))
    (fun state => .refl may (store state)) (fun hab hbc => hab.trans hbc) ?_ ?_
  · rintro o call after state hmem rfl
    obtain ⟨hcall, hdeletes⟩ := hthinning.issued (List.mem_reverse.2 hmem)
    exact (hstore.accepted hcall).mono (hmay hdeletes)
  · intro o call outcome after state hmem hanswer
    obtain ⟨hcall, hdeletes⟩ := hthinning.answered (List.mem_reverse.2 hmem)
    have hexpected := hexpects o call outcome after (List.mem_reverse.2 hmem)
    exact (hstore.answered hcall hexpected hanswer).mono (hmay hdeletes)

variable {state : σ} (h : Run.Leads plane { state } run') {o : Operation}

include h

private theorem get?_eq_none_of_answered {call : Call} {outcome : call.Outcome} {after : σ}
    {name : String} (hmem : .answered o call outcome after ∈ run'.history)
    (hnone : ∀ state state', plane.answer state call = (outcome, state') →
      (store state').get? name = none) :
    (store run'.state).get? name = none := by
  rcases h.exists_of_answered (List.mem_reverse.1 hmem) with hold | ⟨before, mid, hanswer, hmid⟩
  · cases hold
  · exact (hstore.thins hraced hthinning hexpects hmid).get?_eq_none (hnone _ _ hanswer)

/-- Once the deletion of a name is answered, nothing is stored there any more. -/
theorem get?_eq_none_of_deleted {ref : RouteRef} {outcome : (Call.delete ref).Outcome}
    {after : σ} (hmem : .answered o (.delete ref) outcome after ∈ run'.history) :
    (store run'.state).get? ref.routeName = none :=
  hstore.get?_eq_none_of_answered hraced hthinning hexpects h hmem fun _ _ hanswer =>
    hstore.deleted (hexpects _ _ _ _ hmem) hanswer

theorem get?_eq_none_of_vanished {ref : RouteRef} {error : ApiError} {after : σ}
    (hmem : .answered o (.describe ref) (.error error) after ∈ run'.history) :
    (store run'.state).get? ref.routeName = none :=
  hstore.get?_eq_none_of_answered hraced hthinning hexpects h hmem fun _ _ hanswer =>
    hstore.vanished (hexpects _ _ _ _ hmem) hanswer

omit hraced hthinning in
/-- A record that was described in a run bears the name that was asked for. -/
theorem name_of_described {ref : RouteRef} {record : RouteRecord} {after : σ}
    (hmem : .answered o (.describe ref) (.ok record) after ∈ run'.history) :
    record.routeName = ref.routeName := by
  rcases h.exists_of_answered (List.mem_reverse.1 hmem) with hold | ⟨before, mid, hanswer, _⟩
  · cases hold
  · exact hstore.described (hexpects _ _ _ _ hmem) hanswer

end SharedStore

/-! ## Listings of which no call fails -/

/-- A listing that ends and of which no answer is out of the ordinary gives its refs. -/
theorem Reconciler.exists_refs_of_list {reconciler : Reconciler σ} {router : RouterRef}
    {expected : (call : Call) → call.Outcome → Prop} {run run' : Run σ}
    {result : Except Stop (List RouteRef)}
    (hends : Listing.EndsWithin reconciler.plane router reconciler.policy.pageLimit run.state)
    (hmild : ∀ call outcome, expected call outcome → Tolerable call outcome)
    (h : reconciler.list router run = (result, run')) (hexpects : run'.Expects expected) :
    ∃ pages refs, result = .ok refs ∧
      Listing reconciler.plane router pages run.state none (.ok refs) run'.state := by
  rcases list_cases h with hlisted | ⟨error, token, after, hfailed, _⟩ | ⟨_, hlong⟩
  · exact hlisted
  · have hexpected := hexpects _ _ _ _ (List.mem_reverse.2 hfailed)
    exact absurd (hmild _ _ hexpected) Tolerable.not_list_error
  · exact absurd hends hlong

end Control

end MeshRoutes

import MeshRoutes.NameMap.Lemmas
import MeshRoutes.Proofs.Errand
import MeshRoutes.Proofs.Ownership
/-!
# Control planes that store by name

Such a control plane keeps a map from names to records. A call touches the entry of its name
and no other, so the entries and the calls at each name divide a run, and every task of the
reconciler keeps to the share of its route.
-/

namespace MeshRoutes.Control

open Remote

variable {σ α : Type} {plane : Plane σ} {store : σ → NameMap RouteRecord}

/-! ## Calls and names -/

/-- The name of the route that a call is about. A listing is about none. -/
def Call.name? : Call → Option String
  | list .. => none
  | describe ref | update ref _ | delete ref => some ref.routeName
  | create _ name _ => some name

theorem Call.name?_ne_of_ne {call : Call} {name other : String} (h : call.name? = some name)
    (hne : other ≠ name) : call.name? ≠ some other := by
  rw [h]
  intro heq
  exact hne (Option.some.inj heq).symm

/-- What a call that succeeds makes of the entry of its name. -/
def Call.Effect : (call : Call) → call.Answer →
    Option RouteRecord → Option RouteRecord → Prop
  | list .., _, before, after => after = before
  | describe _, record, before, after => before = some record ∧ after = before
  | create _ _ spec, record, _, after | update _ spec, record, _, after =>
    after = some record ∧ agree .upToEmpty spec record.spec
  | delete _, (), _, after => after = none

/-- A call that succeeds changes a map at its name only. -/
structure Call.Changes (call : Call) (answer : call.Answer)
    (before after : NameMap RouteRecord) : Prop where
  effect {name : String} (h : call.name? = some name) :
    call.Effect answer (before.get? name) (after.get? name)
  frame {name : String} (h : call.name? ≠ some name) : after.get? name = before.get? name

theorem Call.changes_insert {call : Call} {answer : call.Answer} {records : NameMap RouteRecord}
    {name : String} {record : RouteRecord} (hname : call.name? = some name)
    (heffect : call.Effect answer (records.get? name) (some record)) :
    call.Changes answer records (records.insert name record) := by
  constructor
  · intro other hother
    rw [hname] at hother
    cases hother
    rw [NameMap.get?_insert, if_pos rfl]
    exact heffect
  · intro other hother
    rw [NameMap.get?_insert, if_neg]
    rintro rfl
    exact hother hname

theorem Call.changes_erase {call : Call} {answer : call.Answer} {records : NameMap RouteRecord}
    {name : String} (hname : call.name? = some name)
    (heffect : call.Effect answer (records.get? name) none) :
    call.Changes answer records (records.erase name) := by
  constructor
  · intro other hother
    rw [hname] at hother
    cases hother
    rw [NameMap.get?_erase, if_pos rfl]
    exact heffect
  · intro other hother
    rw [NameMap.get?_erase, if_neg]
    rintro rfl
    exact hother hname

/-- A control plane that stores records by their names. The effect of a call may come when it
is taken on or when it is answered. -/
structure NamedStore (plane : Plane σ) (store : σ → NameMap RouteRecord) : Prop where
  named {state : σ} {name : String} {record : RouteRecord}
    (h : (store state).get? name = some record) : record.routeName = name
  /-- A listing that comes to its end holds every stored name once. -/
  lists {router : RouterRef} {pages : Nat} {state state' : σ} {refs : List RouteRef}
    (h : Listing plane router pages state none (.ok refs) state') :
    (refs.map RouteRef.routeName).Perm (store state).names
  accepted (state : σ) (call : Call) :
    store (plane.accept state call).2 = store state ∨
      ∃ answer, call.Changes answer (store state) (store (plane.accept state call).2)
  answered {state state' : σ} {call : Call} {answer : call.Answer}
    (h : plane.answer state call = (.ok answer, state')) :
    call.Changes answer (store state) (store state')

/-- A call that fails leaves what is stored. -/
def LeavesOnFailure (plane : Plane σ) (store : σ → NameMap RouteRecord) : Prop :=
  ∀ (state state' : σ) (call : Call) (error : ApiError),
    plane.answer state call = (.error error, state') → store state' = store state

/-- No call of a run failed. -/
def Run.NoCallFailed (run : Run σ) : Prop :=
  ∀ operation call outcome after, .answered operation call outcome after ∈ run.history →
    ∃ answer, outcome = .ok answer

/-- The call was not answered by a failure. -/
def Moment.succeeded : Moment σ → Bool
  | .answered _ _ outcome _ => outcome.isOk
  | .began _ | .logged _ | .issued .. | .settled .. => true

theorem Run.noCallFailed_iff {run : Run σ} :
    run.NoCallFailed ↔ run.history.all Moment.succeeded := by
  rw [List.all_eq_true]
  constructor
  · intro h moment hmem
    cases moment with
    | answered operation call outcome after =>
      obtain ⟨answer, rfl⟩ := h operation call outcome after hmem
      rfl
    | began _ | logged _ | issued _ _ _ | settled _ _ => rfl
  · intro h operation call outcome after hmem
    have hsucceeded := h _ hmem
    cases outcome with
    | ok answer => exact ⟨answer, rfl⟩
    | error error => cases hsucceeded

/-! ## The calls of a run -/

namespace Run

theorem calls_record {run : Run σ} {moment : Moment σ} (h : moment.after? = none) :
    (run.record moment).calls = run.calls := by
  unfold calls history record
  rw [List.reverse_cons, List.filterMap_append]
  cases moment with
  | issued _ _ _ => cases h
  | answered _ _ _ _ => cases h
  | began _ | logged _ | settled _ _ => exact List.append_nil _

theorem calls_issue (plane : Plane σ) (operation : Operation) (call : Call) (run : Run σ) :
    (run.issue plane operation call).2.calls = run.calls ++ [call] := by
  change List.filterMap _ (List.reverse (_ :: run.past)) = _
  rw [List.reverse_cons, List.filterMap_append]
  rfl

theorem calls_answer (plane : Plane σ) (operation : Operation) (call : Call) (run : Run σ) :
    (run.answer plane operation call).2.calls = run.calls := by
  change List.filterMap _ (List.reverse (_ :: run.past)) = _
  rw [List.reverse_cons, List.filterMap_append]
  exact List.append_nil _

/-- The calls about a name, in order. -/
def callsAt (run : Run σ) (name : String) : List Call :=
  run.calls.filter fun call => call.name? = some name

theorem callsAt_record {run : Run σ} {moment : Moment σ} (h : moment.after? = none)
    (name : String) : (run.record moment).callsAt name = run.callsAt name := by
  rw [callsAt, calls_record h, callsAt]

theorem callsAt_issue (plane : Plane σ) (operation : Operation) (call : Call) (run : Run σ)
    (name : String) : (run.issue plane operation call).2.callsAt name =
      run.callsAt name ++ if call.name? = some name then [call] else [] := by
  rw [callsAt, calls_issue, List.filter_append]
  by_cases h : call.name? = some name <;> simp [callsAt, h]

theorem callsAt_answer (plane : Plane σ) (operation : Operation) (call : Call) (run : Run σ)
    (name : String) : (run.answer plane operation call).2.callsAt name = run.callsAt name := by
  rw [callsAt, calls_answer, callsAt]

end Run

/-! ## The division by names -/

/-- What there is at a name: the stored entry, and the calls so far. -/
structure Holding where
  entry : Option RouteRecord
  calls : List Call

def Run.holding (store : σ → NameMap RouteRecord) (run : Run σ) (name : String) : Holding where
  entry := (store run.state).get? name
  calls := run.callsAt name

theorem Run.holding_eq {run run' : Run σ} {name : String}
    (hentry : (store run'.state).get? name = (store run.state).get? name)
    (hcalls : run'.callsAt name = run.callsAt name) :
    run'.holding store name = run.holding store name := by
  rw [holding, holding, hentry, hcalls]

namespace Holding

/-- A call was issued, and may have had its effect already. -/
structure Issues (call : Call) (before after : Holding) : Prop where
  entry : after.entry = before.entry ∨ ∃ answer, call.Effect answer before.entry after.entry
  calls : after.calls = before.calls ++ [call]

/-- A call was answered. -/
structure Answers (call : Call) (outcome : call.Outcome) (before after : Holding) : Prop where
  named {record : RouteRecord} (h : after.entry = some record) :
    call.name? = some record.routeName
  ok {answer : call.Answer} (h : outcome = .ok answer) :
    call.Effect answer before.entry after.entry
  error {error : ApiError} (h : outcome = .error error) : after.entry = before.entry
  calls : after.calls = before.calls

end Holding

namespace NamedStore

/-- The failures that are expected of a control plane leave what is stored. -/
def Spares (plane : Plane σ) (store : σ → NameMap RouteRecord)
    (expected : (call : Call) → call.Outcome → Prop) : Prop :=
  ∀ (state state' : σ) (call : Call) (error : ApiError),
    plane.answer state call = (.error error, state') → expected call (.error error) →
      store state' = store state

/-- A run divided by the names of routes. -/
def division (hstore : NamedStore plane store) {expected : (call : Call) → call.Outcome → Prop}
    (hspares : Spares plane store expected) : Division plane String Holding where
  share run := run.holding store
  own name call := call.name? = some name
  expected := expected
  issue := Holding.Issues
  answer := Holding.Answers
  share_takeTurn run := rfl
  share_record run moment h := by
    funext name
    exact Run.holding_eq rfl (Run.callsAt_record h name)
  share_issue run operation call name hown := by
    have hcalls := run.callsAt_issue plane operation call
    refine ⟨⟨?_, ?_⟩, ?_⟩
    · rcases hstore.accepted run.state call with hleft | ⟨answer, hchanges⟩
      · exact .inl (congrArg (NameMap.get? · name) hleft)
      · exact .inr ⟨answer, hchanges.effect hown⟩
    · change (run.issue plane operation call).2.callsAt name = run.callsAt name ++ [call]
      rw [hcalls name, if_pos hown]
    · intro other hne
      have hother := Call.name?_ne_of_ne hown hne
      apply Run.holding_eq
      · rcases hstore.accepted run.state call with hleft | ⟨answer, hchanges⟩
        · exact congrArg (NameMap.get? · other) hleft
        · exact hchanges.frame hother
      · rw [hcalls other, if_neg hother, List.append_nil]
  share_answer run operation call name hown hexpected := by
    have hcalls := run.callsAt_answer plane operation call
    rcases hanswer : run.answer plane operation call with ⟨error | answer, run'⟩
    · rw [hanswer] at hcalls hexpected
      have hleft := hspares _ _ call error (Run.answer_eq hanswer).1 hexpected
      refine ⟨⟨?_, nofun, ?_, hcalls name⟩, ?_⟩
      · intro record hrecord
        rw [hown, hstore.named hrecord]
      · intro _ _
        exact congrArg (NameMap.get? · name) hleft
      · intro other _
        exact Run.holding_eq (congrArg (NameMap.get? · other) hleft) (hcalls other)
    · rw [hanswer] at hcalls
      have hchanges := hstore.answered (Run.answer_eq hanswer).1
      refine ⟨⟨?_, ?_, nofun, hcalls name⟩, ?_⟩
      · intro record hrecord
        rw [hown, hstore.named hrecord]
      · intro answer' heq
        cases heq
        exact hchanges.effect hown
      · intro other hne
        exact Run.holding_eq (hchanges.frame (Call.name?_ne_of_ne hown hne)) (hcalls other)

end NamedStore

/-! ## Listings -/

/-- From its start on, a run left the routes as they were. -/
structure Run.LeftRoutes (store : σ → NameMap RouteRecord) (start run : Run σ) : Prop where
  store_eq : store run.state = store start.state
  calls_eq (name : String) : run.callsAt name = start.callsAt name
  past {moment : Moment σ} {after : σ} (h : moment ∈ run.past)
    (hafter : moment.after? = some after) : moment ∈ start.past ∨ store after = store start.state

theorem Run.LeftRoutes.holding_eq {start run : Run σ} (h : start.LeftRoutes store run) :
    run.holding store = start.holding store := by
  funext name
  exact Run.holding_eq (by rw [h.store_eq]) (h.calls_eq name)

theorem Run.LeftRoutes.step {start run run' : Run σ} {moment : Moment σ}
    (h : start.LeftRoutes store run) (hpast : run'.past = moment :: run.past)
    (hafter : ∀ after, moment.after? = some after → run'.state = after)
    (hstore : store run'.state = store run.state)
    (hcalls : ∀ name, run'.callsAt name = run.callsAt name) : start.LeftRoutes store run' where
  store_eq := hstore.trans h.store_eq
  calls_eq name := (hcalls name).trans (h.calls_eq name)
  past {other after} hmem hother := by
    rw [hpast] at hmem
    rcases List.mem_cons.1 hmem with rfl | hold
    · rw [← hafter after hother, hstore]
      exact .inr h.store_eq
    · exact h.past hold hother

namespace NamedStore

variable {plane : Plane σ} {expected : (call : Call) → call.Outcome → Prop}
  {reconciler : Reconciler σ}

theorem store_eq_of_changes {before after : NameMap RouteRecord} {call : Call}
    {answer : call.Answer} (hcall : call.name? = none)
    (h : call.Changes answer before after) : after = before := by
  apply NameMap.eq_of_get?_eq
  intro name
  apply h.frame
  rw [hcall]
  nofun

theorem leftRoutes_record {start run : Run σ} {moment : Moment σ}
    (h : start.LeftRoutes store run) (hmoment : moment.after? = none) :
    start.LeftRoutes store (run.record moment) := by
  refine h.step rfl ?_ rfl (Run.callsAt_record hmoment)
  intro after hafter
  rw [hmoment] at hafter
  cases hafter

theorem leftRoutes_issue (hstore : NamedStore plane store) {start run : Run σ}
    (h : start.LeftRoutes store run) (router : RouterRef) (token : Option String) :
    start.LeftRoutes store (run.issue plane .listing (.list router token)).2 := by
  refine h.step rfl (fun _ hafter => Option.some.inj hafter) ?_ ?_
  · rcases hstore.accepted run.state (.list router token) with hsame | ⟨answer, hchanges⟩
    · exact hsame
    · exact store_eq_of_changes rfl hchanges
  · intro name
    rw [Run.callsAt_issue, if_neg nofun, List.append_nil]

theorem leftRoutes_answer (hstore : NamedStore plane store) (hspares : Spares plane store expected)
    {start run : Run σ} (h : start.LeftRoutes store run) (router : RouterRef)
    (token : Option String)
    (hadmits : (hstore.division hspares).Admits
      (run.answer plane .listing (.list router token)).2.past) :
    start.LeftRoutes store (run.answer plane .listing (.list router token)).2 := by
  refine h.step rfl (fun _ hafter => Option.some.inj hafter) ?_ ?_
  · rcases hanswer : run.answer plane .listing (.list router token) with ⟨error | page, run'⟩
    · obtain ⟨hanswered, hpast⟩ := Run.answer_eq hanswer
      have hexpected : expected (.list router token) (.error error) := by
        apply hadmits .listing (.list router token) _ run'.state
        rw [hanswer, hpast]
        exact List.mem_cons_self
      exact hspares _ _ _ _ hanswered hexpected
    · exact store_eq_of_changes rfl (hstore.answered (Run.answer_eq hanswer).1)
  · exact Run.callsAt_answer _ _ _ _

/-- A listing whose failures are expected leaves the routes. -/
theorem leftRoutes_of_list (hstore : NamedStore reconciler.plane store)
    (hspares : Spares reconciler.plane store expected) {router : RouterRef} {run run' : Run σ}
    {result : Except Stop (List RouteRef)} (h : reconciler.list router run = (result, run'))
    (hadmits : (hstore.division hspares).Admits run'.past) : run.LeftRoutes store run' := by
  let Left (run' : Run σ) :=
    (hstore.division hspares).Admits run'.past → run.LeftRoutes store run'
  have hkept : Reconciler.KeptByListing reconciler.plane router Left := by
    refine ⟨?_, ?_, ?_⟩
    · intro run₁ moment hmoment hrun₁ hadmits
      exact leftRoutes_record (hrun₁ (hadmits.of_suffix (List.suffix_cons _ _))) hmoment
    · intro run₁ token hrun₁ hadmits
      have hleft := hrun₁ (hadmits.of_suffix (List.suffix_cons _ _))
      exact hstore.leftRoutes_issue hleft router token
    · intro run₁ token hrun₁ hadmits
      have hleft := hrun₁ (hadmits.of_suffix (List.suffix_cons _ _))
      exact hstore.leftRoutes_answer hspares hleft router token hadmits
  have hstart : Left run := fun _ => ⟨rfl, fun _ => rfl, fun hmem _ => .inl hmem⟩
  exact Reconciler.list_keeps hkept h hstart hadmits

theorem perm_of_list (hstore : NamedStore reconciler.plane store)
    (hspares : Spares reconciler.plane store expected) {router : RouterRef} {run run' : Run σ}
    {refs : List RouteRef} (h : reconciler.list router run = (.ok refs, run'))
    (hadmits : (hstore.division hspares).Admits run'.past) :
    (refs.map RouteRef.routeName).Perm (store run'.state).names := by
  obtain ⟨_, hlisting⟩ := Reconciler.listing_of_list h
  rw [(hstore.leftRoutes_of_list hspares h hadmits).store_eq]
  exact hstore.lists hlisting

end NamedStore

end MeshRoutes.Control

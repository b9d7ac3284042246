import MeshRoutes.Proofs.Errand
import Mathlib.Data.List.Basic
/-!
# The deeds of an operation

The history of a run tells of many operations, one among the other. Its deeds are what it
tells of one of them: that it began, its calls and their answers, and how it was settled. The
states of the control plane are left out, so that the deeds do not depend on what else went on.
-/

namespace MeshRoutes.Control

open Remote

variable {σ α : Type}

/-- The failure that a result is settled with. -/
def failureOf : Except Failure α → Option Failure
  | .ok _ => none
  | .error failure => some failure

/-- Something that an operation did. -/
inductive Deed where
  | began
  | issued (call : Call)
  | answered (call : Call) (outcome : call.Outcome)
  | settled (failure : Option Failure)

/-- The operation that a moment is of. An event is of none. -/
def Moment.operation? : Moment σ → Option Operation
  | .began operation | .issued operation _ _ | .answered operation _ _ _
  | .settled operation _ => some operation
  | .logged _ => none

/-- What an operation did at a moment, if it is one of its own. -/
def Moment.deed? (operation : Operation) : Moment σ → Option Deed
  | .began o => if o = operation then some .began else none
  | .issued o call _ => if o = operation then some (.issued call) else none
  | .answered o call outcome _ => if o = operation then some (.answered call outcome) else none
  | .settled o failure => if o = operation then some (.settled failure) else none
  | .logged _ => none

/-- What an operation did, in order. -/
def deeds (operation : Operation) (history : List (Moment σ)) : List Deed :=
  history.filterMap (Moment.deed? operation)

/-! ## Histories as they grow -/

/-- A member of a list with one more at its end is that one, or a member of the list. -/
theorem eq_or_exists_of_concat_eq {τ : Type} {items before later : List τ} {last item : τ}
    (h : items ++ [last] = before ++ item :: later) :
    (before = items ∧ item = last) ∨ ∃ rest, items = before ++ item :: rest := by
  rcases List.eq_nil_or_concat later with rfl | ⟨rest, final, rfl⟩
  · obtain ⟨rfl, hlast⟩ := List.append_inj' h rfl
    cases hlast
    exact .inl ⟨rfl, rfl⟩
  · have hsplit : items ++ [last] = (before ++ item :: rest) ++ [final] := by simpa using h
    exact .inr ⟨rest, (List.append_inj' hsplit rfl).1⟩

namespace Run

theorem history_record (run : Run σ) (moment : Moment σ) :
    (run.record moment).history = run.history ++ [moment] :=
  List.reverse_cons

theorem history_log (run : Run σ) (event : Log.Event) :
    (run.log event).history = run.history ++ [.logged event] :=
  run.history_record _

theorem history_issue (plane : Plane σ) (operation : Operation) (call : Call) (run : Run σ) :
    (run.issue plane operation call).2.history =
      run.history ++ [.issued operation call (run.issue plane operation call).2.state] :=
  List.reverse_cons

theorem history_answer (plane : Plane σ) (operation : Operation) (call : Call) (run : Run σ) :
    (run.answer plane operation call).2.history =
      run.history ++ [.answered operation call (run.answer plane operation call).1
        (run.answer plane operation call).2.state] :=
  List.reverse_cons

end Run

theorem Moment.deed?_eq_none {operation : Operation} {moment : Moment σ}
    (h : moment.operation? ≠ some operation) : moment.deed? operation = none := by
  cases moment with
  | logged event => rfl
  | began o | issued o _ _ | answered o _ _ _ | settled o _ =>
    exact if_neg fun heq => h (congrArg some heq)

@[simp] theorem deeds_append (operation : Operation) (earlier later : List (Moment σ)) :
    deeds operation (earlier ++ later) = deeds operation earlier ++ deeds operation later :=
  List.filterMap_append

theorem deeds_eq_nil {operation : Operation} {history : List (Moment σ)}
    (h : ∀ moment ∈ history, moment.operation? ≠ some operation) :
    deeds operation history = [] :=
  List.filterMap_eq_nil_iff.2 fun moment hmem => Moment.deed?_eq_none (h moment hmem)

theorem deeds_concat (operation : Operation) (history : List (Moment σ)) (moment : Moment σ) :
    deeds operation (history ++ [moment]) =
      deeds operation history ++ (moment.deed? operation).toList := by
  rw [deeds_append]
  cases h : moment.deed? operation <;> simp [deeds, h]

theorem deeds_concat_of_ne {operation : Operation} {history : List (Moment σ)}
    {moment : Moment σ} (h : moment.operation? ≠ some operation) :
    deeds operation (history ++ [moment]) = deeds operation history := by
  rw [deeds_concat, Moment.deed?_eq_none h, Option.toList_none, List.append_nil]

@[simp] theorem deeds_log (operation : Operation) (run : Run σ) (event : Log.Event) :
    deeds operation (run.log event).history = deeds operation run.history := by
  rw [Run.history_log]
  exact deeds_concat_of_ne nofun

section Members

variable {operation : Operation} {history : List (Moment σ)}

theorem issued_mem_deeds {call : Call} :
    .issued call ∈ deeds operation history ↔ ∃ after, .issued operation call after ∈ history := by
  rw [deeds, List.mem_filterMap]
  constructor
  · rintro ⟨moment, hmem, hdeed⟩
    cases moment <;> simp only [Moment.deed?, Option.ite_none_right_eq_some, reduceCtorEq,
      Option.some.injEq, and_false, Deed.issued.injEq] at hdeed
    obtain ⟨rfl, rfl⟩ := hdeed
    exact ⟨_, hmem⟩
  · rintro ⟨after, hmem⟩
    exact ⟨_, hmem, if_pos rfl⟩

theorem answered_mem_deeds {call : Call} {outcome : call.Outcome} :
    .answered call outcome ∈ deeds operation history ↔
      ∃ after, .answered operation call outcome after ∈ history := by
  rw [deeds, List.mem_filterMap]
  constructor
  · rintro ⟨moment, hmem, hdeed⟩
    cases moment <;> simp only [Moment.deed?, Option.ite_none_right_eq_some, reduceCtorEq,
      Option.some.injEq, and_false, Deed.answered.injEq] at hdeed
    obtain ⟨rfl, rfl, houtcome⟩ := hdeed
    cases houtcome
    exact ⟨_, hmem⟩
  · rintro ⟨after, hmem⟩
    exact ⟨_, hmem, if_pos rfl⟩

theorem settled_mem_deeds {failure : Option Failure} :
    .settled failure ∈ deeds operation history ↔ .settled operation failure ∈ history := by
  rw [deeds, List.mem_filterMap]
  constructor
  · rintro ⟨moment, hmem, hdeed⟩
    cases moment <;> simp only [Moment.deed?, Option.ite_none_right_eq_some, reduceCtorEq,
      Option.some.injEq, and_false, Deed.settled.injEq] at hdeed
    obtain ⟨rfl, rfl⟩ := hdeed
    exact hmem
  · intro hmem
    exact ⟨_, hmem, if_pos rfl⟩

end Members

/-! ## The calls of an operation -/

@[simp] def Deed.call? : Deed → Option Call
  | issued call => some call
  | began | answered _ _ | settled _ => none

/-- The calls that an operation issued, in order. -/
def Run.callsOf (run : Run σ) (operation : Operation) : List Call :=
  (deeds operation run.history).filterMap Deed.call?

theorem Run.mem_callsOf {run : Run σ} {operation : Operation} {call : Call} :
    call ∈ run.callsOf operation ↔ ∃ after, .issued operation call after ∈ run.history := by
  rw [callsOf, List.mem_filterMap, ← issued_mem_deeds]
  constructor
  · rintro ⟨deed, hmem, hcall⟩
    cases deed <;> cases hcall
    exact hmem
  · intro hmem
    exact ⟨_, hmem, rfl⟩

/-! ## The calls of a run -/

/-- The call that a deed is about. -/
def Deed.about? : Deed → Option Call
  | issued call | answered call _ => some call
  | began | settled _ => none

/-- The calls of a run, and the operations that make them, are of some kind. -/
def Run.CallsAre (kind : Operation → Call → Prop) (run : Run σ) : Prop :=
  ∀ operation, ∀ deed ∈ deeds operation run.history, ∀ call, deed.about? = some call →
    kind operation call

namespace Run

variable {kind kind' : Operation → Call → Prop} {run : Run σ} {operation : Operation} {call : Call}

theorem CallsAre.issued (h : run.CallsAre kind) {after : σ}
    (hmem : .issued operation call after ∈ run.history) : kind operation call :=
  h operation _ (issued_mem_deeds.2 ⟨after, hmem⟩) call rfl

theorem CallsAre.answered (h : run.CallsAre kind) {outcome : call.Outcome} {after : σ}
    (hmem : .answered operation call outcome after ∈ run.history) : kind operation call :=
  h operation _ (answered_mem_deeds.2 ⟨after, hmem⟩) call rfl

theorem CallsAre.mono (h : run.CallsAre kind)
    (himp : ∀ operation call, kind operation call → kind' operation call) :
    run.CallsAre kind' :=
  fun operation deed hdeed call habout => himp operation call (h operation deed hdeed call habout)

theorem mem_calls : call ∈ run.calls ↔
    ∃ operation after, .issued operation call after ∈ run.history := by
  rw [calls, List.mem_filterMap]
  constructor
  · rintro ⟨moment, hmem, hcall⟩
    cases moment <;> cases hcall
    exact ⟨_, _, hmem⟩
  · rintro ⟨operation, after, hmem⟩
    exact ⟨_, hmem, rfl⟩

theorem CallsAre.exists_of_mem (h : run.CallsAre kind) (hmem : call ∈ run.calls) :
    ∃ operation, kind operation call := by
  obtain ⟨operation, after, hissued⟩ := mem_calls.1 hmem
  exact ⟨operation, h.issued hissued⟩

/-- Calls that only one operation makes are found among its own. -/
theorem filter_calls {p : Call → Bool}
    (h : ∀ other call after, .issued other call after ∈ run.history → p call →
      other = operation) :
    run.calls.filter p = (run.callsOf operation).filter p := by
  rw [calls, callsOf, deeds, List.filterMap_filterMap, List.filter_filterMap,
    List.filter_filterMap]
  apply List.filterMap_congr
  intro moment hmem
  cases moment with
  | logged _ => rfl
  | began other | answered other _ _ _ | settled other _ =>
    by_cases hsame : other = operation <;> simp [Moment.deed?, hsame]
  | issued other call after =>
    by_cases hsame : other = operation
    · simp [Moment.deed?, hsame]
    · have hp : ¬p call := fun hp => hsame (h other call after hmem hp)
      simp [Moment.deed?, hsame, hp]

end Run

/-! ## Listings -/

/-- The refs that a listing was answered with. -/
def Deed.refs : Deed → List RouteRef
  | answered (.list _ _) (.ok page) => page.refs
  | _ => []

/-- The refs that a run has listed. -/
def Run.listed (run : Run σ) : List RouteRef :=
  (deeds .listing run.history).flatMap Deed.refs

/-- A page of a router's routes was asked for or given. -/
def Moment.IsPage (router : RouterRef) : Moment σ → Prop
  | .issued .listing (.list r _) _ | .answered .listing (.list r _) _ _ => r = router
  | _ => False

theorem Moment.IsPage.operation?_eq {router : RouterRef} {moment : Moment σ}
    (h : moment.IsPage router) : moment.operation? = some .listing := by
  unfold IsPage at h
  split at h
  · rfl
  · rfl
  · cases h

theorem Moment.IsPage.eq_list_of_about {router : RouterRef} {moment : Moment σ}
    (h : moment.IsPage router) {deed : Deed} {call : Call}
    (hdeed : moment.deed? .listing = some deed) (habout : deed.about? = some call) :
    ∃ token, call = .list router token := by
  unfold IsPage at h
  split at h
  · cases hdeed
    cases habout
    exact ⟨_, congrArg (Call.list · _) h⟩
  · cases hdeed
    cases habout
    exact ⟨_, congrArg (Call.list · _) h⟩
  · cases h

namespace Reconciler

variable {plane : Plane σ} {router : RouterRef}

/-- What asking for a page adds to the history. -/
private theorem history_of_page {token : Option String} {run run' : Run σ}
    {outcome : (Call.list router token).Outcome}
    (h : (run.issue plane .listing (.list router token)).2.answer plane .listing
      (.list router token) = (outcome, run')) :
    ∃ page : List (Moment σ), (∀ moment ∈ page, moment.IsPage router) ∧
      run'.history = run.history ++ page ∧
      deeds .listing page = [.issued (.list router token), .answered (.list router token) outcome]
    := by
  have hanswer := (run.issue plane .listing (.list router token)).2.history_answer plane .listing
    (.list router token)
  rw [h, Run.history_issue, List.append_assoc] at hanswer
  refine ⟨[.issued .listing _ _, .answered .listing _ outcome _], ?_, hanswer, rfl⟩
  intro moment hmem
  simp only [List.mem_cons, List.not_mem_nil, or_false] at hmem
  rcases hmem with rfl | rfl <;> rfl

/-- What a listing from a token on adds to the history. -/
theorem history_of_listFrom {listed : List RouteRef} {token : Option String} {limit : Nat}
    {run run' : Run σ} {result : Except Stop (List RouteRef)}
    (h : listFrom plane router listed token limit run = (result, run')) :
    ∃ pages : List (Moment σ), (∀ moment ∈ pages, moment.IsPage router) ∧
      ((result = .ok (listed ++ (deeds .listing pages).flatMap Deed.refs) ∧
          run'.history = run.history ++ (pages ++ [.settled .listing none])) ∨
        (∃ failure, result = .error (.failed failure) ∧
          run'.history = run.history ++ (pages ++ [.settled .listing (some failure)])) ∨
        (result = .error .unfinished ∧ run'.history = run.history ++ pages)) := by
  induction limit generalizing listed token run with
  | zero =>
    rw [listFrom] at h
    cases h
    exact ⟨[], by simp, .inr (.inr ⟨rfl, (List.append_nil _).symm⟩)⟩
  | succ limit ih =>
    simp only [listFrom] at h
    split at h
    · rename_i error run₁ hanswer
      cases h
      obtain ⟨first, hfirst, hhistory, _⟩ := history_of_page hanswer
      refine ⟨first, hfirst, .inr (.inl ⟨_, rfl, ?_⟩)⟩
      rw [Run.history_record, hhistory, List.append_assoc]
    · rename_i page run₁ hanswer
      obtain ⟨first, hfirst, hhistory, hrefs⟩ := history_of_page hanswer
      split at h
      · obtain ⟨rest, hrest, hends⟩ := ih h
        refine ⟨first ++ rest, ?_, ?_⟩
        · intro moment hmem
          exact (List.mem_append.1 hmem).elim (hfirst moment) (hrest moment)
        · simpa [hhistory, hrefs, Deed.refs] using hends
      · cases h
        refine ⟨first, hfirst, .inl ⟨?_, ?_⟩⟩
        · simp [hrefs, Deed.refs]
        · rw [Run.history_record, hhistory, List.append_assoc]

variable {reconciler : Reconciler σ}

/-- What a listing tells, by its result. -/
inductive ListingHistory (router : RouterRef) :
    Except Stop (List RouteRef) → List (Moment σ) → Prop where
  | listed {pages : List (Moment σ)} (h : ∀ moment ∈ pages, moment.IsPage router) :
    ListingHistory router (.ok ((deeds .listing pages).flatMap Deed.refs))
      (.began .listing :: (pages ++ [.settled .listing none]) ++
        [.logged (.listed ((deeds .listing pages).flatMap Deed.refs).length)])
  | failed {pages : List (Moment σ)} (failure : Failure)
      (h : ∀ moment ∈ pages, moment.IsPage router) :
    ListingHistory router (.error (.failed failure))
      (.began .listing :: (pages ++ [.settled .listing (some failure)]))
  | unfinished {pages : List (Moment σ)} (h : ∀ moment ∈ pages, moment.IsPage router) :
    ListingHistory router (.error .unfinished) (.began .listing :: pages)

theorem history_of_list {run run' : Run σ} {result : Except Stop (List RouteRef)}
    (h : reconciler.list router run = (result, run')) :
    ∃ told : List (Moment σ), ListingHistory router result told ∧
      run'.history = run.history ++ told := by
  rw [list_eq] at h
  split at h
  · rename_i refs run₁ hlist
    cases h
    obtain ⟨pages, hpages, ⟨hrefs, hhistory⟩ | ⟨_, herror, _⟩ | ⟨herror, _⟩⟩ :=
      history_of_listFrom hlist
    · rw [List.nil_append] at hrefs
      cases hrefs
      refine ⟨_, .listed hpages, ?_⟩
      rw [Run.history_log, hhistory, Run.history_record]
      simp
    · cases herror
    · cases herror
  · rename_i stop run₁ hlist
    cases h
    obtain ⟨pages, hpages, ⟨hrefs, _⟩ | ⟨failure, herror, hhistory⟩ | ⟨herror, hhistory⟩⟩ :=
      history_of_listFrom hlist
    · cases hrefs
    · cases herror
      refine ⟨_, .failed failure hpages, ?_⟩
      rw [hhistory, Run.history_record]
      simp
    · cases herror
      refine ⟨_, .unfinished hpages, ?_⟩
      rw [hhistory, Run.history_record]
      simp

theorem ListingHistory.mem_cases {result : Except Stop (List RouteRef)}
    {told : List (Moment σ)} (h : ListingHistory router result told) {moment : Moment σ}
    (hmem : moment ∈ told) :
    moment = .began .listing ∨ moment.IsPage router ∨
      (∃ failure, moment = .settled .listing failure) ∨ ∃ event, moment = .logged event := by
  cases h with
  | listed hpages =>
    simp only [List.cons_append, List.mem_cons, List.mem_append, List.not_mem_nil,
      or_false] at hmem
    rcases hmem with rfl | (hmem | rfl) | rfl
    · exact .inl rfl
    · exact .inr (.inl (hpages moment hmem))
    · exact .inr (.inr (.inl ⟨_, rfl⟩))
    · exact .inr (.inr (.inr ⟨_, rfl⟩))
  | failed _ hpages =>
    simp only [List.mem_cons, List.mem_append, List.not_mem_nil, or_false] at hmem
    rcases hmem with rfl | hmem | rfl
    · exact .inl rfl
    · exact .inr (.inl (hpages moment hmem))
    · exact .inr (.inr (.inl ⟨_, rfl⟩))
  | unfinished hpages =>
    rcases List.mem_cons.1 hmem with rfl | hmem
    · exact .inl rfl
    · exact .inr (.inl (hpages moment hmem))

/-- How a listing is settled agrees with its result. -/
theorem ListingHistory.result_of_settled {result : Except Stop (List RouteRef)}
    {told : List (Moment σ)} (h : ListingHistory router result told) {failure : Option Failure}
    (hmem : .settled .listing failure ∈ told) :
    (failure = none ∧ ∃ refs, result = .ok refs) ∨
      ∃ reason, failure = some reason ∧ result = .error (.failed reason) := by
  have hpages : ∀ {pages : List (Moment σ)}, (∀ moment ∈ pages, moment.IsPage router) →
      .settled .listing failure ∉ pages := fun hpages hmem => hpages _ hmem
  cases h with
  | listed hlisted =>
    simp only [List.cons_append, List.mem_cons, List.mem_append, List.not_mem_nil, or_false,
      reduceCtorEq, false_or, hpages hlisted, Moment.settled.injEq, true_and] at hmem
    exact .inl ⟨hmem, _, rfl⟩
  | failed reason hlisted =>
    simp only [List.mem_cons, List.mem_append, List.not_mem_nil, or_false, reduceCtorEq,
      false_or, hpages hlisted, Moment.settled.injEq, true_and] at hmem
    exact .inr ⟨reason, hmem, rfl⟩
  | unfinished hlisted =>
    rcases List.mem_cons.1 hmem with heq | hmem
    · cases heq
    · exact absurd hmem (hpages hlisted)

/-- A listing makes no calls but for its pages. -/
theorem ListingHistory.eq_list_of_about {result : Except Stop (List RouteRef)}
    {told : List (Moment σ)} (h : ListingHistory router result told) {deed : Deed} {call : Call}
    (hdeed : deed ∈ deeds .listing told) (habout : deed.about? = some call) :
    ∃ token, call = .list router token := by
  obtain ⟨moment, hmem, hof⟩ := List.mem_filterMap.1 hdeed
  rcases h.mem_cases hmem with rfl | hpage | ⟨_, rfl⟩ | ⟨_, rfl⟩
  · cases hof
    cases habout
  · exact hpage.eq_list_of_about hof habout
  · cases hof
    cases habout
  · cases hof

/-- A listing tells of no other operation. -/
theorem ListingHistory.operation_eq {result : Except Stop (List RouteRef)}
    {told : List (Moment σ)} (h : ListingHistory router result told) {moment : Moment σ}
    (hmem : moment ∈ told) {operation : Operation} (hof : moment.operation? = some operation) :
    operation = .listing := by
  rcases h.mem_cases hmem with rfl | hpage | ⟨failure, rfl⟩ | ⟨event, rfl⟩
  · exact (Option.some.inj hof).symm
  · rw [hpage.operation?_eq] at hof
    exact (Option.some.inj hof).symm
  · exact (Option.some.inj hof).symm
  · cases hof

end Reconciler

end MeshRoutes.Control

import MeshRoutes.Control.Reconciler
/-!
# The course of an errand

An errand lists and then reconciles. Each of its stages either stops it or hands its result
on to the next one, and its course is told by the stages that it went through.
-/

namespace MeshRoutes.Control

open Remote

variable {σ ε α β : Type}

theorem Run.answer_eq {plane : Plane σ} {operation : Operation} {call : Call}
    {outcome : call.Outcome} {run run' : Run σ}
    (h : run.answer plane operation call = (outcome, run')) :
    plane.answer run.state call = (outcome, run'.state) ∧
      run'.past = .answered operation call outcome run'.state :: run.past := by
  have houtcome := congrArg Prod.fst h
  have hrun := congrArg Prod.snd h
  subst houtcome hrun
  exact ⟨rfl, rfl⟩

namespace Action

variable {τ : Type} {x : ExceptT ε (StateM τ) α} {f : α → ExceptT ε (StateM τ) β}
  {run run₁ run' : τ}

theorem bind_cases {result : Except ε β} (h : (x >>= f) run = (result, run')) :
    (∃ error, x run = (.error error, run') ∧ result = .error error) ∨
      ∃ a run₁, x run = (.ok a, run₁) ∧ f a run₁ = (result, run') := by
  change ExceptT.bindCont f (x run).1 (x run).2 = (result, run') at h
  rcases hx : x run with ⟨error | a, run₁⟩
  · rw [hx] at h
    cases h
    exact .inl ⟨error, rfl, rfl⟩
  · rw [hx] at h
    exact .inr ⟨a, run₁, rfl, h⟩

theorem bind_of_ok {a : α} (h : x run = (.ok a, run₁)) : (x >>= f) run = f a run₁ := by
  change ExceptT.bindCont f (x run).1 (x run).2 = f a run₁
  rw [h]
  rfl

theorem bind_of_error {error : ε} (h : x run = (.error error, run₁)) :
    (x >>= f) run = (.error error, run₁) := by
  change ExceptT.bindCont f (x run).1 (x run).2 = (.error error, run₁)
  rw [h]
  rfl

end Action

/-! ## Listings -/

/-- The pages of a listing, from a state and a token on: how many are asked for, what they
hold, and the state that they are left in. -/
inductive Listing (plane : Plane σ) (router : RouterRef) :
    Nat → σ → Option String → Except ApiError (List RouteRef) → σ → Prop where
  | failed {state state' : σ} {token : Option String} {error : ApiError}
      (h : plane.answer (plane.accept state (.list router token)).2 (.list router token) =
        (.error error, state')) :
    Listing plane router 1 state token (.error error) state'
  | last {state state' : σ} {token : Option String} {page : Page}
      (h : plane.answer (plane.accept state (.list router token)).2 (.list router token) =
        (.ok page, state')) (hnext : page.next = none) :
    Listing plane router 1 state token (.ok page.refs) state'
  | more {pages : Nat} {state state₁ state' : σ} {token : Option String} {page : Page}
      {next : String} {result : Except ApiError (List RouteRef)}
      (h : plane.answer (plane.accept state (.list router token)).2 (.list router token) =
        (.ok page, state₁)) (hnext : page.next = some next)
      (hrest : Listing plane router pages state₁ (some next) result state') :
    Listing plane router (pages + 1) state token (result.map (page.refs ++ ·)) state'

/-- The listing of a router's routes ends within so many pages. -/
def Listing.EndsWithin (plane : Plane σ) (router : RouterRef) (limit : Nat) (state : σ) :
    Prop :=
  ∃ pages result state', Listing plane router pages state none result state' ∧ pages ≤ limit

/-- A listing is one of any control plane that answers alike. -/
theorem Listing.map {τ : Type} {plane : Plane σ} {plane' : Plane τ} (f : σ → τ)
    (haccept : ∀ state call, (plane'.accept (f state) call).2 = f (plane.accept state call).2)
    (hanswer : ∀ state call, plane'.answer (f state) call =
      ((plane.answer state call).1, f (plane.answer state call).2))
    {router : RouterRef} {pages : Nat} {state state' : σ} {token : Option String}
    {result : Except ApiError (List RouteRef)}
    (h : Listing plane router pages state token result state') :
    Listing plane' router pages (f state) token result (f state') := by
  induction h with
  | failed h =>
    apply Listing.failed
    rw [haccept, hanswer, h]
  | last h hnext =>
    refine .last ?_ hnext
    rw [haccept, hanswer, h]
  | more h hnext _ ih =>
    refine .more ?_ hnext ih
    rw [haccept, hanswer, h]

/-- A listing whose first page is the only one ends with it. -/
theorem Listing.endsWithin_one {plane : Plane σ} {router : RouterRef} {state : σ}
    (h : ∀ page state', plane.answer (plane.accept state (.list router none)).2
      (.list router none) = (.ok page, state') → page.next = none) :
    Listing.EndsWithin plane router 1 state := by
  rcases hanswer : plane.answer (plane.accept state (.list router none)).2 (.list router none)
    with ⟨error | page, state'⟩
  · exact ⟨1, _, state', .failed hanswer, Nat.le_refl 1⟩
  · exact ⟨1, _, state', .last hanswer (h page state' hanswer), Nat.le_refl 1⟩

namespace Reconciler

variable {plane : Plane σ} {router : RouterRef}

theorem listFrom_cases {listed : List RouteRef} {token : Option String} {limit : Nat}
    {run run' : Run σ} {result : Except Stop (List RouteRef)}
    (h : listFrom plane router listed token limit run = (result, run')) :
    (∃ pages refs, result = .ok (listed ++ refs) ∧
      Listing plane router pages run.state token (.ok refs) run'.state) ∨
    (∃ error token after,
      Moment.answered .listing (.list router token) (.error error) after ∈ run'.past ∧
        result = .error (.failed (.api error))) ∨
    (result = .error .unfinished ∧ ∀ pages result state',
      Listing plane router pages run.state token result state' → limit < pages) := by
  induction limit generalizing listed token run with
  | zero =>
    rw [listFrom] at h
    cases h
    refine .inr (.inr ⟨rfl, ?_⟩)
    intro pages result state' hlisting
    cases hlisting <;> exact Nat.succ_pos _
  | succ limit ih =>
    simp only [listFrom] at h
    split at h
    · rename_i error run₁ hanswer
      cases h
      refine .inr (.inl ⟨error, token, run₁.state, ?_, rfl⟩)
      apply List.mem_cons_of_mem
      rw [(Run.answer_eq hanswer).2]
      exact List.mem_cons_self
    · rename_i page run₁ hanswer
      have hpage : plane.answer (plane.accept run.state (.list router token)).2
          (.list router token) = (.ok page, run₁.state) := (Run.answer_eq hanswer).1
      split at h
      · rename_i next hnext
        rcases ih h with ⟨pages, refs, hresult, hrest⟩ | hfailed | ⟨hresult, hlong⟩
        · rw [List.append_assoc] at hresult
          exact .inl ⟨pages + 1, page.refs ++ refs, hresult, .more hpage hnext hrest⟩
        · exact .inr (.inl hfailed)
        · refine .inr (.inr ⟨hresult, ?_⟩)
          intro pages result state' hlisting
          cases hlisting with
          | failed herror =>
            rw [hpage] at herror
            cases herror
          | last hlast hnone =>
            rw [hpage] at hlast
            cases hlast
            rw [hnext] at hnone
            cases hnone
          | more hmore hsome hrest =>
            rw [hpage] at hmore
            cases hmore
            rw [hnext] at hsome
            cases hsome
            exact Nat.succ_lt_succ (hlong _ _ _ hrest)
      · rename_i hnext
        cases h
        exact .inl ⟨1, page.refs, rfl, .last hpage hnext⟩

variable {reconciler : Reconciler σ}

theorem log_eq (event : Log.Event) (run : Run σ) :
    (log event : Action σ Stop Unit) run = (.ok (), run.log event) := rfl

theorem list_eq (reconciler : Reconciler σ) (router : RouterRef) (run : Run σ) :
    reconciler.list router run =
      match listFrom reconciler.plane router [] none reconciler.policy.pageLimit
        (run.record (.began .listing)) with
      | (.ok refs, run₁) => (.ok refs, run₁.log (.listed refs.length))
      | (.error stop, run₁) => (.error stop, run₁) := by
  rcases h : listFrom reconciler.plane router [] none reconciler.policy.pageLimit
    (run.record (.began .listing)) with ⟨stop | refs, run₁⟩
  · exact (Action.bind_of_ok rfl).trans (Action.bind_of_error h)
  · exact (Action.bind_of_ok rfl).trans (Action.bind_of_ok h)

theorem list_cases {run run' : Run σ} {result : Except Stop (List RouteRef)}
    (h : reconciler.list router run = (result, run')) :
    (∃ pages refs, result = .ok refs ∧
      Listing reconciler.plane router pages run.state none (.ok refs) run'.state) ∨
    (∃ error token after,
      Moment.answered .listing (.list router token) (.error error) after ∈ run'.past ∧
        result = .error (.failed (.api error))) ∨
    (result = .error .unfinished ∧
      ¬Listing.EndsWithin reconciler.plane router reconciler.policy.pageLimit run.state) := by
  rw [list_eq] at h
  split at h
  · rename_i refs run₁ hlist
    cases h
    rcases listFrom_cases hlist with ⟨pages, refs', hrefs, hlisting⟩ | ⟨_, _, _, _, herror⟩ |
      ⟨herror, _⟩
    · cases hrefs
      exact .inl ⟨pages, refs', rfl, hlisting⟩
    · cases herror
    · cases herror
  · rename_i stop run₁ hlist
    cases h
    rcases listFrom_cases hlist with ⟨pages, refs', hrefs, _⟩ | hfailed | ⟨hstop, hlong⟩
    · cases hrefs
    · exact .inr (.inl hfailed)
    · refine .inr (.inr ⟨hstop, ?_⟩)
      rintro ⟨pages, result, state', hlisting, hle⟩
      have hlt := hlong pages result state' hlisting
      omega

theorem listing_of_list {run run' : Run σ} {refs : List RouteRef}
    (h : reconciler.list router run = (.ok refs, run')) :
    ∃ pages, Listing reconciler.plane router pages run.state none (.ok refs) run'.state := by
  rcases list_cases h with ⟨pages, _, hok, hlisting⟩ | ⟨_, _, _, _, herror⟩ | ⟨herror, _⟩
  · cases hok
    exact ⟨pages, hlisting⟩
  · cases herror
  · cases herror

section Keeps

/-- A property of runs that the calls of a listing keep. -/
structure KeptByListing (plane : Plane σ) (router : RouterRef) (P : Run σ → Prop) : Prop where
  record {run : Run σ} {moment : Moment σ} (h : moment.after? = none) (hrun : P run) :
    P (run.record moment)
  issue {run : Run σ} (token : Option String) (hrun : P run) :
    P (run.issue plane .listing (.list router token)).2
  answer {run : Run σ} (token : Option String) (hrun : P run) :
    P (run.answer plane .listing (.list router token)).2

variable {P : Run σ → Prop}

theorem listFrom_keeps (hkept : KeptByListing plane router P) (listed : List RouteRef)
    (token : Option String) (limit : Nat) {run : Run σ} (hrun : P run) :
    P (listFrom plane router listed token limit run).2 := by
  induction limit generalizing listed token run with
  | zero => exact hrun
  | succ limit ih =>
    have hanswered := hkept.answer token (hkept.issue token hrun)
    simp only [listFrom]
    split
    · rename_i error run₁ hanswer
      rw [hanswer] at hanswered
      exact hkept.record rfl hanswered
    · rename_i page run₁ hanswer
      rw [hanswer] at hanswered
      split
      · exact ih _ _ hanswered
      · exact hkept.record rfl hanswered

theorem list_keeps (hkept : KeptByListing reconciler.plane router P) {run run' : Run σ}
    {result : Except Stop (List RouteRef)} (h : reconciler.list router run = (result, run'))
    (hrun : P run) : P run' := by
  have hbegan : P (run.record (.began .listing)) := hkept.record rfl hrun
  have hlist := listFrom_keeps hkept [] none reconciler.policy.pageLimit hbegan
  rw [list_eq] at h
  split at h
  · rename_i refs run₁ heq
    cases h
    rw [heq] at hlist
    exact hkept.record rfl hlist
  · rename_i stop run₁ heq
    cases h
    rw [heq] at hlist
    exact hlist

end Keeps

/-! ## Reconciling -/

/-- How far reconciling got, and what came of it. -/
inductive Course (reconciler : Reconciler σ) (router : RouterRef) (scope : Declared.Scope)
    (routes : List Declared.Route) (refs : List RouteRef) (run : Run σ) :
    Except Stop (NameMap RouteRecord) → Run σ → Prop where
  | duplicate {name : DuplicateName} (h : Partition.of routes refs = .error name) :
    Course reconciler router scope routes refs run (.error (.failed (.duplicateName name))) run
  | creating {partition : Partition} {stop : Stop} {run' : Run σ}
      (h : Partition.of routes refs = .ok partition)
      (hcreate : reconciler.batch (.creating ·.name) (RouteTask.create router scope)
        partition.missing (run.log (.reconciling partition.missing.length
          partition.matched.length partition.surplus.length)) = (.error stop, run')) :
    Course reconciler router scope routes refs run (.error stop) run'
  | updating {partition : Partition} {created : List (String × RouteRecord)} {stop : Stop}
      {run₁ run' : Run σ} (h : Partition.of routes refs = .ok partition)
      (hcreate : reconciler.batch (.creating ·.name) (RouteTask.create router scope)
        partition.missing (run.log (.reconciling partition.missing.length
          partition.matched.length partition.surplus.length)) = (.ok created, run₁))
      (hupdate : reconciler.batch (.updating ·.route.name) (RouteTask.update scope)
        partition.matched run₁ = (.error stop, run')) :
    Course reconciler router scope routes refs run (.error stop) run'
  | deleting {partition : Partition} {created updated : List (String × RouteRecord)}
      {deleted : Except Stop (List Unit)} {run₁ run₂ run' : Run σ}
      (h : Partition.of routes refs = .ok partition)
      (hcreate : reconciler.batch (.creating ·.name) (RouteTask.create router scope)
        partition.missing (run.log (.reconciling partition.missing.length
          partition.matched.length partition.surplus.length)) = (.ok created, run₁))
      (hupdate : reconciler.batch (.updating ·.route.name) (RouteTask.update scope)
        partition.matched run₁ = (.ok updated, run₂))
      (hdelete : reconciler.batch (.deleting ·.routeName) RouteTask.retire
        partition.surplus run₂ = (deleted, run')) :
    Course reconciler router scope routes refs run
      (deleted.map fun _ => NameMap.ofList (created ++ updated)) run'

theorem course_of_reconcile {scope : Declared.Scope} {routes : List Declared.Route}
    {refs : List RouteRef} {run run' : Run σ} {result : Except Stop (NameMap RouteRecord)}
    (h : reconciler.reconcile router scope routes refs run = (result, run')) :
    Course reconciler router scope routes refs run result run' := by
  unfold reconcile at h
  cases hpartition : Partition.of routes refs with
  | error name =>
    rw [hpartition] at h
    cases h
    exact .duplicate hpartition
  | ok partition =>
    rw [hpartition] at h
    dsimp only at h
    rw [Action.bind_of_ok (log_eq _ _)] at h
    rcases Action.bind_cases h with ⟨stop, hcreate, rfl⟩ | ⟨created, run₁, hcreate, h⟩
    · exact .creating hpartition hcreate
    rcases Action.bind_cases h with ⟨stop, hupdate, rfl⟩ | ⟨updated, run₂, hupdate, h⟩
    · exact .updating hpartition hcreate hupdate
    rcases Action.bind_cases h with ⟨stop, hdelete, rfl⟩ | ⟨deleted, run₃, hdelete, h⟩
    · exact .deleting hpartition hcreate hupdate hdelete
    · cases h
      exact .deleting hpartition hcreate hupdate hdelete

end Reconciler

end MeshRoutes.Control

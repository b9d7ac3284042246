import MeshRoutes.Proofs.PlainStage
/-!
# The pages of a listing

A listing asks for its first page with no token, and for each later one with the token of the
page before. What it comes to are the refs of all its pages, however they are split.

* `Pages` : the pages that a control plane gives, and whether a call fails behind them.
* `Reconciler.list_of_pages` : the calls of a listing, and what it comes to.
* `Plane.paging` : a control plane that gives any pages that it is told to.
-/

namespace MeshRoutes.Control

open Remote

variable {σ : Type}

@[simp] def Call.lists : Call → Bool
  | list .. => true
  | describe _ | create .. | update .. | delete _ => false

/-- The pages that a control plane gives from a token on: up to the last one, or up to a call that
fails. -/
inductive Pages (plane : Plane σ) (router : RouterRef) :
    σ → Option String → List Page → Option ApiError → σ → Prop where
  | failed {state state' : σ} {token : Option String} {error : ApiError}
      (h : plane.answer (plane.accept state (.list router token)).2 (.list router token) =
        (.error error, state')) :
    Pages plane router state token [] (some error) state'
  | last {state state' : σ} {token : Option String} {page : Page}
      (h : plane.answer (plane.accept state (.list router token)).2 (.list router token) =
        (.ok page, state')) (hnext : page.next = none) :
    Pages plane router state token [page] none state'
  | more {state state₁ state' : σ} {token : Option String} {page : Page} {next : String}
      {pages : List Page} {failure : Option ApiError}
      (h : plane.answer (plane.accept state (.list router token)).2 (.list router token) =
        (.ok page, state₁)) (hnext : page.next = some next)
      (hrest : Pages plane router state₁ (some next) pages failure state') :
    Pages plane router state token (page :: pages) failure state'

/-- The calls that ask for some pages, and for what is behind them if the last one has a token. -/
def pageCalls (router : RouterRef) (token : Option String) (pages : List Page) : List Call :=
  .list router token :: (pages.filterMap Page.next).map fun next => .list router (some next)

theorem pageCalls_cons {router : RouterRef} {token : Option String} {page : Page} {next : String}
    {pages : List Page} (hnext : page.next = some next) :
    pageCalls router token (page :: pages) =
      .list router token :: pageCalls router (some next) pages := by
  rw [pageCalls, List.filterMap_cons_some hnext, List.map_cons, pageCalls]

/-- What a listing comes to that was given some refs until it ended. -/
def listingResult (refs : List RouteRef) : Option ApiError → Except Stop (List RouteRef)
  | none => .ok refs
  | some error => .error (.failed (.api error))

/-! ## Listings by their pages -/

section Listing

variable {plane : Plane σ} {router : RouterRef} {state state' : σ} {token : Option String}
  {pages : List Page} {failure : Option ApiError}

/-- There is one call for each page, and one more if it fails. -/
theorem Pages.length_pageCalls (h : Pages plane router state token pages failure state') :
    (pageCalls router token pages).length = pages.length + failure.toList.length := by
  induction h with
  | failed _ => rfl
  | @last _ _ _ page _ hnext =>
    rw [pageCalls, List.filterMap_cons_none hnext]
    rfl
  | @more _ _ _ _ _ _ pages failure _ hnext _ ih =>
    rw [pageCalls_cons hnext, List.length_cons, ih, List.length_cons]
    omega

/-- Asking for a page, in a run. -/
theorem Run.answer_of_page {run : Run σ} {outcome : (Call.list router token).Outcome}
    (h : plane.answer (plane.accept run.state (.list router token)).2 (.list router token) =
      (outcome, state')) :
    ∃ mid, (run.issue plane .listing (.list router token)).2.answer plane .listing
        (.list router token) = (outcome, mid) ∧
      mid.state = state' ∧ mid.calls = run.calls ++ [.list router token] := by
  refine ⟨((run.issue plane .listing (.list router token)).2.answer plane .listing
    (.list router token)).2, Prod.ext ?_ rfl, congrArg Prod.snd h, ?_⟩
  · have houtcome := congrArg Prod.fst h
    exact houtcome
  · rw [Run.calls_answer, Run.calls_issue]

namespace Reconciler

theorem listFrom_of_pages (h : Pages plane router state token pages failure state')
    {limit : Nat} (hlimit : pages.length + failure.toList.length ≤ limit) (listed : List RouteRef)
    {run : Run σ} (hstate : run.state = state) :
    ∃ mid, listFrom plane router listed token limit run =
        (listingResult (listed ++ pages.flatMap Page.refs) failure, mid) ∧
      mid.state = state' ∧ mid.calls = run.calls ++ pageCalls router token pages := by
  induction h generalizing limit listed run with
  | failed h =>
    obtain ⟨limit, rfl⟩ := Nat.exists_eq_add_one.2 hlimit
    subst hstate
    obtain ⟨mid, hanswer, hmid, hcalls⟩ := Run.answer_of_page h
    simp only [listFrom, hanswer]
    refine ⟨_, rfl, hmid, ?_⟩
    rw [Run.calls_record rfl, hcalls]
    rfl
  | @last _ _ _ page h hnext =>
    obtain ⟨limit, rfl⟩ := Nat.exists_eq_add_one.2 hlimit
    subst hstate
    obtain ⟨mid, hanswer, hmid, hcalls⟩ := Run.answer_of_page h
    simp only [listFrom, hanswer, hnext]
    refine ⟨mid.record (.settled .listing none), ?_, hmid, ?_⟩
    · rw [List.flatMap_singleton, listingResult]
    · rw [Run.calls_record rfl, hcalls, pageCalls, List.filterMap_cons_none hnext]
      rfl
  | @more _ _ _ _ page next pages failure h hnext _ ih =>
    rw [List.length_cons, Nat.succ_add] at hlimit
    obtain ⟨limit, rfl⟩ := Nat.exists_eq_add_one.2 (Nat.lt_of_lt_of_le (Nat.succ_pos _) hlimit)
    subst hstate
    obtain ⟨mid, hanswer, hmid, hcalls⟩ := Run.answer_of_page h
    obtain ⟨last, hlist, hlast, hrest⟩ :=
      ih (Nat.le_of_succ_le_succ hlimit) (listed ++ page.refs) hmid
    simp only [listFrom, hanswer, hnext]
    refine ⟨last, ?_, hlast, ?_⟩
    · rw [hlist, List.append_assoc, List.flatMap_cons]
    · rw [hrest, hcalls, List.append_assoc, pageCalls_cons hnext]
      rfl

/-- A listing makes one call after the other for its pages, and comes to their refs. -/
theorem list_of_pages (policy : Policy)
    (h : Pages plane router state none pages failure state')
    (hlimit : pages.length + failure.toList.length ≤ policy.pageLimit) :
    ∃ mid, (list ⟨plane, policy⟩ router).perform state =
        (listingResult (pages.flatMap Page.refs) failure, mid) ∧
      mid.state = state' ∧ mid.calls = pageCalls router none pages := by
  have hstate : (({ state } : Run σ).record (.began .listing)).state = state := rfl
  obtain ⟨mid, hlist, hmid, hcalls⟩ := listFrom_of_pages h hlimit [] hstate
  rw [Run.calls_record rfl] at hcalls
  have heq := list_eq ⟨plane, policy⟩ router { state }
  dsimp only at heq
  rw [hlist] at heq
  cases failure with
  | none =>
    refine ⟨_, heq, hmid, ?_⟩
    rw [Run.log, Run.calls_record rfl, hcalls]
    rfl
  | some error => exact ⟨_, heq, hmid, hcalls⟩

end Reconciler

end Listing

/-! ## Any pages at all -/

/-- A control plane that answers the calls of a listing by a script, and is another one as soon
as there is nothing left of it. -/
def Plane.paging (later : Plane σ) : Plane (List (Except ApiError Page) × σ) where
  accept
    | (answer :: script, state), .list _ _ => (0, (answer :: script, state))
    | (script, state), call =>
      let (waits, state) := later.accept state call
      (waits, (script, state))
  answer
    | (answer :: script, state), .list _ _ => (answer, (script, state))
    | (script, state), call =>
      let (outcome, state) := later.answer state call
      (outcome, (script, state))

/-- Pages that are not the last, with any tokens. -/
def continued (pages : List (List RouteRef × String)) : List Page :=
  pages.map fun (refs, token) => ⟨refs, some token⟩

/-- A listing that is split into pages. -/
def split (front : List (List RouteRef × String)) (last : List RouteRef) : List Page :=
  continued front ++ [⟨last, none⟩]

section Paging

variable (later : Plane σ) (router : RouterRef) (state : σ)
  (front : List (List RouteRef × String))

theorem Pages.behind {script : List (Except ApiError Page)} {pages : List Page}
    {failure : Option ApiError}
    (h : ∀ token, Pages later.paging router (script, state) token pages failure ([], state))
    (token : Option String) :
    Pages later.paging router ((continued front).map .ok ++ script, state) token
      (continued front ++ pages) failure ([], state) := by
  induction front generalizing token with
  | nil => exact h token
  | cons page rest ih => exact .more rfl rfl (ih (some page.2))

/-- However a list is split into pages, there is a control plane that lists it so, and is then
any given one. -/
theorem Pages.of_split (last : List RouteRef) :
    Pages later.paging router ((split front last).map .ok, state) none (split front last) none
      ([], state) := by
  have hlast (token : Option String) : Pages later.paging router
      ([.ok (Page.mk last none)], state) token [⟨last, none⟩] none ([], state) := .last rfl rfl
  rw [split, List.map_append]
  exact Pages.behind later router state front hlast none

/-- The call for any page may fail. -/
theorem Pages.of_split_failed (error : ApiError) :
    Pages later.paging router ((continued front).map .ok ++ [.error error], state) none
      (continued front) (some error) ([], state) := by
  have hfailed (token : Option String) : Pages later.paging router ([.error error], state) token
      [] (some error) ([], state) := .failed rfl
  have hpages := Pages.behind later router state front hfailed none
  rwa [List.append_nil] at hpages

end Paging

end MeshRoutes.Control

namespace MeshRoutes.Rehearsal.Sample

open Control

/-- The addresses of some routes of the router. -/
def addresses (names : List String) : List Remote.RouteRef :=
  names.map (Remote.RouterRef.of mesh router).route

/-- It works on a plain stage whose listing is made up. -/
def pager : Reconciler (List (Except ApiError Page) × PlainStage) where
  plane := plainPlane.paging
  policy := { concurrency := two, pageLimit := 4 }

/-- The listing of the stage, on three pages of which one is empty, with one token for two. -/
def scattered : List Page := split [(addresses ["gone"], ""), ([], "")] (addresses ["kept"])

/-- A listing whose last page repeats a name of the first one. -/
def echoing : List Page :=
  split [(addresses ["kept", "gone"], "more"), ([], "")] (addresses ["gone"])

/-- It declares the same routes as the router, in another order. -/
def swapped : Declared.VirtualRouter :=
  ⟨router.metadata, { routes := [route "kept", route "added"] }⟩

/-- A router that declares a route twice. -/
def twins : Declared.VirtualRouter :=
  ⟨router.metadata, { routes := [route "added", route "added"] }⟩

end MeshRoutes.Rehearsal.Sample

import MeshRoutes.NameMap.Lemmas
import MeshRoutes.Proofs.NamedStore
/-!
# Control planes of known conduct

A conduct says what each call does, given what is stored at its name and how often a call of
its kind was made about that name before. What a task comes to is then a matter of the conduct
and of what there is at its name, and not of when its turns come.
-/

namespace MeshRoutes.Control

open Remote

variable {σ α : Type} {plane : Plane σ}

inductive Verb where
  | list
  | describe
  | create
  | update
  | delete
deriving DecidableEq

def Call.verb : Call → Verb
  | list .. => .list
  | describe _ => .describe
  | create .. => .create
  | update .. => .update
  | delete _ => .delete

/-- What a control plane of known conduct keeps. -/
structure Ledger where
  routes : NameMap RouteRecord
  /-- How often calls of a kind were made about a name. -/
  count : Verb → String → Nat

/-- What a ledger says about one name. -/
structure Slot where
  entry : Option RouteRecord
  count : Verb → Nat

namespace Ledger

def slot (ledger : Ledger) (name : String) : Slot where
  entry := ledger.routes.get? name
  count verb := ledger.count verb name

theorem eq_of_slot_eq {a b : Ledger} (h : ∀ name, a.slot name = b.slot name) : a = b := by
  obtain ⟨routesA, countA⟩ := a
  obtain ⟨routesB, countB⟩ := b
  have hroutes : routesA = routesB :=
    NameMap.eq_of_get?_eq fun name => congrArg Slot.entry (h name)
  have hcount : countA = countB := by
    funext verb name
    exact congrFun (congrArg Slot.count (h name)) verb
  rw [hroutes, hcount]

end Ledger

/-- What calls do. A listing depends on what is stored, any other call on what is stored at its
name and on the number of such calls before. -/
structure Conduct where
  list : NameMap RouteRecord → RouterRef → Option String → Except ApiError Page
  react : (call : Call) → Option RouteRecord → Nat → call.Outcome × Option RouteRecord

/-- What a call makes of the slot of its name. -/
def Conduct.step (conduct : Conduct) (call : Call) (slot : Slot) : call.Outcome × Slot :=
  let (outcome, entry) := conduct.react call slot.entry (slot.count call.verb)
  (outcome, {
    entry
    count := fun verb => if verb = call.verb then slot.count verb + 1 else slot.count verb })

/-- What is described bears the name that was asked for. -/
def Call.Bears : (call : Call) → call.Outcome → Prop
  | .describe ref, .ok record => record.routeName = ref.routeName
  | _, _ => True

/-- A control plane that follows a conduct. The effect of a call may come when it is taken on or
when it is answered. -/
structure Conduct.Followed (conduct : Conduct) (plane : Plane σ) where
  ledger : σ → Ledger
  /-- The outcome of a call whose effect came when it was taken on. -/
  due : σ → (call : Call) → Option call.Outcome
  accept_list (state : σ) (router : RouterRef) (token : Option String) :
    ledger (plane.accept state (.list router token)).2 = ledger state
  answer_list {state state' : σ} {router : RouterRef} {token : Option String}
    {outcome : (Call.list router token).Outcome}
    (h : plane.answer state (.list router token) = (outcome, state')) :
    outcome = conduct.list (ledger state).routes router token ∧ ledger state' = ledger state
  accept (state : σ) {call : Call} {name : String} (h : call.name? = some name) :
    (due (plane.accept state call).2 call = none ∧
      (ledger (plane.accept state call).2).slot name = (ledger state).slot name) ∨
    ∃ outcome, due (plane.accept state call).2 call = some outcome ∧
      conduct.step call ((ledger state).slot name) =
        (outcome, (ledger (plane.accept state call).2).slot name)
  answer {state state' : σ} {call : Call} {name : String} {outcome : call.Outcome}
    (h : call.name? = some name) (hanswer : plane.answer state call = (outcome, state')) :
    (due state call = none →
      conduct.step call ((ledger state).slot name) = (outcome, (ledger state').slot name)) ∧
    ∀ early, due state call = some early →
      outcome = early ∧ (ledger state').slot name = (ledger state).slot name
  bears {state state' : σ} {call : Call} {outcome : call.Outcome}
    (h : plane.answer state call = (outcome, state')) : call.Bears outcome
  accept_frame (state : σ) {call : Call} {name other : String} (h : call.name? = some name)
    (hne : other ≠ name) :
    (ledger (plane.accept state call).2).slot other = (ledger state).slot other ∧
      ∀ late : Call, late.name? = some other →
        due (plane.accept state call).2 late = due state late
  answer_frame {state state' : σ} {call : Call} {name other : String} {outcome : call.Outcome}
    (h : call.name? = some name) (hanswer : plane.answer state call = (outcome, state'))
    (hne : other ≠ name) :
    (ledger state').slot other = (ledger state).slot other ∧
      ∀ late : Call, late.name? = some other → due state' late = due state late

/-! ## A control plane for every conduct -/

namespace Ledger

/-- Sets what there is at a name. -/
def set (ledger : Ledger) (name : String) (slot : Slot) : Ledger where
  routes := match slot.entry with
    | some record => ledger.routes.insert name record
    | none => ledger.routes.erase name
  count verb other := if other = name then slot.count verb else ledger.count verb other

theorem get?_routes_set (ledger : Ledger) (name other : String) (slot : Slot) :
    (ledger.set name slot).routes.get? other =
      if other = name then slot.entry else ledger.routes.get? other := by
  obtain ⟨entry, count⟩ := slot
  cases entry with
  | some record => exact NameMap.get?_insert ledger.routes name other record
  | none => exact NameMap.get?_erase ledger.routes name other

theorem slot_set_self (ledger : Ledger) (name : String) (slot : Slot) :
    (ledger.set name slot).slot name = slot := by
  have hcount : (fun verb => (ledger.set name slot).count verb name) = slot.count := by
    funext verb
    exact if_pos rfl
  rw [Ledger.slot, hcount, get?_routes_set, if_pos rfl]

theorem slot_set_of_ne (ledger : Ledger) {name other : String} (slot : Slot)
    (hne : other ≠ name) : (ledger.set name slot).slot other = ledger.slot other := by
  have hcount : (fun verb => (ledger.set name slot).count verb other) =
      fun verb => ledger.count verb other := by
    funext verb
    exact if_neg hne
  rw [Ledger.slot, Ledger.slot, hcount, get?_routes_set, if_neg hne]

end Ledger

namespace Conduct

/-- Answers a call about a name. -/
def answerAt (conduct : Conduct) (ledger : Ledger) (name : String) (call : Call) :
    call.Outcome × Ledger :=
  let (outcome, slot) := conduct.step call (ledger.slot name)
  (outcome, ledger.set name slot)

def answer (conduct : Conduct) (ledger : Ledger) : (call : Call) → call.Outcome × Ledger
  | .list router token => (conduct.list ledger.routes router token, ledger)
  | .describe ref => conduct.answerAt ledger ref.routeName (.describe ref)
  | .create router name spec => conduct.answerAt ledger name (.create router name spec)
  | .update ref spec => conduct.answerAt ledger ref.routeName (.update ref spec)
  | .delete ref => conduct.answerAt ledger ref.routeName (.delete ref)

/-- The control plane that keeps a ledger by a conduct, and lets calls wait. -/
def toPlane (conduct : Conduct) (waits : Call → Nat) : Plane Ledger where
  accept ledger call := (waits call, ledger)
  answer := conduct.answer

theorem answer_of_name (conduct : Conduct) (ledger : Ledger) {call : Call} {name : String}
    (h : call.name? = some name) :
    conduct.answer ledger call = conduct.answerAt ledger name call := by
  cases call with
  | list router token => cases h
  | describe _ | create _ _ _ | update _ _ | delete _ =>
    cases h
    rfl

/-- What a conduct describes bears the name that was asked for. -/
def Bears (conduct : Conduct) : Prop :=
  ∀ (call : Call) entry count, call.Bears (conduct.react call entry count).1

def followedToPlane {conduct : Conduct} (hbears : conduct.Bears) (waits : Call → Nat) :
    conduct.Followed (conduct.toPlane waits) where
  ledger := id
  due _ _ := none
  accept_list _ _ _ := rfl
  answer_list h := by
    cases h
    exact ⟨rfl, rfl⟩
  accept _ _ _ _ := .inl ⟨rfl, rfl⟩
  answer {state state' call name outcome} h hanswer := by
    change conduct.answer state call = (outcome, state') at hanswer
    rw [conduct.answer_of_name state h] at hanswer
    refine ⟨fun _ => ?_, nofun⟩
    cases hanswer
    rw [id, id, Ledger.slot_set_self]
    rfl
  bears {state state' call outcome} h := by
    change conduct.answer state call = (outcome, state') at h
    cases hname : call.name? with
    | none =>
      cases call with
      | list router token => trivial
      | describe _ | create _ _ _ | update _ _ | delete _ => cases hname
    | some name =>
      rw [conduct.answer_of_name state hname] at h
      cases h
      exact hbears call _ _
  accept_frame _ _ _ _ _ _ := ⟨rfl, fun _ _ => rfl⟩
  answer_frame {state state' call name other outcome} h hanswer hne := by
    change conduct.answer state call = (outcome, state') at hanswer
    rw [conduct.answer_of_name state h] at hanswer
    cases hanswer
    exact ⟨Ledger.slot_set_of_ne _ _ hne, fun _ _ => rfl⟩

end Conduct

/-! ## What tasks come to -/

namespace Task

/-- What a task comes to on a slot, and what it makes of it. -/
def eval (conduct : Conduct) : {n : Nat} → Task α n → Slot → Except Failure α × Slot
  | _, .done result, slot => (result, slot)
  | _, .log _ next, slot => next.eval conduct slot
  | _, .call c next, slot =>
    (next (conduct.step c slot).1).eval conduct (conduct.step c slot).2

/-- All calls of a task are about one name, given that what is described bears its name. -/
def KeepsTo (name : String) : {n : Nat} → Task α n → Prop
  | _, .done _ => True
  | _, .log _ next => next.KeepsTo name
  | _, .call c next =>
    c.name? = some name ∧ ∀ outcome, c.Bears outcome → (next outcome).KeepsTo name

/-- Whatever a task gives is of a kind. -/
def Gives (kind : α → Prop) : {n : Nat} → Task α n → Prop
  | _, .done result => ∀ a, result = .ok a → kind a
  | _, .log _ next => next.Gives kind
  | _, .call _ next => ∀ outcome, (next outcome).Gives kind

theorem gives_error {kind : α → Prop} {n : Nat} (failure : Failure) :
    (done (.error failure) : Task α n).Gives kind := by
  intro a h
  cases h

theorem gives_ok {kind : α → Prop} {n : Nat} {a : α} (h : kind a) :
    (done (.ok a) : Task α n).Gives kind := by
  intro b hb
  cases hb
  exact h

theorem Gives.of_eval {kind : α → Prop} {n : Nat} {task : Task α n} (h : task.Gives kind)
    {conduct : Conduct} {slot slot' : Slot} {a : α}
    (heval : task.eval conduct slot = (.ok a, slot')) : kind a := by
  induction task generalizing slot with
  | done result =>
    cases heval
    exact h a rfl
  | log event next ih => exact ih h heval
  | call call next ih => exact ih _ (h _) heval

end Task

/-! ## The division by slots -/

/-- What there is at a name in the course of a run. -/
structure View where
  slot : Slot
  due : (call : Call) → Option call.Outcome

namespace Conduct.Followed

variable {conduct : Conduct}

def view (hfollowed : conduct.Followed plane) (state : σ) (name : String) : View where
  slot := (hfollowed.ledger state).slot name
  due call := if call.name? = some name then hfollowed.due state call else none

theorem view_eq (hfollowed : conduct.Followed plane) {state state' : σ} {name : String}
    (hslot : (hfollowed.ledger state').slot name = (hfollowed.ledger state).slot name)
    (hdue : ∀ call : Call, call.name? = some name →
      hfollowed.due state' call = hfollowed.due state call) :
    hfollowed.view state' name = hfollowed.view state name := by
  unfold view
  rw [hslot]
  congr 1
  funext call
  by_cases hname : call.name? = some name
  · rw [if_pos hname, if_pos hname, hdue call hname]
  · rw [if_neg hname, if_neg hname]

/-- A run divided by the names of routes. -/
def division (hfollowed : conduct.Followed plane) : Division plane String View where
  share run := hfollowed.view run.state
  own name call := call.name? = some name
  expected _ _ := True
  issue call x y := (y.due call = none ∧ y.slot = x.slot) ∨
    ∃ outcome, y.due call = some outcome ∧ conduct.step call x.slot = (outcome, y.slot)
  answer call outcome x y := call.Bears outcome ∧
    (x.due call = none → conduct.step call x.slot = (outcome, y.slot)) ∧
    ∀ early, x.due call = some early → outcome = early ∧ y.slot = x.slot
  share_takeTurn _ := rfl
  share_record _ _ _ := rfl
  share_issue run operation call name hown := by
    refine ⟨?_, ?_⟩
    · rcases hfollowed.accept run.state hown with ⟨hdue, hslot⟩ | ⟨outcome, hdue, hstep⟩
      · exact .inl ⟨(if_pos hown).trans hdue, hslot⟩
      · exact .inr ⟨outcome, (if_pos hown).trans hdue, hstep⟩
    · intro other hne
      obtain ⟨hslot, hdue⟩ := hfollowed.accept_frame run.state hown hne
      exact hfollowed.view_eq hslot hdue
  share_answer run operation call name hown _ := by
    rcases hanswer : run.answer plane operation call with ⟨outcome, run'⟩
    have hplane := (Run.answer_eq hanswer).1
    obtain ⟨hlate, hearly⟩ := hfollowed.answer hown hplane
    refine ⟨⟨hfollowed.bears hplane, ?_, ?_⟩, ?_⟩
    · intro hdue
      exact hlate ((if_pos hown).symm.trans hdue)
    · intro early hdue
      exact hearly early ((if_pos hown).symm.trans hdue)
    · intro other hne
      obtain ⟨hslot, hdue⟩ := hfollowed.answer_frame hown hplane hne
      exact hfollowed.view_eq hslot hdue

end Conduct.Followed

theorem Conduct.Followed.admits {conduct : Conduct} (hfollowed : conduct.Followed plane)
    (past : List (Moment σ)) : hfollowed.division.Admits past :=
  fun _ _ _ _ _ => trivial

/-- The aim of a task that is to come to a certain end. -/
def ending (result : Except Failure α × Slot) : Aim α View where
  throughout _ := True
  settled outcome view := (outcome, view.slot) = result

theorem Task.KeepsTo.meets {conduct : Conduct} (hfollowed : conduct.Followed plane)
    {name : String} {n : Nat} {task : Task α n} (h : task.KeepsTo name) (view : View) :
    task.Meets hfollowed.division name (ending (task.eval conduct view.slot)) view := by
  induction task generalizing view with
  | done result => rfl
  | log event next ih => exact ih h view
  | call call next ih =>
    obtain ⟨hname, hnext⟩ := h
    refine ⟨hname, ?_⟩
    intro y hissue
    refine ⟨trivial, ?_⟩
    intro outcome z _ hanswer
    obtain ⟨hbears, hlate, hearly⟩ := hanswer
    refine ⟨trivial, ?_⟩
    -- the effect may have come before the answer or with it, but it comes once
    have hstep : conduct.step call view.slot = (outcome, z.slot) := by
      rcases hissue with ⟨hdue, hslot⟩ | ⟨early, hdue, hstep⟩
      · rw [← hslot]
        exact hlate hdue
      · obtain ⟨rfl, hslot⟩ := hearly early hdue
        rw [hslot]
        exact hstep
    have hmeets := ih outcome (hnext outcome hbears) z
    rw [eval, hstep]
    exact hmeets

/-! ## Listings -/

/-- The refs that a listing comes to. -/
def Conduct.listed (conduct : Conduct) (routes : NameMap RouteRecord) (router : RouterRef)
    (refs : List RouteRef) (token : Option String) : Nat → Except Stop (List RouteRef)
  | 0 => .error .unfinished
  | limit + 1 =>
    match conduct.list routes router token with
    | .error error => .error (.failed (.api error))
    | .ok page =>
      match page.next with
      | some next => conduct.listed routes router (refs ++ page.refs) (some next) limit
      | none => .ok (refs ++ page.refs)

namespace Conduct.Followed

variable {conduct : Conduct}

theorem listFrom_eq (hfollowed : conduct.Followed plane) (router : RouterRef)
    (refs : List RouteRef)
    (token : Option String) (limit : Nat) (run : Run σ) :
    (Reconciler.listFrom plane router refs token limit run).1 =
        conduct.listed (hfollowed.ledger run.state).routes router refs token limit ∧
      hfollowed.ledger (Reconciler.listFrom plane router refs token limit run).2.state =
        hfollowed.ledger run.state := by
  induction limit generalizing refs token run with
  | zero => exact ⟨rfl, rfl⟩
  | succ limit ih =>
    have haccept := hfollowed.accept_list run.state router token
    rcases hanswer : (run.issue plane .listing (.list router token)).2.answer plane .listing
      (.list router token) with ⟨outcome, run'⟩
    obtain ⟨houtcome, hledger⟩ := hfollowed.answer_list (Run.answer_eq hanswer).1
    have hkept : hfollowed.ledger run'.state = hfollowed.ledger run.state :=
      hledger.trans haccept
    rw [show (run.issue plane .listing (.list router token)).2.state =
      (plane.accept run.state (.list router token)).2 from rfl, haccept] at houtcome
    simp only [Reconciler.listFrom, Conduct.listed, hanswer, ← houtcome]
    cases outcome with
    | error error => exact ⟨rfl, hkept⟩
    | ok page =>
      dsimp only
      cases page.next with
      | none => exact ⟨rfl, hkept⟩
      | some next =>
        obtain ⟨hrefs, hrest⟩ := ih (refs ++ page.refs) (some next) run'
        rw [hkept] at hrefs hrest
        exact ⟨hrefs, hrest⟩

end Conduct.Followed

theorem Conduct.Followed.list_eq {conduct : Conduct} {reconciler : Reconciler σ}
    (hfollowed : conduct.Followed reconciler.plane) (router : RouterRef) (run : Run σ) :
    (reconciler.list router run).1 = conduct.listed (hfollowed.ledger run.state).routes router []
        none reconciler.policy.pageLimit ∧
      hfollowed.ledger (reconciler.list router run).2.state = hfollowed.ledger run.state := by
  obtain ⟨hrefs, hledger⟩ := hfollowed.listFrom_eq router [] none
    reconciler.policy.pageLimit (run.record (.began .listing))
  rw [Reconciler.list_eq]
  split
  · rename_i refs run₁ hlist
    rw [hlist] at hrefs hledger
    exact ⟨hrefs, hledger⟩
  · rename_i stop run₁ hlist
    rw [hlist] at hrefs hledger
    exact ⟨hrefs, hledger⟩

end MeshRoutes.Control

import Mathlib.Order.Nat
import MeshRoutes.Proofs.Turns
import MeshRoutes.Proofs.Warrants
/-!
# Phases of an errand

An errand lists, creates, updates and deletes, in this order. Whatever the control plane does and
however long its calls wait, no phase begins before those ahead of it have succeeded, no more
operations than the policy allows are in flight at any moment, and nothing happens after a failure.
-/

namespace MeshRoutes.Control

open Remote

variable {σ β : Type}

/-! ## The order of the work -/

theorem sorted_of_ascending {name : β → String} (of : String → Operation)
    (hphase : ∀ a b, (of a).phase = (of b).phase) (hroute : ∀ a, (of a).route = a)
    {items : List β} (h : items.Pairwise fun a b => name a < name b) :
    (items.map fun item => of (name item)).Pairwise Operation.Precedes := by
  rw [List.pairwise_map]
  apply h.imp
  intro a b hlt
  refine .inr ⟨hphase _ _, ?_⟩
  rw [hroute, hroute]
  exact hlt

/-- Operations of one phase make it up, if all that is planned ahead of it is done. -/
theorem Phase.of_sorted {planned : Operation → Prop} {done operations : List Operation}
    (phase : Nat) (later : List Operation) (hdone : done.Pairwise Operation.Precedes)
    (hoperations : operations.Pairwise Operation.Precedes)
    (hplanned : ∀ o, planned o ↔ o ∈ done ∨ o ∈ operations ∨ o ∈ later)
    (hbefore : ∀ o ∈ done, o.phase < phase) (hhere : ∀ o ∈ operations, o.phase = phase)
    (hlater : ∀ o ∈ later, phase ≤ o.phase) : Phase planned done operations where
  planned_of_mem h := (hplanned _).2 (.inr (.inl h))
  together ha hb := (hhere _ ha).trans (hhere _ hb).symm
  mem_done {o earlier} h hearlier hlt := by
    rw [hhere o h] at hlt
    rcases (hplanned earlier).1 hearlier with hdone | hmem | hmem
    · exact hdone
    · exact absurd (hhere earlier hmem) (Nat.ne_of_lt hlt)
    · exact absurd (hlater earlier hmem) (Nat.not_le.2 hlt)
  sorted := List.pairwise_append.2 ⟨hdone, hoperations, fun a ha b hb =>
    .inl (Nat.lt_of_lt_of_eq (hbefore a ha) (hhere b hb).symm)⟩

end MeshRoutes.Control

namespace MeshRoutes.Partition

open Control

variable {routes : List Declared.Route} {refs : List Remote.RouteRef} {partition : Partition}
  {planned : Operation → Prop} {done : List Operation}

def creating (partition : Partition) : List Operation :=
  partition.missing.map fun route => .creating route.name

def updating (partition : Partition) : List Operation :=
  partition.matched.map fun pairing => .updating pairing.route.name

def deleting (partition : Partition) : List Operation :=
  partition.surplus.map fun ref => .deleting ref.routeName

/-- The three phases of the work on a partition, behind what is done already. -/
structure Phases (planned : Operation → Prop) (done : List Operation) (partition : Partition) :
    Prop where
  creating : Phase planned done partition.creating
  updating : Phase planned (done ++ partition.creating) partition.updating
  deleting : Phase planned (done ++ partition.creating ++ partition.updating) partition.deleting

theorem phases (h : Partition.of routes refs = .ok partition)
    (hplanned : ∀ o, planned o ↔ o ∈ done ∨ o.Planned routes refs)
    (hfirst : ∀ o ∈ done, o.phase = 0) (hdone : done.Pairwise Operation.Precedes) :
    Phases planned done partition := by
  have hone : ∀ o ∈ partition.creating, o.phase = 1 := List.forall_mem_map.2 fun _ _ => rfl
  have htwo : ∀ o ∈ partition.updating, o.phase = 2 := List.forall_mem_map.2 fun _ _ => rfl
  have hthree : ∀ o ∈ partition.deleting, o.phase = 3 := List.forall_mem_map.2 fun _ _ => rfl
  have hall : ∀ o, planned o ↔ o ∈ done ∨ o ∈ partition.creating ∨ o ∈ partition.updating ∨
      o ∈ partition.deleting := by
    intro o
    rw [hplanned o, planned_iff h, ← List.mem_map, Partition.works]
    simp [Work.operation, creating, updating, deleting]
  have hcreatedBefore : ∀ o ∈ done ++ partition.creating, o.phase < 2 := by
    rw [List.forall_mem_append]
    exact ⟨fun o ho => (hfirst o ho).trans_lt (by decide), fun o ho => (hone o ho).trans_lt
      (by decide)⟩
  have hupdatedBefore : ∀ o ∈ done ++ partition.creating ++ partition.updating, o.phase < 3 := by
    rw [List.forall_mem_append]
    exact ⟨fun o ho => (hcreatedBefore o ho).trans (by decide), fun o ho => (htwo o ho).trans_lt
      (by decide)⟩
  have hcreatingLater : ∀ o ∈ partition.updating ++ partition.deleting, 1 ≤ o.phase := by
    rw [List.forall_mem_append]
    exact ⟨fun o ho => Nat.le_trans (by decide) (htwo o ho).ge, fun o ho =>
      Nat.le_trans (by decide) (hthree o ho).ge⟩
  have hcreating : Phase planned done partition.creating := by
    refine .of_sorted 1 (partition.updating ++ partition.deleting) hdone
      (sorted_of_ascending .creating (fun _ _ => rfl) (fun _ => rfl) (ascending_missing h))
      (fun o => ?_) (fun o ho => (hfirst o ho).trans_lt Nat.zero_lt_one) hone hcreatingLater
    rw [hall o, List.mem_append]
  have hupdating : Phase planned (done ++ partition.creating) partition.updating := by
    refine .of_sorted 2 partition.deleting hcreating.sorted
      (sorted_of_ascending .updating (fun _ _ => rfl) (fun _ => rfl) (ascending_matched h))
      (fun o => ?_) hcreatedBefore htwo (fun o ho => Nat.le_trans (by decide) (hthree o ho).ge)
    rw [hall o, List.mem_append, or_assoc]
  refine ⟨hcreating, hupdating, ?_⟩
  refine .of_sorted 3 [] hupdating.sorted
    (sorted_of_ascending .deleting (fun _ _ => rfl) (fun _ => rfl) (ascending_surplus h))
    (fun o => ?_) hupdatedBefore hthree (fun o ho => absurd ho List.not_mem_nil)
  rw [hall o, List.mem_append, List.mem_append, or_assoc, or_assoc]
  simp

end MeshRoutes.Partition

namespace MeshRoutes.Control

open Remote

theorem Moment.IsPage.isWork {router : RouterRef} {moment : Moment σ} (h : moment.IsPage router) :
    moment.IsWork .listing := by
  unfold Moment.IsPage at h
  split at h
  · rfl
  · rfl
  · cases h

/-- Every call is made by an operation of its kind. -/
theorem Warranted.makes {router : RouterRef} {scope : Declared.Scope}
    {routes : List Declared.Route} {refs : List RouteRef} {before : List (Moment σ)}
    {o : Operation} {call : Call} (h : Warranted router scope routes refs before o call) :
    o.Makes call := by
  cases h <;> trivial

namespace Reconciler

variable {reconciler : Reconciler σ} {router : RouterRef} {scope : Declared.Scope}
  {routes : List Declared.Route} {refs : List RouteRef} {planned : Operation → Prop}
  {run run' : Run σ}

/-! ## Orderly errands -/

/-- A reconciliation goes through its phases, once what is ahead of them is done. -/
theorem orderly_of_reconcile {result : Except Stop (NameMap RouteRecord)}
    (done : List Operation) (hplanned : ∀ o, planned o ↔ o ∈ done ∨ o.Planned routes refs)
    (hfirst : ∀ o ∈ done, o.phase = 0) (hdone : done.Pairwise Operation.Precedes)
    (h : ∀ more,
      Afoot planned reconciler.policy.concurrency.width done more run.history [] more)
    (hrun : reconciler.reconcile router scope routes refs run = (result, run')) :
    Orderly planned reconciler.policy.concurrency.width run'.history := by
  have hlogged : ∀ event more, Afoot planned reconciler.policy.concurrency.width done more
      (run.log event).history [] more := by
    intro event more
    rw [Run.history_log]
    exact (h more).logged event
  cases course_of_reconcile hrun with
  | duplicate _ => exact (h []).orderly
  | creating hpartition hcreate =>
    have hphases := Partition.phases hpartition hplanned hfirst hdone
    exact orderly_of_batch_error hphases.creating (hlogged _ _) hcreate
  | updating hpartition hcreate hupdate =>
    have hphases := Partition.phases hpartition hplanned hfirst hdone
    have hcreated := afoot_of_batch hphases.creating (hlogged _ _) hcreate
    exact orderly_of_batch_error hphases.updating hcreated.next hupdate
  | @deleting _ _ _ deleted _ _ _ hpartition hcreate hupdate hdelete =>
    have hphases := Partition.phases hpartition hplanned hfirst hdone
    have hcreated := afoot_of_batch hphases.creating (hlogged _ _) hcreate
    have hupdated := afoot_of_batch hphases.updating hcreated.next hupdate
    cases deleted with
    | ok _ => exact (afoot_of_batch hphases.deleting hupdated.next hdelete).orderly
    | error _ => exact orderly_of_batch_error hphases.deleting hupdated.next hdelete

/-- A listing is a phase of its own, in which one operation is in flight. -/
theorem ListingHistory.orderly {width : Nat} {result : Except Stop (List RouteRef)}
    {told : List (Moment σ)} (h : ListingHistory router result told) (hwidth : 0 < width)
    (hphase : Phase planned [] [.listing]) :
    Orderly planned width told ∧ ∀ refs, result = .ok refs →
      Afoot planned width [] [.listing] told [] [] := by
  have hbegan :
      Afoot planned width [] [.listing] ([.began .listing] : List (Moment σ)) [.listing] [] :=
    (Afoot.start planned width [.listing]).began hphase hwidth
  have hpages : ∀ {pages : List (Moment σ)}, (∀ moment ∈ pages, moment.IsPage router) →
      Afoot planned width [] [.listing] (.began .listing :: pages) [.listing] [] := by
    intro pages hlisted
    exact hbegan.works hphase fun moment hmem => (hlisted moment hmem).isWork
  cases h with
  | listed hlisted =>
    have hsucceeded := (hpages hlisted).succeeded hphase
    exact ⟨(hsucceeded.logged _).orderly, fun _ _ => hsucceeded.logged _⟩
  | failed failure hlisted =>
    exact ⟨(hpages hlisted).failed hphase failure, by simp⟩
  | unfinished hlisted => exact ⟨(hpages hlisted).orderly, by simp⟩

theorem Accounted.disciplined {width : Nat} (h : Accounted router scope routes run)
    (horderly : Orderly planned width run.history) : Disciplined planned width run.history := by
  apply horderly.disciplined
  intro o call after hmem
  obtain ⟨before, later, hsplit⟩ := List.append_of_mem hmem
  exact (h.warranted hsplit).makes

/-- What an errand that lists is going to do: list, and work on what is declared and listed. -/
def Agenda (routes : List Declared.Route) (refs : List RouteRef) (o : Operation) : Prop :=
  o = .listing ∨ o.Planned routes refs

theorem Agenda.listing (routes : List Declared.Route) (refs : List RouteRef) :
    Phase (Agenda routes refs) [] [.listing] where
  planned_of_mem h := .inl (List.mem_singleton.1 h)
  together ha hb := by
    rw [List.mem_singleton.1 ha, List.mem_singleton.1 hb]
  mem_done h _ hlt := by
    rw [List.mem_singleton.1 h] at hlt
    exact absurd hlt (Nat.not_lt_zero _)
  sorted := List.pairwise_singleton _ _

theorem Errand.disciplined {result : Except Stop (NameMap RouteRecord)} {state : σ}
    (h : Errand reconciler router scope routes { state } result run) :
    Disciplined (Agenda routes run.listed) reconciler.policy.concurrency.width run.history := by
  apply h.accounted.disciplined
  have hwidth := reconciler.policy.concurrency.width_pos
  cases h with
  | unlisted hlist =>
    obtain ⟨told, htold, hhistory⟩ := history_of_list hlist
    rw [hhistory]
    exact (htold.orderly hwidth (Agenda.listing _ _)).1
  | @listed refs _ run₁ _ hlist hreconcile =>
    obtain ⟨told, htold, hhistory⟩ := history_of_list hlist
    have hrefs := listed_of_list_of_reconcile hlist hreconcile
    -- the listing is all that is done when the reconciliation begins
    have hafoot := (htold.orderly hwidth (Agenda.listing routes run.listed)).2 refs rfl
    refine orderly_of_reconcile [.listing] (fun o => ?_) ?_
      (List.pairwise_singleton _ _) (fun more => ?_) hreconcile
    · rw [hrefs, List.mem_singleton]
      rfl
    · exact List.forall_mem_singleton.2 rfl
    · rw [hhistory]
      exact hafoot.next

/-- Work from nothing listed keeps to the same discipline. -/
theorem disciplined_of_create {mesh : Declared.Mesh} {router : Declared.VirtualRouter}
    {nodes : VirtualNode.Table} {result : Except Stop (NameMap RouteRecord)} {state : σ}
    (h : reconciler.create mesh router nodes { state } = (result, run)) :
    Disciplined (Operation.Planned router.spec.routes [])
      reconciler.policy.concurrency.width run.history := by
  have hstart : Accounted (.of mesh router) (router.scope nodes) router.spec.routes
      ({ state } : Run σ) := by
    refine ⟨fun hcall => ?_, fun _ hbegun => ?_⟩
    · exact absurd hcall List.not_mem_nil
    · exact absurd rfl hbegun
  apply (hstart.reconcile rfl (fun _ => rfl) h).disciplined
  refine orderly_of_reconcile [] (fun o => ?_) (List.forall_mem_nil _) .nil
    (fun more => ?_) h
  · simp
  · exact Afoot.start _ _ more

end Reconciler

/-- Whatever the control plane answers, and however long it takes, the errands go through their
phases in order. -/
theorem errands_disciplined (reconciler : Reconciler σ) (mesh : Declared.Mesh)
    (router : Declared.VirtualRouter) (nodes : VirtualNode.Table) (state : σ) :
    (let run := ((reconciler.update mesh router nodes).perform state).2;
      Disciplined (Reconciler.Agenda router.spec.routes run.listed)
        reconciler.policy.concurrency.width run.history) ∧
    (let run := ((reconciler.create mesh router nodes).perform state).2;
      Disciplined (Operation.Planned router.spec.routes [])
        reconciler.policy.concurrency.width run.history) ∧
    (let run := ((reconciler.cleanup mesh router).perform state).2;
      Disciplined (Reconciler.Agenda [] run.listed)
        reconciler.policy.concurrency.width run.history) := by
  refine ⟨?_, ?_, ?_⟩
  · exact (Reconciler.errand_of_update rfl).disciplined
  · exact Reconciler.disciplined_of_create rfl
  · generalize hrun : (reconciler.cleanup mesh router).perform state = ran
    obtain ⟨_, herrand, _⟩ := Reconciler.errand_of_cleanup hrun
    exact herrand.disciplined

end MeshRoutes.Control

import MeshRoutes.Proofs.Errand
import MeshRoutes.Proofs.Ownership
/-!
# Trails of runs

A run goes on by single steps: something is noted, a turn is taken, a call is issued or
answered. Listings, batches and reconciliations take no other steps, so what every step does
to the control plane, and what stays true from some answer on, is known of whole errands.
-/

namespace MeshRoutes.Control

open Remote

variable {σ α β : Type} {plane : Plane σ} {run run' : Run σ}

/-- A single step of a run. -/
inductive Run.Step (plane : Plane σ) : Run σ → Run σ → Prop where
  | record {run : Run σ} {moment : Moment σ} (h : moment.after? = none) :
    Step plane run (run.record moment)
  | turn {run : Run σ} : Step plane run run.takeTurn
  | issue {run : Run σ} (operation : Operation) (call : Call) :
    Step plane run (run.issue plane operation call).2
  | answer {run : Run σ} (operation : Operation) (call : Call) :
    Step plane run (run.answer plane operation call).2

/-- One run goes on to another. -/
abbrev Run.Leads (plane : Plane σ) : Run σ → Run σ → Prop :=
  Relation.ReflTransGen (Run.Step plane)

namespace Run

theorem Step.past_suffix (h : run.Step plane run') : run.past <:+ run'.past := by
  cases h with
  | record _ | issue _ _ | answer _ _ => exact List.suffix_cons _ _
  | turn => exact List.suffix_rfl

/-- What relates the states around each call of a run relates its first state to its last. -/
theorem Leads.related {R : σ → σ → Prop} (hrefl : ∀ state, R state state)
    (htrans : ∀ {a b c : σ}, R a b → R b c → R a c) (h : Leads plane run run')
    (hissued : ∀ {o : Operation} {call : Call} {after : σ} (state : σ),
      .issued o call after ∈ run'.past → (plane.accept state call).2 = after → R state after)
    (hanswered : ∀ {o : Operation} {call : Call} {outcome : call.Outcome} {after : σ} (state : σ),
      .answered o call outcome after ∈ run'.past → plane.answer state call = (outcome, after) →
        R state after) :
    R run.state run'.state := by
  induction h with
  | refl => exact hrefl _
  | tail _ hstep ih =>
    have hkept := hstep.past_suffix.subset
    have hbefore := ih (fun state hmem => hissued state (hkept hmem))
      (fun state hmem => hanswered state (hkept hmem))
    cases hstep with
    | record _ | turn => exact hbefore
    | issue o call => exact htrans hbefore (hissued _ List.mem_cons_self rfl)
    | answer o call => exact htrans hbefore (hanswered _ List.mem_cons_self rfl)

/-- A call that was answered in a run was answered by the control plane, and the run went on
from there. -/
theorem Leads.exists_of_answered (h : Leads plane run run') {o : Operation} {call : Call}
    {outcome : call.Outcome} {after : σ} (hmem : .answered o call outcome after ∈ run'.past) :
    .answered o call outcome after ∈ run.past ∨ ∃ (state : σ) (mid : Run σ),
      plane.answer state call = (outcome, mid.state) ∧ Leads plane mid run' := by
  induction h with
  | refl => exact .inl hmem
  | @tail earlier last hleads hstep ih =>
    have hkeep (hold : .answered o call outcome after ∈ earlier.past) :
        .answered o call outcome after ∈ run.past ∨ ∃ (state : σ) (mid : Run σ),
          plane.answer state call = (outcome, mid.state) ∧ Leads plane mid last := by
      rcases ih hold with hold | ⟨state, mid, hanswer, hmid⟩
      · exact .inl hold
      · exact .inr ⟨state, mid, hanswer, hmid.tail hstep⟩
    cases hstep with
    | turn => exact hkeep hmem
    | record hmoment =>
      rcases List.mem_cons.1 hmem with rfl | hold
      · cases hmoment
      · exact hkeep hold
    | issue _ _ =>
      rcases List.mem_cons.1 hmem with heq | hold
      · cases heq
      · exact hkeep hold
    | answer o' call' =>
      rcases List.mem_cons.1 hmem with heq | hold
      · cases heq
        exact .inr ⟨_, _, rfl, .refl⟩
      · exact hkeep hold

end Run

/-! ## Batches -/

theorem Strand.Event.step {o : Operation} {strand strand' : Strand α}
    (h : strand.Event plane o run strand' run') : run.Step plane run' := by
  cases h with
  | begin | log | settle => exact .record rfl
  | issue => exact .issue _ _
  | answer => exact .answer _ _

theorem Interleaves.leads {operation : β → Operation} {a b : List (β × Strand α) × Run σ}
    (h : Interleaves plane operation a b) : Run.Leads plane a.2 b.2 := by
  induction h with
  | refl => exact .refl
  | tail _ hmove ih =>
    cases hmove with
    | event hevent => exact ih.tail hevent.step
    | reorder _ => exact ih
    | turn => exact ih.tail .turn

namespace Reconciler

variable {reconciler : Reconciler σ} {router : RouterRef}

theorem leads_of_batch {operation : β → Operation} {n : Nat} {task : β → Task α n}
    {items : List β} {result : Except Stop (List α)}
    (h : reconciler.batch operation task items run = (result, run')) :
    Run.Leads reconciler.plane run run' := by
  obtain ⟨ends, hmoves⟩ := exists_interleaves result h
  exact hmoves.leads

/-! ## Errands -/

theorem leads_of_list {result : Except Stop (List RouteRef)}
    (h : reconciler.list router run = (result, run')) :
    Run.Leads reconciler.plane run run' := by
  have hkept : KeptByListing reconciler.plane router (Run.Leads reconciler.plane run) :=
    ⟨fun hmoment hrun => hrun.tail (.record hmoment), fun _ hrun => hrun.tail (.issue _ _),
      fun _ hrun => hrun.tail (.answer _ _)⟩
  exact list_keeps hkept h .refl

theorem leads_of_reconcile {scope : Declared.Scope} {routes : List Declared.Route}
    {refs : List RouteRef} {result : Except Stop (NameMap RouteRecord)}
    (h : reconciler.reconcile router scope routes refs run = (result, run')) :
    Run.Leads reconciler.plane run run' := by
  cases course_of_reconcile h with
  | duplicate _ => exact .refl
  | creating _ hcreate => exact (leads_of_batch hcreate).head (.record rfl)
  | updating _ hcreate hupdate =>
    exact ((leads_of_batch hcreate).head (.record rfl)).trans (leads_of_batch hupdate)
  | deleting _ hcreate hupdate hdelete =>
    exact (((leads_of_batch hcreate).head (.record rfl)).trans (leads_of_batch hupdate)).trans
      (leads_of_batch hdelete)

end Reconciler

end MeshRoutes.Control

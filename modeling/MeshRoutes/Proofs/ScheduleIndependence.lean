import MeshRoutes.Proofs.Conduct
import MeshRoutes.Proofs.Partition
import MeshRoutes.Proofs.PlainStage
/-!
# Independence of the schedule

Two runs of one errand, on control planes of one conduct and from one ledger, succeed together
and then agree in what they give and in what they leave, whatever bounds the tasks in flight
and in whatever order these go on.
-/

namespace MeshRoutes.Control

open Remote

variable {σ σ₁ σ₂ α β : Type} {conduct : Conduct}

/-! ## Tasks keep to their names -/

namespace RouteTask

variable {scope : Declared.Scope}

theorem create_keepsTo (router : RouterRef) (route : Declared.Route) :
    (create router scope route).KeepsTo route.name := by
  unfold create
  cases route.resolve scope with
  | error defect => trivial
  | ok spec =>
    refine ⟨rfl, ?_⟩
    intro outcome _
    cases outcome <;> trivial

theorem update_keepsTo {pairing : Pairing} (hname : pairing.ref.routeName = pairing.route.name) :
    (update scope pairing).KeepsTo pairing.route.name := by
  obtain ⟨route, ref⟩ := pairing
  refine ⟨congrArg some hname, ?_⟩
  intro outcome hbears
  cases outcome with
  | error error => cases error <;> trivial
  | ok actual =>
    dsimp only
    cases route.resolve scope with
    | error defect => trivial
    | ok desired =>
      dsimp only
      split
      · trivial
      · refine ⟨congrArg some (Eq.trans hbears hname), ?_⟩
        intro outcome _
        cases outcome <;> trivial

theorem delete_keepsTo {n : Nat} (ref : RouteRef) :
    (delete ref : Task Unit (n + 1)).KeepsTo ref.routeName := by
  refine ⟨rfl, ?_⟩
  intro outcome _
  cases outcome with
  | ok => trivial
  | error error => cases error <;> trivial

theorem retire_keepsTo (ref : RouteRef) : (retire ref).KeepsTo ref.routeName := by
  refine ⟨rfl, ?_⟩
  intro outcome hbears
  cases outcome with
  | error error => cases error <;> trivial
  | ok actual =>
    have hname : actual.ref.routeName = ref.routeName := hbears
    rw [← hname]
    exact delete_keepsTo actual.ref

theorem create_gives (router : RouterRef) (scope : Declared.Scope) (route : Declared.Route) :
    (create router scope route).Gives (·.1 = route.name) := by
  unfold create
  cases route.resolve scope with
  | error defect => exact Task.gives_error _
  | ok spec =>
    intro outcome
    cases outcome with
    | error error => exact Task.gives_error _
    | ok record => exact Task.gives_ok rfl

theorem update_gives (scope : Declared.Scope) (pairing : Pairing) :
    (update scope pairing).Gives (·.1 = pairing.route.name) := by
  intro outcome
  cases outcome with
  | error error => cases error <;> exact Task.gives_error _
  | ok actual =>
    dsimp only
    cases pairing.route.resolve scope with
    | error defect => exact Task.gives_error _
    | ok desired =>
      dsimp only
      split
      · exact Task.gives_ok rfl
      · intro outcome
        cases outcome with
        | error error => exact Task.gives_error _
        | ok record => exact Task.gives_ok rfl

end RouteTask

/-! ## Batches -/

/-- What the task of an item comes to from a ledger. -/
def ended (conduct : Conduct) {n : Nat} (task : β → Task α n) (key : β → String)
    (ledger : Ledger) (item : β) : Except Failure α × Slot :=
  (task item).eval conduct (ledger.slot (key item))

section Batches

variable {reconciler : Reconciler σ} {key : β → String} {operation : β → Operation} {n : Nat}
  {task : β → Task α n} {items : List β} {run run' : Run σ}
  (hfollowed : conduct.Followed reconciler.plane)

theorem ready_of_keepsTo (hkeeps : ∀ item ∈ items, (task item).KeepsTo (key item))
    (hdistinct : (items.map key).Nodup) (run : Run σ) :
    Reconciler.Ready hfollowed.division key
      (fun item => ending (ended conduct task key (hfollowed.ledger run.state) item)) task items
      run where
  distinct := hdistinct
  kept _ _ := trivial
  meets item hitem := (hkeeps item hitem).meets hfollowed (hfollowed.view run.state (key item))

/-- A batch that succeeds gives what its tasks come to, and makes that of its slots. -/
theorem ended_of_batch {results : List α}
    (hkeeps : ∀ item ∈ items, (task item).KeepsTo (key item))
    (hdistinct : (items.map key).Nodup)
    (h : reconciler.batch operation task items run = (.ok results, run')) :
    let ends := ended conduct task key (hfollowed.ledger run.state)
    results.Perm (items.filterMap fun item => (ends item).1.toOption) ∧
      (∀ item ∈ items, ∃ a, ends item =
        (.ok a, (hfollowed.ledger run'.state).slot (key item))) ∧
      ∀ name, (∀ item ∈ items, key item ≠ name) →
        (hfollowed.ledger run'.state).slot name = (hfollowed.ledger run.state).slot name := by
  intro ends
  have hadmits := hfollowed.admits run'.past
  have hready := ready_of_keepsTo hfollowed hkeeps hdistinct run
  obtain ⟨done, hitems, hresults, hsettled⟩ := Reconciler.batch_ok hready h hadmits
  have hends : ∀ p ∈ done, ends p.1 =
      (.ok p.2, (hfollowed.ledger run'.state).slot (key p.1)) := fun p hp => (hsettled p hp).symm
  refine ⟨?_, ?_, ?_⟩
  · have hvalues : done.map Prod.snd =
        (done.map Prod.fst).filterMap fun item => (ends item).1.toOption := by
      rw [List.filterMap_map, ← List.filterMap_eq_map]
      apply List.filterMap_congr
      intro p hp
      change some p.2 = (ends p.1).1.toOption
      rw [hends p hp]
      rfl
    rw [hresults, hvalues]
    exact (List.reverse_perm _).trans (hitems.filterMap _)
  · intro item hitem
    obtain ⟨p, hp, rfl⟩ := List.mem_map.1 (hitems.mem_iff.2 hitem)
    exact ⟨p.2, hends p hp⟩
  · intro name hname
    exact congrArg View.slot ((Reconciler.batch_amid hready h hadmits).frame name hname)

include hfollowed in
/-- Where tasks give entries under the names of their items, so does their batch. -/
theorem names_of_batch {task : β → Task (String × RouteRecord) n}
    {results : List (String × RouteRecord)}
    (hkeeps : ∀ item ∈ items, (task item).KeepsTo (key item))
    (hgives : ∀ item ∈ items, (task item).Gives (·.1 = key item))
    (hdistinct : (items.map key).Nodup)
    (h : reconciler.batch operation task items run = (.ok results, run')) :
    (results.map Prod.fst).Perm (items.map key) := by
  obtain ⟨hperm, hends, _⟩ := ended_of_batch hfollowed hkeeps hdistinct h
  refine (hperm.map Prod.fst).trans (.of_eq ?_)
  rw [List.map_filterMap, ← List.filterMap_eq_map]
  apply List.filterMap_congr
  intro item hitem
  obtain ⟨a, hended⟩ := hends item hitem
  rw [hended]
  exact congrArg some ((hgives item hitem).of_eval hended)

theorem exists_ended_of_batch_error {stop : Stop}
    (hkeeps : ∀ item ∈ items, (task item).KeepsTo (key item))
    (hdistinct : (items.map key).Nodup)
    (h : reconciler.batch operation task items run = (.error stop, run')) :
    ∃ item ∈ items, ∃ failure,
      (ended conduct task key (hfollowed.ledger run.state) item).1 = .error failure := by
  have hready := ready_of_keepsTo hfollowed hkeeps hdistinct run
  obtain ⟨item, hitem, failure, _, hsettled⟩ :=
    Reconciler.batch_error hready h (hfollowed.admits run'.past)
  exact ⟨item, hitem, failure, (congrArg Prod.fst hsettled).symm⟩

end Batches

/-! ## Two runs -/

/-- From like ledgers, the second action succeeds whenever the first one does, with a related
result and a like ledger. -/
def Carries (ledger₁ : σ₁ → Ledger) (ledger₂ : σ₂ → Ledger) (related : α → β → Prop)
    (x₁ : Action σ₁ Stop α) (x₂ : Action σ₂ Stop β) : Prop :=
  ∀ ⦃run₁ run₁' : Run σ₁⦄ ⦃run₂ run₂' : Run σ₂⦄ ⦃a₁ : α⦄ ⦃result₂ : Except Stop β⦄,
    ledger₁ run₁.state = ledger₂ run₂.state → x₁ run₁ = (.ok a₁, run₁') →
      x₂ run₂ = (result₂, run₂') →
        ∃ a₂, result₂ = .ok a₂ ∧ related a₁ a₂ ∧ ledger₁ run₁'.state = ledger₂ run₂'.state

namespace Carries

variable {α' β' : Type} {ledger₁ : σ₁ → Ledger} {ledger₂ : σ₂ → Ledger}
  {related : α → β → Prop} {related' : α' → β' → Prop}

theorem bind {x₁ : Action σ₁ Stop α} {x₂ : Action σ₂ Stop β} {f₁ : α → Action σ₁ Stop α'}
    {f₂ : β → Action σ₂ Stop β'} (hx : Carries ledger₁ ledger₂ related x₁ x₂)
    (hf : ∀ a₁ a₂, related a₁ a₂ → Carries ledger₁ ledger₂ related' (f₁ a₁) (f₂ a₂)) :
    Carries ledger₁ ledger₂ related' (x₁ >>= f₁) (x₂ >>= f₂) := by
  intro run₁ run₁' run₂ run₂' a₁ result₂ hledger h₁ h₂
  rcases Action.bind_cases h₁ with ⟨_, _, hstop⟩ | ⟨b₁, mid₁, hx₁, hrest₁⟩
  · cases hstop
  rcases Action.bind_cases h₂ with ⟨stop, hx₂, _⟩ | ⟨b₂, mid₂, hx₂, hrest₂⟩
  · obtain ⟨_, hok, _⟩ := hx hledger hx₁ hx₂
    cases hok
  · obtain ⟨_, hok, hrelated, hmid⟩ := hx hledger hx₁ hx₂
    cases hok
    exact hf b₁ b₂ hrelated hmid hrest₁ hrest₂

theorem pure {a₁ : α} {a₂ : β} (h : related a₁ a₂) :
    Carries ledger₁ ledger₂ related (Pure.pure a₁ : Action σ₁ Stop α) (Pure.pure a₂) := by
  intro run₁ run₁' run₂ run₂' b₁ result₂ hledger h₁ h₂
  cases h₁
  cases h₂
  exact ⟨a₂, rfl, h, hledger⟩

theorem fail {failure : Failure} {x₂ : Action σ₂ Stop β} :
    Carries ledger₁ ledger₂ related (Reconciler.fail failure) x₂ := by
  intro run₁ run₁' run₂ run₂' b₁ result₂ _ h₁ _
  cases h₁

theorem log (event : Log.Event) :
    Carries ledger₁ ledger₂ (· = ·) (Reconciler.log event) (Reconciler.log event) := by
  intro run₁ run₁' run₂ run₂' b₁ result₂ hledger h₁ h₂
  cases h₁
  cases h₂
  exact ⟨(), rfl, rfl, hledger⟩

theorem forM_log (events : List α) (event : α → Log.Event) :
    Carries ledger₁ ledger₂ (· = ·) (events.forM fun a => Reconciler.log (event a))
      (events.forM fun a => Reconciler.log (event a)) := by
  induction events with
  | nil => exact pure rfl
  | cons a rest ih =>
    apply (log (event a)).bind
    intro _ _ _
    exact ih

end Carries

section TwoRuns

variable {reconciler₁ : Reconciler σ₁} {reconciler₂ : Reconciler σ₂}
  (followed₁ : conduct.Followed reconciler₁.plane) (followed₂ : conduct.Followed reconciler₂.plane)

/-- Batches give the same results up to their order. -/
theorem batch_carries {key : β → String} (operation : β → Operation) {n : Nat}
    {task : β → Task α n} {items : List β}
    (hkeeps : ∀ item ∈ items, (task item).KeepsTo (key item))
    (hdistinct : (items.map key).Nodup) :
    Carries followed₁.ledger followed₂.ledger List.Perm
      (reconciler₁.batch operation task items) (reconciler₂.batch operation task items) := by
  intro run₁ run₁' run₂ run₂' results₁ result₂ hledger h₁ h₂
  obtain ⟨hperm₁, hends₁, hframe₁⟩ := ended_of_batch followed₁ hkeeps hdistinct h₁
  cases result₂ with
  | error stop =>
    obtain ⟨item, hitem, failure, hfailed⟩ :=
      exists_ended_of_batch_error followed₂ hkeeps hdistinct h₂
    obtain ⟨a, hended⟩ := hends₁ item hitem
    rw [hledger] at hended
    rw [hended] at hfailed
    cases hfailed
  | ok results₂ =>
    obtain ⟨hperm₂, hends₂, hframe₂⟩ := ended_of_batch followed₂ hkeeps hdistinct h₂
    rw [hledger] at hperm₁ hends₁ hframe₁
    refine ⟨results₂, rfl, hperm₁.trans hperm₂.symm, ?_⟩
    apply Ledger.eq_of_slot_eq
    intro name
    by_cases hname : ∃ item ∈ items, key item = name
    · obtain ⟨item, hitem, rfl⟩ := hname
      obtain ⟨a₁, hended₁⟩ := hends₁ item hitem
      obtain ⟨a₂, hended₂⟩ := hends₂ item hitem
      rw [hended₁] at hended₂
      exact (Prod.mk.inj hended₂).2
    · push Not at hname
      rw [hframe₁ name hname, hframe₂ name hname]

/-- Entries under the names of their items, the same ones up to their order. -/
def SameEntries (names : List String) (a b : List (String × RouteRecord)) : Prop :=
  (a.map Prod.fst).Perm names ∧ a.Perm b

theorem entries_carries {key : β → String} (operation : β → Operation) {n : Nat}
    {task : β → Task (String × RouteRecord) n} {items : List β}
    (hkeeps : ∀ item ∈ items, (task item).KeepsTo (key item))
    (hgives : ∀ item ∈ items, (task item).Gives (·.1 = key item))
    (hdistinct : (items.map key).Nodup) :
    Carries followed₁.ledger followed₂.ledger (SameEntries (items.map key))
      (reconciler₁.batch operation task items) (reconciler₂.batch operation task items) := by
  intro run₁ run₁' run₂ run₂' results₁ result₂ hledger h₁ h₂
  obtain ⟨results₂, hok, hperm, hend⟩ :=
    batch_carries followed₁ followed₂ operation hkeeps hdistinct hledger h₁ h₂
  exact ⟨results₂, hok, ⟨names_of_batch followed₁ hkeeps hgives hdistinct h₁, hperm⟩, hend⟩

theorem reconcile_carries (router : RouterRef) (scope : Declared.Scope)
    (routes : List Declared.Route) (refs : List RouteRef) :
    Carries followed₁.ledger followed₂.ledger (· = ·)
      (reconciler₁.reconcile router scope routes refs)
      (reconciler₂.reconcile router scope routes refs) := by
  unfold Reconciler.reconcile
  cases hpartition : Partition.of routes refs with
  | error name => exact .fail
  | ok partition =>
    have hmissing := Partition.nodup_of_ascending (Partition.ascending_missing hpartition)
    have hmatched := Partition.nodup_of_ascending (Partition.ascending_matched hpartition)
    have hsurplus := Partition.nodup_of_ascending (Partition.ascending_surplus hpartition)
    have hcreate := entries_carries followed₁ followed₂ (.creating ·.name)
      (fun route _ => RouteTask.create_keepsTo router route)
      (fun route _ => RouteTask.create_gives router scope route) hmissing
    have hupdate := entries_carries followed₁ followed₂ (.updating ·.route.name)
      (fun _ hpairing =>
        RouteTask.update_keepsTo ((Partition.mem_matched hpartition).1 hpairing).2.2)
      (fun pairing _ => RouteTask.update_gives scope pairing) hmatched
    have hdelete := batch_carries followed₁ followed₂ (.deleting ·.routeName)
      (fun ref _ => RouteTask.retire_keepsTo ref) hsurplus
    apply (Carries.log _).bind
    intro _ _ _
    apply hcreate.bind
    intro created created₂ hcreated
    apply hupdate.bind
    intro updated updated₂ hupdated
    apply hdelete.bind
    intro _ _ _
    apply Carries.pure
    have hnodup : ((created ++ updated).map Prod.fst).Nodup := by
      rw [List.map_append]
      exact (hcreated.1.append hupdated.1).nodup_iff.2 (Partition.nodup_names hpartition)
    exact NameMap.ofList_eq_of_perm hnodup (hcreated.2.append hupdated.2)

theorem list_carries (hlimit : reconciler₁.policy.pageLimit = reconciler₂.policy.pageLimit)
    (router : RouterRef) :
    Carries followed₁.ledger followed₂.ledger (· = ·) (reconciler₁.list router)
      (reconciler₂.list router) := by
  intro run₁ run₁' run₂ run₂' refs result₂ hledger h₁ h₂
  obtain ⟨hrefs₁, hledger₁⟩ := followed₁.list_eq router run₁
  obtain ⟨hrefs₂, hledger₂⟩ := followed₂.list_eq router run₂
  rw [h₁, hledger, hlimit] at hrefs₁
  rw [h₁] at hledger₁
  rw [h₂] at hrefs₂ hledger₂
  refine ⟨refs, hrefs₂.trans hrefs₁.symm, rfl, ?_⟩
  calc followed₁.ledger run₁'.state = followed₁.ledger run₁.state := hledger₁
    _ = followed₂.ledger run₂.state := hledger
    _ = followed₂.ledger run₂'.state := hledger₂.symm

/-! ## Errands -/

variable (hlimit : reconciler₁.policy.pageLimit = reconciler₂.policy.pageLimit)
  (mesh : Declared.Mesh) (router : Declared.VirtualRouter)

theorem create_carries (nodes : VirtualNode.Table) :
    Carries followed₁.ledger followed₂.ledger (· = ·)
      (reconciler₁.create mesh router nodes) (reconciler₂.create mesh router nodes) :=
  reconcile_carries followed₁ followed₂ _ _ _ _

include hlimit

theorem update_carries (nodes : VirtualNode.Table) :
    Carries followed₁.ledger followed₂.ledger (· = ·)
      (reconciler₁.update mesh router nodes) (reconciler₂.update mesh router nodes) := by
  apply (list_carries followed₁ followed₂ hlimit _).bind
  rintro refs _ rfl
  exact reconcile_carries followed₁ followed₂ _ _ _ refs

theorem remove_carries (listeners : List PortMapping) :
    Carries followed₁.ledger followed₂.ledger (· = ·)
      (reconciler₁.remove mesh router listeners) (reconciler₂.remove mesh router listeners) := by
  apply (list_carries followed₁ followed₂ hlimit _).bind
  rintro refs _ rfl
  cases Partition.of router.spec.routes refs with
  | error name => exact .fail
  | ok partition =>
    have hdelete := batch_carries followed₁ followed₂ (.deleting ·.routeName)
      (fun ref _ => RouteTask.delete_keepsTo (n := 0) ref)
      (Partition.nodup_of_ascending (partition.ascending_tainted listeners))
    apply (Carries.forM_log _ _).bind
    intro _ _ _
    apply (Carries.log _).bind
    intro _ _ _
    apply hdelete.bind
    intro _ _ _
    exact .pure rfl

theorem cleanup_carries :
    Carries followed₁.ledger followed₂.ledger (· = ·)
      (reconciler₁.cleanup mesh router) (reconciler₂.cleanup mesh router) := by
  apply (list_carries followed₁ followed₂ hlimit _).bind
  rintro refs _ rfl
  apply (reconcile_carries followed₁ followed₂ _ _ _ refs).bind
  intro _ _ _
  exact .pure rfl

end TwoRuns

/-! ## Equal success -/

/-- Either both runs fail, or both give the same and end with the same ledger. -/
structure SameSuccess (ledger₁ : σ₁ → Ledger) (ledger₂ : σ₂ → Ledger)
    (x₁ : Except Stop α × Run σ₁) (x₂ : Except Stop α × Run σ₂) : Prop where
  result (a : α) : x₁.1 = .ok a ↔ x₂.1 = .ok a
  ledger {a : α} (h : x₁.1 = .ok a) : ledger₁ x₁.2.state = ledger₂ x₂.2.state

theorem SameSuccess.of_carries {ledger₁ : σ₁ → Ledger} {ledger₂ : σ₂ → Ledger}
    {x₁ : Action σ₁ Stop α} {x₂ : Action σ₂ Stop α} {state₁ : σ₁} {state₂ : σ₂}
    (hforth : Carries ledger₁ ledger₂ (· = ·) x₁ x₂)
    (hback : Carries ledger₂ ledger₁ (· = ·) x₂ x₁) (hstart : ledger₁ state₁ = ledger₂ state₂) :
    SameSuccess ledger₁ ledger₂ (x₁.perform state₁) (x₂.perform state₂) := by
  rcases h₁ : x₁.perform state₁ with ⟨result₁, run₁⟩
  rcases h₂ : x₂.perform state₂ with ⟨result₂, run₂⟩
  refine ⟨?_, ?_⟩
  · intro a
    constructor
    · rintro rfl
      obtain ⟨_, hok, rfl, _⟩ := hforth hstart h₁ h₂
      exact hok
    · rintro rfl
      obtain ⟨_, hok, rfl, _⟩ := hback hstart.symm h₂ h₁
      exact hok
  · rintro a rfl
    obtain ⟨_, _, _, hend⟩ := hforth hstart h₁ h₂
    exact hend

/-- On control planes of one conduct and from one ledger, an errand comes to the same success
or fails, however many tasks are in flight and in whatever order they go on. -/
theorem errands_schedule_independent {reconciler₁ : Reconciler σ₁} {reconciler₂ : Reconciler σ₂}
    (followed₁ : conduct.Followed reconciler₁.plane)
    (followed₂ : conduct.Followed reconciler₂.plane)
    (hlimit : reconciler₁.policy.pageLimit = reconciler₂.policy.pageLimit)
    {state₁ : σ₁} {state₂ : σ₂} (hstart : followed₁.ledger state₁ = followed₂.ledger state₂)
    (mesh : Declared.Mesh) (router : Declared.VirtualRouter) (nodes : VirtualNode.Table)
    (listeners : List PortMapping) :
    SameSuccess followed₁.ledger followed₂.ledger
        ((reconciler₁.create mesh router nodes).perform state₁)
        ((reconciler₂.create mesh router nodes).perform state₂) ∧
      SameSuccess followed₁.ledger followed₂.ledger
        ((reconciler₁.update mesh router nodes).perform state₁)
        ((reconciler₂.update mesh router nodes).perform state₂) ∧
      SameSuccess followed₁.ledger followed₂.ledger
        ((reconciler₁.remove mesh router listeners).perform state₁)
        ((reconciler₂.remove mesh router listeners).perform state₂) ∧
      SameSuccess followed₁.ledger followed₂.ledger
        ((reconciler₁.cleanup mesh router).perform state₁)
        ((reconciler₂.cleanup mesh router).perform state₂) := by
  refine ⟨?_, ?_, ?_, ?_⟩
  · exact .of_carries (create_carries followed₁ followed₂ mesh router nodes)
      (create_carries followed₂ followed₁ mesh router nodes) hstart
  · exact .of_carries (update_carries followed₁ followed₂ hlimit mesh router nodes)
      (update_carries followed₂ followed₁ hlimit.symm mesh router nodes) hstart
  · exact .of_carries (remove_carries followed₁ followed₂ hlimit mesh router listeners)
      (remove_carries followed₂ followed₁ hlimit.symm mesh router listeners) hstart
  · exact .of_carries (cleanup_carries followed₁ followed₂ hlimit mesh router)
      (cleanup_carries followed₂ followed₁ hlimit.symm mesh router) hstart

end MeshRoutes.Control

namespace MeshRoutes.Rehearsal.Sample

open Control Remote

/-- Stores what it is sent, and describes what is stored if it bears its name. -/
def conduct : Conduct where
  list routes router _ := .ok { refs := routes.names.map router.route }
  react
    | .list _ _, entry, _ => (.error (.other "no route"), entry)
    | .create router name spec, _, _ =>
      let record := (default : Stage).created router name spec
      (.ok record, some record)
    | .describe ref, some record, _ =>
      if record.routeName = ref.routeName then (.ok record, some record)
      else (.error (.notFound ref.routeName), some record)
    | .update _ spec, some record, _ =>
      let record := (default : Stage).updated record spec
      (.ok record, some record)
    | .delete _, some _, _ => (.ok (), none)
    | .describe ref, none, _ | .update ref _, none, _ | .delete ref, none, _ =>
      (.error (.notFound ref.routeName), none)

theorem bears_conduct : conduct.Bears := by
  intro call entry count
  cases call with
  | list _ _ | create _ _ _ | update _ _ | delete _ => trivial
  | describe ref =>
    cases entry with
    | none => trivial
    | some record =>
      by_cases hname : record.routeName = ref.routeName
      · simp only [conduct, if_pos hname]
        exact hname
      · simp only [conduct, if_neg hname]
        trivial

/-- Nothing is stored, and no call was made. -/
def ledger : Ledger where
  routes := .empty
  count _ _ := 0

/-- Every call waits for some turns. -/
def waiting (turns : Nat) (concurrency : Concurrency) : Reconciler Ledger where
  plane := conduct.toPlane fun _ => turns
  policy := { concurrency, pageLimit := 1 }

def followed (turns : Nat) (concurrency : Concurrency) :
    conduct.Followed (waiting turns concurrency).plane :=
  Conduct.followedToPlane bears_conduct _

end MeshRoutes.Rehearsal.Sample

namespace MeshRoutes.Control

open Rehearsal in
theorem errands_schedule_independent_on_sample :
    ∃ routes,
      (((Sample.waiting 0 .one).update Sample.mesh Sample.router Sample.nodes).perform
        Sample.ledger).1 = .ok routes ∧
      (((Sample.waiting 3 Sample.two).update Sample.mesh Sample.router Sample.nodes).perform
        Sample.ledger).1 = .ok routes := by
  obtain ⟨routes, hroutes⟩ : ∃ routes, (((Sample.waiting 0 .one).update Sample.mesh Sample.router
      Sample.nodes).perform Sample.ledger).1 = .ok routes := ⟨_, by cbv⟩
  have hstart : (Sample.followed 0 .one).ledger Sample.ledger =
      (Sample.followed 3 Sample.two).ledger Sample.ledger := rfl
  obtain ⟨_, hupdate, _⟩ := errands_schedule_independent (Sample.followed 0 .one)
    (Sample.followed 3 Sample.two) rfl hstart Sample.mesh Sample.router Sample.nodes []
  exact ⟨routes, hroutes, (hupdate.result routes).1 hroutes⟩

end MeshRoutes.Control

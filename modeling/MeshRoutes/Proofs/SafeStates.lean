import MeshRoutes.Proofs.Phases
import MeshRoutes.Proofs.PlainStage
import Mathlib.Data.List.Nodup
/-!
# Safe states

An update may fail at any call, and nothing is undone. What is stored is safe all the same at
every moment: declared routes are first created and updated, and only when all of them are as
they should be does anything else go.
-/

namespace MeshRoutes.Control

open Remote

variable {σ β : Type} {reconciler : Reconciler σ} {store : σ → NameMap RouteRecord}
  {scope : Declared.Scope} {routes : List Declared.Route} {refs : List RouteRef}
  {partition : Partition} {start current : NameMap RouteRecord} {run run' : Run σ}

/-- What an update may have made of the records that were stored at its start. -/
structure Safe (scope : Declared.Scope) (routes : List Declared.Route)
    (start current : NameMap RouteRecord) : Prop where
  /-- No declared route that was stored is lost. -/
  kept : ∀ route ∈ routes, (start.get? route.name).isSome → (current.get? route.name).isSome
  /-- What is stored of a declared route is there from the start or agrees with it. -/
  declared : ∀ route ∈ routes, ∀ record, current.get? route.name = some record →
    start.get? route.name = some record ∨ route.RealizedBy scope record
  /-- What is not declared is as it was or gone. -/
  undeclared : ∀ name, (∀ route ∈ routes, route.name ≠ name) →
    current.get? name = start.get? name ∨ current.get? name = none
  /-- Nothing goes before every declared route is stored as it should be. -/
  deleted : ∀ name, (∀ route ∈ routes, route.name ≠ name) → (start.get? name).isSome →
    current.get? name = none → ∀ route ∈ routes, ∃ record,
      current.get? route.name = some record ∧ route.RealizedBy scope record

/-! ## Two phases -/

/-- While routes are created and updated, nothing but them is changed. -/
structure Building (scope : Declared.Scope) (routes : List Declared.Route)
    (start current : NameMap RouteRecord) : Prop where
  declared {route : Declared.Route} (h : route ∈ routes) :
    current.get? route.name = start.get? route.name ∨
      Realizes scope route (current.get? route.name)
  undeclared {name : String} (h : ∀ route ∈ routes, route.name ≠ name) :
    current.get? name = start.get? name

/-- While routes are deleted, the declared ones are as they should be. -/
structure Clearing (scope : Declared.Scope) (routes : List Declared.Route)
    (start current : NameMap RouteRecord) : Prop where
  declared {route : Declared.Route} (h : route ∈ routes) :
    Realizes scope route (current.get? route.name)
  undeclared {name : String} (h : ∀ route ∈ routes, route.name ≠ name) :
    current.get? name = start.get? name ∨ current.get? name = none

theorem Building.refl (scope : Declared.Scope) (routes : List Declared.Route)
    (start : NameMap RouteRecord) : Building scope routes start start :=
  ⟨fun _ => .inl rfl, fun _ => rfl⟩

theorem Building.safe (h : Building scope routes start current) :
    Safe scope routes start current := by
  refine ⟨?_, ?_, ?_, ?_⟩
  · intro route hroute hstored
    rcases h.declared hroute with hsame | ⟨record, hrecord, _⟩
    · rw [hsame]
      exact hstored
    · exact Option.isSome_of_eq_some hrecord
  · intro route hroute record hrecord
    rcases h.declared hroute with hsame | ⟨record', hrecord', hrealized⟩
    · exact .inl (hsame ▸ hrecord)
    · rw [hrecord] at hrecord'
      cases hrecord'
      exact .inr hrealized
  · intro name hname
    exact .inl (h.undeclared hname)
  · intro name hname hstored hgone
    rw [h.undeclared hname] at hgone
    rw [hgone] at hstored
    cases hstored

theorem Clearing.safe (h : Clearing scope routes start current) :
    Safe scope routes start current := by
  refine ⟨?_, ?_, ?_, ?_⟩
  · intro route hroute _
    obtain ⟨record, hrecord, _⟩ := h.declared hroute
    exact Option.isSome_of_eq_some hrecord
  · intro route hroute record hrecord
    obtain ⟨record', hrecord', hrealized⟩ := h.declared hroute
    rw [hrecord] at hrecord'
    cases hrecord'
    exact .inr hrealized
  · intro name hname
    exact h.undeclared hname
  · intro name hname hstored hgone route hroute
    exact h.declared hroute

/-! ## The states of a run -/

/-- From one run to a later one, every state is of a kind. -/
structure Run.Stays (kind : σ → Prop) (run run' : Run σ) : Prop where
  final : kind run'.state
  past {moment : Moment σ} {after : σ} (h : moment ∈ run'.past)
    (hafter : moment.after? = some after) : moment ∈ run.past ∨ kind after

theorem Run.Stays.trans {kind : σ → Prop} {run run₁ run' : Run σ} (h : run.Stays kind run₁)
    (h' : run₁.Stays kind run') : run.Stays kind run' where
  final := h'.final
  past hmem hafter := by
    rcases h'.past hmem hafter with hold | hkind
    · exact h.past hold hafter
    · exact .inr hkind

theorem Run.Stays.mono {kind kind' : σ → Prop} (h : run.Stays kind run')
    (himp : ∀ state, kind state → kind' state) : run.Stays kind' run' :=
  ⟨himp _ h.final, fun hmem hafter => (h.past hmem hafter).imp id (himp _)⟩

theorem Run.Stays.log {kind : σ → Prop} (event : Log.Event) (h : kind run.state) :
    run.Stays kind (run.log event) := by
  refine ⟨h, ?_⟩
  intro moment after hmem hafter
  rcases List.mem_cons.1 hmem with rfl | hold
  · cases hafter
  · exact .inl hold

/-- A batch stays within what is known of its runs. -/
theorem stays_of_batch {ι τ α : Type} {D : Division reconciler.plane ι τ} {key : β → ι}
    {aim : β → Aim α τ} {operation : β → Operation} {n : Nat} {task : β → Task α n}
    {items : List β} {result : Except Stop (List α)} {kind : σ → Prop}
    (hready : Reconciler.Ready D key aim task items run)
    (h : reconciler.batch operation task items run = (result, run'))
    (hadmits : D.Admits run'.past)
    (hkind : ∀ mid : Run σ, Amid D key aim items run mid → kind mid.state) :
    run.Stays kind run' := by
  refine ⟨hkind run' (Reconciler.batch_amid hready h hadmits), ?_⟩
  intro moment after hmem hafter
  rcases Reconciler.batch_throughout hready h hadmits hmem hafter with hold | ⟨mid, rfl, hmid⟩
  · exact .inl hold
  · exact .inr (hkind mid hmid)

/-! ## The phases of a reconciliation -/

/-- Every answer is expected. -/
def Anything (call : Call) (_ : call.Outcome) : Prop := True

theorem LeavesOnFailure.spares {plane : Plane σ} (hfails : LeavesOnFailure plane store) :
    NamedStore.Spares plane store Anything :=
  fun state state' call error hanswer _ => hfails state state' call error hanswer

variable {hstore : NamedStore reconciler.plane store}
  {hspares : NamedStore.Spares reconciler.plane store Anything}

theorem admits_anything (past : List (Moment σ)) : (hstore.division hspares).Admits past :=
  fun _ _ _ _ _ => trivial

/-- A batch leaves the entries at other names. -/
theorem Amid.entry_eq {α : Type} {key : β → String} {aim : β → Aim α Holding} {items : List β}
    {mid : Run σ} (h : Amid (hstore.division hspares) key aim items run mid) {name : String}
    (hname : ∀ item ∈ items, key item ≠ name) :
    (store mid.state).get? name = (store run.state).get? name :=
  congrArg Holding.entry (h.frame name hname)

theorem Building.of_amid {route : β → Declared.Route} {items : List β} {mid : Run σ}
    (hnames : (routes.map Declared.Route.name).Nodup)
    (hitems : ∀ item ∈ items, route item ∈ routes)
    (hbuilding : Building scope routes start (store run.state))
    (hamid : Amid (hstore.division hspares) (fun item => (route item).name)
      (fun item => realization Anything scope (route item)
        (run.holding store (route item).name)) items run mid) :
    Building scope routes start (store mid.state) := by
  constructor
  · intro declared hdeclared
    by_cases hitem : ∃ item ∈ items, (route item).name = declared.name
    · obtain ⟨item, hmem, hname⟩ := hitem
      have heq : route item = declared :=
        List.inj_on_of_nodup_map hnames (hitems item hmem) hdeclared hname
      rw [← heq] at hdeclared ⊢
      rcases hamid.kept item hmem with hsame | hrealizes
      · have hentry : (store mid.state).get? (route item).name =
            (store run.state).get? (route item).name := hsame
        rw [hentry]
        exact hbuilding.declared hdeclared
      · exact .inr hrealizes
    · push Not at hitem
      rw [hamid.entry_eq hitem]
      exact hbuilding.declared hdeclared
  · intro name hname
    rw [hamid.entry_eq fun item hitem => hname _ (hitems item hitem)]
    exact hbuilding.undeclared hname

theorem Clearing.of_amid {mid : Run σ} (h : Partition.of routes refs = .ok partition)
    (hclearing : Clearing scope routes start (store run.state))
    (hamid : Amid (hstore.division hspares) RouteRef.routeName
      (fun ref => removal Anything (run.holding store ref.routeName)) partition.surplus run mid) :
    Clearing scope routes start (store mid.state) := by
  constructor
  · intro route hroute
    rw [hamid.entry_eq fun ref href => Partition.name_ne_of_surplus h hroute href]
    exact hclearing.declared hroute
  · intro name hname
    by_cases hlisted : ∃ ref ∈ partition.surplus, ref.routeName = name
    · obtain ⟨ref, href, rfl⟩ := hlisted
      rcases hamid.kept ref href with hsame | hnone
      · have hentry : (store mid.state).get? ref.routeName =
            (store run.state).get? ref.routeName := hsame
        rw [hentry]
        exact hclearing.undeclared hname
      · exact .inr hnone
    · push Not at hlisted
      rw [hamid.entry_eq hlisted]
      exact hclearing.undeclared hname

/-- When every declared route is realized, what is not declared may go. -/
theorem Clearing.of_building (h : Partition.of routes refs = .ok partition) {run₁ run₂ : Run σ}
    {created updated : List (String × RouteRecord)}
    (hbuilding : Building scope routes start (store run₂.state))
    (hcreate : Realized store scope id partition.missing run run₁ created)
    (hupdate : Realized store scope Pairing.route partition.matched run₁ run₂ updated) :
    Clearing scope routes start (store run₂.state) := by
  refine ⟨?_, fun hname => .inl (hbuilding.undeclared hname)⟩
  intro route hroute
  rcases Partition.exists_missing_or_matched h hroute with hmissing | ⟨ref, hmatched⟩
  · have hholding := hupdate.frame fun pairing hpairing =>
      Partition.name_ne_of_missing_of_matched h hmissing hpairing
    have hrealizes := hcreate.realizes hmissing
    rw [id, ← hholding] at hrealizes
    exact hrealizes
  · exact hupdate.realizes hmatched

section Phases

variable (hstore) (hspares) {router : RouterRef}

include hstore hspares

theorem stays_building_of_create (h : Partition.of routes refs = .ok partition)
    (hrefs : (refs.map RouteRef.routeName).Perm (store run.state).names) {event : Log.Event}
    {result : Except Stop (List (String × RouteRecord))}
    (hcreate : reconciler.batch (.creating ·.name) (RouteTask.create router scope)
      partition.missing (run.log event) = (result, run')) :
    run.Stays (fun state => Building scope routes (store run.state) (store state)) run' := by
  have hlog : run.Stays (fun state => Building scope routes (store run.state) (store state))
      (run.log event) := .log event (.refl scope routes _)
  apply hlog.trans
  apply stays_of_batch (create_ready hstore hspares h hrefs router event) hcreate
    (admits_anything _)
  intro mid hmid
  refine .of_amid (Partition.nodup_of_ok h).1 ?_ hlog.final hmid
  intro route hroute
  exact ((Partition.mem_missing h).1 hroute).1

theorem stays_building_of_update (h : Partition.of routes refs = .ok partition)
    (hbuilding : Building scope routes start (store run.state))
    {result : Except Stop (List (String × RouteRecord))}
    (hupdate : reconciler.batch (.updating ·.route.name) (RouteTask.update scope)
      partition.matched run = (result, run')) :
    run.Stays (fun state => Building scope routes start (store state)) run' := by
  apply stays_of_batch (update_ready hstore hspares h run) hupdate (admits_anything _)
  intro mid hmid
  refine .of_amid (Partition.nodup_of_ok h).1 ?_ hbuilding hmid
  intro pairing hpairing
  exact ((Partition.mem_matched h).1 hpairing).1

theorem stays_clearing_of_retire (h : Partition.of routes refs = .ok partition)
    (hclearing : Clearing scope routes start (store run.state)) {result : Except Stop (List Unit)}
    (hdelete : reconciler.batch (.deleting ·.routeName) RouteTask.retire partition.surplus run =
      (result, run')) :
    run.Stays (fun state => Clearing scope routes start (store state)) run' := by
  apply stays_of_batch (retire_ready hstore hspares h run) hdelete (admits_anything _)
  intro mid hmid
  exact hclearing.of_amid h hmid

end Phases

theorem stays_safe_of_leftRoutes (h : run.LeftRoutes store run') :
    run.Stays (fun state => Safe scope routes (store run.state) (store state)) run' := by
  have hsafe : ∀ state, store state = store run.state →
      Safe scope routes (store run.state) (store state) := by
    intro state hsame
    rw [hsame]
    exact (Building.refl scope routes _).safe
  exact ⟨hsafe _ h.store_eq, fun hmem hafter => (h.past hmem hafter).imp id (hsafe _)⟩

/-- A reconciliation stays safe, wherever it stops. -/
theorem stays_safe_of_reconcile (hstore : NamedStore reconciler.plane store)
    (hfails : LeavesOnFailure reconciler.plane store) {router : RouterRef}
    {result : Except Stop (NameMap RouteRecord)}
    (hrefs : (refs.map RouteRef.routeName).Perm (store run.state).names)
    (h : reconciler.reconcile router scope routes refs run = (result, run')) :
    run.Stays (fun state => Safe scope routes (store run.state) (store state)) run' := by
  have hspares := hfails.spares
  cases Reconciler.course_of_reconcile h with
  | duplicate _ => exact ⟨(Building.refl scope routes _).safe, fun hmem _ => .inl hmem⟩
  | creating hpartition hcreate =>
    have hcreating := stays_building_of_create hstore hspares hpartition hrefs hcreate
    exact hcreating.mono fun _ hbuilding => hbuilding.safe
  | updating hpartition hcreate hupdate =>
    have hcreating := stays_building_of_create hstore hspares hpartition hrefs hcreate
    have hupdating := stays_building_of_update hstore hspares hpartition hcreating.final hupdate
    exact (hcreating.trans hupdating).mono fun _ hbuilding => hbuilding.safe
  | deleting hpartition hcreate hupdate hdelete =>
    have hcreating := stays_building_of_create hstore hspares hpartition hrefs hcreate
    have hupdating := stays_building_of_update hstore hspares hpartition hcreating.final hupdate
    have hcreated := realized_of_batch (create_ready hstore hspares hpartition hrefs router _)
      hcreate (admits_anything _)
    have hupdated := realized_of_batch (update_ready hstore hspares hpartition _) hupdate
      (admits_anything _)
    have hclearing := Clearing.of_building hpartition hupdating.final hcreated hupdated
    have hdeleting := stays_clearing_of_retire hstore hspares hpartition hclearing hdelete
    exact ((hcreating.trans hupdating).mono fun _ hbuilding => hbuilding.safe).trans
      (hdeleting.mono fun _ hclearing => hclearing.safe)

/-! ## Safety of updates -/

/-- Whatever calls fail, every state of an update is safe, the one that it ends in as well as
each one that a call left. -/
theorem update_safe (hstore : NamedStore reconciler.plane store)
    (hfails : LeavesOnFailure reconciler.plane store) {mesh : Declared.Mesh}
    {router : Declared.VirtualRouter} {nodes : VirtualNode.Table} {state : σ}
    {result : Except Stop (NameMap RouteRecord)}
    (hrun : (reconciler.update mesh router nodes).perform state = (result, run)) :
    Safe (router.scope nodes) router.spec.routes (store state) (store run.state) ∧
      ∀ moment ∈ run.history, ∀ after, moment.after? = some after →
        Safe (router.scope nodes) router.spec.routes (store state) (store after) := by
  have hstays : Run.Stays (fun after =>
      Safe (router.scope nodes) router.spec.routes (store state) (store after)) { state } run := by
    rcases Action.bind_cases hrun with ⟨stop, hlist, _⟩ | ⟨refs, run₁, hlist, hreconcile⟩
    · exact stays_safe_of_leftRoutes
        (hstore.leftRoutes_of_list hfails.spares hlist (admits_anything _))
    · have hleft := hstore.leftRoutes_of_list hfails.spares hlist (admits_anything _)
      have hrefs := hstore.perm_of_list hfails.spares hlist (admits_anything _)
      have hreconciling := stays_safe_of_reconcile hstore hfails hrefs hreconcile
      rw [hleft.store_eq] at hreconciling
      exact (stays_safe_of_leftRoutes hleft).trans hreconciling
  refine ⟨hstays.final, ?_⟩
  intro moment hmem after hafter
  rcases hstays.past (List.mem_reverse.1 hmem) hafter with hold | hsafe
  · cases hold
  · exact hsafe

open Rehearsal in
/-- A route is created, the update of another is refused while a third one waits, and nothing is
deleted. -/
theorem update_safe_on_sample :
    Sample.stopped.1 = .error (.failed (.api (.other "busy"))) ∧
      Sample.stopped.2.state.1.routes.names = ["added", "gone", "kept", "late"] ∧
      Safe (Sample.longRouter.scope Sample.nodes) Sample.longRouter.spec.routes
        Sample.busy.1.routes Sample.stopped.2.state.1.routes ∧
      ∀ moment ∈ Sample.stopped.2.history, ∀ after, moment.after? = some after →
        Safe (Sample.longRouter.scope Sample.nodes) Sample.longRouter.spec.routes
          Sample.busy.1.routes after.1.routes := by
  have hstore : NamedStore (Sample.reconciler Sample.two).plane _ := namedStore_plainPlane
  have hfails : LeavesOnFailure (Sample.reconciler Sample.two).plane _ := leavesOnFailure_plainPlane
  have hrun : ((Sample.reconciler Sample.two).update Sample.mesh Sample.longRouter
      Sample.nodes).perform Sample.busy = (Sample.stopped.1, Sample.stopped.2) := rfl
  exact ⟨by cbv, by cbv, update_safe hstore hfails hrun⟩

end MeshRoutes.Control

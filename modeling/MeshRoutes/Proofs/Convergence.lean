import MeshRoutes.Proofs.Phases
import MeshRoutes.Proofs.PlainStage
/-!
# Convergence

Against a control plane that stores by name, an update of which no call fails leaves exactly
the declared routes, each in agreement with its declaration. What agreed before is not
touched, so that a second update changes nothing.
-/

namespace MeshRoutes.Control

open Remote

variable {σ : Type} {reconciler : Reconciler σ} {store : σ → NameMap RouteRecord}
  {scope : Declared.Scope} {routes : List Declared.Route} {refs : List RouteRef}
  {partition : Partition} {router : RouterRef}

/-! ## Three batches that succeed -/

/-- What the batches of a reconciliation make of a named store when all of them succeed. -/
structure Stages (store : σ → NameMap RouteRecord) (scope : Declared.Scope)
    (partition : Partition) (start run₁ run₂ run : Run σ)
    (created updated : List (String × RouteRecord)) : Prop where
  create : Realized store scope id partition.missing start run₁ created
  update : Realized store scope Pairing.route partition.matched run₁ run₂ updated
  delete {ref : RouteRef} (h : ref ∈ partition.surplus) :
    (run.holding store ref.routeName).entry = none
  frame {name : String} (h : ∀ ref ∈ partition.surplus, ref.routeName ≠ name) :
    run.holding store name = run₂.holding store name

namespace Stages

variable {start run₁ run₂ run : Run σ} {created updated : List (String × RouteRecord)}
  (h : Partition.of routes refs = .ok partition)
  (hstages : Stages store scope partition start run₁ run₂ run created updated)

include h hstages

theorem holding_of_missing {route : Declared.Route} (hroute : route ∈ partition.missing) :
    run.holding store route.name = run₁.holding store route.name := by
  have hdeclared := ((Partition.mem_missing h).1 hroute).1
  rw [hstages.frame fun ref href => Partition.name_ne_of_surplus h hdeclared href]
  exact hstages.update.frame fun pairing hpairing =>
    Partition.name_ne_of_missing_of_matched h hroute hpairing

theorem holding_of_matched {pairing : Pairing} (hpairing : pairing ∈ partition.matched) :
    run.holding store pairing.route.name = run₂.holding store pairing.route.name := by
  have hdeclared := ((Partition.mem_matched h).1 hpairing).1
  exact hstages.frame fun ref href => Partition.name_ne_of_surplus h hdeclared href

/-- What is there at an undeclared name that is not listed is there from the start. -/
theorem holding_of_undeclared {name : String} (hname : ∀ route ∈ routes, route.name ≠ name)
    (hunlisted : ∀ ref ∈ partition.surplus, ref.routeName ≠ name) :
    run.holding store name = start.holding store name := by
  rw [hstages.frame hunlisted, hstages.update.frame, hstages.create.frame]
  · intro route hroute
    exact hname route ((Partition.mem_missing h).1 hroute).1
  · intro pairing hpairing
    exact hname pairing.route ((Partition.mem_matched h).1 hpairing).1

/-- A declared route is realized, and confirmed if it was realized from the start. -/
theorem realizes {route : Declared.Route} (hroute : route ∈ routes) :
    Realizes scope route (run.holding store route.name).entry ∧
      (Realizes scope route (start.holding store route.name).entry →
        (run.holding store route.name).Confirmed route (start.holding store route.name)) := by
  rcases Partition.exists_missing_or_matched h hroute with hmissing | ⟨ref, hmatched⟩
  · rw [hstages.holding_of_missing h hmissing]
    exact ⟨hstages.create.realizes hmissing, hstages.create.confirmed hmissing⟩
  · have hstart : run₁.holding store route.name = start.holding store route.name :=
      hstages.create.frame fun other hother =>
        (Partition.name_ne_of_missing_of_matched h hother hmatched).symm
    rw [hstages.holding_of_matched h hmatched, ← hstart]
    exact ⟨hstages.update.realizes hmatched, hstages.update.confirmed hmatched⟩

theorem stored {p : String × RouteRecord} (hp : p ∈ created ++ updated) :
    (run.holding store p.1).entry = some p.2 := by
  rcases List.mem_append.1 hp with hcreated | hupdated
  · have hname := hstages.create.names.mem_iff.1 (List.mem_map_of_mem hcreated)
    obtain ⟨route, hroute, heq⟩ := List.mem_map.1 hname
    have hholding := hstages.holding_of_missing h hroute
    rw [show route.name = p.1 from heq] at hholding
    rw [hholding]
    exact hstages.create.stored hcreated
  · have hname := hstages.update.names.mem_iff.1 (List.mem_map_of_mem hupdated)
    obtain ⟨pairing, hpairing, heq⟩ := List.mem_map.1 hname
    have hholding := hstages.holding_of_matched h hpairing
    rw [heq] at hholding
    rw [hholding]
    exact hstages.update.stored hupdated

theorem nodup_names : ((created ++ updated).map Prod.fst).Nodup := by
  rw [List.map_append]
  exact (hstages.create.names.append hstages.update.names).nodup_iff.2 (Partition.nodup_names h)

theorem exists_result {route : Declared.Route} (hroute : route ∈ routes) :
    ∃ record, (route.name, record) ∈ created ++ updated := by
  have hmem : route.name ∈ (created ++ updated).map Prod.fst := by
    rw [List.map_append, List.mem_append, hstages.create.names.mem_iff,
      hstages.update.names.mem_iff]
    rcases Partition.exists_missing_or_matched h hroute with hmissing | ⟨ref, hmatched⟩
    · exact .inl (List.mem_map_of_mem hmissing)
    · exact .inr (List.mem_map_of_mem hmatched)
  obtain ⟨⟨name, record⟩, hp, heq⟩ := List.mem_map.1 hmem
  rw [show name = route.name from heq] at hp
  exact ⟨record, hp⟩

end Stages

/-- The declared routes are stored and nothing else is, and what agreed from the start was
only described. -/
structure Converged (store : σ → NameMap RouteRecord) (scope : Declared.Scope)
    (routes : List Declared.Route) (start run : Run σ) (result : NameMap RouteRecord) :
    Prop where
  result_eq : result = store run.state
  names : (store run.state).names.Perm (routes.map Declared.Route.name)
  realizes {route : Declared.Route} (h : route ∈ routes) :
    Realizes scope route (run.holding store route.name).entry
  confirmed {route : Declared.Route} (h : route ∈ routes)
    (hstart : Realizes scope route (start.holding store route.name).entry) :
    (run.holding store route.name).Confirmed route (start.holding store route.name)
  untouched {name : String} (h : ∀ route ∈ routes, route.name ≠ name)
    (hname : (start.holding store name).entry = none) :
    (run.holding store name).calls = (start.holding store name).calls

theorem Converged.of_holding_eq {start start' run : Run σ} {result : NameMap RouteRecord}
    (h : Converged store scope routes start run result)
    (hstart : start.holding store = start'.holding store) :
    Converged store scope routes start' run result := by
  obtain ⟨hresult, hnames, hrealizes, hconfirmed, huntouched⟩ := h
  rw [hstart] at hconfirmed huntouched
  exact ⟨hresult, hnames, hrealizes, hconfirmed, huntouched⟩

theorem Stages.converged {start run₁ run₂ run : Run σ}
    {created updated : List (String × RouteRecord)}
    (h : Partition.of routes refs = .ok partition)
    (hrefs : (refs.map RouteRef.routeName).Perm (store start.state).names)
    (hstages : Stages store scope partition start run₁ run₂ run created updated) :
    Converged store scope routes start run (NameMap.ofList (created ++ updated)) := by
  -- an undeclared name has no entry in the end: it was listed and deleted, or never stored
  have hundeclared : ∀ name, (∀ route ∈ routes, route.name ≠ name) →
      (store run.state).get? name = none := by
    intro name hname
    by_cases hlisted : ∀ ref ∈ partition.surplus, ref.routeName ≠ name
    · have hholding := hstages.holding_of_undeclared h hname hlisted
      refine (congrArg Holding.entry hholding).trans ((NameMap.get?_eq_none_iff _).2 ?_)
      intro hstored
      obtain ⟨ref, href, heq⟩ := List.mem_map.1 (hrefs.mem_iff.2 hstored)
      refine hlisted ref ((Partition.mem_surplus h).2 ⟨href, ?_⟩) heq
      intro hdeclared
      obtain ⟨route, hroute, hrouteName⟩ := List.mem_map.1 hdeclared
      exact hname route hroute (hrouteName.trans heq)
    · push Not at hlisted
      obtain ⟨ref, href, rfl⟩ := hlisted
      exact hstages.delete href
  have hstored : ∀ name, name ∈ (store run.state).names ↔
      name ∈ routes.map Declared.Route.name := by
    intro name
    rw [NameMap.mem_names_iff, List.mem_map]
    constructor
    · intro hsome
      by_contra hname
      push Not at hname
      rw [hundeclared name hname] at hsome
      cases hsome
    · rintro ⟨route, hroute, rfl⟩
      obtain ⟨record, hentry, _⟩ := (hstages.realizes h hroute).1
      exact Option.isSome_of_eq_some hentry
  refine ⟨?_, ?_, ?_, ?_, ?_⟩
  · apply NameMap.eq_of_get?_eq
    intro name
    apply Option.ext
    intro record
    rw [NameMap.get?_ofList_eq_some_iff (hstages.nodup_names h)]
    refine ⟨hstages.stored h, ?_⟩
    intro hentry
    have hname := (hstored name).1 ((NameMap.mem_names_iff _).2 (Option.isSome_of_eq_some hentry))
    obtain ⟨route, hroute, rfl⟩ := List.mem_map.1 hname
    obtain ⟨record', hresult⟩ := hstages.exists_result h hroute
    have hentry' : (store run.state).get? route.name = some record' := hstages.stored h hresult
    rw [hentry] at hentry'
    cases hentry'
    exact hresult
  · exact (List.perm_ext_iff_of_nodup (NameMap.nodup_names _)
      (Partition.nodup_of_ok h).1).2 hstored
  · exact fun hroute => (hstages.realizes h hroute).1
  · exact fun hroute => (hstages.realizes h hroute).2
  · intro name hname hentry
    have hunlisted : ∀ ref ∈ partition.surplus, ref.routeName ≠ name := by
      rintro ref href rfl
      have hmem := hrefs.mem_iff.1 (List.mem_map_of_mem ((Partition.mem_surplus h).1 href).1)
      exact (NameMap.get?_eq_none_iff _).1 hentry hmem
    rw [hstages.holding_of_undeclared h hname hunlisted]

/-! ## Runs without failures -/

def Succeeds (call : Call) (outcome : call.Outcome) : Prop := ∃ answer, outcome = .ok answer

theorem not_fallible_succeeds : ¬Fallible Succeeds := by
  rintro ⟨call, error, answer, h⟩
  cases h

theorem NamedStore.spares_succeeds (plane : Plane σ) (store : σ → NameMap RouteRecord) :
    NamedStore.Spares plane store Succeeds := by
  rintro state state' call error _ ⟨answer, h⟩
  cases h

variable {run run' : Run σ}

theorem Run.NoCallFailed.admits {plane : Plane σ} (h : run.NoCallFailed)
    (hstore : NamedStore plane store) :
    (hstore.division (NamedStore.spares_succeeds plane store)).Admits run.past :=
  fun operation call outcome after hmem =>
    h operation call outcome after (List.mem_reverse.2 hmem)

section Reconciling

variable (hstore : NamedStore reconciler.plane store)

include hstore

/-- A reconciliation that succeeds without failures converges. -/
theorem converged_of_reconcile {result : NameMap RouteRecord}
    (h : reconciler.reconcile router scope routes refs run = (.ok result, run'))
    (hrefs : (refs.map RouteRef.routeName).Perm (store run.state).names)
    (hcalls : run'.NoCallFailed) : Converged store scope routes run run' result := by
  have hadmits := hcalls.admits hstore
  generalize hresult : Except.ok result = outcome at h
  cases Reconciler.course_of_reconcile h with
  | duplicate _ => cases hresult
  | creating _ _ => cases hresult
  | updating _ _ _ => cases hresult
  | @deleting partition created updated deleted run₁ run₂ _ hpartition hcreate hupdate hdelete =>
    cases deleted with
    | error stop => cases hresult
    | ok deleted =>
      cases hresult
      have hspares := NamedStore.spares_succeeds reconciler.plane store
      have hadmits₂ := hadmits.of_suffix (Reconciler.past_suffix_of_batch hdelete)
      have hadmits₁ := hadmits₂.of_suffix (Reconciler.past_suffix_of_batch hupdate)
      have hcreated := realized_of_batch
        (create_ready hstore hspares hpartition hrefs router _) hcreate hadmits₁
      have hupdated := realized_of_batch
        (update_ready hstore hspares hpartition run₁) hupdate hadmits₂
      have hretire := retire_ready hstore hspares hpartition run₂
      refine Stages.converged hpartition hrefs ⟨hcreated.of_log, hupdated, ?_, ?_⟩
      · exact entry_eq_none_of_batch not_fallible_succeeds hpartition hdelete hadmits
      · exact fun hname => (Reconciler.batch_amid hretire hdelete hadmits).frame _ hname

/-- Where every route resolves and no call fails, a reconciliation does not fail. -/
theorem reconcile_ne_error {stop : Stop}
    (hnames : (routes.map Declared.Route.name).Nodup)
    (hresolves : ∀ route ∈ routes, ∃ spec, route.resolve scope = .ok spec)
    (hrefs : (refs.map RouteRef.routeName).Perm (store run.state).names)
    (hcalls : run'.NoCallFailed) :
    reconciler.reconcile router scope routes refs run ≠ (.error stop, run') := by
  intro h
  have hadmits := hcalls.admits hstore
  have hspares := NamedStore.spares_succeeds reconciler.plane store
  obtain ⟨partition, hpartition⟩ := Partition.exists_of_nodup hnames
    (hrefs.nodup_iff.2 (NameMap.nodup_names _))
  generalize hresult : Except.error stop = outcome at h
  cases Reconciler.course_of_reconcile h with
  | duplicate hduplicate =>
    rw [hpartition] at hduplicate
    cases hduplicate
  | creating hpartition hcreate =>
    refine batch_ne_error not_fallible_succeeds ?_
      (create_ready hstore hspares hpartition hrefs router _) hadmits hcreate
    exact fun route hroute => hresolves route ((Partition.mem_missing hpartition).1 hroute).1
  | updating hpartition hcreate hupdate =>
    refine batch_ne_error not_fallible_succeeds ?_
      (update_ready hstore hspares hpartition _) hadmits hupdate
    exact fun pairing hpairing =>
      hresolves pairing.route ((Partition.mem_matched hpartition).1 hpairing).1
  | @deleting partition _ _ deleted _ run₂ _ hpartition hcreate hupdate hdelete =>
    cases deleted with
    | ok deleted => cases hresult
    | error stop =>
      obtain ⟨_, _, _, _, hfallible⟩ := Reconciler.batch_error
        (retire_ready hstore hspares hpartition run₂) hdelete hadmits
      exact not_fallible_succeeds hfallible

/-- Without failures, an update reconciles with what is stored at its start, unless it gives
up its listing. -/
theorem update_cases {mesh : Declared.Mesh} {router : Declared.VirtualRouter}
    {nodes : VirtualNode.Table} {result : Except Stop (NameMap RouteRecord)}
    (h : reconciler.update mesh router nodes run = (result, run')) (hcalls : run'.NoCallFailed) :
    (result = .error .unfinished ∧ ¬Listing.EndsWithin reconciler.plane (.of mesh router)
      reconciler.policy.pageLimit run.state) ∨
    ∃ refs run₁, run.LeftRoutes store run₁ ∧
      (refs.map RouteRef.routeName).Perm (store run₁.state).names ∧
      reconciler.reconcile (.of mesh router) (router.scope nodes) router.spec.routes refs run₁ =
        (result, run') := by
  have hspares := NamedStore.spares_succeeds reconciler.plane store
  have hadmits := hcalls.admits hstore
  rcases Action.bind_cases h with ⟨stop, hlist, hstop⟩ | ⟨refs, run₁, hlist, hreconcile⟩
  · rcases Reconciler.list_cases hlist with ⟨_, _, hok, _⟩ | ⟨error, token, after, hfailed, _⟩ |
      ⟨hunfinished, hlong⟩
    · cases hok
    · obtain ⟨answer, hanswer⟩ := hadmits _ _ _ _ hfailed
      cases hanswer
    · cases hunfinished
      exact .inl ⟨hstop, hlong⟩
  · have hadmits₁ := hadmits.of_suffix (Reconciler.past_suffix_of_reconcile hreconcile)
    have hleft := hstore.leftRoutes_of_list hspares hlist hadmits₁
    exact .inr ⟨refs, run₁, hleft, hstore.perm_of_list hspares hlist hadmits₁, hreconcile⟩

theorem converged_of_update {mesh : Declared.Mesh} {router : Declared.VirtualRouter}
    {nodes : VirtualNode.Table} {result : NameMap RouteRecord}
    (h : reconciler.update mesh router nodes run = (.ok result, run'))
    (hcalls : run'.NoCallFailed) :
    Converged store (router.scope nodes) router.spec.routes run run' result := by
  rcases update_cases hstore h hcalls with ⟨hunfinished, _⟩ | ⟨refs, run₁, hleft, hrefs, hreconcile⟩
  · cases hunfinished
  · exact (converged_of_reconcile hstore hreconcile hrefs hcalls).of_holding_eq hleft.holding_eq

theorem exists_ok_of_update {mesh : Declared.Mesh} {router : Declared.VirtualRouter}
    {nodes : VirtualNode.Table} {result : Except Stop (NameMap RouteRecord)}
    (hnames : (router.spec.routes.map Declared.Route.name).Nodup)
    (hresolves : ∀ route ∈ router.spec.routes,
      ∃ spec, route.resolve (router.scope nodes) = .ok spec)
    (hends : Listing.EndsWithin reconciler.plane (.of mesh router)
      reconciler.policy.pageLimit run.state)
    (h : reconciler.update mesh router nodes run = (result, run')) (hcalls : run'.NoCallFailed) :
    ∃ routes, result = .ok routes := by
  rcases update_cases hstore h hcalls with ⟨_, hlong⟩ | ⟨refs, run₁, _, hrefs, hreconcile⟩
  · exact absurd hends hlong
  · cases result with
    | ok routes => exact ⟨routes, rfl⟩
    | error stop =>
      exact absurd hreconcile (reconcile_ne_error hstore hnames hresolves hrefs hcalls)

end Reconciling

/-! ## Convergence of updates -/

/-- An update of which no call fails makes the stored routes those that are declared, and
returns them. A record that agrees with its declaration is left as it is. -/
theorem update_converges (hstore : NamedStore reconciler.plane store) {mesh : Declared.Mesh}
    {router : Declared.VirtualRouter} {nodes : VirtualNode.Table} {state : σ}
    {result : Except Stop (NameMap RouteRecord)}
    (hnames : (router.spec.routes.map Declared.Route.name).Nodup)
    (hresolves : ∀ route ∈ router.spec.routes,
      ∃ spec, route.resolve (router.scope nodes) = .ok spec)
    (hends : Listing.EndsWithin reconciler.plane (.of mesh router)
      reconciler.policy.pageLimit state)
    (hrun : (reconciler.update mesh router nodes).perform state = (result, run))
    (hcalls : run.NoCallFailed) :
    result = .ok (store run.state) ∧
      (store run.state).names.Perm (router.spec.routes.map Declared.Route.name) ∧
      ∀ route ∈ router.spec.routes, ∃ record,
        (store run.state).get? route.name = some record ∧
        route.RealizedBy (router.scope nodes) record ∧
        ∀ old, (store state).get? route.name = some old →
          route.RealizedBy (router.scope nodes) old → record = old := by
  obtain ⟨routes, rfl⟩ := exists_ok_of_update hstore hnames hresolves hends hrun hcalls
  have hconverged := converged_of_update hstore hrun hcalls
  refine ⟨congrArg Except.ok hconverged.result_eq, hconverged.names, ?_⟩
  intro route hroute
  obtain ⟨record, hrecord, hrealized⟩ := hconverged.realizes hroute
  refine ⟨record, hrecord, hrealized, ?_⟩
  intro old hold hagrees
  have hsame := (hconverged.confirmed hroute ⟨old, hold, hagrees⟩).1
  rw [hrecord] at hsame
  exact Option.some.inj (hsame.trans hold)

open Rehearsal in
theorem update_converges_on_sample :
    (Sample.update .one Sample.stage).2.NoCallFailed ∧
      (Sample.update .one Sample.stage).1 =
        .ok (Sample.update .one Sample.stage).2.state.1.routes ∧
      (Sample.update .one Sample.stage).2.state.1.routes.names.Perm ["added", "kept"] := by
  have hstore : NamedStore (Sample.reconciler .one).plane _ := namedStore_plainPlane
  have hnames : (Sample.router.spec.routes.map Declared.Route.name).Nodup := by decide
  have hresolves : ∀ route ∈ Sample.router.spec.routes,
      ∃ spec, route.resolve (Sample.router.scope Sample.nodes) = .ok spec := by
    intro route hroute
    rcases List.mem_pair.1 hroute with rfl | rfl
    · exact ⟨_, by cbv⟩
    · exact ⟨_, by cbv⟩
  have hends : Listing.EndsWithin plainPlane (.of Sample.mesh Sample.router) 1 Sample.stage :=
    Stage.endsWithin_one _ rfl rfl _
  have hrun : ((Sample.reconciler .one).update Sample.mesh Sample.router Sample.nodes).perform
      Sample.stage = ((Sample.update .one Sample.stage).1, (Sample.update .one Sample.stage).2) :=
    rfl
  have hcalls : (Sample.update .one Sample.stage).2.NoCallFailed :=
    Run.noCallFailed_iff.2 (by cbv)
  obtain ⟨hresult, hperm, _⟩ := update_converges hstore hnames hresolves hends hrun hcalls
  exact ⟨hcalls, hresult, hperm⟩

end MeshRoutes.Control

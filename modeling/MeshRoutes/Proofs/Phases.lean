import MeshRoutes.Proofs.RouteAims
/-!
# The batches of a reconciliation

What each of the three batches makes of a named store when it succeeds, and what there is in
the store in the course of it. A batch leaves every name alone that is not the name of one of
its items.
-/

namespace MeshRoutes.Control

open Remote

variable {σ β : Type} {reconciler : Reconciler σ} {store : σ → NameMap RouteRecord}
  {expected : (call : Call) → call.Outcome → Prop} {scope : Declared.Scope}
  {routes : List Declared.Route} {refs : List RouteRef} {partition : Partition}
  {run run' : Run σ}

theorem Reconciler.past_suffix_of_reconcile {router : RouterRef}
    {result : Except Stop (NameMap RouteRecord)}
    (h : reconciler.reconcile router scope routes refs run = (result, run')) :
    run.past <:+ run'.past := by
  cases course_of_reconcile h with
  | duplicate _ => exact List.suffix_rfl
  | creating _ hcreate =>
    have hcreating := past_suffix_of_batch hcreate
    exact (List.suffix_cons _ _).trans hcreating
  | updating _ hcreate hupdate =>
    have hcreating := past_suffix_of_batch hcreate
    have hupdating := past_suffix_of_batch hupdate
    exact (List.suffix_cons _ _).trans (hcreating.trans hupdating)
  | deleting _ hcreate hupdate hdelete =>
    have hcreating := past_suffix_of_batch hcreate
    have hupdating := past_suffix_of_batch hupdate
    have hdeleting := past_suffix_of_batch hdelete
    exact (List.suffix_cons _ _).trans (hcreating.trans (hupdating.trans hdeleting))

/-! ## Batches that create and update -/

/-- The items of a batch are realized, and nothing else is changed. -/
structure Realized (store : σ → NameMap RouteRecord) (scope : Declared.Scope)
    (route : β → Declared.Route) (items : List β) (start run : Run σ)
    (results : List (String × RouteRecord)) : Prop where
  names : (results.map Prod.fst).Perm (items.map fun item => (route item).name)
  stored {p : String × RouteRecord} (h : p ∈ results) :
    (run.holding store p.1).entry = some p.2
  realizes {item : β} (h : item ∈ items) :
    Realizes scope (route item) (run.holding store (route item).name).entry
  confirmed {item : β} (h : item ∈ items)
    (hstart : Realizes scope (route item) (start.holding store (route item).name).entry) :
    (run.holding store (route item).name).Confirmed (route item)
      (start.holding store (route item).name)
  frame {name : String} (h : ∀ item ∈ items, (route item).name ≠ name) :
    run.holding store name = start.holding store name

theorem Run.holding_log (store : σ → NameMap RouteRecord) (run : Run σ) (event : Log.Event) :
    (run.log event).holding store = run.holding store := by
  funext name
  exact Run.holding_eq rfl (Run.callsAt_record rfl name)

theorem Realized.of_log {route : β → Declared.Route} {items : List β} {start : Run σ}
    {event : Log.Event} {results : List (String × RouteRecord)}
    (h : Realized store scope route items (start.log event) run results) :
    Realized store scope route items start run results := by
  have hlog := start.holding_log store event
  refine ⟨h.names, h.stored, h.realizes, ?_, ?_⟩
  · rw [← hlog]
    exact h.confirmed
  · rw [← hlog]
    exact h.frame

section Realization

variable (hstore : NamedStore reconciler.plane store)
  (hspares : NamedStore.Spares reconciler.plane store expected)
  {route : β → Declared.Route} {operation : β → Operation} {n : Nat}
  {task : β → Task (String × RouteRecord) n} {items : List β}

/-- Each task of a batch can realize its route from what there is at its name. -/
abbrev CanRealize (scope : Declared.Scope) (route : β → Declared.Route)
    (task : β → Task (String × RouteRecord) n) (items : List β) (run : Run σ) : Prop :=
  Reconciler.Ready (hstore.division hspares) (fun item => (route item).name)
    (fun item => realization expected scope (route item)
      (run.holding store (route item).name)) task items run

variable {hstore} {hspares}

theorem realized_of_batch {results : List (String × RouteRecord)}
    (hready : CanRealize hstore hspares scope route task items run)
    (h : reconciler.batch operation task items run = (.ok results, run'))
    (hadmits : (hstore.division hspares).Admits run'.past) :
    Realized store scope route items run run' results := by
  obtain ⟨done, hitems, hresults, hsettled⟩ := Reconciler.batch_ok hready h hadmits
  have hframe := (Reconciler.batch_amid hready h hadmits).frame
  have hdone : ∀ item ∈ items, ∃ p ∈ done, p.1 = item := by
    intro item hitem
    exact List.mem_map.1 (hitems.mem_iff.2 hitem)
  refine ⟨?_, ?_, ?_, ?_, fun h => hframe _ h⟩
  · have hnames : done.map (fun p => p.2.1) = done.map fun p => (route p.1).name := by
      apply List.map_congr_left
      rintro ⟨item, name, record⟩ hp
      exact (hsettled _ hp).1
    have hperm : (done.map fun p => p.2.1).Perm (items.map fun item => (route item).name) := by
      rw [hnames]
      have hmapped := hitems.map fun item => (route item).name
      rwa [List.map_map] at hmapped
    rw [hresults, List.map_reverse, List.map_map]
    exact (List.reverse_perm _).trans hperm
  · intro result hresult
    rw [hresults, List.mem_reverse] at hresult
    obtain ⟨⟨item, name, record⟩, hp, rfl⟩ := List.mem_map.1 hresult
    obtain ⟨hname, hentry, _⟩ := hsettled _ hp
    change (run'.holding store name).entry = some record
    rw [hname]
    exact hentry
  · intro item hitem
    obtain ⟨⟨_, name, record⟩, hp, rfl⟩ := hdone item hitem
    obtain ⟨_, hentry, hrealized, _⟩ := hsettled _ hp
    exact ⟨record, hentry, hrealized⟩
  · intro item hitem
    obtain ⟨⟨_, name, record⟩, hp, rfl⟩ := hdone item hitem
    obtain ⟨_, _, _, hconfirmed⟩ := hsettled _ hp
    exact hconfirmed

/-- Without failures of the control plane and of conversions, no batch fails. -/
theorem batch_ne_error {stop : Stop} (hinfallible : ¬Fallible expected)
    (hresolves : ∀ item ∈ items, ∃ spec, (route item).resolve scope = .ok spec)
    (hready : CanRealize hstore hspares scope route task items run)
    (hadmits : (hstore.division hspares).Admits run'.past) :
    reconciler.batch operation task items run ≠ (.error stop, run') := by
  intro h
  obtain ⟨item, hitem, failure, _, hfailed⟩ := Reconciler.batch_error hready h hadmits
  rcases hfailed with hfallible | ⟨defect, hdefect⟩
  · exact hinfallible hfallible
  · obtain ⟨spec, hspec⟩ := hresolves item hitem
    rw [hspec] at hdefect
    cases hdefect

variable (hstore) (hspares)

theorem create_ready (h : Partition.of routes refs = .ok partition)
    (hrefs : (refs.map RouteRef.routeName).Perm (store run.state).names) (router : RouterRef)
    (event : Log.Event) :
    CanRealize hstore hspares scope id (RouteTask.create router scope) partition.missing
      (run.log event) where
  distinct := Partition.nodup_of_ascending (Partition.ascending_missing h)
  kept _ _ := .inl rfl
  meets route hroute := by
    apply RouteTask.create_meets
    have hunlisted := ((Partition.mem_missing h).1 hroute).2
    exact (NameMap.get?_eq_none_iff _).2 fun hname => hunlisted (hrefs.mem_iff.2 hname)

theorem update_ready (h : Partition.of routes refs = .ok partition) (run : Run σ) :
    CanRealize hstore hspares scope Pairing.route (RouteTask.update scope) partition.matched
      run where
  distinct := Partition.nodup_of_ascending (Partition.ascending_matched h)
  kept _ _ := .inl rfl
  meets _ hpairing :=
    RouteTask.update_meets hstore hspares ((Partition.mem_matched h).1 hpairing).2.2

/-! ## Batches that delete -/

theorem retire_ready (h : Partition.of routes refs = .ok partition) (run : Run σ) :
    Reconciler.Ready (hstore.division hspares) RouteRef.routeName
      (fun ref => removal expected (run.holding store ref.routeName)) RouteTask.retire
      partition.surplus run where
  distinct := Partition.nodup_of_ascending (Partition.ascending_surplus h)
  kept _ _ := .inl rfl
  meets _ _ := RouteTask.retire_meets hstore hspares

variable {hstore} {hspares}

theorem entry_eq_none_of_batch {results : List Unit} (hinfallible : ¬Fallible expected)
    (h : Partition.of routes refs = .ok partition)
    (hdelete : reconciler.batch (.deleting ·.routeName) RouteTask.retire partition.surplus run =
      (.ok results, run'))
    (hadmits : (hstore.division hspares).Admits run'.past) {ref : RouteRef}
    (href : ref ∈ partition.surplus) : (run'.holding store ref.routeName).entry = none := by
  obtain ⟨done, hitems, _, hsettled⟩ :=
    Reconciler.batch_ok (retire_ready hstore hspares h run) hdelete hadmits
  obtain ⟨⟨_, _⟩, hp, rfl⟩ := List.mem_map.1 (hitems.mem_iff.2 href)
  rcases hsettled _ hp with hfallible | hnone
  · exact absurd hfallible hinfallible
  · exact hnone

end Realization

end MeshRoutes.Control

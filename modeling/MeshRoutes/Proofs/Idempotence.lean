import MeshRoutes.Proofs.Convergence
/-!
# Idempotence

What an errand without failures has brought about, the next update finds as it should be: it
lists, describes every declared route once, and asks for nothing else.
-/

namespace MeshRoutes.Control

open Remote

variable {σ : Type} {plane : Plane σ} {store : σ → NameMap RouteRecord}
  {scope : Declared.Scope} {routes : List Declared.Route}

/-! ## Calls that only look -/

/-- A call that asks what there is. -/
def Call.IsQuery : Call → Prop
  | list .. | describe _ => True
  | create .. | update .. | delete _ => False

/-- The name of the route that a call describes. -/
def Call.described? : Call → Option String
  | describe ref => some ref.routeName
  | list .. | create .. | update .. | delete _ => none

theorem Call.name?_of_described? {call : Call} {name : String}
    (h : call.described? = some name) : call.name? = some name := by
  cases call with
  | describe ref => exact h
  | list _ _ | create _ _ _ | update _ _ | delete _ => cases h

/-- A route is described by the calls about its name only. -/
theorem count_described_filter (calls : List Call) (name : String) :
    (calls.filterMap Call.described?).count name =
      ((calls.filter fun call => call.name? = some name).filterMap Call.described?).count
        name := by
  induction calls with
  | nil => rfl
  | cons call rest ih =>
    rw [List.filter_cons]
    by_cases hname : call.name? = some name
    · rw [if_pos (decide_eq_true hname), List.filterMap_cons, List.filterMap_cons]
      split
      · exact ih
      · rw [List.count_cons, List.count_cons, ih]
    · rw [if_neg (by simpa using hname), List.filterMap_cons]
      split
      · exact ih
      · rename_i other hother
        have hne : other ≠ name := by
          rintro rfl
          exact hname (Call.name?_of_described? hother)
        rw [List.count_cons_of_ne hne, ih]

theorem count_described_eq (run : Run σ) (name : String) :
    (run.calls.filterMap Call.described?).count name =
      ((run.callsAt name).filterMap Call.described?).count name :=
  count_described_filter run.calls name

/-! ## A second update -/

/-- The store holds the declared routes, each in agreement with its declaration, and nothing
else. -/
structure Settled (scope : Declared.Scope) (routes : List Declared.Route)
    (records : NameMap RouteRecord) : Prop where
  names : records.names.Perm (routes.map Declared.Route.name)
  realizes {route : Declared.Route} (h : route ∈ routes) :
    Realizes scope route (records.get? route.name)

theorem Converged.settled {start run : Run σ} {result : NameMap RouteRecord}
    (h : Converged store scope routes start run result) :
    Settled scope routes (store run.state) :=
  ⟨h.names, h.realizes⟩

section Again

variable {start run : Run σ} {result : NameMap RouteRecord}
  (h : Converged store scope routes start run result)
  (hsettled : Settled scope routes (store start.state))

include h hsettled

theorem Converged.store_eq : store run.state = store start.state := by
  apply NameMap.eq_of_get?_eq
  intro name
  by_cases hname : name ∈ routes.map Declared.Route.name
  · obtain ⟨route, hroute, rfl⟩ := List.mem_map.1 hname
    exact (h.confirmed hroute (hsettled.realizes hroute)).1
  · have hrun := fun hstored => hname (h.names.mem_iff.1 hstored)
    have hstart := fun hstored => hname (hsettled.names.mem_iff.1 hstored)
    rw [(NameMap.get?_eq_none_iff _).2 hrun, (NameMap.get?_eq_none_iff _).2 hstart]

/-- From a settled store on, the calls about a name describe its route or there are none. -/
theorem Converged.callsAt_cases (hcalls : start.calls = []) (name : String) :
    (name ∈ routes.map Declared.Route.name ∧
      ∃ ref : RouteRef, ref.routeName = name ∧ run.callsAt name = [.describe ref]) ∨
    (name ∉ routes.map Declared.Route.name ∧ run.callsAt name = []) := by
  have hnone : (start.holding store name).calls = [] := by
    change start.callsAt name = []
    rw [Run.callsAt, hcalls]
    rfl
  by_cases hname : name ∈ routes.map Declared.Route.name
  · refine .inl ⟨hname, ?_⟩
    obtain ⟨route, hroute, rfl⟩ := List.mem_map.1 hname
    obtain ⟨_, ref, href, hdescribed⟩ := h.confirmed hroute (hsettled.realizes hroute)
    rw [hnone] at hdescribed
    exact ⟨ref, href, hdescribed⟩
  · refine .inr ⟨hname, ?_⟩
    have hunstored := fun hstored => hname (hsettled.names.mem_iff.1 hstored)
    have huntouched := h.untouched (fun route hroute heq =>
      hname (List.mem_map.2 ⟨route, hroute, heq⟩)) ((NameMap.get?_eq_none_iff _).2 hunstored)
    exact huntouched.trans hnone

theorem Converged.isQuery (hcalls : start.calls = []) {call : Call} (hcall : call ∈ run.calls) :
    call.IsQuery := by
  cases hname : call.name? with
  | none =>
    cases call with
    | list router token => trivial
    | describe _ | create _ _ _ | update _ _ | delete _ => cases hname
  | some name =>
    have hat : call ∈ run.callsAt name :=
      List.mem_filter.2 ⟨hcall, decide_eq_true hname⟩
    rcases h.callsAt_cases hsettled hcalls name with ⟨_, ref, _, hdescribe⟩ | ⟨_, hnone⟩
    · rw [hdescribe] at hat
      rw [List.mem_singleton.1 hat]
      trivial
    · rw [hnone] at hat
      cases hat

theorem Converged.described_perm (hcalls : start.calls = []) :
    (run.calls.filterMap Call.described?).Perm (routes.map Declared.Route.name) := by
  have hnodup : (routes.map Declared.Route.name).Nodup :=
    h.names.nodup_iff.1 (NameMap.nodup_names _)
  apply List.perm_iff_count.2
  intro name
  rw [count_described_eq]
  rcases h.callsAt_cases hsettled hcalls name with ⟨hname, ref, rfl, hdescribe⟩ | ⟨hname, hnone⟩
  · rw [hdescribe, List.count_eq_one_of_mem hnodup hname]
    exact List.count_singleton_self
  · rw [hnone, List.count_eq_zero_of_not_mem hname]
    rfl

end Again

/-- A router that is created on an empty store converges, too. -/
theorem converged_of_create {reconciler : Reconciler σ}
    (hstore : NamedStore reconciler.plane store) {mesh : Declared.Mesh}
    {router : Declared.VirtualRouter} {nodes : VirtualNode.Table} {run run' : Run σ}
    {result : NameMap RouteRecord} (hempty : store run.state = .empty)
    (h : reconciler.create mesh router nodes run = (.ok result, run'))
    (hcalls : run'.NoCallFailed) :
    Converged store (router.scope nodes) router.spec.routes run run' result := by
  refine converged_of_reconcile hstore h ?_ hcalls
  rw [hempty]
  exact .nil

/-- After an update, or after a creation on an empty store, the next update only looks: it
describes every declared route once and gives the routes that it found, which stay. -/
theorem update_idempotent (hstore : NamedStore plane store) {policy policy' : Policy}
    {mesh : Declared.Mesh} {router : Declared.VirtualRouter} {nodes : VirtualNode.Table}
    {state state' : σ} {first : NameMap RouteRecord}
    {second : Except Stop (NameMap RouteRecord)} {run run' : Run σ}
    (hrun : (Reconciler.update ⟨plane, policy⟩ mesh router nodes).perform state =
        (.ok first, run) ∨
      store state = .empty ∧
        (Reconciler.create ⟨plane, policy⟩ mesh router nodes).perform state = (.ok first, run))
    (hcalls : run.NoCallFailed) (hstate : store state' = store run.state)
    (hends : Listing.EndsWithin plane (.of mesh router) policy'.pageLimit state')
    (hrun' : (Reconciler.update ⟨plane, policy'⟩ mesh router nodes).perform state' =
      (second, run'))
    (hcalls' : run'.NoCallFailed) :
    second = .ok first ∧ store run'.state = store state' ∧
      (∀ call ∈ run'.calls, call.IsQuery) ∧
      (run'.calls.filterMap Call.described?).Perm
        (router.spec.routes.map Declared.Route.name) := by
  have hstore₁ : NamedStore (Reconciler.mk plane policy).plane store := hstore
  have hstore₂ : NamedStore (Reconciler.mk plane policy').plane store := hstore
  have hfirst : Converged store (router.scope nodes) router.spec.routes { state } run first := by
    rcases hrun with hupdate | ⟨hempty, hcreate⟩
    · exact converged_of_update hstore₁ hupdate hcalls
    · exact converged_of_create hstore₁ hempty hcreate hcalls
  have hsettled := hfirst.settled
  rw [← hstate] at hsettled
  have hnames := hsettled.names.nodup_iff.1 (NameMap.nodup_names _)
  have hresolves : ∀ route ∈ router.spec.routes,
      ∃ spec, route.resolve (router.scope nodes) = .ok spec := by
    intro route hroute
    obtain ⟨_, _, spec, hspec, _⟩ := hsettled.realizes hroute
    exact ⟨spec, hspec⟩
  obtain ⟨routes, rfl⟩ := exists_ok_of_update hstore₂ hnames hresolves hends hrun' hcalls'
  have hsecond := converged_of_update hstore₂ hrun' hcalls'
  have hsame := hsecond.store_eq hsettled
  refine ⟨?_, hsame, ?_, hsecond.described_perm hsettled rfl⟩
  · rw [hsecond.result_eq, hsame, hfirst.result_eq]
    exact congrArg Except.ok hstate
  · exact fun call hcall => hsecond.isQuery hsettled rfl hcall

open Rehearsal in
theorem update_idempotent_on_sample :
    ∃ first, (Sample.update .one Sample.stage).1 = .ok first ∧
      (Sample.update Sample.two (Sample.update .one Sample.stage).2.state).1 = .ok first := by
  obtain ⟨first, hfirst⟩ : ∃ first, (Sample.update .one Sample.stage).1 = .ok first :=
    ⟨_, by cbv⟩
  have hrun : (Reconciler.update ⟨plainPlane, (Sample.reconciler .one).policy⟩ Sample.mesh
      Sample.router Sample.nodes).perform Sample.stage =
        (.ok first, (Sample.update .one Sample.stage).2) := by
    rw [← hfirst]
    rfl
  have hcalls : (Sample.update .one Sample.stage).2.NoCallFailed :=
    Run.noCallFailed_iff.2 (by cbv)
  have hends : Listing.EndsWithin plainPlane (.of Sample.mesh Sample.router) 1
      (Sample.update .one Sample.stage).2.state :=
    Stage.endsWithin_one _ (Sample.update .one Sample.stage).2.state.2.pages (by cbv) _
  have hrun' : (Reconciler.update ⟨plainPlane, (Sample.reconciler Sample.two).policy⟩ Sample.mesh
      Sample.router Sample.nodes).perform (Sample.update .one Sample.stage).2.state =
        ((Sample.update Sample.two (Sample.update .one Sample.stage).2.state).1,
          (Sample.update Sample.two (Sample.update .one Sample.stage).2.state).2) := rfl
  have hcalls' :
      (Sample.update Sample.two (Sample.update .one Sample.stage).2.state).2.NoCallFailed :=
    Run.noCallFailed_iff.2 (by cbv)
  have hagain := update_idempotent namedStore_plainPlane (.inl hrun) hcalls rfl hends hrun'
    hcalls'
  exact ⟨first, hfirst, hagain.1⟩

end MeshRoutes.Control

import MeshRoutes.Proofs.Convergence
import MeshRoutes.Proofs.Removal
import MeshRoutes.Proofs.Variants
/-!
# Clearing the way for listeners

An update followed by a removal leaves nothing that is in conflict with the listeners. The
removal looks at the declared routes only, and the update has made the stored ones agree with
them, so that what is true of a declared route is true of its record.
-/

namespace MeshRoutes.Control

open Remote

variable {σ : Type} {plane : Plane σ} {store : σ → NameMap RouteRecord}

/-! ## A named store as a shared one -/

/-- A call that succeeds and stores nothing makes at most the entry go that it deletes. -/
theorem Call.Changes.thins {call : Call} {answer : call.Answer}
    {before after : NameMap RouteRecord} (h : call.Changes answer before after)
    (hcall : ¬call.stores) : NameMap.Thins (call.Deletes ·) before after := by
  intro name
  by_cases hname : call.name? = some name
  · have heffect := h.effect hname
    cases call with
    | list _ _ => cases hname
    | describe _ => exact .inl heffect.2
    | delete _ => exact .inr ⟨Option.some.inj hname, heffect⟩
    | create _ _ _ | update _ _ => exact absurd rfl hcall
  · exact .inl (h.frame hname)

namespace NamedStore

theorem store_eq_of_listing (hstore : NamedStore plane store) {router : RouterRef} {pages : Nat}
    {state state' : σ} {token : Option String} {refs : List RouteRef}
    (h : Listing plane router pages state token (.ok refs) state') :
    store state' = store state := by
  have hpage {state state' : σ} {token : Option String} {page : Page}
      (hanswer : plane.answer (plane.accept state (.list router token)).2 (.list router token) =
        (.ok page, state')) : store state' = store state := by
    rw [store_eq_of_changes rfl (hstore.answered hanswer)]
    rcases hstore.accepted state (.list router token) with hsame | ⟨_, hchanges⟩
    · exact hsame
    · exact store_eq_of_changes rfl hchanges
  generalize hresult : Except.ok refs = result at h
  induction h generalizing refs with
  | failed _ => cases hresult
  | last hanswer _ => exact hpage hanswer
  | @more _ _ _ _ _ _ _ result hanswer _ _ ih =>
    cases result with
    | error error => cases hresult
    | ok rest => exact (ih rfl).trans (hpage hanswer)

theorem listsFaithfully (hstore : NamedStore plane store) : ListsFaithfully plane store where
  distinct h := (hstore.lists h).nodup_iff.2 (NameMap.nodup_names _)
  sound h := (hstore.lists h).subset
  complete h := by
    rw [hstore.store_eq_of_listing h]
    exact (hstore.lists h).symm.subset

/-- While all calls succeed, a named store is one that nobody else deletes from. -/
theorem shared (hstore : NamedStore plane store) :
    SharedStore plane store (fun _ => False) Succeeds where
  accepted {state call} hcall := by
    rcases hstore.accepted state call with hsame | ⟨_, hchanges⟩
    · rw [hsame]
      exact .refl _ _
    · exact (hchanges.thins hcall).mono fun _ => .inr
  answered hcall hsucceeds hanswer := by
    obtain ⟨answer, rfl⟩ := hsucceeds
    exact ((hstore.answered hanswer).thins hcall).mono fun _ => .inr
  described {state _ ref _} _ hanswer := by
    have heffect := (hstore.answered hanswer).effect rfl
    exact hstore.named heffect.1
  vanished hsucceeds _ := by
    obtain ⟨_, herror⟩ := hsucceeds
    cases herror
  deleted {_ _ ref _} hsucceeds hanswer := by
    obtain ⟨answer, rfl⟩ := hsucceeds
    exact (hstore.answered hanswer).effect rfl

end NamedStore

/-! ## Updates followed by removals -/

namespace Converged

variable {scope : Declared.Scope} {routes : List Declared.Route} {start run : Run σ}
  {result : NameMap RouteRecord} {record : RouteRecord}
  (h : Converged store scope routes start run result)

include h

theorem realizedBy {route : Declared.Route} (hroute : route ∈ routes)
    (hrecord : (store run.state).get? route.name = some record) :
    route.RealizedBy scope record := by
  obtain ⟨stored, hstored, hrealized⟩ := h.realizes hroute
  have hsame : some stored = some record := hstored.symm.trans hrecord
  cases hsame
  exact hrealized

theorem exists_route {name : String} (hrecord : (store run.state).get? name = some record) :
    ∃ route ∈ routes, route.name = name ∧ route.RealizedBy scope record := by
  have hname : name ∈ (store run.state).names :=
    (NameMap.mem_names_iff _).2 (Option.isSome_of_eq_some hrecord)
  obtain ⟨route, hroute, rfl⟩ := List.mem_map.1 (h.names.mem_iff.1 hname)
  exact ⟨route, hroute, rfl, h.realizedBy hroute hrecord⟩

end Converged

/-- After an update and a removal of which no call fails, every record that is stored is one
that the update returned. It has one variant, and the port that this matches, if any, is bound to
its protocol. A record that the removal deleted has one variant as well, which matches a port
that is not. -/
theorem remove_after_update_clears (hstore : NamedStore plane store) {policy policy' : Policy}
    {mesh : Declared.Mesh} {router : Declared.VirtualRouter} {nodes : VirtualNode.Table}
    {listeners : List PortMapping} {state later : σ} {routes : NameMap RouteRecord}
    {run run' : Run σ}
    (hupdate : (Reconciler.update ⟨plane, policy⟩ mesh router nodes).perform state =
      (.ok routes, run))
    (hupdateCalls : run.NoCallFailed) (hlater : store later = store run.state)
    (hremove : (Reconciler.remove ⟨plane, policy'⟩ mesh router listeners).perform later =
      (.ok (), run'))
    (hremoveCalls : run'.NoCallFailed) :
    (∀ name record, (store run'.state).get? name = some record →
      routes.get? name = some record ∧
      ∃ protocol port?, record.spec.variants = [(protocol, port?)] ∧
        ∀ port, port? = some port → Bound listeners port protocol) ∧
    ∀ name record, (store later).get? name = some record →
      (store run'.state).get? name = none →
      ∃ protocol port, record.spec.variants = [(protocol, some port)] ∧
        ¬Bound listeners port protocol := by
  have hconverged := converged_of_update hstore hupdate hupdateCalls
  have hleft (name : String) (record : RouteRecord) :
      (store run'.state).get? name = some record ↔
        (store run.state).get? name = some record ∧
          Fitting router.spec.routes listeners name := by
    rw [← hlater]
    exact (Reconciler.removal_of_remove hremove).get?_eq_some_iff hstore.shared
      hstore.listsFaithfully (fun _ => False.elim) hremoveCalls
  -- the removal judges the declared route, and its record has the same variant
  constructor
  · intro name record hrecord
    obtain ⟨hstored, route, hroute, rfl, hfits⟩ := (hleft name record).1 hrecord
    obtain ⟨protocol, port?, hvariant, hbound⟩ :=
      (hconverged.realizedBy hroute hstored).exists_variant listeners
    rw [hconverged.result_eq]
    exact ⟨hstored, protocol, port?, hvariant, hbound.1 hfits⟩
  · intro name record hstored hgone
    rw [hlater] at hstored
    obtain ⟨route, hroute, rfl, hrealized⟩ := hconverged.exists_route hstored
    have hunfit : ¬route.Fits listeners := by
      intro hfits
      rw [(hleft route.name record).2 ⟨hstored, route, hroute, rfl, hfits⟩] at hgone
      cases hgone
    obtain ⟨protocol, port?, hvariant, hbound⟩ := hrealized.exists_variant listeners
    rw [hbound] at hunfit
    push Not at hunfit
    obtain ⟨port, rfl, hunbound⟩ := hunfit
    exact ⟨protocol, port, hvariant, hunbound⟩

section Sample

open Rehearsal

private theorem opening_succeeds :
    Sample.opening.1 = .ok Sample.opening.2.state.1.routes ∧
      Sample.opening.2.history.all Moment.succeeded := by
  cbv
  exact ⟨rfl, trivial⟩

private theorem clearing_succeeds :
    Sample.clearing.1 = .ok () ∧ Sample.clearing.2.history.all Moment.succeeded ∧
      (Sample.clearing.2.state.1.routes.get? "clashing").isNone ∧
      (Sample.clearing.2.state.1.routes.get? "fitting").isSome := by
  cbv

theorem remove_after_update_clears_on_sample :
    Sample.opening.2.NoCallFailed ∧ Sample.clearing.2.NoCallFailed ∧
      Sample.clearing.2.state.1.routes.get? "clashing" = none ∧
      ∃ record, Sample.clearing.2.state.1.routes.get? "fitting" = some record ∧
        ∃ protocol port?, record.spec.variants = [(protocol, port?)] ∧
          ∀ port, port? = some port → Bound Sample.listeners port protocol := by
  obtain ⟨hopened, hopening⟩ := opening_succeeds
  obtain ⟨hcleared, hclearing, hgone, hkept⟩ := clearing_succeeds
  have hupdate : (Reconciler.update ⟨plainPlane, (Sample.reconciler Sample.two).policy⟩ Sample.mesh
      Sample.gateway Sample.nodes).perform Sample.stage =
        (.ok Sample.opening.2.state.1.routes, Sample.opening.2) := Prod.ext hopened rfl
  have hremove : (Reconciler.remove ⟨plainPlane, (Sample.reconciler Sample.two).policy⟩
      Sample.mesh Sample.gateway Sample.listeners).perform Sample.opening.2.state =
        (.ok (), Sample.clearing.2) := Prod.ext hcleared rfl
  have hopeningCalls := Run.noCallFailed_iff.2 hopening
  have hclearingCalls := Run.noCallFailed_iff.2 hclearing
  obtain ⟨hleft, _⟩ := remove_after_update_clears namedStore_plainPlane hupdate hopeningCalls rfl
    hremove hclearingCalls
  obtain ⟨record, hrecord⟩ := Option.isSome_iff_exists.1 hkept
  exact ⟨hopeningCalls, hclearingCalls, Option.isNone_iff_eq_none.1 hgone, record, hrecord,
    (hleft "fitting" record hrecord).2⟩

end Sample

end MeshRoutes.Control

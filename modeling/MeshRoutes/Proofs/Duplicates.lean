import MeshRoutes.Proofs.Cleanup
import MeshRoutes.Proofs.Pages
import Mathlib.Data.List.Induction
/-!
# Repeated names

An index by names is refused for the first name that repeats an earlier one, and a partition for
the first such name among the declared routes, or else among the listed refs. An errand whose
partition is refused ends where its listing ended: nothing is described or changed.

* `Partition.of_eq_error_iff` : the name that a partition is refused for.
* `Control.repeated_names_rejected` : what each errand does with repeated names.
-/

namespace MeshRoutes

/-! ## The first name that is repeated -/

/-- A name that repeats an earlier one of a list, where no name did before it. -/
def FirstRepeat (name : String) (names : List String) : Prop :=
  ∃ front behind, names = front ++ name :: behind ∧ front.Nodup ∧ name ∈ front

theorem FirstRepeat.not_nodup {name : String} {names : List String} (h : FirstRepeat name names) :
    ¬names.Nodup := by
  obtain ⟨front, behind, rfl, _, hmem⟩ := h
  intro hnodup
  exact (List.nodup_append.1 hnodup).2.2 name hmem name List.mem_cons_self rfl

theorem exists_firstRepeat {names : List String} (h : ¬names.Nodup) :
    ∃ name, FirstRepeat name names := by
  -- by induction from the end of the list: its last name is only looked at if all others differ
  induction names using List.reverseRecOn with
  | nil => exact absurd List.nodup_nil h
  | append_singleton front last ih =>
    by_cases hfront : front.Nodup
    · have hlast : last ∈ front := by
        by_contra hnew
        apply h
        exact List.nodup_append.2 ⟨hfront, List.nodup_singleton last,
          fun name hname other hother heq => hnew (List.mem_singleton.1 hother ▸ heq ▸ hname)⟩
      exact ⟨last, front, [], rfl, hfront, hlast⟩
    · obtain ⟨name, before, behind, rfl, hnodup, hmem⟩ := ih hfront
      exact ⟨name, before, behind ++ [last], by simp, hnodup, hmem⟩

/-! ## Indexes and partitions that are refused -/

namespace NameMap

variable {α : Type} {name : α → String} {items : List α} {duplicate : DuplicateName}

/-- The items before the first one that repeats a name have an index, which holds its name. -/
theorem index_append_eq_error {front behind : List α} {item : α} (hnodup : (front.map name).Nodup)
    (hmem : name item ∈ front.map name) :
    index name (front ++ item :: behind) = .error ⟨name item⟩ := by
  have hfront : index name front = .ok (ofList (keyed name front)) :=
    index_eq_ok_iff.2 ⟨hnodup, rfl⟩
  have hheld : ((ofList (keyed name front)).get? (name item)).isSome := by
    rw [← mem_names_iff, mem_names_ofList, map_fst_keyed]
    exact hmem
  unfold index at hfront ⊢
  rw [List.foldlM_append, hfront]
  simp only [bind, Except.bind, List.foldlM_cons, if_pos hheld]

theorem index_of_firstRepeat {repeated : String} (h : FirstRepeat repeated (items.map name)) :
    index name items = .error ⟨repeated⟩ := by
  obtain ⟨front, behind, hsplit, hnodup, hmem⟩ := h
  obtain ⟨before, rest, rfl, rfl, hrest⟩ := List.map_eq_append_iff.1 hsplit
  obtain ⟨item, after, rfl, rfl, rfl⟩ := List.map_eq_cons_iff.1 hrest
  exact index_append_eq_error hnodup hmem

theorem index_eq_error_iff :
    index name items = .error duplicate ↔ FirstRepeat duplicate.name (items.map name) := by
  constructor
  · intro h
    have hrepeats : ¬(items.map name).Nodup := by
      intro hnodup
      rw [index_eq_ok_iff.2 ⟨hnodup, rfl⟩] at h
      cases h
    obtain ⟨repeated, hfirst⟩ := exists_firstRepeat hrepeats
    rw [index_of_firstRepeat hfirst] at h
    cases h
    exact hfirst
  · exact index_of_firstRepeat

end NameMap

namespace Partition

open Declared Remote

variable {routes : List Route} {refs : List RouteRef} {duplicate : DuplicateName}

/-- No name is repeated on either side. -/
def UniqueNames (routes : List Route) (refs : List RouteRef) : Prop :=
  (routes.map Route.name).Nodup ∧ (refs.map RouteRef.routeName).Nodup

/-- The name that is reported where some are repeated: the first declared one that repeats another
one, and only if there is none the first listed one that does. -/
def Reports (routes : List Route) (refs : List RouteRef) (duplicate : DuplicateName) : Prop :=
  FirstRepeat duplicate.name (routes.map Route.name) ∨
    (routes.map Route.name).Nodup ∧ FirstRepeat duplicate.name (refs.map RouteRef.routeName)

theorem of_eq_error_iff :
    Partition.of routes refs = .error duplicate ↔ Reports routes refs duplicate := by
  unfold Partition.of Reports
  cases hroutes : NameMap.index Route.name routes with
  | error other =>
    have hfirst := NameMap.index_eq_error_iff.1 hroutes
    rw [← NameMap.index_eq_error_iff, hroutes]
    simp [hfirst.not_nodup, bind, Except.bind]
  | ok byRoute =>
    have hnodup := (NameMap.index_eq_ok_iff.1 hroutes).1
    have hnone : ¬FirstRepeat duplicate.name (routes.map Route.name) :=
      fun h => h.not_nodup hnodup
    cases hrefs : NameMap.index RouteRef.routeName refs with
    | error other =>
      rw [← NameMap.index_eq_error_iff, ← NameMap.index_eq_error_iff, hroutes, hrefs]
      simp [hnodup, bind, Except.bind]
    | ok byRef =>
      have hnone' : ¬FirstRepeat duplicate.name (refs.map RouteRef.routeName) :=
        fun h => h.not_nodup (NameMap.index_eq_ok_iff.1 hrefs).1
      simp [hnone, hnone', bind, Except.bind, pure, Except.pure]

theorem exists_error_iff : (∃ duplicate, Partition.of routes refs = .error duplicate) ↔
    ¬UniqueNames routes refs := by
  constructor
  · rintro ⟨duplicate, h⟩ ⟨hroutes, hrefs⟩
    obtain ⟨partition, hok⟩ := exists_of_nodup hroutes hrefs
    rw [h] at hok
    cases hok
  · intro h
    cases hof : Partition.of routes refs with
    | error duplicate => exact ⟨duplicate, rfl⟩
    | ok partition => exact absurd (nodup_of_ok hof) h

theorem reports_nil_iff :
    Reports [] refs duplicate ↔ FirstRepeat duplicate.name (refs.map RouteRef.routeName) := by
  have hnone : ¬FirstRepeat duplicate.name (([] : List Route).map Route.name) :=
    fun h => h.not_nodup List.nodup_nil
  rw [Reports, or_iff_right hnone]
  exact and_iff_right List.nodup_nil

theorem uniqueNames_nil_iff :
    UniqueNames [] refs ↔ (refs.map RouteRef.routeName).Nodup :=
  and_iff_right List.nodup_nil

end Partition

namespace Control

open Remote

variable {σ : Type}

/-! ## Errands that are refused -/

namespace Reconciler

variable {reconciler : Reconciler σ} {mesh : Declared.Mesh} {router : Declared.VirtualRouter}
  {refs : List RouteRef} {duplicate : DuplicateName} {state : σ} {mid : Run σ}

theorem reconcile_of_duplicate {address : RouterRef} {scope : Declared.Scope}
    {routes : List Declared.Route} (h : Partition.of routes refs = .error duplicate)
    (run : Run σ) : reconciler.reconcile address scope routes refs run =
      (.error (.failed (.duplicateName duplicate)), run) := by
  unfold reconcile
  rw [h]
  rfl

theorem create_of_duplicate (h : Partition.of router.spec.routes [] = .error duplicate)
    (nodes : VirtualNode.Table) : (reconciler.create mesh router nodes).perform state =
      (.error (.failed (.duplicateName duplicate)), { state }) :=
  reconcile_of_duplicate h _

section Listed

variable (hlist : (reconciler.list (.of mesh router)).perform state = (.ok refs, mid))

include hlist

theorem update_of_duplicate (h : Partition.of router.spec.routes refs = .error duplicate)
    (nodes : VirtualNode.Table) : (reconciler.update mesh router nodes).perform state =
      (.error (.failed (.duplicateName duplicate)), mid) :=
  (Action.bind_of_ok hlist).trans (reconcile_of_duplicate h mid)

theorem remove_of_duplicate (h : Partition.of router.spec.routes refs = .error duplicate)
    (listeners : List PortMapping) : (reconciler.remove mesh router listeners).perform state =
      (.error (.failed (.duplicateName duplicate)), mid) := by
  unfold remove
  refine (Action.bind_of_ok hlist).trans ?_
  rw [h]
  rfl

theorem cleanup_of_duplicate (h : Partition.of [] refs = .error duplicate) :
    (reconciler.cleanup mesh router).perform state =
      (.error (.failed (.duplicateName duplicate)), mid) :=
  (Action.bind_of_ok hlist).trans (Action.bind_of_error (reconcile_of_duplicate h mid))

/-- A cleanup reports no repeated name but one that it listed. -/
theorem of_nil_eq_error_of_cleanup (h : ((reconciler.cleanup mesh router).perform state).1 =
    .error (.failed (.duplicateName duplicate))) : Partition.of [] refs = .error duplicate := by
  cases hpartition : Partition.of [] refs with
  | error other =>
    rw [cleanup_of_duplicate hlist hpartition] at h
    cases h
    rfl
  | ok partition =>
    have hcontinues : (reconciler.cleanup mesh router).perform state =
        (do let _ ← reconciler.reconcile (.of mesh router) (router.scope {}) [] refs) mid :=
      Action.bind_of_ok hlist
    rcases hreconcile : reconciler.reconcile (.of mesh router) (router.scope {}) [] refs mid
      with ⟨stop | records, run⟩
    · rw [hcontinues, Action.bind_of_error hreconcile] at h
      obtain ⟨_, _, _, _, rfl, _⟩ :=
        exists_answered_of_reconcile_nil hpartition (unbegun_of_list hlist) hreconcile
      cases h
    · rw [hcontinues, Action.bind_of_ok hreconcile] at h
      cases h

end Listed

end Reconciler

/-- A partition is refused exactly where a name is repeated. Then update and remove, once they
have listed, report the first declared name that repeats another one, or else the first listed one,
and have asked for nothing but the listing. So does a cleanup for a listed name that is repeated,
whatever is declared, and it never reports another. A creation reports a declared one before its
first call. -/
theorem repeated_names_rejected (reconciler : Reconciler σ) (mesh : Declared.Mesh)
    (router : Declared.VirtualRouter) (nodes : VirtualNode.Table) (listeners : List PortMapping)
    (state : σ) :
    (∀ routes refs, ((∃ duplicate, Partition.of routes refs = .error duplicate) ↔
        ¬Partition.UniqueNames routes refs) ∧
      ∀ duplicate, Partition.of routes refs = .error duplicate ↔
        Partition.Reports routes refs duplicate) ∧
    (∀ refs mid, (reconciler.list (.of mesh router)).perform state = (.ok refs, mid) →
      (∀ call ∈ mid.calls, ∃ token, call = .list (.of mesh router) token) ∧
      (¬Partition.UniqueNames router.spec.routes refs → ∃ duplicate,
        Partition.Reports router.spec.routes refs duplicate ∧
        (reconciler.update mesh router nodes).perform state =
          (.error (.failed (.duplicateName duplicate)), mid) ∧
        (reconciler.remove mesh router listeners).perform state =
          (.error (.failed (.duplicateName duplicate)), mid)) ∧
      ((∃ duplicate, ((reconciler.cleanup mesh router).perform state).1 =
        .error (.failed (.duplicateName duplicate))) ↔ ¬(refs.map RouteRef.routeName).Nodup) ∧
      ∀ duplicate, ((reconciler.cleanup mesh router).perform state).1 =
          .error (.failed (.duplicateName duplicate)) →
        FirstRepeat duplicate.name (refs.map RouteRef.routeName) ∧
          ((reconciler.cleanup mesh router).perform state).2 = mid) ∧
    (¬(router.spec.routes.map Declared.Route.name).Nodup → ∃ duplicate,
      FirstRepeat duplicate.name (router.spec.routes.map Declared.Route.name) ∧
      (reconciler.create mesh router nodes).perform state =
        (.error (.failed (.duplicateName duplicate)), { state })) := by
  refine ⟨?_, ?_, ?_⟩
  · exact fun routes refs => ⟨Partition.exists_error_iff, fun _ => Partition.of_eq_error_iff⟩
  · intro refs mid hlist
    refine ⟨?_, ?_, ?_, ?_⟩
    · intro call hcall
      obtain ⟨o, _, hlists⟩ := (Reconciler.callsAre_of_list hlist).exists_of_mem hcall
      exact hlists
    · intro hrepeated
      obtain ⟨duplicate, hof⟩ := Partition.exists_error_iff.2 hrepeated
      exact ⟨duplicate, Partition.of_eq_error_iff.1 hof,
        Reconciler.update_of_duplicate hlist hof nodes,
        Reconciler.remove_of_duplicate hlist hof listeners⟩
    · rw [← Partition.uniqueNames_nil_iff, ← Partition.exists_error_iff]
      constructor
      · rintro ⟨duplicate, hresult⟩
        exact ⟨duplicate, Reconciler.of_nil_eq_error_of_cleanup hlist hresult⟩
      · rintro ⟨duplicate, hof⟩
        exact ⟨duplicate, by rw [Reconciler.cleanup_of_duplicate hlist hof]⟩
    · intro duplicate hresult
      have hof := Reconciler.of_nil_eq_error_of_cleanup hlist hresult
      refine ⟨Partition.reports_nil_iff.1 (Partition.of_eq_error_iff.1 hof), ?_⟩
      rw [Reconciler.cleanup_of_duplicate hlist hof]
  · intro hrepeated
    obtain ⟨name, hfirst⟩ := exists_firstRepeat hrepeated
    have hof : Partition.of router.spec.routes [] = .error ⟨name⟩ :=
      Partition.of_eq_error_iff.2 (.inl hfirst)
    exact ⟨⟨name⟩, hfirst, Reconciler.create_of_duplicate hof nodes⟩

section Sample

open Rehearsal

theorem repeated_names_rejected_on_sample :
    (∃ duplicate mid, FirstRepeat duplicate.name ["kept", "gone", "gone"] ∧
      (Sample.pager.update Sample.mesh Sample.router Sample.nodes).perform
        (Sample.echoing.map .ok, Sample.stage) =
          (.error (.failed (.duplicateName duplicate)), mid) ∧
      ((Sample.pager.cleanup Sample.mesh Sample.router).perform
        (Sample.echoing.map .ok, Sample.stage)).2 = mid) ∧
    ∃ duplicate, FirstRepeat duplicate.name ["added", "added"] ∧
      (Sample.pager.create Sample.mesh Sample.twins Sample.nodes).perform ([], Sample.stage) =
        (.error (.failed (.duplicateName duplicate)), { state := ([], Sample.stage) }) := by
  have hpages : Pages plainPlane.paging (.of Sample.mesh Sample.router)
      (Sample.echoing.map .ok, Sample.stage) none Sample.echoing none ([], Sample.stage) :=
    .of_split plainPlane _ Sample.stage _ _
  obtain ⟨mid, hlist, -, -⟩ :=
    Reconciler.list_of_pages Sample.pager.policy hpages (by decide)
  constructor
  · obtain ⟨-, hlisted, -⟩ := repeated_names_rejected Sample.pager Sample.mesh Sample.router
      Sample.nodes Sample.listeners (Sample.echoing.map .ok, Sample.stage)
    obtain ⟨-, hrefused, hcleanup, hnamed⟩ := hlisted _ _ hlist
    have hrepeated : ¬((Sample.echoing.flatMap Page.refs).map RouteRef.routeName).Nodup := by
      decide
    obtain ⟨duplicate, hreports, hupdate, -⟩ := hrefused fun hunique => hrepeated hunique.2
    obtain ⟨duplicate', hresult⟩ := hcleanup.2 hrepeated
    have hunique : (Sample.router.spec.routes.map Declared.Route.name).Nodup := by decide
    have hfirst := (hreports.resolve_left fun hfirst => hfirst.not_nodup hunique).2
    exact ⟨duplicate, mid, hfirst, hupdate, (hnamed duplicate' hresult).2⟩
  · obtain ⟨-, -, hcreate⟩ := repeated_names_rejected Sample.pager Sample.mesh Sample.twins
      Sample.nodes Sample.listeners ([], Sample.stage)
    exact hcreate (by decide)

end Sample

end Control

end MeshRoutes

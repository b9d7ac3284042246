import MeshRoutes.Proofs.Errand
import MeshRoutes.Proofs.Partition
import Mathlib.Data.List.Sort
/-!
# Errands in sequence

What the errands do where nothing is done at once: they ask the control plane one thing after
the other, in ascending order of names, and give up with the first failure. There are no batches,
turns or histories here, only the state of the control plane and the calls that it got.

* `Sequence.update`, `Sequence.create`, `Sequence.cleanup`, `Sequence.remove` : the errands.
* `Sequence.missing_eq`, `Sequence.matched_eq`, `Sequence.surplus_eq`, `Sequence.tainted_eq` : what
  is done in order is what a partition holds.
-/

namespace MeshRoutes.Control

open Remote

/-- The state of a control plane, and the calls that it got, in order. -/
structure Exchange (σ : Type) where
  state : σ
  calls : List Call := []

/-- What asks a control plane one thing after the other. -/
abbrev Sequence (σ : Type) : Type → Type := ExceptT Stop (StateM (Exchange σ))

namespace Sequence

variable {σ α β : Type}

def fail (failure : Failure) : Sequence σ α := throw (.failed failure)

/-! ## What is done in order -/

/-- The first name that repeats an earlier one, or one of those seen already. -/
def repeated? (seen : List String) : List String → Option String
  | [] => none
  | name :: rest => if name ∈ seen then some name else repeated? (name :: seen) rest

/-- Fails where two items have the same name. -/
def distinct (name : α → String) (items : List α) : Sequence σ Unit :=
  match repeated? [] (items.map name) with
  | some name => fail (.duplicateName ⟨name⟩)
  | none => return ()

/-- Items in ascending order of their names. -/
def ascending (name : α → String) (items : List α) : List α :=
  items.mergeSort fun a b => name a ≤ name b

/-- The declared routes that are not listed. -/
def missing (routes : List Declared.Route) (refs : List RouteRef) : List Declared.Route :=
  (ascending Declared.Route.name routes).filter fun route =>
    route.name ∉ refs.map RouteRef.routeName

/-- The declared routes that are listed, each with its ref. -/
def matched (routes : List Declared.Route) (refs : List RouteRef) : List Pairing :=
  (ascending Declared.Route.name routes).filterMap fun route =>
    (refs.find? fun ref => ref.routeName = route.name).map fun ref => ⟨route, ref⟩

/-- The listed refs that are not declared. -/
def surplus (routes : List Declared.Route) (refs : List RouteRef) : List RouteRef :=
  (ascending RouteRef.routeName refs).filter fun ref =>
    ref.routeName ∉ routes.map Declared.Route.name

/-- The listed refs that are not declared, or whose declarations conflict with the listeners. -/
def tainted (routes : List Declared.Route) (listeners : List PortMapping)
    (refs : List RouteRef) : List RouteRef :=
  (ascending RouteRef.routeName refs).filter fun ref =>
    (routes.find? fun route => route.name = ref.routeName).all fun route =>
      (route.conflict? listeners).isSome

/-! ## Asking -/

variable (plane : Plane σ)

/-- Asks the control plane, and takes its answer whenever it comes. -/
def ask (call : Call) : Sequence σ call.Outcome := fun exchange =>
  let (_, state) := plane.accept exchange.state call
  let (outcome, state) := plane.answer state call
  (.ok outcome, { state, calls := exchange.calls ++ [call] })

/-- Asks for what must not fail. -/
def demand (call : Call) : Sequence σ call.Answer := do
  match ← ask plane call with
  | .ok answer => return answer
  | .error error => fail (.api error)

/-- Lists pages until one has no token, or for as long as the limit allows. -/
def list (router : RouterRef) (token : Option String) : Nat → Sequence σ (List RouteRef)
  | 0 => throw .unfinished
  | limit + 1 => do
    let page : Page ← demand plane (.list router token)
    match page.next with
    | none => return page.refs
    | some next =>
      let refs ← list router (some next) limit
      return page.refs ++ refs

/-! ## Single routes -/

def createRoute (router : RouterRef) (scope : Declared.Scope) (route : Declared.Route) :
    Sequence σ (String × RouteRecord) := do
  match route.resolve scope with
  | .error defect => fail (.conversion route.name defect)
  | .ok spec =>
    let record ← demand plane (.create router route.name spec)
    return (route.name, record)

def updateRoute (scope : Declared.Scope) (route : Declared.Route) (ref : RouteRef) :
    Sequence σ (String × RouteRecord) := do
  match ← ask plane (.describe ref) with
  | .error (.notFound _) => fail (.routeNotFound route.name)
  | .error error => fail (.api error)
  | .ok actual =>
    match route.resolve scope with
    | .error defect => fail (.conversion route.name defect)
    | .ok spec =>
      if agree .upToEmpty spec actual.spec then
        return (route.name, actual)
      else
        let record ← demand plane (.update actual.ref spec)
        return (route.name, record)

def deleteRoute (ref : RouteRef) : Sequence σ Unit := do
  match ← ask plane (.delete ref) with
  | .ok _ | .error (.notFound _) => return ()
  | .error error => fail (.api error)

/-- Deletes a route at the address under which it is described. -/
def retireRoute (ref : RouteRef) : Sequence σ Unit := do
  match ← ask plane (.describe ref) with
  | .ok actual => deleteRoute plane actual.ref
  | .error (.notFound _) => return ()
  | .error error => fail (.api error)

/-! ## Errands -/

/-- Creates, updates and deletes, in this order. -/
def reconcile (router : RouterRef) (scope : Declared.Scope) (routes : List Declared.Route)
    (refs : List RouteRef) : Sequence σ (NameMap RouteRecord) := do
  distinct Declared.Route.name routes
  distinct RouteRef.routeName refs
  let created ← (missing routes refs).mapM fun route => createRoute plane router scope route
  let updated ← (matched routes refs).mapM fun ⟨route, ref⟩ => updateRoute plane scope route ref
  (surplus routes refs).forM fun ref => retireRoute plane ref
  return .ofList (created ++ updated)

section Errands

variable (limit : Nat) (mesh : Declared.Mesh) (router : Declared.VirtualRouter)
  (nodes : VirtualNode.Table) (listeners : List PortMapping)

def update : Sequence σ (NameMap RouteRecord) := do
  let refs ← list plane (.of mesh router) none limit
  reconcile plane (.of mesh router) (router.scope nodes) router.spec.routes refs

def create : Sequence σ (NameMap RouteRecord) := do
  distinct Declared.Route.name router.spec.routes
  let created ← (ascending Declared.Route.name router.spec.routes).mapM fun route =>
    createRoute plane (.of mesh router) (router.scope nodes) route
  return .ofList created

def cleanup : Sequence σ Unit := do
  let refs ← list plane (.of mesh router) none limit
  distinct RouteRef.routeName refs
  (ascending RouteRef.routeName refs).forM fun ref => retireRoute plane ref

def remove : Sequence σ Unit := do
  let refs ← list plane (.of mesh router) none limit
  distinct Declared.Route.name router.spec.routes
  distinct RouteRef.routeName refs
  (tainted router.spec.routes listeners refs).forM fun ref => deleteRoute plane ref

end Errands

/-! ## Continuations -/

/-- What is done next is the same from where two sequences are as one. -/
theorem bind_congr_at {x y : Sequence σ α} {f : α → Sequence σ β} {before after : Exchange σ}
    (h : x before = y after) : (x >>= f) before = (y >>= f) after := by
  change ExceptT.bindCont f (x before).1 (x before).2 = ExceptT.bindCont f (y after).1 (y after).2
  rw [h]

/-! ## Repeated names -/

/-- Items are indexed by their names as long as no name repeats. -/
private theorem map_foldlM_index (name : α → String) (items : List α) (seen : List String)
    (map : NameMap α) (hseen : ∀ n, n ∈ seen ↔ (map.get? n).isSome) :
    (items.foldlM (fun (map : NameMap α) item =>
      if (map.get? (name item)).isSome then Except.error (DuplicateName.mk (name item))
      else .ok (map.insert (name item) item)) map).map (fun _ => ()) =
      match repeated? seen (items.map name) with
      | some n => .error ⟨n⟩
      | none => .ok () := by
  induction items generalizing seen map with
  | nil => rfl
  | cons item rest ih =>
    rw [List.map_cons, repeated?, List.foldlM_cons]
    by_cases hmem : name item ∈ seen
    · rw [if_pos hmem, if_pos ((hseen _).1 hmem)]
      rfl
    · rw [if_neg hmem, if_neg fun hsome => hmem ((hseen _).2 hsome)]
      refine ih (name item :: seen) (map.insert (name item) item) ?_
      intro n
      rw [NameMap.get?_insert, List.mem_cons]
      by_cases heq : n = name item
      · simp [heq]
      · simp [heq, hseen n]

/-- Items are distinct where they have an index. -/
theorem distinct_eq (name : α → String) (items : List α) :
    (distinct name items : Sequence σ Unit) =
      match NameMap.index name items with
      | .ok _ => pure ()
      | .error duplicate => fail (.duplicateName duplicate) := by
  have hindex := map_foldlM_index name items [] .empty (by simp)
  change (NameMap.index name items).map _ = _ at hindex
  unfold distinct
  cases hok : NameMap.index name items with
  | ok index =>
    rw [hok] at hindex
    cases hrepeated : repeated? [] (items.map name) with
    | none => rfl
    | some n =>
      rw [hrepeated] at hindex
      cases hindex
  | error duplicate =>
    rw [hok] at hindex
    cases hrepeated : repeated? [] (items.map name) with
    | none =>
      rw [hrepeated] at hindex
      cases hindex
    | some n =>
      rw [hrepeated] at hindex
      cases hindex
      rfl

/-- Declared routes and listed refs are distinct where they have a partition. -/
theorem distinct_distinct_eq (routes : List Declared.Route) (refs : List RouteRef)
    (sequence : Sequence σ α) :
    (do
      distinct Declared.Route.name routes
      distinct RouteRef.routeName refs
      sequence) =
      match Partition.of routes refs with
      | .ok _ => sequence
      | .error duplicate => fail (.duplicateName duplicate) := by
  rw [distinct_eq, distinct_eq, Partition.of]
  cases NameMap.index Declared.Route.name routes with
  | error duplicate => rfl
  | ok byRoute =>
    cases NameMap.index RouteRef.routeName refs with
    | error duplicate => rfl
    | ok byRef => rfl

/-! ## Ascending items -/

theorem mem_ascending {name : α → String} {items : List α} {item : α} :
    item ∈ ascending name items ↔ item ∈ items :=
  List.mem_mergeSort

theorem ascending_pairwise {name : α → String} {items : List α} (h : (items.map name).Nodup) :
    (ascending name items).Pairwise fun a b => name a < name b := by
  have htrans : ∀ a b c, decide (name a ≤ name b) → decide (name b ≤ name c) →
      decide (name a ≤ name c) := by
    intro a b c hab hbc
    exact decide_eq_true (String.le_trans (of_decide_eq_true hab) (of_decide_eq_true hbc))
  have htotal : ∀ a b, decide (name a ≤ name b) || decide (name b ≤ name a) := by
    intro a b
    simpa using String.le_total (name a) (name b)
  have hsorted := List.pairwise_mergeSort htrans htotal items
  have hnodup : ((ascending name items).map name).Nodup :=
    ((List.mergeSort_perm items _).map name).nodup_iff.2 h
  refine (hsorted.and (List.pairwise_map.1 hnodup)).imp ?_
  rintro a b ⟨hle, hne⟩
  exact Std.lt_of_le_of_ne (of_decide_eq_true hle) hne

/-- Lists in strictly ascending order are told by their members. -/
theorem eq_of_ascending (name : α → String) {a b : List α}
    (ha : a.Pairwise fun x y => name x < name y) (hb : b.Pairwise fun x y => name x < name y)
    (hmem : ∀ x, x ∈ a ↔ x ∈ b) : a = b := by
  have : Std.Irrefl fun x y => name x < name y := ⟨fun x => String.lt_irrefl (name x)⟩
  have : Std.Antisymm fun x y => name x < name y :=
    ⟨fun x y hxy hyx => absurd (String.lt_trans hxy hyx) (String.lt_irrefl _)⟩
  exact ha.eq_of_mem_iff hb hmem

/-- Where names do not repeat, an item is found by its name. -/
theorem find?_eq_some_iff {name : α → String} {items : List α} (h : (items.map name).Nodup)
    {n : String} {item : α} :
    (items.find? fun item => name item = n) = some item ↔ item ∈ items ∧ name item = n := by
  constructor
  · intro hfind
    have hname := List.find?_some hfind
    exact ⟨List.mem_of_find?_eq_some hfind, of_decide_eq_true hname⟩
  · rintro ⟨hmem, rfl⟩
    cases hfind : items.find? fun other => name other = name item with
    | none => exact absurd (decide_eq_true rfl) (List.find?_eq_none.1 hfind item hmem)
    | some other =>
      have hname := List.find?_some hfind
      rw [List.inj_on_of_nodup_map h (List.mem_of_find?_eq_some hfind) hmem
        (of_decide_eq_true hname)]

/-! ## The parts of a partition -/

section Parts

variable {routes : List Declared.Route} {refs : List RouteRef} {partition : Partition}
  (h : Partition.of routes refs = .ok partition)
include h

theorem missing_eq : missing routes refs = partition.missing := by
  refine eq_of_ascending _ ((ascending_pairwise (Partition.nodup_of_ok h).1).filter _)
    (Partition.ascending_missing h) ?_
  intro route
  rw [missing, List.mem_filter, mem_ascending, Partition.mem_missing h, decide_eq_true_iff]

theorem surplus_eq : surplus routes refs = partition.surplus := by
  refine eq_of_ascending _ ((ascending_pairwise (Partition.nodup_of_ok h).2).filter _)
    (Partition.ascending_surplus h) ?_
  intro ref
  rw [surplus, List.mem_filter, mem_ascending, Partition.mem_surplus h, decide_eq_true_iff]

theorem matched_eq : matched routes refs = partition.matched := by
  have hascending := ascending_pairwise (Partition.nodup_of_ok h).1
  refine eq_of_ascending (fun pairing => pairing.route.name) ?_
    (Partition.ascending_matched h) ?_
  · rw [matched, List.pairwise_filterMap]
    apply hascending.imp
    intro a b hlt x hx y hy
    obtain ⟨_, _, rfl⟩ := Option.map_eq_some_iff.1 hx
    obtain ⟨_, _, rfl⟩ := Option.map_eq_some_iff.1 hy
    exact hlt
  · rintro ⟨route, ref⟩
    simp only [matched, List.mem_filterMap, mem_ascending, Option.map_eq_some_iff,
      find?_eq_some_iff (Partition.nodup_of_ok h).2, Partition.mem_matched h]
    constructor
    · rintro ⟨_, hroute, _, ⟨href, hname⟩, heq⟩
      cases heq
      exact ⟨hroute, href, hname⟩
    · rintro ⟨hroute, href, hname⟩
      exact ⟨route, hroute, ref, ⟨href, hname⟩, rfl⟩

theorem tainted_eq (listeners : List PortMapping) :
    tainted routes listeners refs = partition.tainted listeners := by
  obtain ⟨hroutes, hrefs⟩ := Partition.nodup_of_ok h
  refine eq_of_ascending _ ((ascending_pairwise hrefs).filter _)
    (partition.ascending_tainted listeners) ?_
  intro ref
  rw [tainted, List.mem_filter, mem_ascending, Option.all_eq_true, Partition.mem_tainted_iff h]
  simp only [find?_eq_some_iff hroutes, and_imp]

end Parts

/-! ## Errands that create or delete everything -/

theorem forM_eq (f : α → Sequence σ Unit) (items : List α) :
    items.forM f = do
      let _ ← items.mapM f
      return () := by
  induction items with
  | nil => rfl
  | cons item rest ih =>
    rw [List.mapM_cons]
    simp only [bind_assoc, pure_bind]
    refine bind_congr fun _ => ?_
    exact ih

@[simp] theorem ascending_nil (name : α → String) : ascending name [] = [] :=
  List.mergeSort_nil

@[simp] theorem distinct_nil (name : α → String) : (distinct name [] : Sequence σ Unit) = pure () :=
  rfl

/-- Where nothing is listed, everything is created. -/
theorem create_eq (plane : Plane σ) (mesh : Declared.Mesh) (router : Declared.VirtualRouter)
    (nodes : VirtualNode.Table) :
    create plane mesh router nodes =
      reconcile plane (.of mesh router) (router.scope nodes) router.spec.routes [] := by
  have hmissing :
      missing router.spec.routes [] = ascending Declared.Route.name router.spec.routes :=
    List.filter_eq_self.2 fun _ _ => by simp
  have hmatched : matched router.spec.routes [] = [] :=
    List.filterMap_eq_nil_iff.2 fun _ _ => rfl
  have hsurplus : surplus router.spec.routes [] = [] := by simp [surplus]
  unfold create reconcile
  rw [hmissing, hmatched, hsurplus]
  simp

/-- Where nothing is declared, everything is deleted. -/
theorem cleanup_eq (plane : Plane σ) (limit : Nat) (mesh : Declared.Mesh)
    (router : Declared.VirtualRouter) :
    cleanup plane limit mesh router = do
      let refs ← list plane (.of mesh router) none limit
      let _ ← reconcile plane (.of mesh router) (router.scope {}) [] refs
      return () := by
  refine bind_congr fun refs => ?_
  have hsurplus : surplus [] refs = ascending RouteRef.routeName refs :=
    List.filter_eq_self.2 fun _ _ => by simp
  unfold reconcile
  rw [hsurplus]
  simp [missing, matched]

end Sequence

end MeshRoutes.Control

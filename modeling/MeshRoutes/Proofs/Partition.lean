import MeshRoutes.NameMap.Lemmas
import MeshRoutes.Taint
import Mathlib.Data.List.Nodup
/-!
# What a partition holds

An index by names exists exactly where no name is repeated. The partition made from two
indexes holds every declared route and every listed ref once, in the part that its name
belongs to.
-/

namespace MeshRoutes

namespace NameMap

variable {α : Type}

/-- The entries of some items by their names. -/
def keyed (name : α → String) (items : List α) : List (String × α) :=
  items.map fun item => (name item, item)

theorem map_fst_keyed (name : α → String) (items : List α) :
    (keyed name items).map Prod.fst = items.map name := by
  rw [keyed, List.map_map]
  rfl

/-- The names that are new to a map beside an item are those that differ from its name. -/
private theorem forall_get?_insert_eq_none_iff (name : α → String) (item : α) (rest : List α)
    (map : NameMap α) :
    (∀ other ∈ rest, (map.insert (name item) item).get? (name other) = none) ↔
      name item ∉ rest.map name ∧ ∀ other ∈ rest, map.get? (name other) = none := by
  constructor
  · intro h
    have hne : ∀ other ∈ rest, name other ≠ name item := by
      intro other hother heq
      have hnone := h other hother
      rw [get?_insert, if_pos heq] at hnone
      cases hnone
    refine ⟨?_, ?_⟩
    · intro hmem
      obtain ⟨other, hother, heq⟩ := List.mem_map.1 hmem
      exact hne other hother heq
    · intro other hother
      have hnone := h other hother
      rwa [get?_insert, if_neg (hne other hother)] at hnone
  · rintro ⟨hfresh, hrest⟩ other hother
    rw [get?_insert, if_neg]
    · exact hrest other hother
    · intro heq
      exact hfresh (List.mem_map.2 ⟨other, hother, heq⟩)

/-- Items are added to an index as long as their names are new to it. -/
private theorem foldlM_index_eq_ok_iff (name : α → String) (items : List α)
    (map map' : NameMap α) :
    items.foldlM (fun map item =>
      if (map.get? (name item)).isSome then Except.error (DuplicateName.mk (name item))
      else .ok (map.insert (name item) item)) map = .ok map' ↔
    (items.map name).Nodup ∧ (∀ item ∈ items, map.get? (name item) = none) ∧
      map' = (keyed name items).foldl (fun map (name, value) => map.insert name value) map := by
  induction items generalizing map with
  | nil =>
    have hpure : ([] : List α).foldlM (fun map item =>
        if (map.get? (name item)).isSome then Except.error (DuplicateName.mk (name item))
        else .ok (map.insert (name item) item)) map = .ok map := rfl
    rw [hpure]
    simp [keyed, eq_comm]
  | cons item rest ih =>
    rw [List.foldlM_cons]
    by_cases hold : (map.get? (name item)).isSome
    · rw [if_pos hold]
      constructor
      · intro h
        cases h
      · rintro ⟨_, hnew, _⟩
        rw [hnew item List.mem_cons_self] at hold
        cases hold
    · rw [if_neg hold]
      have hnone : map.get? (name item) = none := by simpa using hold
      refine (ih (map.insert (name item) item)).trans ?_
      rw [forall_get?_insert_eq_none_iff, List.map_cons, List.nodup_cons, List.forall_mem_cons]
      constructor
      · rintro ⟨hnodup, ⟨hfresh, hrest⟩, hmap⟩
        exact ⟨⟨hfresh, hnodup⟩, ⟨hnone, hrest⟩, hmap⟩
      · rintro ⟨⟨hfresh, hnodup⟩, ⟨_, hrest⟩, hmap⟩
        exact ⟨hnodup, ⟨hfresh, hrest⟩, hmap⟩

theorem index_eq_ok_iff {name : α → String} {items : List α} {map : NameMap α} :
    index name items = .ok map ↔
      (items.map name).Nodup ∧ map = ofList (keyed name items) := by
  refine (foldlM_index_eq_ok_iff name items empty map).trans ?_
  simp [ofList]

theorem mem_entries_of_index {name : α → String} {items : List α} {map : NameMap α}
    (h : index name items = .ok map) {entry : String × α} :
    entry ∈ map.entries ↔ entry.2 ∈ items ∧ entry.1 = name entry.2 := by
  obtain ⟨hnodup, rfl⟩ := index_eq_ok_iff.1 h
  rw [← map_fst_keyed] at hnodup
  obtain ⟨n, item⟩ := entry
  rw [← get?_eq_some_iff, get?_ofList_eq_some_iff hnodup, keyed, List.mem_map]
  constructor
  · rintro ⟨item', hmem, heq⟩
    cases heq
    exact ⟨hmem, rfl⟩
  · rintro ⟨hmem, hname⟩
    have hn : n = name item := hname
    rw [hn]
    exact ⟨item, hmem, rfl⟩

theorem get?_of_index {name : α → String} {items : List α} {map : NameMap α}
    (h : index name items = .ok map) {n : String} {item : α} :
    map.get? n = some item ↔ item ∈ items ∧ n = name item := by
  rw [get?_eq_some_iff]
  exact mem_entries_of_index h

theorem get?_eq_none_of_index {name : α → String} {items : List α} {map : NameMap α}
    (h : index name items = .ok map) {n : String} :
    map.get? n = none ↔ n ∉ items.map name := by
  obtain ⟨hnodup, rfl⟩ := index_eq_ok_iff.1 h
  rw [get?_eq_none_iff, mem_names_ofList, map_fst_keyed]

theorem name_of_get?_keyed {name : α → String} {items : List α} {n : String} {item : α}
    (h : (ofList (keyed name items)).get? n = some item) : name item = n := by
  rw [get?_ofList] at h
  obtain ⟨other, _, heq⟩ := List.mem_map.1 (List.mem_reverse.1 (mem_of_lookup_eq_some h))
  cases heq
  rfl

theorem mem_values_keyed {name : α → String} {items : List α} (h : (items.map name).Nodup)
    {item : α} : item ∈ (ofList (keyed name items)).values ↔ item ∈ items := by
  rw [values, List.mem_map]
  constructor
  · rintro ⟨entry, hentry, rfl⟩
    exact ((mem_entries_of_index (index_eq_ok_iff.2 ⟨h, rfl⟩)).1 hentry).1
  · intro hmem
    exact ⟨(name item, item), (mem_entries_of_index (index_eq_ok_iff.2 ⟨h, rfl⟩)).2 ⟨hmem, rfl⟩,
      rfl⟩

/-- The values of a map by names are in ascending order of these names. -/
theorem ascending_values_keyed (name : α → String) (items : List α) :
    (ofList (keyed name items)).values.Pairwise fun a b => name a < name b := by
  rw [values, List.pairwise_map]
  apply (ofList (keyed name items)).ascending.imp_of_mem
  intro a b ha hb hlt
  rw [name_of_get?_keyed ((get?_eq_some_iff _).2 ha),
    name_of_get?_keyed ((get?_eq_some_iff _).2 hb)]
  exact hlt

end NameMap

namespace Partition

open Declared Remote

variable {routes : List Route} {refs : List RouteRef} {partition : Partition}

theorem exists_indexes (h : Partition.of routes refs = .ok partition) :
    ∃ byRoute byRef, NameMap.index Route.name routes = .ok byRoute ∧
      NameMap.index RouteRef.routeName refs = .ok byRef ∧
      partition.matched = byRoute.entries.filterMap (fun (name, route) =>
        (byRef.get? name).map fun ref => ⟨route, ref⟩) ∧
      partition.missing = byRoute.entries.filterMap (fun (name, route) =>
        if (byRef.get? name).isSome then none else some route) ∧
      partition.surplus = byRef.entries.filterMap (fun (name, ref) =>
        if (byRoute.get? name).isSome then none else some ref) := by
  unfold Partition.of at h
  cases hroutes : NameMap.index Route.name routes with
  | error duplicate =>
    rw [hroutes] at h
    cases h
  | ok byRoute =>
    cases hrefs : NameMap.index RouteRef.routeName refs with
    | error duplicate =>
      rw [hroutes, hrefs] at h
      cases h
    | ok byRef =>
      rw [hroutes, hrefs] at h
      cases h
      exact ⟨byRoute, byRef, rfl, rfl, rfl, rfl, rfl⟩

theorem exists_of_nodup (hroutes : (routes.map Route.name).Nodup)
    (hrefs : (refs.map RouteRef.routeName).Nodup) :
    ∃ partition, Partition.of routes refs = .ok partition := by
  unfold Partition.of
  rw [NameMap.index_eq_ok_iff.2 ⟨hroutes, rfl⟩, NameMap.index_eq_ok_iff.2 ⟨hrefs, rfl⟩]
  exact ⟨_, rfl⟩

theorem nodup_of_ok (h : Partition.of routes refs = .ok partition) :
    (routes.map Route.name).Nodup ∧ (refs.map RouteRef.routeName).Nodup := by
  obtain ⟨byRoute, byRef, hroute, href, _⟩ := exists_indexes h
  exact ⟨(NameMap.index_eq_ok_iff.1 hroute).1, (NameMap.index_eq_ok_iff.1 href).1⟩

theorem mem_matched (h : Partition.of routes refs = .ok partition) {pairing : Pairing} :
    pairing ∈ partition.matched ↔ pairing.route ∈ routes ∧ pairing.ref ∈ refs ∧
      pairing.ref.routeName = pairing.route.name := by
  obtain ⟨byRoute, byRef, hroute, href, hmatched, _⟩ := exists_indexes h
  obtain ⟨route, ref⟩ := pairing
  rw [hmatched, List.mem_filterMap]
  constructor
  · rintro ⟨⟨name, route'⟩, hentry, hselected⟩
    obtain ⟨ref', hlisted, heq⟩ := Option.map_eq_some_iff.1 hselected
    cases heq
    obtain ⟨hdeclared, hrouteName⟩ := (NameMap.mem_entries_of_index hroute).1 hentry
    obtain ⟨hmem, hrefName⟩ := (NameMap.get?_of_index href).1 hlisted
    exact ⟨hdeclared, hmem, hrefName.symm.trans hrouteName⟩
  · rintro ⟨hdeclared, hmem, hname⟩
    refine ⟨(route.name, route), (NameMap.mem_entries_of_index hroute).2 ⟨hdeclared, rfl⟩, ?_⟩
    have hlisted := (NameMap.get?_of_index href).2 ⟨hmem, hname.symm⟩
    exact Option.map_eq_some_iff.2 ⟨ref, hlisted, rfl⟩

/-- The entries that an index keeps because the other index has nothing at their names. -/
private theorem mem_filterMap_none {β γ : Type} {map : NameMap β} {other : NameMap γ}
    {value : β} :
    value ∈ map.entries.filterMap (fun (name, value) =>
      if (other.get? name).isSome then none else some value) ↔
    ∃ name, (name, value) ∈ map.entries ∧ other.get? name = none := by
  rw [List.mem_filterMap]
  constructor
  · rintro ⟨⟨name, value'⟩, hmem, hselected⟩
    dsimp only at hselected
    by_cases hsome : (other.get? name).isSome
    · rw [if_pos hsome] at hselected
      cases hselected
    · rw [if_neg hsome] at hselected
      cases hselected
      exact ⟨name, hmem, Option.not_isSome_iff_eq_none.1 hsome⟩
  · rintro ⟨name, hmem, hnone⟩
    refine ⟨(name, value), hmem, ?_⟩
    have hsome : ¬(other.get? name).isSome := by rw [hnone]; simp
    exact if_neg hsome

theorem mem_missing (h : Partition.of routes refs = .ok partition) {route : Route} :
    route ∈ partition.missing ↔ route ∈ routes ∧ route.name ∉ refs.map RouteRef.routeName := by
  obtain ⟨byRoute, byRef, hroute, href, _, hmissing, _⟩ := exists_indexes h
  rw [hmissing, mem_filterMap_none]
  simp only [NameMap.mem_entries_of_index hroute, NameMap.get?_eq_none_of_index href]
  constructor
  · rintro ⟨name, ⟨hmem, rfl⟩, hnone⟩
    exact ⟨hmem, hnone⟩
  · rintro ⟨hmem, hnone⟩
    exact ⟨route.name, ⟨hmem, rfl⟩, hnone⟩

theorem mem_surplus (h : Partition.of routes refs = .ok partition) {ref : RouteRef} :
    ref ∈ partition.surplus ↔ ref ∈ refs ∧ ref.routeName ∉ routes.map Route.name := by
  obtain ⟨byRoute, byRef, hroute, href, _, _, hsurplus⟩ := exists_indexes h
  rw [hsurplus, mem_filterMap_none]
  simp only [NameMap.mem_entries_of_index href, NameMap.get?_eq_none_of_index hroute]
  constructor
  · rintro ⟨name, ⟨hmem, rfl⟩, hnone⟩
    exact ⟨hmem, hnone⟩
  · rintro ⟨hmem, hnone⟩
    exact ⟨ref.routeName, ⟨hmem, rfl⟩, hnone⟩

/-- What is selected from an index stands in ascending order of names. -/
private theorem ascending_filterMap {β γ : Type} {map : NameMap β} {name : γ → String}
    {select : String × β → Option γ}
    (h : ∀ entry ∈ map.entries, ∀ selected, select entry = some selected →
      name selected = entry.1) :
    (map.entries.filterMap select).Pairwise fun a b => name a < name b := by
  rw [List.pairwise_filterMap]
  apply map.ascending.imp_of_mem
  intro a b ha hb hlt x hx y hy
  rw [h a ha x hx, h b hb y hy]
  exact hlt

theorem ascending_matched (h : Partition.of routes refs = .ok partition) :
    partition.matched.Pairwise fun a b => a.route.name < b.route.name := by
  obtain ⟨byRoute, byRef, hroute, _, hmatched, _⟩ := exists_indexes h
  rw [hmatched]
  apply ascending_filterMap
  intro entry hentry pairing hpairing
  obtain ⟨ref, _, rfl⟩ := Option.map_eq_some_iff.1 hpairing
  exact ((NameMap.mem_entries_of_index hroute).1 hentry).2.symm

/-- A route or a ref that is kept stands under its name. -/
private theorem name_of_kept {β : Type} {name : β → String} {entry : String × β} {kept : β}
    {here : Prop} [Decidable here] (hname : entry.1 = name entry.2)
    (hkept : (if here then none else some entry.2) = some kept) : name kept = entry.1 := by
  by_cases h : here
  · rw [if_pos h] at hkept
    cases hkept
  · rw [if_neg h] at hkept
    cases hkept
    exact hname.symm

theorem ascending_missing (h : Partition.of routes refs = .ok partition) :
    partition.missing.Pairwise fun a b => a.name < b.name := by
  obtain ⟨byRoute, byRef, hroute, _, _, hmissing, _⟩ := exists_indexes h
  rw [hmissing]
  apply ascending_filterMap
  intro entry hentry route hkept
  exact name_of_kept ((NameMap.mem_entries_of_index hroute).1 hentry).2 hkept

theorem ascending_surplus (h : Partition.of routes refs = .ok partition) :
    partition.surplus.Pairwise fun a b => a.routeName < b.routeName := by
  obtain ⟨byRoute, byRef, _, href, _, _, hsurplus⟩ := exists_indexes h
  rw [hsurplus]
  apply ascending_filterMap
  intro entry hentry ref hkept
  exact name_of_kept ((NameMap.mem_entries_of_index href).1 hentry).2 hkept

theorem nodup_of_ascending {β : Type} {name : β → String} {items : List β}
    (h : items.Pairwise fun a b => name a < name b) : (items.map name).Nodup := by
  apply List.pairwise_map.2
  apply h.imp
  intro a b hlt heq
  rw [heq] at hlt
  exact String.lt_irrefl _ hlt

/-- The listed refs are surplus or matched, each under a name of its own. -/
theorem nodup_refNames (h : Partition.of routes refs = .ok partition) :
    (partition.surplus.map RouteRef.routeName ++
      partition.matched.map fun pairing => pairing.ref.routeName).Nodup := by
  have hnames : (partition.matched.map fun pairing => pairing.ref.routeName) =
      partition.matched.map fun pairing => pairing.route.name :=
    List.map_congr_left fun pairing hpairing => ((mem_matched h).1 hpairing).2.2
  rw [hnames]
  refine List.nodup_append.2 ⟨nodup_of_ascending (ascending_surplus h),
    nodup_of_ascending (ascending_matched h), ?_⟩
  rintro name hsurplus _ hmatched rfl
  obtain ⟨ref, hmem, rfl⟩ := List.mem_map.1 hsurplus
  obtain ⟨pairing, hpairing, hname⟩ := List.mem_map.1 hmatched
  apply ((mem_surplus h).1 hmem).2
  exact List.mem_map.2 ⟨pairing.route, ((mem_matched h).1 hpairing).1, hname⟩

theorem ascending_tainted (partition : Partition) (listeners : List PortMapping) :
    (partition.tainted listeners).Pairwise fun a b => a.routeName < b.routeName :=
  NameMap.ascending_values_keyed RouteRef.routeName _

theorem mem_tainted (h : Partition.of routes refs = .ok partition) {listeners : List PortMapping}
    {ref : RouteRef} :
    ref ∈ partition.tainted listeners ↔ ref ∈ partition.surplus ∨
      ∃ pairing ∈ partition.matched, (pairing.route.conflict? listeners).isSome ∧
        pairing.ref = ref := by
  have hnodup : ((partition.surplus ++ (partition.matched.filter fun pairing =>
      (pairing.route.conflict? listeners).isSome).map Pairing.ref).map
        RouteRef.routeName).Nodup := by
    rw [List.map_append, List.map_map]
    exact (nodup_refNames h).sublist ((List.Sublist.refl _).append (List.filter_sublist.map _))
  refine (NameMap.mem_values_keyed hnodup).trans ?_
  simp only [List.mem_append, List.mem_map, List.mem_filter, and_assoc]

/-- What is tainted is what is listed under a name of which every declared route is in
conflict. -/
theorem mem_tainted_iff (h : Partition.of routes refs = .ok partition)
    {listeners : List PortMapping} {ref : RouteRef} :
    ref ∈ partition.tainted listeners ↔ ref ∈ refs ∧
      ∀ route ∈ routes, route.name = ref.routeName → (route.conflict? listeners).isSome := by
  have hroutes := (nodup_of_ok h).1
  rw [mem_tainted h, mem_surplus h]
  simp only [mem_matched h]
  constructor
  · rintro (⟨href, hundeclared⟩ | ⟨⟨route, _⟩, ⟨hroute, href, hname⟩, hconflict, rfl⟩)
    · refine ⟨href, fun route hroute hname => ?_⟩
      exact absurd (List.mem_map.2 ⟨route, hroute, hname⟩) hundeclared
    · refine ⟨href, fun other hother hnames => ?_⟩
      rw [List.inj_on_of_nodup_map hroutes hother hroute (hnames.trans hname)]
      exact hconflict
  · rintro ⟨href, hall⟩
    by_cases hdeclared : ref.routeName ∈ routes.map Route.name
    · obtain ⟨route, hroute, hname⟩ := List.mem_map.1 hdeclared
      exact .inr ⟨⟨route, ref⟩, ⟨hroute, href, hname.symm⟩, hall route hroute hname, rfl⟩
    · exact .inl ⟨href, hdeclared⟩

/-! ## Names of the parts -/

theorem exists_missing_or_matched (h : Partition.of routes refs = .ok partition)
    {route : Route} (hroute : route ∈ routes) :
    route ∈ partition.missing ∨ ∃ ref, ⟨route, ref⟩ ∈ partition.matched := by
  by_cases hlisted : route.name ∈ refs.map RouteRef.routeName
  · obtain ⟨ref, href, hname⟩ := List.mem_map.1 hlisted
    exact .inr ⟨ref, (mem_matched h).2 ⟨hroute, href, hname⟩⟩
  · exact .inl ((mem_missing h).2 ⟨hroute, hlisted⟩)

theorem name_ne_of_missing_of_matched (h : Partition.of routes refs = .ok partition)
    {route : Route} {pairing : Pairing} (hroute : route ∈ partition.missing)
    (hpairing : pairing ∈ partition.matched) : pairing.route.name ≠ route.name := by
  intro heq
  obtain ⟨_, href, hname⟩ := (mem_matched h).1 hpairing
  apply ((mem_missing h).1 hroute).2
  exact List.mem_map.2 ⟨pairing.ref, href, hname.trans heq⟩

/-- The declared routes are missing or matched, each under a name of its own. -/
theorem nodup_names (h : Partition.of routes refs = .ok partition) :
    (partition.missing.map Route.name ++
      partition.matched.map fun pairing => pairing.route.name).Nodup := by
  refine List.nodup_append.2 ⟨nodup_of_ascending (ascending_missing h),
    nodup_of_ascending (ascending_matched h), ?_⟩
  rintro name hmissing _ hmatched rfl
  obtain ⟨route, hroute, rfl⟩ := List.mem_map.1 hmissing
  obtain ⟨pairing, hpairing, heq⟩ := List.mem_map.1 hmatched
  exact name_ne_of_missing_of_matched h hroute hpairing heq

theorem name_ne_of_surplus (h : Partition.of routes refs = .ok partition) {route : Route}
    {ref : RouteRef} (hroute : route ∈ routes) (href : ref ∈ partition.surplus) :
    ref.routeName ≠ route.name := by
  intro heq
  apply ((mem_surplus h).1 href).2
  exact List.mem_map.2 ⟨route, hroute, heq.symm⟩

end Partition

end MeshRoutes

import MeshRoutes.NameMap
/-!
# Lemmas on maps from names

What a map holds at a name after each operation, and that a map is known by what it holds.
-/

namespace MeshRoutes

namespace NameMap

variable {α : Type}

/-! ## What a map holds at a name -/

@[simp] theorem get?_empty (name : String) : (empty : NameMap α).get? name = none := rfl

theorem lookup_cons (name other : String) (value : α) (rest : List (String × α)) :
    lookup other ((name, value) :: rest) =
      if other = name then some value else lookup other rest := by
  rw [lookup]
  by_cases h : name = other
  · rw [if_pos h, if_pos h.symm]
  · rw [if_neg h, if_neg (Ne.symm h)]

theorem lookup_insertEntry (name other : String) (value : α) (entries : List (String × α)) :
    lookup other (insertEntry name value entries) =
      if other = name then some value else lookup other entries := by
  induction entries with
  | nil => exact lookup_cons name other value []
  | cons entry rest ih =>
    obtain ⟨n, v⟩ := entry
    unfold insertEntry
    by_cases hlt : name < n
    · rw [if_pos hlt, lookup_cons]
    · rw [if_neg hlt]
      by_cases heq : name = n
      · rw [if_pos heq, lookup_cons, lookup_cons, ← heq]
        by_cases hother : other = name
        · rw [if_pos hother, if_pos hother]
        · rw [if_neg hother, if_neg hother, if_neg hother]
      · rw [if_neg heq, lookup_cons, lookup_cons, ih]
        by_cases hother : other = n
        · have hne : other ≠ name := by
            intro h
            exact heq (h.symm.trans hother)
          rw [if_pos hother, if_neg hne, if_pos hother]
        · rw [if_neg hother, if_neg hother]

theorem lookup_filter_ne (name other : String) (entries : List (String × α)) :
    lookup other (entries.filter (·.1 != name)) =
      if other = name then none else lookup other entries := by
  induction entries with
  | nil => exact (ite_self _).symm
  | cons entry rest ih =>
    obtain ⟨n, v⟩ := entry
    rw [List.filter_cons, lookup_cons]
    by_cases hn : n = name
    · have hdropped : ¬(n != name) = true := by simp [hn]
      rw [if_neg hdropped, ih]
      by_cases hother : other = name
      · rw [if_pos hother, if_pos hother]
      · have hne : other ≠ n := by
          intro h
          exact hother (h.trans hn)
        rw [if_neg hother, if_neg hother, if_neg hne]
    · have hkept : (n != name) = true := by simp [hn]
      rw [if_pos hkept, lookup_cons, ih]
      by_cases hother : other = n
      · have hne : other ≠ name := by
          intro h
          exact hn (hother.symm.trans h)
        rw [if_pos hother, if_pos hother, if_neg hne]
      · rw [if_neg hother, if_neg hother]

@[simp] theorem get?_insert (map : NameMap α) (name other : String) (value : α) :
    (map.insert name value).get? other = if other = name then some value else map.get? other :=
  lookup_insertEntry name other value map.entries

@[simp] theorem get?_erase (map : NameMap α) (name other : String) :
    (map.erase name).get? other = if other = name then none else map.get? other :=
  lookup_filter_ne name other map.entries

theorem get?_erase_self (map : NameMap α) (name : String) : (map.erase name).get? name = none := by
  rw [get?_erase, if_pos rfl]

/-! ## Equality -/

theorem mem_of_lookup_eq_some {name : String} {value : α} {entries : List (String × α)}
    (h : lookup name entries = some value) : (name, value) ∈ entries := by
  induction entries with
  | nil => cases h
  | cons entry rest ih =>
    obtain ⟨n, v⟩ := entry
    unfold lookup at h
    split at h
    · rename_i hn
      cases h
      exact hn ▸ List.mem_cons_self
    · exact List.mem_cons_of_mem _ (ih h)

/-- In ascending order, the entries behind an entry do not have its name. -/
theorem lookup_eq_none_of_lt {name : String} {entries : List (String × α)}
    (h : ∀ e ∈ entries, name < e.1) : lookup name entries = none := by
  cases hlookup : lookup name entries with
  | none => rfl
  | some value => exact absurd (h _ (mem_of_lookup_eq_some hlookup)) (String.lt_irrefl name)

private theorem name_le_of_lookup {n m : String} {v w : α} {rest : List (String × α)}
    (hasc : ∀ e ∈ rest, m < e.1) (h : lookup n ((m, w) :: rest) = some v) : m ≤ n := by
  rcases List.mem_cons.1 (mem_of_lookup_eq_some h) with heq | hmem
  · exact Std.le_of_eq (congrArg Prod.fst heq).symm
  · exact Std.le_of_lt (hasc _ hmem)

theorem entries_eq_of_lookup_eq {a b : List (String × α)}
    (ha : a.Pairwise fun x y => x.1 < y.1) (hb : b.Pairwise fun x y => x.1 < y.1)
    (h : ∀ name, lookup name a = lookup name b) : a = b := by
  induction a generalizing b with
  | nil =>
    cases b with
    | nil => rfl
    | cons entry rest => simpa [lookup] using h entry.1
  | cons entry restA ih =>
    obtain ⟨n, v⟩ := entry
    cases b with
    | nil => simpa [lookup] using h n
    | cons entry restB =>
      obtain ⟨m, w⟩ := entry
      obtain ⟨hltA, hascA⟩ := List.pairwise_cons.1 ha
      obtain ⟨hltB, hascB⟩ := List.pairwise_cons.1 hb
      have hn : lookup n ((m, w) :: restB) = some v := by simpa [lookup] using (h n).symm
      have hm : lookup m ((n, v) :: restA) = some w := by simpa [lookup] using h m
      have hnm : n = m :=
        Std.le_antisymm (name_le_of_lookup hltA hm) (name_le_of_lookup hltB hn)
      subst hnm
      have hvw : w = v := by simpa [lookup] using hn
      subst hvw
      refine congrArg _ (ih hascA hascB fun name => ?_)
      by_cases hname : n = name
      · subst hname
        rw [lookup_eq_none_of_lt hltA, lookup_eq_none_of_lt hltB]
      · simpa [lookup, hname] using h name

theorem eq_of_get?_eq {a b : NameMap α} (h : ∀ name, a.get? name = b.get? name) : a = b := by
  obtain ⟨entriesA, hascA⟩ := a
  obtain ⟨entriesB, hascB⟩ := b
  have heq : entriesA = entriesB := entries_eq_of_lookup_eq hascA hascB h
  subst heq
  rfl

/-! ## Entries and names -/

theorem lookup_append (name : String) (a b : List (String × α)) :
    lookup name (a ++ b) = (lookup name a).or (lookup name b) := by
  induction a with
  | nil => rfl
  | cons entry rest ih =>
    obtain ⟨n, v⟩ := entry
    rw [List.cons_append, lookup_cons, lookup_cons, ih]
    by_cases hn : name = n
    · rw [if_pos hn, if_pos hn, Option.some_or]
    · rw [if_neg hn, if_neg hn]

theorem lookup_eq_none_iff {name : String} {entries : List (String × α)} :
    lookup name entries = none ↔ name ∉ entries.map Prod.fst := by
  induction entries with
  | nil => simp [lookup]
  | cons entry rest ih =>
    obtain ⟨n, v⟩ := entry
    rw [lookup_cons, List.map_cons, List.mem_cons]
    by_cases hn : name = n
    · simp [hn]
    · rw [if_neg hn, ih]
      simp [hn]

/-- Where no name is repeated, each entry is the one that its name leads to. -/
theorem lookup_eq_some_iff {name : String} {value : α} {entries : List (String × α)}
    (h : (entries.map Prod.fst).Nodup) :
    lookup name entries = some value ↔ (name, value) ∈ entries := by
  refine ⟨mem_of_lookup_eq_some, fun hmem => ?_⟩
  induction entries with
  | nil => cases hmem
  | cons entry rest ih =>
    obtain ⟨n, v⟩ := entry
    rw [List.map_cons, List.nodup_cons] at h
    rcases List.mem_cons.1 hmem with heq | hrest
    · cases heq
      exact if_pos rfl
    · have hne : n ≠ name := by
        intro heq
        apply h.1
        exact List.mem_map.2 ⟨(name, value), hrest, heq.symm⟩
      rw [lookup, if_neg hne]
      exact ih h.2 hrest

theorem nodup_names (map : NameMap α) : map.names.Nodup := by
  apply List.pairwise_map.2
  apply map.ascending.imp
  intro a b hlt heq
  rw [heq] at hlt
  exact String.lt_irrefl _ hlt

theorem get?_eq_some_iff (map : NameMap α) {name : String} {value : α} :
    map.get? name = some value ↔ (name, value) ∈ map.entries :=
  lookup_eq_some_iff map.nodup_names

theorem get?_eq_none_iff (map : NameMap α) {name : String} :
    map.get? name = none ↔ name ∉ map.names :=
  lookup_eq_none_iff

theorem mem_names_iff (map : NameMap α) {name : String} :
    name ∈ map.names ↔ (map.get? name).isSome := by
  rw [Option.isSome_iff_ne_none, ne_eq, get?_eq_none_iff, Classical.not_not]

/-! ## Maps of entries -/

theorem get?_foldl_insert (entries : List (String × α)) (map : NameMap α) (name : String) :
    (entries.foldl (fun map (name, value) => map.insert name value) map).get? name =
      (lookup name entries.reverse).or (map.get? name) := by
  induction entries generalizing map with
  | nil => rfl
  | cons entry rest ih =>
    obtain ⟨n, v⟩ := entry
    rw [List.foldl_cons, ih, List.reverse_cons, lookup_append, get?_insert, Option.or_assoc]
    rw [lookup_cons]
    by_cases hn : name = n
    · rw [if_pos hn, if_pos hn, Option.some_or]
    · rw [if_neg hn, if_neg hn]
      rfl

theorem get?_ofList (entries : List (String × α)) (name : String) :
    (ofList entries).get? name = lookup name entries.reverse := by
  rw [ofList, get?_foldl_insert, get?_empty, Option.or_none]

theorem mem_names_ofList {entries : List (String × α)} {name : String} :
    name ∈ (ofList entries).names ↔ name ∈ entries.map Prod.fst := by
  rw [mem_names_iff, Option.isSome_iff_ne_none, ne_eq, get?_ofList, lookup_eq_none_iff,
    Classical.not_not, List.map_reverse, List.mem_reverse]

theorem get?_ofList_eq_some_iff {entries : List (String × α)}
    (h : (entries.map Prod.fst).Nodup) {name : String} {value : α} :
    (ofList entries).get? name = some value ↔ (name, value) ∈ entries := by
  have hrev : (entries.reverse.map Prod.fst).Nodup := by
    rw [List.map_reverse]
    exact (List.reverse_perm _).nodup_iff.2 h
  rw [get?_ofList, lookup_eq_some_iff hrev, List.mem_reverse]

/-- Where no name is repeated, the order of the entries does not matter. -/
theorem ofList_eq_of_perm {a b : List (String × α)} (h : (a.map Prod.fst).Nodup)
    (hperm : a.Perm b) : ofList a = ofList b := by
  have hb : (b.map Prod.fst).Nodup := (hperm.map Prod.fst).nodup_iff.1 h
  apply eq_of_get?_eq
  intro name
  apply Option.ext
  intro value
  rw [get?_ofList_eq_some_iff h, get?_ofList_eq_some_iff hb, hperm.mem_iff]

end NameMap

end MeshRoutes

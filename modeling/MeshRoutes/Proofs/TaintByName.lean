import MeshRoutes.Proofs.ExactTaint
/-!
# What is tainted under a name

The taint relies on nothing that holds of the partition of routes and refs: the parts may stand in
any order, repeat names and share them, and pair a route with the ref of another one. Under each
name that is tainted there is one ref, the last one in conflict, or else the last surplus one.

* `IsLast` : the last item of a list that has a property.
* `Partition.Represents` : the ref that stands for a name.
* `Partition.tainted_by_name` : what is tainted, whatever the parts are.
-/

namespace MeshRoutes

open Declared Remote

variable {α β : Type}

/-! ## The last item with a property -/

/-- The item has the property, and none behind it does. -/
def IsLast (p : α → Prop) (items : List α) (item : α) : Prop :=
  ∃ before after, items = before ++ item :: after ∧ p item ∧ ∀ later ∈ after, ¬p later

section Last

variable {p : α → Prop} {items : List α} {item last : α}

theorem IsLast.holds (h : IsLast p items item) : p item := by
  obtain ⟨_, _, _, hitem, _⟩ := h
  exact hitem

theorem not_isLast_nil : ¬IsLast p [] item := by
  rintro ⟨before, after, hsplit, _⟩
  simp at hsplit

theorem isLast_concat : IsLast p (items ++ [last]) item ↔
    p last ∧ last = item ∨ ¬p last ∧ IsLast p items item := by
  constructor
  · rintro ⟨before, after, hsplit, hitem, hafter⟩
    induction after using List.reverseRecOn with
    | nil =>
      obtain ⟨_, hlast⟩ := List.append_inj' hsplit rfl
      cases hlast
      exact .inl ⟨hitem, rfl⟩
    | append_singleton after final _ =>
      rw [← List.cons_append, ← List.append_assoc] at hsplit
      obtain ⟨hinit, hlast⟩ := List.append_inj' hsplit rfl
      cases hlast
      right
      refine ⟨hafter last (by simp), before, after, hinit, hitem, ?_⟩
      intro later hlater
      exact hafter later (List.mem_append_left _ hlater)
  · rintro (⟨hlast, rfl⟩ | ⟨hlast, before, after, rfl, hitem, hafter⟩)
    · exact ⟨items, [], rfl, hlast, nofun⟩
    · refine ⟨before, after ++ [last], by simp, hitem, ?_⟩
      intro later hlater
      rcases List.mem_append.1 hlater with hmem | hmem
      · exact hafter later hmem
      · rwa [List.mem_singleton.1 hmem]

theorem isLast_append {front behind : List α} : IsLast p (front ++ behind) item ↔
    IsLast p behind item ∨ (∀ other ∈ behind, ¬p other) ∧ IsLast p front item := by
  induction behind using List.reverseRecOn with
  | nil => simp [not_isLast_nil]
  | append_singleton behind last ih =>
    rw [← List.append_assoc, isLast_concat, isLast_concat, ih]
    by_cases hlast : p last <;> simp [hlast, or_imp, forall_and]

theorem exists_isLast_iff : (∃ item, IsLast p items item) ↔ ∃ item ∈ items, p item := by
  induction items using List.reverseRecOn with
  | nil => simp [not_isLast_nil]
  | append_singleton items last ih =>
    simp only [isLast_concat, exists_or, exists_and_left, exists_eq', and_true, ih,
      List.mem_append, List.mem_singleton, or_and_right, exists_eq_left]
    by_cases hlast : p last <;> simp [hlast]

theorem isLast_map {f : β → α} {origins : List β} : IsLast p (origins.map f) item ↔
    ∃ origin, IsLast (fun b => p (f b)) origins origin ∧ f origin = item := by
  induction origins using List.reverseRecOn with
  | nil => simp [not_isLast_nil]
  | append_singleton origins last ih =>
    rw [List.map_append, List.map_singleton, isLast_concat, ih]
    simp only [isLast_concat, or_and_right, exists_or, and_assoc, exists_and_left, exists_eq_left']

theorem isLast_filter {keep : α → Bool} : IsLast p (items.filter keep) item ↔
    IsLast (fun a => keep a = true ∧ p a) items item := by
  induction items using List.reverseRecOn with
  | nil => simp [not_isLast_nil]
  | append_singleton items last ih =>
    rw [List.filter_append, isLast_concat, ← ih]
    by_cases hkeep : keep last
    · rw [List.filter_cons_of_pos hkeep, List.filter_nil, isLast_concat]
      simp only [hkeep, true_and]
    · rw [List.filter_cons_of_neg hkeep, List.filter_nil, List.append_nil]
      simp only [hkeep, Bool.false_eq_true, false_and, false_or, not_false_eq_true, true_and]

end Last

/-! ## Maps that are overwritten -/

namespace NameMap

variable {name : α → String} {items : List α} {item : α}

theorem lookup_reverse_keyed_eq_some_iff {n : String} :
    lookup n (keyed name items).reverse = some item ↔
      IsLast (fun other => name other = n) items item := by
  induction items using List.reverseRecOn with
  | nil => simp [keyed, lookup, not_isLast_nil]
  | append_singleton items last ih =>
    have hcons : (keyed name (items ++ [last])).reverse =
        (name last, last) :: (keyed name items).reverse := by
      simp [keyed]
    rw [hcons, lookup_cons, isLast_concat, ← ih]
    by_cases hlast : name last = n
    · rw [if_pos hlast.symm]
      simp [hlast]
    · rw [if_neg (Ne.symm hlast)]
      simp [hlast]

/-- What is put into a map by names stays there unless something of its name comes later. -/
theorem mem_values_ofList_keyed_iff : item ∈ (ofList (keyed name items)).values ↔
    IsLast (fun other => name other = name item) items item := by
  rw [← lookup_reverse_keyed_eq_some_iff, ← get?_ofList, get?_eq_some_iff, values, List.mem_map]
  constructor
  · rintro ⟨⟨n, _⟩, hentry, rfl⟩
    rwa [name_of_get?_keyed ((get?_eq_some_iff _).2 hentry)]
  · intro hentry
    exact ⟨_, hentry, rfl⟩

end NameMap

/-! ## Any partition -/

variable {partition : Partition} {listeners : List PortMapping}

/-- The route of the pairing names a port that is not served by its protocol. -/
def Pairing.Clashes (listeners : List PortMapping) (pairing : Pairing) : Prop :=
  ∃ protocol port, (protocol, port) ∈ pairing.route.matchPorts ∧
    Unserved listeners port protocol

theorem Pairing.clashes_iff {pairing : Pairing} :
    (pairing.route.conflict? listeners).isSome ↔ pairing.Clashes listeners := by
  rw [Route.conflict?_isSome_iff, Route.not_fits_iff, Clashes]

namespace Partition

/-- The ref that stands for a name: that of the last pairing in conflict whose ref has the name, or
where there is none, the last surplus ref that has it. -/
inductive Represents (partition : Partition) (listeners : List PortMapping) (name : String) :
    RouteRef → Prop
  | inConflict {pairing : Pairing}
      (hlast : IsLast (fun other => other.Clashes listeners ∧ other.ref.routeName = name)
        partition.matched pairing) : Represents partition listeners name pairing.ref
  | surplus {ref : RouteRef}
      (hnone : ∀ pairing ∈ partition.matched, pairing.Clashes listeners →
        pairing.ref.routeName ≠ name)
      (hlast : IsLast (fun other => other.routeName = name) partition.surplus ref) :
      Represents partition listeners name ref

theorem mem_tainted_iff_represents {ref : RouteRef} : ref ∈ partition.tainted listeners ↔
    partition.Represents listeners ref.routeName ref := by
  refine NameMap.mem_values_ofList_keyed_iff.trans ?_
  rw [isLast_append, isLast_map]
  simp only [isLast_filter, Pairing.clashes_iff, List.mem_map, List.mem_filter]
  constructor
  · rintro (⟨pairing, hlast, rfl⟩ | ⟨hnone, hlast⟩)
    · exact .inConflict hlast
    · refine .surplus ?_ hlast
      intro pairing hpairing hclashes
      exact hnone pairing.ref ⟨pairing, ⟨hpairing, hclashes⟩, rfl⟩
  · intro h
    cases h with
    | @inConflict pairing hlast => exact .inl ⟨pairing, hlast, rfl⟩
    | surplus hnone hlast =>
      refine .inr ⟨?_, hlast⟩
      rintro _ ⟨pairing, ⟨hpairing, hclashes⟩, rfl⟩
      exact hnone pairing hpairing hclashes

theorem Represents.routeName_eq {name : String} {ref : RouteRef}
    (h : partition.Represents listeners name ref) : ref.routeName = name := by
  cases h with
  | inConflict hlast => exact hlast.holds.2
  | surplus _ hlast => exact hlast.holds

theorem exists_represents_iff {name : String} : (∃ ref, partition.Represents listeners name ref) ↔
    (∃ ref ∈ partition.surplus, ref.routeName = name) ∨
      ∃ pairing ∈ partition.matched, pairing.Clashes listeners ∧ pairing.ref.routeName = name := by
  rw [← exists_isLast_iff, ← exists_isLast_iff]
  constructor
  · rintro ⟨_, ⟨hlast⟩ | ⟨_, hlast⟩⟩
    · exact .inr ⟨_, hlast⟩
    · exact .inl ⟨_, hlast⟩
  · intro h
    by_cases hclash : ∃ pairing, IsLast (fun other => other.Clashes listeners ∧
        other.ref.routeName = name) partition.matched pairing
    · obtain ⟨pairing, hlast⟩ := hclash
      exact ⟨pairing.ref, .inConflict hlast⟩
    · -- nothing in conflict has the name, so a surplus ref keeps it
      obtain ⟨ref, hlast⟩ := h.resolve_right hclash
      rw [exists_isLast_iff] at hclash
      refine ⟨ref, .surplus ?_ hlast⟩
      intro pairing hpairing hclashes hname
      exact hclash ⟨pairing, hpairing, hclashes, hname⟩

/-- Whatever the parts are, what is tainted stands in strictly ascending order of names. Its names
are those of the surplus refs and of the refs that are paired with a route in conflict. One ref
stands for each name: that of the last pairing in conflict, or else the last surplus one. -/
theorem tainted_by_name (partition : Partition) (listeners : List PortMapping) :
    InNameOrder RouteRef.routeName (partition.tainted listeners) ∧
    (∀ name, name ∈ (partition.tainted listeners).map RouteRef.routeName ↔
      (∃ ref ∈ partition.surplus, ref.routeName = name) ∨
        ∃ pairing ∈ partition.matched, pairing.Clashes listeners ∧
          pairing.ref.routeName = name) ∧
    ∀ name ref, ref ∈ partition.tainted listeners ∧ ref.routeName = name ↔
      partition.Represents listeners name ref := by
  have hmem (name : String) (ref : RouteRef) : ref ∈ partition.tainted listeners ∧
      ref.routeName = name ↔ partition.Represents listeners name ref := by
    constructor
    · rintro ⟨htainted, rfl⟩
      exact mem_tainted_iff_represents.1 htainted
    · intro h
      have hname := h.routeName_eq
      exact ⟨mem_tainted_iff_represents.2 (hname.symm ▸ h), hname⟩
  refine ⟨inNameOrder_of_ascending (partition.ascending_tainted listeners), ?_, hmem⟩
  intro name
  rw [← exists_represents_iff, List.mem_map]
  exact exists_congr (hmem name)

end Partition

namespace Rehearsal.Sample

/-- A ref of some owner, so that refs of one name can be told apart. -/
def ownedRef (owner name : String) : RouteRef :=
  { (Remote.RouterRef.of mesh router).route name with meshOwner := some owner }

/-- Surplus refs share a name with each other and with refs that are paired, and a route that fits
is paired with the ref of another one. -/
def tangled : Partition where
  matched := [⟨portRoute "clashing" 443, ownedRef "1" "b"⟩,
    ⟨portRoute "clashing" 443, ownedRef "2" "b"⟩, ⟨portRoute "fitting" 80, ownedRef "3" "a"⟩]
  missing := []
  surplus := [ownedRef "4" "b", ownedRef "5" "a", ownedRef "6" "a"]

example : tangled.tainted Sample.listeners = [ownedRef "6" "a", ownedRef "2" "b"] := rfl

end Rehearsal.Sample

end MeshRoutes

import MeshRoutes.Proofs.Duplicates
/-!
# The partition is exact

Where no name is repeated, every declared route and every listed ref has one place in the partition:
those of one name are paired, and the others are missing or surplus. Each part is in ascending order
of names, which are compared by their code points.

* `Partition.Exact` : what is said of the parts and of the places.
* `Partition.exists_exact` : the partition that unique names have.
-/

namespace MeshRoutes

open Declared Remote

/-- The code points of a name, by which names are compared. -/
def codePoints (name : String) : List Nat :=
  name.toList.map Char.toNat

theorem codePoints_lt {a b : String} (h : a < b) : codePoints a < codePoints b :=
  List.map_lt (fun _ _ hlt => hlt) (String.lt_iff.1 h)

variable {α : Type}

/-- Items in strictly ascending order of their names. -/
def InNameOrder (name : α → String) (items : List α) : Prop :=
  items.Pairwise fun a b => codePoints (name a) < codePoints (name b)

theorem inNameOrder_of_ascending {name : α → String} {items : List α}
    (h : items.Pairwise fun a b => name a < name b) : InNameOrder name items :=
  h.imp codePoints_lt

/-- Items that are told by their names are the same up to their order if their members are. -/
theorem perm_of_nodup_names {name : α → String} {a b : List α} (ha : (a.map name).Nodup)
    (hb : (b.map name).Nodup) (h : ∀ item, item ∈ a ↔ item ∈ b) : a.Perm b :=
  (List.perm_ext_iff_of_nodup (.of_map name ha) (.of_map name hb)).2 h

namespace Partition

variable {routes : List Route} {refs : List RouteRef} {partition : Partition}

/-- What the parts of a partition are, for the declared routes and the listed refs. -/
structure Exact (routes : List Route) (refs : List RouteRef) (partition : Partition) : Prop where
  matched_inOrder : InNameOrder (fun pairing => pairing.route.name) partition.matched
  missing_inOrder : InNameOrder Route.name partition.missing
  surplus_inOrder : InNameOrder RouteRef.routeName partition.surplus
  mem_matched_iff : ∀ pairing, pairing ∈ partition.matched ↔
    pairing.route ∈ routes ∧ pairing.ref ∈ refs ∧ pairing.ref.routeName = pairing.route.name
  mem_missing_iff : ∀ route, route ∈ partition.missing ↔
    route ∈ routes ∧ ∀ ref ∈ refs, ref.routeName ≠ route.name
  mem_surplus_iff : ∀ ref, ref ∈ partition.surplus ↔
    ref ∈ refs ∧ ∀ route ∈ routes, route.name ≠ ref.routeName
  /-- Every declared route has one place, and is there as it was declared. -/
  routes_perm : (partition.missing ++ partition.matched.map Pairing.route).Perm routes
  /-- Every listed ref has one place, and is there as it was listed. -/
  refs_perm : (partition.surplus ++ partition.matched.map Pairing.ref).Perm refs

section Places

variable (h : Partition.of routes refs = .ok partition)

include h

theorem mem_routes_iff {route : Route} :
    route ∈ partition.missing ++ partition.matched.map Pairing.route ↔ route ∈ routes := by
  rw [List.mem_append, List.mem_map]
  constructor
  · rintro (hmissing | ⟨pairing, hpairing, rfl⟩)
    · exact ((mem_missing h).1 hmissing).1
    · exact ((mem_matched h).1 hpairing).1
  · intro hroute
    apply (exists_missing_or_matched h hroute).imp_right
    rintro ⟨ref, hmatched⟩
    exact ⟨⟨route, ref⟩, hmatched, rfl⟩

theorem mem_refs_iff {ref : RouteRef} :
    ref ∈ partition.surplus ++ partition.matched.map Pairing.ref ↔ ref ∈ refs := by
  rw [List.mem_append, List.mem_map]
  constructor
  · rintro (hsurplus | ⟨pairing, hpairing, rfl⟩)
    · exact ((mem_surplus h).1 hsurplus).1
    · exact ((mem_matched h).1 hpairing).2.1
  · intro href
    by_cases hdeclared : ref.routeName ∈ routes.map Route.name
    · obtain ⟨route, hroute, hname⟩ := List.mem_map.1 hdeclared
      exact .inr ⟨⟨route, ref⟩, (mem_matched h).2 ⟨hroute, href, hname.symm⟩, rfl⟩
    · exact .inl ((mem_surplus h).2 ⟨href, hdeclared⟩)

theorem routes_perm : (partition.missing ++ partition.matched.map Pairing.route).Perm routes := by
  refine perm_of_nodup_names ?_ (nodup_of_ok h).1 fun _ => mem_routes_iff h
  rw [List.map_append, List.map_map]
  exact nodup_names h

theorem refs_perm : (partition.surplus ++ partition.matched.map Pairing.ref).Perm refs := by
  refine perm_of_nodup_names ?_ (nodup_of_ok h).2 fun _ => mem_refs_iff h
  rw [List.map_append, List.map_map]
  exact nodup_refNames h

end Places

/-- Where no name is repeated, there is a partition, and it is exact. -/
theorem exists_exact (hunique : UniqueNames routes refs) :
    ∃ partition, Partition.of routes refs = .ok partition ∧ partition.Exact routes refs := by
  obtain ⟨partition, h⟩ := exists_of_nodup hunique.1 hunique.2
  refine ⟨partition, h, {
    matched_inOrder := inNameOrder_of_ascending (ascending_matched h)
    missing_inOrder := inNameOrder_of_ascending (ascending_missing h)
    surplus_inOrder := inNameOrder_of_ascending (ascending_surplus h)
    mem_matched_iff := fun _ => mem_matched h
    mem_missing_iff := by simp [mem_missing h]
    mem_surplus_iff := by simp [mem_surplus h]
    routes_perm := routes_perm h
    refs_perm := refs_perm h }⟩

end Partition

namespace Rehearsal.Sample

/-- By their code points, the first of these names is the last one. -/
def scripts : List Declared.Route := [route "😀", route "kept", route "\uffff"]

end Rehearsal.Sample

namespace Partition

open Rehearsal in
theorem exists_exact_on_sample :
    ∃ partition, Partition.of Sample.scripts (Sample.addresses ["kept", "gone"]) =
        .ok partition ∧
      partition.Exact Sample.scripts (Sample.addresses ["kept", "gone"]) ∧
      partition.missing.map Route.name = ["\uffff", "😀"] := by
  have hunique : UniqueNames Sample.scripts (Sample.addresses ["kept", "gone"]) :=
    ⟨by decide, by decide⟩
  obtain ⟨partition, h, hexact⟩ := exists_exact hunique
  refine ⟨partition, h, hexact, ?_⟩
  cases h
  rfl

end Partition

end MeshRoutes

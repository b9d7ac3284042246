import MeshRoutes.Proofs.Partition
/-!
# Routes that fit the listeners

A route fits if every port that it matches is bound to the protocol that it is matched by.
What is tainted is what is listed under a name of which no declared route fits.
-/

namespace MeshRoutes

open Declared Remote

variable {listeners : List PortMapping} {port : UInt16} {protocol : Protocol}

/-- The last listener on the port speaks the protocol. -/
def Bound (listeners : List PortMapping) (port : UInt16) (protocol : Protocol) : Prop :=
  ∃ before after, listeners = before ++ ⟨port, protocol⟩ :: after ∧
    ∀ later ∈ after, later.port ≠ port

theorem boundProtocol?_eq_some_iff :
    boundProtocol? listeners port = some protocol ↔ Bound listeners port protocol := by
  simp only [boundProtocol?, Option.map_eq_some_iff, List.find?_eq_some_iff_append, beq_iff_eq,
    List.reverse_eq_append_iff, List.reverse_cons, List.append_assoc, List.singleton_append]
  constructor
  · rintro ⟨⟨_, _⟩, ⟨rfl, later, before, hsplit, hlater⟩, rfl⟩
    refine ⟨before.reverse, later.reverse, hsplit, ?_⟩
    intro mapping hmem
    simpa using hlater mapping (List.mem_reverse.1 hmem)
  · rintro ⟨before, after, rfl, hafter⟩
    refine ⟨⟨port, protocol⟩, ⟨rfl, after.reverse, before.reverse, by simp, ?_⟩, rfl⟩
    intro mapping hmem
    simpa using hafter mapping (List.mem_reverse.1 hmem)

/-- Every port that the route matches is bound to the protocol that it is matched by. -/
def Declared.Route.Fits (listeners : List PortMapping) (route : Route) : Prop :=
  ∀ protocol port, (protocol, port) ∈ route.matchPorts → Bound listeners port protocol

theorem Declared.Route.conflict?_isSome_iff {route : Route} :
    (route.conflict? listeners).isSome ↔ ¬route.Fits listeners := by
  rw [← not_iff_not, not_not, Option.not_isSome_iff_eq_none, conflict?,
    List.findSome?_eq_none_iff, Prod.forall]
  refine forall₂_congr fun protocol port => imp_congr_right fun _ => ?_
  rw [ite_eq_left_iff, ← boundProtocol?_eq_some_iff]
  constructor
  · intro h
    by_contra hne
    cases h hne
  · exact fun h hne => absurd h hne

/-- Some declared route of this name fits the listeners. -/
def Fitting (routes : List Route) (listeners : List PortMapping) (name : String) : Prop :=
  ∃ route ∈ routes, route.name = name ∧ route.Fits listeners

/-- What is tainted is what is listed and does not fit. -/
theorem Partition.mem_tainted_iff_not_fitting {routes : List Route} {refs : List RouteRef}
    {partition : Partition} (h : Partition.of routes refs = .ok partition) {ref : RouteRef} :
    ref ∈ partition.tainted listeners ↔
      ref ∈ refs ∧ ¬Fitting routes listeners ref.routeName := by
  rw [mem_tainted_iff h]
  refine and_congr_right fun _ => ?_
  simp only [Fitting, not_exists, not_and, Route.conflict?_isSome_iff]

end MeshRoutes

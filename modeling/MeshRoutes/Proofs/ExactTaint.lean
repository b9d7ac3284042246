import MeshRoutes.Proofs.ExactPartition
import MeshRoutes.Proofs.Rearrangement
import MeshRoutes.Proofs.Variants
/-!
# Taint is exact

A listed ref is tainted if no route of its name is declared, or if the one that is matches some port
by a protocol that the last listener on the port does not speak. Of the listeners this needs no more
than the last one on each port, so it does not matter in which order those of distinct ports stand.

* `Unserved` : a port whose last listener is absent or speaks another protocol.
* `Rearranged` : listeners in another order, those of one port kept in theirs.
* `taintedRefs_exact` : the refs that are tainted, and what does not change them.
-/

namespace MeshRoutes

open Declared Remote

variable {listeners listeners' : List PortMapping} {port : UInt16} {protocol : Protocol}

/-! ## The last listener on a port -/

/-- There is no listener on the port, or the last one speaks another protocol. -/
def Unserved (listeners : List PortMapping) (port : UInt16) (protocol : Protocol) : Prop :=
  (∀ listener ∈ listeners, listener.port ≠ port) ∨
    ∃ other, other ≠ protocol ∧ Bound listeners port other

theorem boundProtocol?_eq_none_iff :
    boundProtocol? listeners port = none ↔ ∀ listener ∈ listeners, listener.port ≠ port := by
  simp [boundProtocol?]

theorem unserved_iff : Unserved listeners port protocol ↔ ¬Bound listeners port protocol := by
  simp only [Unserved, ← boundProtocol?_eq_none_iff, ← boundProtocol?_eq_some_iff]
  cases boundProtocol? listeners port with
  | none => simp
  | some bound => simp [eq_comm]

theorem boundProtocol?_cons (listener : PortMapping) (rest : List PortMapping) (port : UInt16) :
    boundProtocol? (listener :: rest) port = (boundProtocol? rest port).or
      (if listener.port = port then some listener.protocol else none) := by
  rw [boundProtocol?, List.reverse_cons, List.find?_append, Option.map_or, boundProtocol?]
  congr 1
  by_cases h : listener.port = port <;> simp [h]

/-! ## The order of the listeners -/

/-- Listeners in another order, come to by exchanging neighbours that are on distinct ports. -/
inductive Rearranged : List PortMapping → List PortMapping → Prop
  | nil : Rearranged [] []
  | cons (listener : PortMapping) {rest rest' : List PortMapping} (h : Rearranged rest rest') :
      Rearranged (listener :: rest) (listener :: rest')
  | swap {a b : PortMapping} (rest : List PortMapping) (h : a.port ≠ b.port) :
      Rearranged (a :: b :: rest) (b :: a :: rest)
  | trans {a b c : List PortMapping} (hab : Rearranged a b) (hbc : Rearranged b c) :
      Rearranged a c

/-- Where no port is repeated, any other order is such a rearrangement. -/
theorem Rearranged.of_perm (hperm : listeners.Perm listeners')
    (hports : (listeners.map PortMapping.port).Nodup) : Rearranged listeners listeners' := by
  induction hperm with
  | nil => exact .nil
  | cons listener _ ih => exact .cons listener (ih (List.nodup_cons.1 hports).2)
  | swap a b rest =>
    apply Rearranged.swap
    intro heq
    apply (List.nodup_cons.1 hports).1
    simp [heq]
  | trans hab _ ihab ihbc =>
    exact (ihab hports).trans (ihbc ((hab.map _).nodup_iff.1 hports))

theorem Rearranged.boundProtocol?_eq (h : Rearranged listeners listeners') (port : UInt16) :
    boundProtocol? listeners port = boundProtocol? listeners' port := by
  induction h with
  | nil => rfl
  | cons listener _ ih => rw [boundProtocol?_cons, boundProtocol?_cons, ih]
  | @swap a b rest hports =>
    simp only [boundProtocol?_cons, Option.or_assoc]
    congr 1
    by_cases ha : a.port = port
    · have hb : b.port ≠ port := fun hb => hports (ha.trans hb.symm)
      rw [if_neg hb, Option.none_or, Option.or_none]
    · rw [if_neg ha, Option.none_or, Option.or_none]
  | trans _ _ ihab ihbc => exact ihab.trans ihbc

theorem Partition.tainted_congr (partition : Partition)
    (h : ∀ port, boundProtocol? listeners port = boundProtocol? listeners' port) :
    partition.tainted listeners = partition.tainted listeners' := by
  simp only [tainted, Route.conflict?, h]

theorem taintedRefs_eq_of_rearranged {routes routes' : List Route} {refs refs' : List RouteRef}
    (hunique : Partition.UniqueNames routes refs) (hroutes : routes.Perm routes')
    (hrefs : refs.Perm refs') (hlisteners : Rearranged listeners listeners') :
    taintedRefs routes listeners refs = taintedRefs routes' listeners' refs' := by
  simp only [taintedRefs, Partition.of_eq_of_perm hroutes hrefs hunique,
    Partition.tainted_congr _ hlisteners.boundProtocol?_eq]

/-! ## What is tainted -/

section Tainted

variable {routes : List Route} {refs : List RouteRef}

/-- A route none of whose variants names a port fits all listeners. -/
theorem Declared.Route.fits_of_no_port {route : Route}
    (hfree : ∀ variant ∈ route.variants, variant.2 = none) : route.Fits listeners := by
  rw [fits_iff_forall_variants]
  intro protocol port hport
  cases hfree _ hport

theorem Declared.Route.not_fits_iff {route : Route} : ¬route.Fits listeners ↔
    ∃ protocol port, (protocol, port) ∈ route.matchPorts ∧ Unserved listeners port protocol := by
  simp only [Fits, unserved_iff, not_forall, exists_prop]

/-- Where no name is repeated, the routes of a name are one, or none at all. -/
theorem not_fitting_iff (hnodup : (routes.map Route.name).Nodup) {name : String} :
    ¬Fitting routes listeners name ↔ (∀ route ∈ routes, route.name ≠ name) ∨
      ∃ route ∈ routes, route.name = name ∧ ¬route.Fits listeners := by
  constructor
  · intro h
    by_cases hdeclared : ∃ route ∈ routes, route.name = name
    · obtain ⟨route, hroute, hname⟩ := hdeclared
      exact .inr ⟨route, hroute, hname, fun hfits => h ⟨route, hroute, hname, hfits⟩⟩
    · exact .inl fun route hroute hname => hdeclared ⟨route, hroute, hname⟩
  · rintro (hnone | ⟨route, hroute, hname, hfits⟩) ⟨other, hother, hsame, hfitting⟩
    · exact hnone other hother hsame
    · apply hfits
      rwa [List.inj_on_of_nodup_map hnodup hroute hother (hname.trans hsame.symm)]

/-- Where no name is repeated, the tainted refs are in strictly ascending order of names: those
whose name no route has, and those whose route names a port that is not served by its protocol. So
no declared route is tainted that names no port or that is not listed, and the order of the routes,
of the refs and of listeners on distinct ports does not matter, nor that of all listeners if no two
are on one port. -/
theorem taintedRefs_exact (hunique : Partition.UniqueNames routes refs)
    (listeners : List PortMapping) :
    ∃ tainted, taintedRefs routes listeners refs = .ok tainted ∧
      InNameOrder RouteRef.routeName tainted ∧
      (∀ ref, ref ∈ tainted ↔ ref ∈ refs ∧
        ((∀ route ∈ routes, route.name ≠ ref.routeName) ∨
          ∃ route ∈ routes, route.name = ref.routeName ∧ ∃ protocol port,
            (protocol, port) ∈ route.matchPorts ∧ Unserved listeners port protocol)) ∧
      (∀ route ∈ routes, (∀ variant ∈ route.variants, variant.2 = none) →
        route.name ∉ tainted.map RouteRef.routeName) ∧
      (∀ route ∈ routes, route.name ∉ refs.map RouteRef.routeName →
        route.name ∉ tainted.map RouteRef.routeName) ∧
      (∀ routes' refs' listeners', routes.Perm routes' → refs.Perm refs' →
        Rearranged listeners listeners' → taintedRefs routes' listeners' refs' = .ok tainted) ∧
      ((listeners.map PortMapping.port).Nodup → ∀ listeners', listeners.Perm listeners' →
        taintedRefs routes listeners' refs = .ok tainted) := by
  obtain ⟨partition, hof⟩ := Partition.exists_of_nodup hunique.1 hunique.2
  have htainted : taintedRefs routes listeners refs = .ok (partition.tainted listeners) := by
    rw [taintedRefs, hof]
    rfl
  have hmem (ref : RouteRef) : ref ∈ partition.tainted listeners ↔
      ref ∈ refs ∧ ¬Fitting routes listeners ref.routeName :=
    Partition.mem_tainted_iff_not_fitting hof
  have hsame (routes' : List Route) (refs' : List RouteRef) (listeners' : List PortMapping)
      (hroutes : routes.Perm routes') (hrefs : refs.Perm refs')
      (hlisteners : Rearranged listeners listeners') :
      taintedRefs routes' listeners' refs' = .ok (partition.tainted listeners) := by
    rw [← taintedRefs_eq_of_rearranged hunique hroutes hrefs hlisteners, htainted]
  refine ⟨partition.tainted listeners, htainted,
    inNameOrder_of_ascending (partition.ascending_tainted listeners), ?_, ?_, ?_, hsame, ?_⟩
  · intro ref
    rw [hmem, not_fitting_iff hunique.1]
    simp only [Route.not_fits_iff]
  · intro route hroute hfree hname
    obtain ⟨ref, href, heq⟩ := List.mem_map.1 hname
    exact ((hmem ref).1 href).2 ⟨route, hroute, heq.symm, Route.fits_of_no_port hfree⟩
  · intro route _ hunlisted hname
    obtain ⟨ref, href, heq⟩ := List.mem_map.1 hname
    exact hunlisted (List.mem_map.2 ⟨ref, ((hmem ref).1 href).1, heq⟩)
  · intro hports listeners' hlisteners
    exact hsame routes refs listeners' (.refl _) (.refl _) (.of_perm hlisteners hports)

end Tainted

namespace Rehearsal.Sample

/-- One of them clashes with the last listener on its port, and the last one is not listed. -/
def ported : List Route :=
  [portRoute "clashing" 443, portRoute "fitting" 80, route "kept", portRoute "added" 443]

end Rehearsal.Sample

open Rehearsal in
theorem taintedRefs_exact_on_sample :
    ∃ tainted, taintedRefs Sample.ported Sample.listeners
        (Sample.addresses ["kept", "gone", "fitting", "clashing"]) = .ok tainted ∧
      tainted.map RouteRef.routeName = ["clashing", "gone"] ∧
      "kept" ∉ tainted.map RouteRef.routeName ∧ "added" ∉ tainted.map RouteRef.routeName ∧
      taintedRefs Sample.ported.reverse [⟨80, .tcp⟩, ⟨443, .tcp⟩, ⟨443, .http⟩]
        (Sample.addresses ["kept", "gone", "fitting", "clashing"]).reverse = .ok tainted := by
  have hunique : Partition.UniqueNames Sample.ported
      (Sample.addresses ["kept", "gone", "fitting", "clashing"]) := ⟨by decide, by decide⟩
  obtain ⟨tainted, h, -, -, hfree, hunlisted, hsame, -⟩ :=
    taintedRefs_exact hunique Sample.listeners
  refine ⟨tainted, h, ?_, ?_, ?_, ?_⟩
  · cases h
    rfl
  · exact hfree (Sample.route "kept") (by decide) (by decide)
  · exact hunlisted (Sample.portRoute "added" 443) (by decide) (by decide)
  · exact hsame _ _ _ (List.reverse_perm _).symm (List.reverse_perm _).symm
      (.swap _ (by decide))

end MeshRoutes

import MeshRoutes.Proofs.ArnForm
import MeshRoutes.Proofs.Traversal
import MeshRoutes.Resolution
/-!
# What targets resolve to

A target resolves to the node that it names, by a reference or by an ARN but not by both. Otherwise
there is one reason why it does not. A list of targets resolves target by target, and the first one
that does not resolve gives the reason for all of them.

* `WeightedTarget.NamesNode` : the name of the node that a target means.
* `WeightedTarget.FailsBy` : why it means none.
* `mapM_resolve_eq_ok_iff`, `mapM_resolve_eq_error_iff` : what becomes of a list of targets.
-/

namespace MeshRoutes.Declared

variable {scope : Scope}

/-! ## Targets -/

/-- The target means the node of this name: by a reference that the table knows, in its own
namespace or else the router's, or by an ARN. -/
inductive WeightedTarget.NamesNode (scope : Scope) (target : WeightedTarget) : String → Prop
  | byReference {ref : NodeReference} {space name : String} (hnode : target.node = some ref)
      (harn : target.arn = none) (hspace : ref.space.or scope.space = some space)
      (hknown : scope.nodes.get? ⟨space, ref.name⟩ = some name) : NamesNode scope target name
  | byArn {arn : VirtualNode.Arn} (hnode : target.node = none) (harn : target.arn = some arn.render)
      (hform : arn.WellFormed) : NamesNode scope target arn.node

/-- Why the target means no node. -/
inductive WeightedTarget.FailsBy (scope : Scope) (target : WeightedTarget) : Defect → Prop
  | ambiguous (hsame : target.node.isSome = target.arn.isSome) :
      FailsBy scope target .ambiguousTarget
  | nowhere {ref : NodeReference} (hnode : target.node = some ref) (harn : target.arn = none)
      (hown : ref.space = none) (hrouter : scope.space = none) :
      FailsBy scope target .missingNamespace
  | unknown {ref : NodeReference} {space : String} (hnode : target.node = some ref)
      (harn : target.arn = none) (hspace : ref.space.or scope.space = some space)
      (hunknown : scope.nodes.get? ⟨space, ref.name⟩ = none) :
      FailsBy scope target (.unknownNode ⟨space, ref.name⟩)
  | malformed {text : String} (hnode : target.node = none) (harn : target.arn = some text)
      (hform : ∀ arn : VirtualNode.Arn, arn.WellFormed → text ≠ arn.render) :
      FailsBy scope target (.invalidArn text)

theorem NodeReference.resolve_eq_ok_iff {ref : NodeReference} {name : String} :
    ref.resolve scope = .ok name ↔ ∃ space, ref.space.or scope.space = some space ∧
      scope.nodes.get? ⟨space, ref.name⟩ = some name := by
  rw [resolve]
  cases ref.space.or scope.space with
  | none => simp
  | some space => cases hname : scope.nodes.get? ⟨space, ref.name⟩ <;> simp [hname]

theorem NodeReference.resolve_eq_error_iff {ref : NodeReference} {defect : Defect} :
    ref.resolve scope = .error defect ↔
      (ref.space.or scope.space = none ∧ defect = .missingNamespace) ∨
      ∃ space, ref.space.or scope.space = some space ∧
        scope.nodes.get? ⟨space, ref.name⟩ = none ∧ defect = .unknownNode ⟨space, ref.name⟩ := by
  rw [resolve]
  cases ref.space.or scope.space with
  | none => simp [eq_comm]
  | some space => cases hname : scope.nodes.get? ⟨space, ref.name⟩ <;> simp [hname, eq_comm]

theorem WeightedTarget.nodeName_eq_ok_iff {target : WeightedTarget} {name : String} :
    target.nodeName scope = .ok name ↔ target.NamesNode scope name := by
  constructor
  · intro h
    rw [nodeName] at h
    split at h
    case h_1 ref hnode harn =>
      obtain ⟨space, hspace, hknown⟩ := NodeReference.resolve_eq_ok_iff.1 h
      exact .byReference hnode harn hspace hknown
    case h_2 text hnode harn =>
      split at h
      case h_1 arn hread =>
        cases h
        obtain ⟨rfl, hform⟩ := VirtualNode.Arn.read?_eq_some_iff.1 hread
        exact .byArn hnode harn hform
      case h_2 => cases h
    case h_3 => cases h
  · rintro (⟨hnode, harn, hspace, hknown⟩ | ⟨hnode, harn, hform⟩)
    · rw [nodeName, hnode, harn]
      exact NodeReference.resolve_eq_ok_iff.2 ⟨_, hspace, hknown⟩
    · rw [nodeName, hnode, harn]
      dsimp only
      rw [VirtualNode.Arn.read?_eq_some_iff.2 ⟨rfl, hform⟩]

theorem WeightedTarget.nodeName_eq_error_iff {target : WeightedTarget} {defect : Defect} :
    target.nodeName scope = .error defect ↔ target.FailsBy scope defect := by
  constructor
  · intro h
    rw [nodeName] at h
    split at h
    case h_1 ref hnode harn =>
      obtain ⟨hspace, rfl⟩ | ⟨space, hspace, hunknown, rfl⟩ :=
        NodeReference.resolve_eq_error_iff.1 h
      · obtain ⟨hown, hrouter⟩ := Option.or_eq_none_iff.1 hspace
        exact .nowhere hnode harn hown hrouter
      · exact .unknown hnode harn hspace hunknown
    case h_2 text hnode harn =>
      split at h
      case h_1 => cases h
      case h_2 hread =>
        cases h
        exact .malformed hnode harn (VirtualNode.Arn.read?_eq_none_iff.1 hread)
    case h_3 hreference harn =>
      cases h
      refine .ambiguous ?_
      -- neither of them, or both
      rcases target with ⟨_ | ref, _ | text, weight, port⟩
      · rfl
      · exact (harn text rfl rfl).elim
      · exact (hreference ref rfl rfl).elim
      · rfl
  · rintro (hsame | ⟨hnode, harn, hown, hrouter⟩ | ⟨hnode, harn, hspace, hunknown⟩ |
      ⟨hnode, harn, hform⟩)
    · rcases target with ⟨_ | ref, _ | text, weight, port⟩
      · rfl
      · cases hsame
      · cases hsame
      · rfl
    · rw [nodeName, hnode, harn]
      exact NodeReference.resolve_eq_error_iff.2 (.inl ⟨by rw [hown, hrouter]; rfl, rfl⟩)
    · rw [nodeName, hnode, harn]
      exact NodeReference.resolve_eq_error_iff.2 (.inr ⟨_, hspace, hunknown, rfl⟩)
    · rw [nodeName, hnode, harn]
      dsimp only
      rw [VirtualNode.Arn.read?_eq_none_iff.2 hform]

/-! ## Resolved targets -/

/-- The target resolves to the node that it names, with its weight and its port. -/
structure WeightedTarget.ResolvesTo (scope : Scope) (target : WeightedTarget)
    (resolved : Remote.WeightedTarget) : Prop where
  node : target.NamesNode scope resolved.node
  weight : resolved.weight = target.weight
  port : resolved.port = target.port

theorem WeightedTarget.resolve_eq_ok_iff {target : WeightedTarget}
    {resolved : Remote.WeightedTarget} :
    target.resolve scope = .ok resolved ↔ target.ResolvesTo scope resolved := by
  rw [resolve, bind_eq_ok_iff]
  simp only [nodeName_eq_ok_iff]
  constructor
  · rintro ⟨node, hnode, ⟨⟩⟩
    exact ⟨hnode, rfl, rfl⟩
  · rintro ⟨hnode, hweight, hport⟩
    refine ⟨resolved.node, hnode, ?_⟩
    rw [← hweight, ← hport]
    rfl

theorem WeightedTarget.exists_resolvesTo_iff {target : WeightedTarget} :
    (∃ resolved, target.ResolvesTo scope resolved) ↔ ∃ name, target.NamesNode scope name := by
  constructor
  · rintro ⟨resolved, h⟩
    exact ⟨resolved.node, h.node⟩
  · rintro ⟨name, h⟩
    exact ⟨⟨name, target.weight, target.port⟩, h, rfl, rfl⟩

theorem WeightedTarget.resolve_eq_error_iff {target : WeightedTarget} {defect : Defect} :
    target.resolve scope = .error defect ↔ target.FailsBy scope defect := by
  rw [resolve, bind_eq_error_iff, nodeName_eq_error_iff]
  simp [pure, Except.pure]

/-! ## Lists of targets -/

variable {targets : List WeightedTarget}

theorem mapM_resolve_eq_ok_iff {resolved : List Remote.WeightedTarget} :
    targets.mapM (WeightedTarget.resolve scope) = .ok resolved ↔
      List.Forall₂ (WeightedTarget.ResolvesTo scope) targets resolved := by
  simp only [mapM_eq_ok_iff, WeightedTarget.resolve_eq_ok_iff]

theorem exists_mapM_resolve_eq_ok_iff :
    (∃ resolved, targets.mapM (WeightedTarget.resolve scope) = .ok resolved) ↔
      ∀ target ∈ targets, ∃ name, target.NamesNode scope name := by
  simp only [exists_mapM_eq_ok_iff, WeightedTarget.resolve_eq_ok_iff,
    WeightedTarget.exists_resolvesTo_iff]

theorem mapM_resolve_eq_error_iff {defect : Defect} :
    targets.mapM (WeightedTarget.resolve scope) = .error defect ↔
      ∃ before target behind, targets = before ++ target :: behind ∧
        (∀ earlier ∈ before, ∃ name, earlier.NamesNode scope name) ∧
        target.FailsBy scope defect := by
  simp only [mapM_eq_error_iff, WeightedTarget.resolve_eq_ok_iff,
    WeightedTarget.exists_resolvesTo_iff, WeightedTarget.resolve_eq_error_iff]

end MeshRoutes.Declared

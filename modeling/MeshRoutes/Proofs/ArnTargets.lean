import Mathlib.Data.List.Induction
import MeshRoutes.Proofs.SoleVariant
/-!
# Targets that ARNs name

Where a route names all its targets by ARNs alone, neither the router nor the table of nodes matters:
the route has a spec if each ARN is well-formed, and the first one that is not is reported. The ARN of
a virtual node has the service of meshes in it, but the service is not looked at, and the ARN of a
node of another service is taken for one. Asking for the service would make a difference exactly where
such an ARN is the first that is not of a mesh.

* `WeightedTarget.NamedByArn` : the node that an ARN of some form names.
* `WeightedTarget.nodeName_by_form` : what a text is read as where it is all that names a target.
* `Route.ResolvedByForm` : what becomes of a route if the ARNs of a form are those that name nodes.
* `Route.resolve_by_arns` : what the form is, and where it is as good as that of meshes.
-/

namespace MeshRoutes

namespace VirtualNode.Arn

/-- The form of an ARN of a virtual node: its parts can be told apart, and its service is the one
that meshes belong to. -/
structure OfMesh (arn : Arn) : Prop where
  wellFormed : arn.WellFormed
  service : arn.service = "appmesh"

end VirtualNode.Arn

namespace Declared

open VirtualNode

variable {scope : Scope} {target : WeightedTarget} {name : String}

/-! ## One target -/

/-- The target is named by an ARN and by nothing else. -/
def WeightedTarget.ByArn (target : WeightedTarget) : Prop :=
  target.node = none ∧ target.arn.isSome = true

/-- The target is named by an ARN of the form, and this is the name of the node in it. -/
def WeightedTarget.NamedByArn (form : Arn → Prop) (target : WeightedTarget) (name : String) :
    Prop :=
  ∃ arn, form arn ∧ target.arn = some arn.render ∧ arn.node = name

theorem WeightedTarget.ByArn.namesNode_iff (h : target.ByArn) :
    target.NamesNode scope name ↔ target.NamedByArn Arn.WellFormed name := by
  constructor
  · intro hnames
    cases hnames with
    | byReference hnode => cases h.1.symm.trans hnode
    | byArn _ harn hform => exact ⟨_, hform, harn, rfl⟩
  · rintro ⟨arn, hform, harn, rfl⟩
    exact .byArn h.1 harn hform

theorem WeightedTarget.ByArn.failsBy_iff (h : target.ByArn) {defect : Defect} :
    target.FailsBy scope defect ↔ ∃ text, target.arn = some text ∧
      (¬∃ name, target.NamedByArn Arn.WellFormed name) ∧ defect = .invalidArn text := by
  constructor
  · intro hfails
    cases hfails with
    | ambiguous hsame =>
      rw [h.1, h.2] at hsame
      cases hsame
    | nowhere hnode => cases h.1.symm.trans hnode
    | unknown hnode => cases h.1.symm.trans hnode
    | malformed _ harn hform =>
      refine ⟨_, harn, ?_, rfl⟩
      rintro ⟨_, arn, hwellFormed, hrender, _⟩
      exact hform arn hwellFormed (Option.some.inj (harn.symm.trans hrender))
  · rintro ⟨text, harn, hunnamed, rfl⟩
    refine .malformed h.1 harn ?_
    rintro arn hform rfl
    exact hunnamed ⟨_, arn, hform, harn, rfl⟩

theorem WeightedTarget.exists_namedByArn_iff {form : Arn → Prop} :
    (∃ name, target.NamedByArn form name) ↔
      ∃ arn, form arn ∧ target.arn = some arn.render := by
  constructor
  · rintro ⟨_, arn, hform, harn, _⟩
    exact ⟨arn, hform, harn⟩
  · rintro ⟨arn, hform, harn⟩
    exact ⟨arn.node, arn, hform, harn, rfl⟩

/-- Where a target is named by a text alone, the text is read by the form of ARNs: it is written from
well-formed parts, and from no other ones, and the target means the node among them. Any other text
is reported as it stands. -/
theorem WeightedTarget.nodeName_by_form (scope : Scope) (target : WeightedTarget) (text : String)
    (hnode : target.node = none) (harn : target.arn = some text) :
    (∀ name, target.nodeName scope = .ok name ↔
      ∃ arn : Arn, arn.WellFormed ∧ text = arn.render ∧ arn.node = name) ∧
    (∀ arn other : Arn, arn.WellFormed → other.WellFormed → text = arn.render →
      text = other.render → arn = other) ∧
    ∀ defect, target.nodeName scope = .error defect ↔
      (¬∃ arn : Arn, arn.WellFormed ∧ text = arn.render) ∧ defect = .invalidArn text := by
  have hbyArn : target.ByArn := ⟨hnode, by rw [harn]; rfl⟩
  refine ⟨?_, ?_, ?_⟩
  · intro name
    rw [nodeName_eq_ok_iff, hbyArn.namesNode_iff, NamedByArn, harn]
    simp only [Option.some_inj]
  · rintro arn other hform hother rfl hrender
    exact hform.render_inj hother hrender
  · intro defect
    rw [nodeName_eq_error_iff, hbyArn.failsBy_iff, exists_namedByArn_iff, harn]
    simp only [Option.some_inj, exists_eq_left']

open Rehearsal in
theorem WeightedTarget.nodeName_by_form_on_sample :
    Sample.toEdge.nodeName ⟨none, {}⟩ = .ok "edge" ∧
      (∀ arn : Arn, arn.WellFormed →
        "arn:aws:appmesh:eu-west-1:1:mesh/mesh/virtualNode/edge" = arn.render →
          arn = Sample.edgeArn) ∧
      ({ arn := some "arn:aws:appmesh:eu-west-1:1:mesh/mesh/virtualRouter/edge", weight := 1 } :
          WeightedTarget).nodeName ⟨none, {}⟩ =
        .error (.invalidArn "arn:aws:appmesh:eu-west-1:1:mesh/mesh/virtualRouter/edge") := by
  obtain ⟨hok, hunique, -⟩ := nodeName_by_form ⟨none, {}⟩ Sample.toEdge _ rfl rfl
  obtain ⟨-, -, herror⟩ := nodeName_by_form ⟨none, {}⟩
    { arn := some "arn:aws:appmesh:eu-west-1:1:mesh/mesh/virtualRouter/edge", weight := 1 } _ rfl rfl
  refine ⟨(hok "edge").2 ⟨_, Sample.edgeArn_wellFormed, rfl, rfl⟩, ?_, (herror _).2 ⟨?_, rfl⟩⟩
  · intro arn harn htext
    exact hunique arn _ harn Sample.edgeArn_wellFormed htext rfl
  · rintro ⟨arn, harn, htext⟩
    exact Arn.read?_eq_none_iff.1 rfl arn harn htext

theorem WeightedTarget.NamedByArn.wellFormed (h : target.NamedByArn Arn.OfMesh name) :
    target.NamedByArn Arn.WellFormed name := by
  obtain ⟨arn, hform, harn, hname⟩ := h
  exact ⟨arn, hform.wellFormed, harn, hname⟩

/-- What is in an ARN does not depend on the form that it is looked at by. -/
theorem WeightedTarget.NamedByArn.ofMesh {other : String}
    (h : target.NamedByArn Arn.WellFormed name) (hmesh : target.NamedByArn Arn.OfMesh other) :
    target.NamedByArn Arn.OfMesh name := by
  obtain ⟨arn, hform, harn, rfl⟩ := h
  obtain ⟨meshArn, hmeshForm, hmeshArn, rfl⟩ := hmesh
  have hrender : arn.render = meshArn.render := Option.some.inj (harn.symm.trans hmeshArn)
  cases hform.render_inj hmeshForm.wellFormed hrender
  exact ⟨arn, hmeshForm, harn, rfl⟩

/-! ## The targets of a route -/

/-- What becomes of a route with this one variant if ARNs of the form name nodes and no others do. -/
structure Route.ResolvedByForm (form : Arn → Prop) (scope : Scope) (route : Route)
    (variant : Variant) : Prop where
  exists_spec_iff : (∃ spec, route.resolve scope = .ok spec) ↔
    ∀ target ∈ variant.targets, ∃ name, target.NamedByArn form name
  named : ∀ spec, route.resolve scope = .ok spec →
    ∃ resolved, spec.setVariants = [resolved] ∧
      List.Forall₂ (fun target remote => target.NamedByArn form remote.node) variant.targets
        resolved.targets
  error_iff : ∀ defect, route.resolve scope = .error defect ↔
    ∃ before target behind text, variant.targets = before ++ target :: behind ∧
      (∀ earlier ∈ before, ∃ name, earlier.NamedByArn form name) ∧ target.arn = some text ∧
      (¬∃ name, target.NamedByArn form name) ∧ defect = .invalidArn text

variable {route : Route} {variant : Variant}

theorem Route.resolvedByForm_wellFormed (hsole : route.setVariants = [variant])
    (harns : ∀ target ∈ variant.targets, target.ByArn) :
    route.ResolvedByForm Arn.WellFormed scope variant where
  exists_spec_iff := by
    rw [resolve_of_sole hsole, exists_map_eq_ok_iff, exists_mapM_resolve_eq_ok_iff]
    refine forall₂_congr fun target htarget => ?_
    simp only [(harns target htarget).namesNode_iff]
  named := by
    intro spec hspec
    obtain ⟨_, targets, hvariant, htargets, rfl⟩ := resolve_eq_ok_iff.1 hspec
    cases hsole.symm.trans hvariant
    refine ⟨variant.remote targets, Remote.Variant.setVariants_spec _ _, ?_⟩
    rw [variant.targets_remote]
    have hboth := (List.forall₂_and_left _ _).2 ⟨harns, htargets⟩
    exact hboth.imp fun target remote h => h.1.namesNode_iff.1 h.2.node
  error_iff := by
    intro defect
    rw [resolve_of_sole hsole, map_eq_error_iff, mapM_resolve_eq_error_iff]
    constructor
    · rintro ⟨before, target, behind, hsplit, hbefore, hfails⟩
      have hmem : ∀ earlier ∈ before ++ target :: behind, earlier.ByArn := hsplit ▸ harns
      obtain ⟨text, harn, hunnamed, hdefect⟩ := (hmem target (by simp)).failsBy_iff.1 hfails
      refine ⟨before, target, behind, text, hsplit, ?_, harn, hunnamed, hdefect⟩
      intro earlier hearlier
      obtain ⟨name, hname⟩ := hbefore earlier hearlier
      exact ⟨name, (hmem earlier (List.mem_append_left _ hearlier)).namesNode_iff.1 hname⟩
    · rintro ⟨before, target, behind, text, hsplit, hbefore, harn, hunnamed, hdefect⟩
      have hmem : ∀ earlier ∈ before ++ target :: behind, earlier.ByArn := hsplit ▸ harns
      refine ⟨before, target, behind, hsplit, ?_,
        (hmem target (by simp)).failsBy_iff.2 ⟨text, harn, hunnamed, hdefect⟩⟩
      intro earlier hearlier
      obtain ⟨name, hname⟩ := hbefore earlier hearlier
      exact ⟨name, (hmem earlier (List.mem_append_left _ hearlier)).namesNode_iff.2 hname⟩

/-! ## The service in an ARN -/

/-- The first ARN that is not of the form of meshes is that of another service. -/
def Variant.ForeignFirst (variant : Variant) : Prop :=
  ∃ before target behind, variant.targets = before ++ target :: behind ∧
    (∀ earlier ∈ before, ∃ name, earlier.NamedByArn Arn.OfMesh name) ∧
    ∃ arn : Arn, arn.WellFormed ∧ target.arn = some arn.render ∧ arn.service ≠ "appmesh"

/-- As long as the ARNs are well-formed, they are those of meshes. -/
theorem Variant.ofMesh_of_wellFormed (hforeign : ¬variant.ForeignFirst)
    {front behind : List WeightedTarget} (hsplit : variant.targets = front ++ behind)
    (hfront : ∀ target ∈ front, ∃ name, target.NamedByArn Arn.WellFormed name) :
    ∀ target ∈ front, ∃ name, target.NamedByArn Arn.OfMesh name := by
  induction front using List.reverseRecOn generalizing behind with
  | nil => exact nofun
  | append_singleton front last ih =>
    rw [List.append_assoc, List.singleton_append] at hsplit
    have hmesh := ih hsplit fun target htarget => hfront target (List.mem_append_left _ htarget)
    intro target htarget
    rcases List.mem_append.1 htarget with htarget | htarget
    · exact hmesh target htarget
    · -- the ARNs in front are those of meshes, so this one is not of another service
      rw [List.mem_singleton.1 htarget]
      obtain ⟨name, arn, hform, harn, hname⟩ := hfront last (by simp)
      have hservice : arn.service = "appmesh" := by
        by_contra hother
        exact hforeign ⟨front, last, behind, hsplit, hmesh, arn, hform, harn, hother⟩
      exact ⟨name, arn, ⟨hform, hservice⟩, harn, hname⟩

theorem Route.ResolvedByForm.ofMesh (h : route.ResolvedByForm Arn.WellFormed scope variant)
    (hforeign : ¬variant.ForeignFirst) : route.ResolvedByForm Arn.OfMesh scope variant := by
  have hall (hnamed : ∀ target ∈ variant.targets, ∃ name, target.NamedByArn Arn.WellFormed name) :
      ∀ target ∈ variant.targets, ∃ name, target.NamedByArn Arn.OfMesh name :=
    Variant.ofMesh_of_wellFormed hforeign (List.append_nil _).symm hnamed
  constructor
  · rw [h.exists_spec_iff]
    refine ⟨hall, fun hnamed target htarget => ?_⟩
    obtain ⟨name, hname⟩ := hnamed target htarget
    exact ⟨name, hname.wellFormed⟩
  · intro spec hspec
    obtain ⟨resolved, hresolved, hnames⟩ := h.named spec hspec
    refine ⟨resolved, hresolved, ?_⟩
    have hboth := (List.forall₂_and_left _ _).2 ⟨hall (h.exists_spec_iff.1 ⟨spec, hspec⟩), hnames⟩
    refine hboth.imp ?_
    rintro target remote ⟨⟨_, hmesh⟩, hname⟩
    exact hname.ofMesh hmesh
  · intro defect
    rw [h.error_iff]
    constructor
    · rintro ⟨before, target, behind, text, hsplit, hbefore, harn, hunnamed, hdefect⟩
      refine ⟨before, target, behind, text, hsplit,
        Variant.ofMesh_of_wellFormed hforeign hsplit hbefore, harn, ?_, hdefect⟩
      rintro ⟨name, hname⟩
      exact hunnamed ⟨name, hname.wellFormed⟩
    · rintro ⟨before, target, behind, text, hsplit, hbefore, harn, hunnamed, hdefect⟩
      refine ⟨before, target, behind, text, hsplit, ?_, harn, ?_, hdefect⟩
      · intro earlier hearlier
        obtain ⟨name, hname⟩ := hbefore earlier hearlier
        exact ⟨name, hname.wellFormed⟩
      · rintro ⟨name, arn, hform, hrender, hname⟩
        have hservice : arn.service ≠ "appmesh" := by
          intro hservice
          exact hunnamed ⟨name, arn, ⟨hform, hservice⟩, hrender, hname⟩
        exact hforeign ⟨before, target, behind, hsplit, hbefore, arn, hform, hrender, hservice⟩

/-- A well-formed ARN of another service would have to be reported, but no well-formed ARN is. -/
theorem Route.ResolvedByForm.not_foreignFirst
    (h : route.ResolvedByForm Arn.WellFormed scope variant)
    (hmesh : route.ResolvedByForm Arn.OfMesh scope variant) : ¬variant.ForeignFirst := by
  rintro ⟨before, target, behind, hsplit, hbefore, arn, hform, harn, hservice⟩
  have hunnamed : ¬∃ name, target.NamedByArn Arn.OfMesh name := by
    rintro ⟨_, meshArn, hmeshForm, hrender, _⟩
    have heq : arn.render = meshArn.render := Option.some.inj (harn.symm.trans hrender)
    cases hform.render_inj hmeshForm.wellFormed heq
    exact hservice hmeshForm.service
  have hreported : route.resolve scope = .error (.invalidArn arn.render) :=
    (hmesh.error_iff _).2 ⟨before, target, behind, arn.render, hsplit, hbefore, harn, hunnamed, rfl⟩
  obtain ⟨_, other, _, text, _, _, hotherArn, hother, hdefect⟩ := (h.error_iff _).1 hreported
  cases hdefect
  exact hother ⟨arn.node, arn, hform, hotherArn, rfl⟩

/-- Where the targets are named by ARNs alone, the route has a spec exactly if each ARN is
well-formed. Its nodes are those in the ARNs then, and otherwise the first ARN that is not well-formed
is reported. The same holds with the form of ARNs of meshes exactly if the first ARN that is not of
that form, if there is one, is not well-formed either. -/
theorem Route.resolve_by_arns (router : VirtualRouter) (nodes : VirtualNode.Table) (route : Route)
    (variant : Variant) (hsole : route.setVariants = [variant])
    (harns : ∀ target ∈ variant.targets, target.ByArn) :
    route.ResolvedByForm Arn.WellFormed (router.scope nodes) variant ∧
      (route.ResolvedByForm Arn.OfMesh (router.scope nodes) variant ↔ ¬variant.ForeignFirst) := by
  have h : route.ResolvedByForm Arn.WellFormed (router.scope nodes) variant :=
    resolvedByForm_wellFormed hsole harns
  exact ⟨h, h.not_foreignFirst, h.ofMesh⟩

end Declared

namespace Rehearsal.Sample

/-- Its ARN names a node of a mesh, but by another service. -/
def toForeign : Declared.WeightedTarget where
  arn := some "arn:aws:ecs:us-west-2:111122223333:mesh/shared/virtualNode/node-x"
  weight := 1

/-- The variant of the route that spreads to some targets. -/
def spreadVariant (targets : List Declared.WeightedTarget) : Declared.Variant :=
  .grpc { criteria := {}, action := ⟨targets⟩ }

theorem toForeign_unnamed :
    ¬∃ name, toForeign.NamedByArn VirtualNode.Arn.OfMesh name := by
  rintro ⟨_, arn, hform, harn, _⟩
  cases hform.wellFormed.eq_of_read? (Option.some.inj harn) rfl
  exact absurd hform.service (by decide)

theorem toEdge_not_foreignFirst : ¬(spreadVariant [toEdge]).ForeignFirst := by
  rintro ⟨before, target, behind, hsplit, _, arn, hform, harn, hservice⟩
  have htarget : target ∈ [toEdge] := by
    have hmem : target ∈ before ++ target :: behind := by simp
    rwa [← hsplit] at hmem
  rw [List.mem_singleton.1 htarget] at harn
  cases hform.eq_of_read? (Option.some.inj harn) rfl
  exact hservice rfl

end Rehearsal.Sample

namespace Declared

open Rehearsal in
theorem Route.resolve_by_arns_on_sample :
    (∃ spec, (Sample.spread [Sample.toEdge]).resolve (Sample.router.scope Sample.nodes) =
        .ok spec ∧ spec = Sample.spreadSpec [⟨"edge", 1, none⟩]) ∧
      (Sample.spread [Sample.toEdge]).ResolvedByForm VirtualNode.Arn.OfMesh
        (Sample.router.scope Sample.nodes) (Sample.spreadVariant [Sample.toEdge]) := by
  obtain ⟨hwellFormed, hmesh⟩ := resolve_by_arns Sample.router Sample.nodes
    (Sample.spread [Sample.toEdge]) (Sample.spreadVariant [Sample.toEdge]) rfl
    (List.forall_mem_singleton.2 ⟨rfl, rfl⟩)
  refine ⟨?_, hmesh.2 Sample.toEdge_not_foreignFirst⟩
  have hnamed : ∃ name, Sample.toEdge.NamedByArn VirtualNode.Arn.WellFormed name :=
    ⟨_, Sample.edgeArn, Sample.edgeArn_wellFormed, rfl, rfl⟩
  obtain ⟨spec, h⟩ := hwellFormed.exists_spec_iff.2 (List.forall_mem_singleton.2 hnamed)
  refine ⟨spec, h, ?_⟩
  cases h
  rfl

open Rehearsal in
/-- An ARN of another service is no ARN of a virtual node, and yet it is taken for one. -/
theorem Route.foreign_arn_resolves :
    Sample.toForeign.ByArn ∧
      (∃ spec, (Sample.spread [Sample.toForeign]).resolve (Sample.router.scope Sample.nodes) =
        .ok spec) ∧
      ¬(Sample.spread [Sample.toForeign]).ResolvedByForm VirtualNode.Arn.OfMesh
        (Sample.router.scope Sample.nodes) (Sample.spreadVariant [Sample.toForeign]) := by
  have hspec : ∃ spec, (Sample.spread [Sample.toForeign]).resolve
      (Sample.router.scope Sample.nodes) = .ok spec := ⟨_, rfl⟩
  refine ⟨⟨rfl, rfl⟩, hspec, ?_⟩
  intro h
  exact Sample.toForeign_unnamed (h.exists_spec_iff.1 hspec _ (List.mem_singleton_self _))

end Declared

end MeshRoutes

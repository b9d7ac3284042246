import MeshRoutes.Proofs.LawfulAgreement
import MeshRoutes.Remote.Agreement
import MeshRoutes.Remote.NormalForm
/-!
# Agreement is equality of normal forms

Two specs agree exactly if they are equal, and up to omissions if their normal forms are.
This is shown from the leaves up: a value without collections agrees with itself only, a
collection may be left out if it is empty, and a record agrees field by field.
-/

namespace MeshRoutes

variable {α : Type}

/-! ## Values with a normal form -/

/-- What a comparison looks at: the value as it is, or its normal form. -/
def Comparison.view (normalize : α → α) : Comparison → α → α
  | .exact => id
  | .upToEmpty => normalize

/-- Values that agree if the comparison sees no difference, where `normalize` gives the normal
form, and that are no collection that may be left out. -/
structure NormalizedBy [Agreement α] (normalize : α → α) : Prop where
  agree_iff : ∀ (comparison : Comparison) (a b : α),
    agree comparison a b ↔ comparison.view normalize a = comparison.view normalize b
  not_collection : ∀ a : α, isEmptyCollection a = false

theorem NormalizedBy.option [Agreement α] {normalize : α → α} (h : NormalizedBy normalize) :
    NormalizedBy (Option.map normalize) where
  agree_iff comparison a b := by
    cases a <;> cases b
    case none.none => exact iff_of_true rfl rfl
    case some.some a b =>
      refine (h.agree_iff comparison a b).trans ?_
      cases comparison <;> simp [Comparison.view]
    all_goals cases comparison <;> simp [agree, Comparison.view, h.not_collection]
  not_collection _ := rfl

namespace Remote

@[simp] theorem omitEmpty_none : omitEmpty (none : Option (List α)) = none :=
  rfl

@[simp] theorem omitEmpty_nil : omitEmpty (some ([] : List α)) = none :=
  rfl

@[simp] theorem omitEmpty_cons (item : α) (rest : List α) :
    omitEmpty (some (item :: rest)) = some (item :: rest) :=
  rfl

theorem omitEmpty_omitEmpty (items : Option (List α)) :
    omitEmpty (omitEmpty items) = omitEmpty items := by
  rcases items with _ | _ | ⟨item, rest⟩ <;> rfl

/-- A collection that is left out agrees up to omissions with one that is empty. -/
theorem agree_collection_iff [Agreement α] [Rigid α] (comparison : Comparison)
    (a b : Option (List α)) :
    agree comparison a b ↔ comparison.view omitEmpty a = comparison.view omitEmpty b := by
  cases a <;> cases b
  case none.none => exact iff_of_true rfl rfl
  case some.some a b =>
    refine (agree_list_iff_eq comparison a b).trans ?_
    cases comparison with
    | exact => exact Option.some_inj.symm
    | upToEmpty => cases a <;> cases b <;> simp [Comparison.view]
  case none.some b =>
    cases comparison <;> cases b <;> simp [agree, isEmptyCollection, Comparison.view]
  case some.none a =>
    cases comparison <;> cases a <;> simp [agree, isEmptyCollection, Comparison.view]

/-! ## Part by part -/

private theorem both_iff {a b : Bool} {p q : Prop} (ha : a ↔ p) (hb : b ↔ q) :
    (a && b) ↔ p ∧ q := by
  rw [Bool.and_eq_true, ha, hb]

instance : Rigid WeightedTarget where
  agree_iff_eq c a b := by
    refine (both_iff (both_iff (agree_iff_eq c _ _) (agree_iff_eq c _ _))
      (agree_iff_eq c _ _)).trans ?_
    cases a; cases b
    simp only [WeightedTarget.mk.injEq, and_assoc]
  not_collection _ := rfl

instance : Rigid RouteAction where
  agree_iff_eq c a b := by
    refine (agree_list_iff_eq c a.targets b.targets).trans ?_
    cases a; cases b
    simp only [RouteAction.mk.injEq]
  not_collection _ := rfl

theorem HttpRouteMatch.normalizedBy : NormalizedBy (HttpRouteMatch.mapCollections @omitEmpty) where
  agree_iff c a b := by
    refine (both_iff (both_iff (both_iff (both_iff (both_iff (both_iff
      (agree_iff_eq c _ _) (agree_iff_eq c _ _)) (agree_iff_eq c _ _)) (agree_iff_eq c _ _))
      (agree_collection_iff c _ _)) (agree_collection_iff c _ _)) (agree_iff_eq c _ _)).trans ?_
    cases a; cases b
    cases c <;> simp [Comparison.view, mapCollections, and_assoc]
  not_collection _ := rfl

theorem HttpRetryPolicy.normalizedBy : NormalizedBy (HttpRetryPolicy.mapCollections @omitEmpty) where
  agree_iff c a b := by
    refine (both_iff (both_iff (both_iff (agree_collection_iff c _ _)
      (agree_collection_iff c _ _)) (agree_iff_eq c _ _)) (agree_iff_eq c _ _)).trans ?_
    cases a; cases b
    cases c <;> simp [Comparison.view, mapCollections, and_assoc]
  not_collection _ := rfl

theorem HttpRoute.normalizedBy : NormalizedBy (HttpRoute.mapCollections @omitEmpty) where
  agree_iff c a b := by
    refine (both_iff (both_iff (both_iff (HttpRouteMatch.normalizedBy.agree_iff c _ _)
      (agree_iff_eq c _ _)) (HttpRetryPolicy.normalizedBy.option.agree_iff c _ _))
      (agree_iff_eq c _ _)).trans ?_
    cases a; cases b
    cases c <;> simp [Comparison.view, mapCollections, and_assoc]
  not_collection _ := rfl

theorem GrpcRouteMatch.normalizedBy : NormalizedBy (GrpcRouteMatch.mapCollections @omitEmpty) where
  agree_iff c a b := by
    refine (both_iff (both_iff (both_iff (agree_iff_eq c _ _) (agree_iff_eq c _ _))
      (agree_collection_iff c _ _)) (agree_iff_eq c _ _)).trans ?_
    cases a; cases b
    cases c <;> simp [Comparison.view, mapCollections, and_assoc]
  not_collection _ := rfl

theorem GrpcRetryPolicy.normalizedBy : NormalizedBy (GrpcRetryPolicy.mapCollections @omitEmpty) where
  agree_iff c a b := by
    refine (both_iff (both_iff (both_iff (both_iff (agree_collection_iff c _ _)
      (agree_collection_iff c _ _)) (agree_collection_iff c _ _)) (agree_iff_eq c _ _))
      (agree_iff_eq c _ _)).trans ?_
    cases a; cases b
    cases c <;> simp [Comparison.view, mapCollections, and_assoc]
  not_collection _ := rfl

theorem GrpcRoute.normalizedBy : NormalizedBy (GrpcRoute.mapCollections @omitEmpty) where
  agree_iff c a b := by
    refine (both_iff (both_iff (both_iff (GrpcRouteMatch.normalizedBy.agree_iff c _ _)
      (agree_iff_eq c _ _)) (GrpcRetryPolicy.normalizedBy.option.agree_iff c _ _))
      (agree_iff_eq c _ _)).trans ?_
    cases a; cases b
    cases c <;> simp [Comparison.view, mapCollections, and_assoc]
  not_collection _ := rfl

instance : Rigid TcpRoute where
  agree_iff_eq c a b := by
    refine (both_iff (both_iff (agree_iff_eq c _ _) (agree_iff_eq c _ _))
      (agree_iff_eq c _ _)).trans ?_
    cases a; cases b
    simp only [TcpRoute.mk.injEq, and_assoc]
  not_collection _ := rfl

theorem RouteSpec.normalizedBy : NormalizedBy RouteSpec.normalize where
  agree_iff c a b := by
    refine (both_iff (both_iff (both_iff (both_iff (agree_iff_eq c _ _)
      (GrpcRoute.normalizedBy.option.agree_iff c _ _))
      (HttpRoute.normalizedBy.option.agree_iff c _ _))
      (HttpRoute.normalizedBy.option.agree_iff c _ _)) (agree_iff_eq c _ _)).trans ?_
    cases a; cases b
    cases c <;> simp [Comparison.view, normalize, mapCollections, and_assoc]
  not_collection _ := rfl

theorem RouteSpec.agree_exact_iff (a b : RouteSpec) : agree .exact a b ↔ a = b :=
  normalizedBy.agree_iff .exact a b

theorem RouteSpec.agree_upToEmpty_iff (a b : RouteSpec) :
    agree .upToEmpty a b ↔ a.normalize = b.normalize :=
  normalizedBy.agree_iff .upToEmpty a b

theorem RouteSpec.agree_self (comparison : Comparison) (spec : RouteSpec) :
    agree comparison spec spec :=
  (normalizedBy.agree_iff comparison spec spec).2 rfl

/-! ## What a normal form leaves alone -/

theorem HttpRoute.mapCollections_mapCollections (f g : CollectionMap) (route : HttpRoute) :
    (route.mapCollections g).mapCollections f =
      route.mapCollections fun α items => f α (g α items) := by
  simp only [mapCollections, Option.map_map]
  rfl

theorem GrpcRoute.mapCollections_mapCollections (f g : CollectionMap) (route : GrpcRoute) :
    (route.mapCollections g).mapCollections f =
      route.mapCollections fun α items => f α (g α items) := by
  simp only [mapCollections, Option.map_map]
  rfl

theorem RouteSpec.mapCollections_mapCollections (f g : CollectionMap) (spec : RouteSpec) :
    (spec.mapCollections g).mapCollections f =
      spec.mapCollections fun α items => f α (g α items) := by
  simp only [mapCollections, Option.map_map, Function.comp_def,
    HttpRoute.mapCollections_mapCollections, GrpcRoute.mapCollections_mapCollections]

/-- A normal form is in normal form. -/
theorem RouteSpec.normalize_normalize (spec : RouteSpec) :
    spec.normalize.normalize = spec.normalize := by
  simp only [normalize, mapCollections_mapCollections, omitEmpty_omitEmpty]

theorem RouteSpec.agree_normalize (spec : RouteSpec) :
    agree .upToEmpty spec spec.normalize :=
  (agree_upToEmpty_iff spec spec.normalize).2 spec.normalize_normalize.symm

/-- A spec without its optional collections. -/
def RouteSpec.skeleton (spec : RouteSpec) : RouteSpec :=
  spec.mapCollections fun _ _ => none

theorem RouteSpec.skeleton_normalize (spec : RouteSpec) :
    spec.normalize.skeleton = spec.skeleton :=
  mapCollections_mapCollections _ _ spec

theorem RouteSpec.skeleton_eq_of_agree {a b : RouteSpec} (h : agree .upToEmpty a b) :
    a.skeleton = b.skeleton := by
  rw [← skeleton_normalize a, ← skeleton_normalize b, (agree_upToEmpty_iff a b).1 h]

/-- Exact agreement is equality. Agreement up to omissions is equality of the normal forms, hence
an equivalence, and specs that agree are alike in all but their optional collections: in their
variants, matches, targets, policies and every value of these. -/
theorem RouteSpec.agreement_by_normal_form :
    (∀ a b : RouteSpec, agree .exact a b ↔ a = b) ∧
    (∀ a b : RouteSpec, agree .upToEmpty a b ↔ a.normalize = b.normalize) ∧
    (Equivalence fun a b : RouteSpec => (agree .upToEmpty a b : Prop)) ∧
    ∀ a b : RouteSpec, agree .upToEmpty a b → a.skeleton = b.skeleton := by
  refine ⟨agree_exact_iff, agree_upToEmpty_iff, ?_, fun a b => skeleton_eq_of_agree⟩
  simp only [agree_upToEmpty_iff]
  exact ⟨fun _ => rfl, Eq.symm, Eq.trans⟩

end Remote

end MeshRoutes

import Mathlib.Data.List.Forall2
import MeshRoutes.Agreement
/-!
# Lawful agreement

Exact agreement is equality and agreement up to omissions is an equivalence, as long as the parts of
a value obey the same laws. An absent value comes between: it agrees with every empty collection, so
all empty collections of a type have to agree with each other, and with nothing else. Lists of lawful
values are lawful, and optional values are if these empty collections agree. They do where values are
compared by equality, as none is a collection, and in options and lists of any values. So every
nesting of the two is lawful.

* `Rigid` : values that agree only if they are equal.
* `LawfulAgreement` : the laws.
* `EmptiesAgree` : what it takes that options are lawful.
* `Nesting` : the types that are made of options and lists.
* `lawful_at_any_nesting` : all of them are lawful, and where an absent value agrees with another.
-/

namespace MeshRoutes

variable {α : Type}

/-! ## Values without collections -/

/-- Values that agree only if they are equal, and that are no collection that may be left out. -/
class Rigid (α : Type) [Agreement α] : Prop where
  agree_iff_eq (comparison : Comparison) (a b : α) : agree comparison a b ↔ a = b
  not_collection (a : α) : isEmptyCollection a = false

export Rigid (agree_iff_eq)

instance [DecidableEq α] : @Rigid α (.byEquality α) :=
  @Rigid.mk α (.byEquality α) (fun _ _ _ => beq_iff_eq) fun _ => rfl

/-- An absent value that is no collection agrees with no other one. -/
instance [Agreement α] [Rigid α] : Rigid (Option α) where
  agree_iff_eq comparison a b := by
    cases a <;> cases b
    case none.none => exact iff_of_true rfl rfl
    case some.some a b => exact (agree_iff_eq comparison a b).trans Option.some_inj.symm
    -- one of them is absent, and the other is no empty collection
    all_goals simp [agree, Rigid.not_collection]
  not_collection _ := rfl

/-! ## Lists -/

/-- Lists agree item by item. -/
theorem agree_list_iff_forall₂ [Agreement α] (comparison : Comparison) (a b : List α) :
    agree comparison a b ↔ List.Forall₂ (fun x y => (agree comparison x y : Prop)) a b := by
  simp only [List.forall₂_iff_zip, agree, Bool.and_eq_true, beq_iff_eq, List.all_eq_true,
    Prod.forall]

theorem agree_list_iff_eq [Agreement α] [Rigid α] (comparison : Comparison) (a b : List α) :
    agree comparison a b ↔ a = b := by
  simp only [agree_list_iff_forall₂, agree_iff_eq, List.forall₂_eq_eq_eq]

/-! ## The laws -/

/-- What an agreement obeys if values can be compared part by part. -/
class LawfulAgreement (α : Type) [Agreement α] : Prop where
  agree_exact_iff (a b : α) : agree .exact a b ↔ a = b
  /-- Being reflexive, agreement up to omissions holds of all that agree exactly. -/
  equivalence : Equivalence fun a b : α => (agree .upToEmpty a b : Prop)
  /-- Values that agree are empty collections both or neither. -/
  isEmptyCollection_eq {a b : α} (h : agree .upToEmpty a b) :
    isEmptyCollection a = isEmptyCollection b

/-- All empty collections of a type agree with each other. -/
class EmptiesAgree (α : Type) [Agreement α] : Prop where
  agree_of_isEmptyCollection {a b : α} (ha : isEmptyCollection a) (hb : isEmptyCollection b) :
    agree .upToEmpty a b

instance [Agreement α] [Rigid α] : LawfulAgreement α where
  agree_exact_iff := agree_iff_eq .exact
  equivalence := by
    simp only [agree_iff_eq]
    exact eq_equivalence
  isEmptyCollection_eq _ := by rw [Rigid.not_collection, Rigid.not_collection]

instance [Agreement α] [Rigid α] : EmptiesAgree α where
  agree_of_isEmptyCollection {_ _} ha _ := by
    rw [Rigid.not_collection] at ha
    cases ha

theorem LawfulAgreement.byEquality (α : Type) [DecidableEq α] :
    @LawfulAgreement α (.byEquality α) :=
  let _ : Agreement α := .byEquality α
  inferInstance

theorem EmptiesAgree.byEquality (α : Type) [DecidableEq α] : @EmptiesAgree α (.byEquality α) :=
  let _ : Agreement α := .byEquality α
  inferInstance

/-! ## Optional values -/

section Optional

variable [Agreement α]

theorem agree_some_some (comparison : Comparison) (a b : α) :
    agree comparison (some a) (some b) = agree comparison a b :=
  rfl

theorem agree_none_some (a : α) : agree .upToEmpty none (some a) = isEmptyCollection a :=
  rfl

theorem agree_some_none (a : α) : agree .upToEmpty (some a) none = isEmptyCollection a :=
  rfl

theorem agree_option_exact_iff [LawfulAgreement α] (a b : Option α) :
    agree .exact a b ↔ a = b := by
  cases a <;> cases b
  case none.none => exact iff_of_true rfl rfl
  case some.some a b => exact (LawfulAgreement.agree_exact_iff a b).trans Option.some_inj.symm
  all_goals simp [agree]

theorem agree_option_equivalence [LawfulAgreement α] [EmptiesAgree α] :
    Equivalence fun a b : Option α => (agree .upToEmpty a b : Prop) where
  refl a := by
    cases a with
    | none => rfl
    | some a =>
      rw [agree_some_some]
      exact LawfulAgreement.equivalence.refl a
  symm {a b} h := by
    cases a <;> cases b
    case some.some a b =>
      rw [agree_some_some] at h ⊢
      exact LawfulAgreement.equivalence.symm h
    -- whether an absent value agrees does not depend on the side that it is on
    all_goals exact h
  trans {a b c} hab hbc := by
    cases a <;> cases b <;> cases c
    case some.some.some a b c =>
      rw [agree_some_some] at hab hbc ⊢
      exact LawfulAgreement.equivalence.trans hab hbc
    case none.some.some b c =>
      rw [agree_none_some] at hab ⊢
      rw [agree_some_some] at hbc
      exact (LawfulAgreement.isEmptyCollection_eq hbc).symm.trans hab
    case some.some.none a b =>
      rw [agree_some_some] at hab
      rw [agree_some_none] at hbc ⊢
      exact (LawfulAgreement.isEmptyCollection_eq hab).trans hbc
    case some.none.some a c =>
      rw [agree_some_none] at hab
      rw [agree_none_some] at hbc
      rw [agree_some_some]
      exact EmptiesAgree.agree_of_isEmptyCollection hab hbc
    case none.some.none => rfl
    -- the one in the middle is absent, and so is one at an end
    all_goals first | exact hab | exact hbc

instance [LawfulAgreement α] [EmptiesAgree α] : LawfulAgreement (Option α) where
  agree_exact_iff := agree_option_exact_iff
  equivalence := agree_option_equivalence
  isEmptyCollection_eq _ := rfl

/-- An optional value is no collection, whatever it holds. -/
instance : EmptiesAgree (Option α) where
  agree_of_isEmptyCollection := nofun

/-- Two empty collections agree if options are transitive: an absent value agrees with both. -/
theorem EmptiesAgree.of_equivalence_option
    (h : Equivalence fun a b : Option α => (agree .upToEmpty a b : Prop)) : EmptiesAgree α where
  agree_of_isEmptyCollection {a b} ha hb := by
    rw [← agree_some_none] at ha
    rw [← agree_none_some] at hb
    exact h.trans ha hb

theorem lawful_option_iff [LawfulAgreement α] : LawfulAgreement (Option α) ↔ EmptiesAgree α := by
  constructor
  · intro h
    exact .of_equivalence_option h.equivalence
  · intro _
    infer_instance

end Optional

/-! ## Lists of lawful values -/

theorem agree_list_equivalence [Agreement α] [LawfulAgreement α] :
    Equivalence fun a b : List α => (agree .upToEmpty a b : Prop) := by
  have hitem : Equivalence fun a b : α => (agree .upToEmpty a b : Prop) :=
    LawfulAgreement.equivalence
  simp only [agree_list_iff_forall₂]
  constructor
  · intro a
    exact List.forall₂_same.2 fun x _ => hitem.refl x
  · intro a b h
    exact (h.imp fun _ _ => hitem.symm).flip
  · intro a b c hab hbc
    induction hab generalizing c with
    | nil => exact hbc
    | cons hxy _ ih =>
      cases hbc with
      | cons hyz hrest => exact .cons (hitem.trans hxy hyz) (ih hrest)

theorem isEmptyCollection_list_iff [Agreement α] (a : List α) : isEmptyCollection a ↔ a = [] :=
  List.isEmpty_iff

instance [Agreement α] [LawfulAgreement α] : LawfulAgreement (List α) where
  agree_exact_iff a b := by
    simp only [agree_list_iff_forall₂, LawfulAgreement.agree_exact_iff, List.forall₂_eq_eq_eq]
  equivalence := agree_list_equivalence
  isEmptyCollection_eq {a b} h := by
    rw [Bool.eq_iff_iff, isEmptyCollection_list_iff, isEmptyCollection_list_iff,
      ← List.length_eq_zero_iff, ← List.length_eq_zero_iff,
      ((agree_list_iff_forall₂ _ a b).1 h).length_eq]

/-- Only one list is empty. -/
instance [Agreement α] : EmptiesAgree (List α) where
  agree_of_isEmptyCollection {a b} ha hb := by
    rw [(isEmptyCollection_list_iff a).1 ha, (isEmptyCollection_list_iff b).1 hb]
    rfl

/-! ## Any nesting -/

/-- A type made of options and lists, from types that are compared by equality. -/
inductive Nesting where
  | leaf (α : Type) [DecidableEq α]
  | option (item : Nesting)
  | list (item : Nesting)

namespace Nesting

def Carrier : Nesting → Type
  | leaf α => α
  | option item => Option item.Carrier
  | list item => List item.Carrier

instance agreement : (nesting : Nesting) → Agreement nesting.Carrier
  | leaf α => .byEquality α
  | option item =>
    have := item.agreement
    inferInstanceAs (Agreement (Option item.Carrier))
  | list item =>
    have := item.agreement
    inferInstanceAs (Agreement (List item.Carrier))

/-- The value is a list, and it has no items. -/
def IsEmptyList : (nesting : Nesting) → nesting.Carrier → Prop
  | leaf _, _ => False
  | option _, _ => False
  | list _, items => items = []

theorem emptiesAgree (nesting : Nesting) : EmptiesAgree nesting.Carrier := by
  cases nesting with
  | leaf α => exact .byEquality α
  | option item => exact inferInstanceAs (EmptiesAgree (Option item.Carrier))
  | list item => exact inferInstanceAs (EmptiesAgree (List item.Carrier))

theorem lawful (nesting : Nesting) : LawfulAgreement nesting.Carrier := by
  induction nesting with
  | leaf α => exact .byEquality α
  | option item ih => exact lawful_option_iff.2 item.emptiesAgree
  | list item ih => exact inferInstanceAs (LawfulAgreement (List item.Carrier))

theorem isEmptyCollection_iff {nesting : Nesting} (value : nesting.Carrier) :
    isEmptyCollection value ↔ nesting.IsEmptyList value := by
  cases nesting with
  | leaf α => exact Bool.false_eq_true.to_iff
  | option item => exact Bool.false_eq_true.to_iff
  | list item => exact isEmptyCollection_list_iff value

end Nesting

/-- Types that are compared by equality are lawful, lists are if what they hold is, and optional
values if besides all its empty collections agree. This is so of types that are compared by equality,
of options and of lists, and hence every nesting is lawful. In a nesting, an absent value agrees up
to omissions with an empty list and with no other value that is present, so never with one that is
optional itself. Lists agree if they have the same length and agree item by item. -/
theorem lawful_at_any_nesting :
    (∀ (α : Type) [DecidableEq α],
      @LawfulAgreement α (.byEquality α) ∧ @EmptiesAgree α (.byEquality α)) ∧
    (∀ (α : Type) [Agreement α], EmptiesAgree (Option α) ∧ EmptiesAgree (List α)) ∧
    (∀ (α : Type) [Agreement α] [LawfulAgreement α],
      (LawfulAgreement (Option α) ↔ EmptiesAgree α) ∧ LawfulAgreement (List α)) ∧
    (∀ nesting : Nesting, LawfulAgreement nesting.Carrier ∧
      (∀ value : nesting.Carrier,
        agree .upToEmpty none (some value) ↔ nesting.IsEmptyList value) ∧
      ∀ value : Option nesting.Carrier, ¬agree .upToEmpty none (some value)) ∧
    ∀ (α : Type) [Agreement α] (comparison : Comparison) (a b : List α), agree comparison a b ↔
      a.length = b.length ∧
        ∀ (i : Nat) (ha : i < a.length) (hb : i < b.length), agree comparison a[i] b[i] := by
  refine ⟨fun α _ => ⟨.byEquality α, .byEquality α⟩, fun α _ => ⟨inferInstance, inferInstance⟩,
    fun α _ _ => ⟨lawful_option_iff, inferInstance⟩, ?_, ?_⟩
  · intro nesting
    exact ⟨nesting.lawful, Nesting.isEmptyCollection_iff, nofun⟩
  · intro α _ comparison a b
    rw [agree_list_iff_forall₂, List.forall₂_iff_get]
    rfl

theorem lawful_at_any_nesting_on_sample :
    LawfulAgreement UInt32 ∧ LawfulAgreement (List UInt32) ∧
      LawfulAgreement (Option (List UInt32)) ∧
      agree .upToEmpty none (some ([] : List (Option String))) ∧
      ¬agree .upToEmpty none (some (some ([] : List String))) := by
  obtain ⟨hleaf, hempties, hlift, hnesting, -⟩ := lawful_at_any_nesting
  have hword : LawfulAgreement UInt32 := (hleaf UInt32).1
  have hwords : LawfulAgreement (List UInt32) := (hlift UInt32).2
  have hoption : LawfulAgreement (Option (List UInt32)) :=
    (hlift (List UInt32)).1.2 (hempties UInt32).2
  obtain ⟨-, hempty, -⟩ := hnesting (.list (.option (.leaf String)))
  obtain ⟨-, -, hpresent⟩ := hnesting (.list (.leaf String))
  exact ⟨hword, hwords, hoption, (hempty []).2 rfl, hpresent (some [])⟩

/-- Two values that differ, each of which counts as an empty collection. -/
inductive Vacancy where
  | first
  | second
deriving DecidableEq

instance : Agreement Vacancy where
  agree _ a b := a == b
  isEmptyCollection _ := true

/-- The laws alone do not make options lawful: an absent value agrees with both vacancies, and these
do not agree with each other. -/
theorem option_of_lawful_not_lawful :
    LawfulAgreement Vacancy ∧ ¬LawfulAgreement (Option Vacancy) := by
  have hagree (comparison : Comparison) (a b : Vacancy) : agree comparison a b ↔ a = b :=
    beq_iff_eq
  constructor
  · refine ⟨hagree .exact, ?_, fun _ => rfl⟩
    simp only [hagree]
    exact eq_equivalence
  · intro h
    have hfirst : agree .upToEmpty (some Vacancy.first) none := rfl
    have hsecond : agree .upToEmpty none (some Vacancy.second) := rfl
    have hboth : agree .upToEmpty (some Vacancy.first) (some Vacancy.second) :=
      h.equivalence.trans hfirst hsecond
    cases hboth

end MeshRoutes

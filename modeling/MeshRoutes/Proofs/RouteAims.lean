import MeshRoutes.Proofs.NamedStore
import MeshRoutes.Proofs.Partition
/-!
# What the work on a route makes of a named store

A task that creates or updates leaves a record in agreement with its declaration, and one that
deletes leaves nothing. On the way there, the entry is the one from the start or the one that
is aimed at.
-/

namespace MeshRoutes

/-- The record agrees with the spec that the route is built into. -/
def Declared.Route.RealizedBy (scope : Declared.Scope) (route : Declared.Route)
    (record : Remote.RouteRecord) : Prop :=
  ∃ spec, route.resolve scope = .ok spec ∧ agree .upToEmpty spec record.spec

namespace Control

open Remote

variable {σ : Type} {plane : Plane σ} {store : σ → NameMap RouteRecord}
  {expected : (call : Call) → call.Outcome → Prop} {scope : Declared.Scope}

/-! ## Calls that keep what is known of an entry -/

/-- A call leaves the entry of its name, or makes it an entry of a kind. -/
def Call.Keeps (kind : Option RouteRecord → Prop) (call : Call) : Prop :=
  ∀ answer before after, call.Effect answer before after → after = before ∨ kind after

namespace Holding

variable {kind : Option RouteRecord → Prop} {call : Call} {old : Option RouteRecord}
  {x y : Holding}

theorem Issues.kept (h : Issues call x y) (hcall : call.Keeps kind)
    (hx : x.entry = old ∨ kind x.entry) : y.entry = old ∨ kind y.entry := by
  rcases h.entry with hsame | ⟨answer, heffect⟩
  · rw [hsame]
    exact hx
  · rcases hcall _ _ _ heffect with hsame | hkind
    · rw [hsame]
      exact hx
    · exact .inr hkind

theorem Answers.kept {outcome : call.Outcome} (h : Answers call outcome x y)
    (hcall : call.Keeps kind) (hx : x.entry = old ∨ kind x.entry) :
    y.entry = old ∨ kind y.entry := by
  cases outcome with
  | error error =>
    rw [h.error rfl]
    exact hx
  | ok answer =>
    rcases hcall _ _ _ (h.ok rfl) with hsame | hkind
    · rw [hsame]
      exact hx
    · exact .inr hkind

theorem Issues.entry_of_describe {ref : RouteRef} (h : Issues (.describe ref) x y) :
    y.entry = x.entry := by
  rcases h.entry with hsame | ⟨_, _, hsame⟩ <;> exact hsame

end Holding

theorem Call.describe_keeps (kind : Option RouteRecord → Prop) (ref : RouteRef) :
    (Call.describe ref).Keeps kind :=
  fun _ _ _ heffect => .inl heffect.2

/-! ## The aims -/

/-- The entry is a record that agrees with the route. -/
def Realizes (scope : Declared.Scope) (route : Declared.Route) (entry : Option RouteRecord) :
    Prop :=
  ∃ record, entry = some record ∧ route.RealizedBy scope record

/-- Some failure is among the expected answers. -/
def Fallible (expected : (call : Call) → call.Outcome → Prop) : Prop :=
  ∃ (call : Call) (error : ApiError), expected call (.error error)

/-- An entry that was confirmed is the same as at the start, and was described once. -/
def Holding.Confirmed (holding : Holding) (route : Declared.Route) (start : Holding) : Prop :=
  holding.entry = start.entry ∧ ∃ ref : RouteRef, ref.routeName = route.name ∧
    holding.calls = start.calls ++ [.describe ref]

/-- The aim of the tasks that create and update. An entry that agrees with its route from the
start is confirmed. -/
def realization (expected : (call : Call) → call.Outcome → Prop) (scope : Declared.Scope)
    (route : Declared.Route) (start : Holding) : Aim (String × RouteRecord) Holding where
  throughout holding := holding.entry = start.entry ∨ Realizes scope route holding.entry
  settled
    | .ok (name, record), holding =>
      name = route.name ∧ holding.entry = some record ∧ route.RealizedBy scope record ∧
        (Realizes scope route start.entry → holding.Confirmed route start)
    | .error _, _ => Fallible expected ∨ ∃ defect, route.resolve scope = .error defect

/-- The aim of the tasks that delete. -/
def removal (expected : (call : Call) → call.Outcome → Prop) (start : Holding) :
    Aim Unit Holding where
  throughout holding := holding.entry = start.entry ∨ holding.entry = none
  settled
    | .ok (), holding => Fallible expected ∨ holding.entry = none
    | .error _, _ => Fallible expected

/-! ## The tasks -/

variable (hstore : NamedStore plane store) (hspares : NamedStore.Spares plane store expected)

/-- Across a call that keeps what is known of an entry, a task keeps to an aim that asks for no
more, if it does so from the answer on. -/
theorem Task.call_meets {α : Type} {name : String} {aim : Aim α Holding}
    {kind : Option RouteRecord → Prop} {old : Option RouteRecord} {n : Nat} {call : Call}
    {next : call.Outcome → Task α n} {x : Holding}
    (haim : aim.throughout = fun holding => holding.entry = old ∨ kind holding.entry)
    (hname : call.name? = some name) (hcall : call.Keeps kind)
    (hx : x.entry = old ∨ kind x.entry)
    (hnext : ∀ outcome y z, expected call outcome → Holding.Issues call x y →
      Holding.Answers call outcome y z → (z.entry = old ∨ kind z.entry) →
        (next outcome).Meets (hstore.division hspares) name aim z) :
    (Task.call call next).Meets (hstore.division hspares) name aim x := by
  refine ⟨hname, ?_⟩
  intro y hissue
  have hy := Holding.Issues.kept hissue hcall hx
  rw [haim]
  refine ⟨hy, ?_⟩
  intro outcome z hexpected hanswer
  have hz := Holding.Answers.kept hanswer hcall hy
  exact ⟨hz, hnext outcome y z hexpected hissue hanswer hz⟩

theorem RouteTask.create_meets (router : RouterRef) {route : Declared.Route} {start : Holding}
    (hstart : start.entry = none) :
    (RouteTask.create router scope route).Meets (hstore.division hspares) route.name
      (realization expected scope route start) start := by
  unfold create
  cases hresolve : route.resolve scope with
  | error defect => exact .inr ⟨defect, hresolve⟩
  | ok spec =>
    have hcall : (Call.create router route.name spec).Keeps (Realizes scope route) := by
      rintro record before after ⟨hafter, hagree⟩
      exact .inr ⟨record, hafter, spec, hresolve, hagree⟩
    apply Task.call_meets hstore hspares rfl rfl hcall (.inl rfl)
    intro outcome y z hexpected _ hanswer _
    cases outcome with
    | error error => exact .inl ⟨_, error, hexpected⟩
    | ok record =>
      obtain ⟨hrecord, hagree⟩ := hanswer.ok rfl
      refine ⟨rfl, hrecord, ⟨spec, hresolve, hagree⟩, ?_⟩
      rintro ⟨old, hold, _⟩
      rw [hstart] at hold
      cases hold

theorem RouteTask.update_meets {pairing : Pairing} {start : Holding}
    (hname : pairing.ref.routeName = pairing.route.name) :
    (RouteTask.update scope pairing).Meets (hstore.division hspares) pairing.route.name
      (realization expected scope pairing.route start) start := by
  obtain ⟨route, ref⟩ := pairing
  have hdescribed : (Call.describe ref).name? = some route.name := congrArg some hname
  apply Task.call_meets hstore hspares rfl hdescribed (Call.describe_keeps _ ref) (.inl rfl)
  intro outcome y z hexpected hissue hanswer hz
  cases outcome with
  | error error => cases error <;> exact .inl ⟨_, _, hexpected⟩
  | ok actual =>
    obtain ⟨hactual, hsame⟩ := hanswer.ok rfl
    have hentry : z.entry = some actual := hsame.trans hactual
    have hstart : z.entry = start.entry := hsame.trans hissue.entry_of_describe
    have hcalls : z.calls = start.calls ++ [.describe ref] := hanswer.calls.trans hissue.calls
    dsimp only
    cases hresolve : route.resolve scope with
    | error defect => exact .inr ⟨defect, hresolve⟩
    | ok desired =>
      dsimp only
      split
      · rename_i hagree
        exact ⟨rfl, hentry, ⟨desired, hresolve, hagree⟩,
          fun _ => ⟨hstart, ref, hname, hcalls⟩⟩
      · rename_i hdiffers
        have hcall : (Call.update actual.ref desired).Keeps (Realizes scope route) := by
          rintro record before after ⟨hafter, hagree⟩
          exact .inr ⟨record, hafter, desired, hresolve, hagree⟩
        have hupdated : (Call.update actual.ref desired).name? = some route.name := by
          rw [← hname]
          exact (hanswer.named hentry).symm
        apply Task.call_meets hstore hspares rfl hupdated hcall hz
        intro outcome v w hexpected' _ hanswer' _
        cases outcome with
        | error error => exact .inl ⟨_, error, hexpected'⟩
        | ok record =>
          obtain ⟨hrecord, hagree⟩ := hanswer'.ok rfl
          refine ⟨rfl, hrecord, ⟨desired, hresolve, hagree⟩, ?_⟩
          -- the record described is the one from the start, which does not agree
          rintro ⟨old, hold, spec, hspec, hagrees⟩
          rw [← hstart, hentry] at hold
          cases hold
          rw [hresolve] at hspec
          cases hspec
          exact absurd hagrees hdiffers

theorem RouteTask.delete_meets {n : Nat} {ref : RouteRef} {start holding : Holding}
    (hholding : holding.entry = start.entry ∨ holding.entry = none) :
    (RouteTask.delete ref : Task Unit (n + 1)).Meets (hstore.division hspares) ref.routeName
      (removal expected start) holding := by
  have hcall : (Call.delete ref).Keeps (· = none) := fun _ _ _ heffect => .inr heffect
  apply Task.call_meets hstore hspares rfl rfl hcall hholding
  intro outcome y z hexpected _ hanswer _
  cases outcome with
  | error error =>
    cases error with
    | notFound text => exact .inl ⟨_, _, hexpected⟩
    | other text => exact ⟨_, _, hexpected⟩
  | ok => exact .inr (hanswer.ok rfl)

theorem RouteTask.retire_meets {ref : RouteRef} {start : Holding} :
    (RouteTask.retire ref).Meets (hstore.division hspares) ref.routeName
      (removal expected start) start := by
  apply Task.call_meets hstore hspares rfl rfl (Call.describe_keeps (· = none) ref) (.inl rfl)
  intro outcome y z hexpected _ hanswer hz
  cases outcome with
  | error error =>
    cases error with
    | notFound text => exact .inl ⟨_, _, hexpected⟩
    | other text => exact ⟨_, _, hexpected⟩
  | ok actual =>
    obtain ⟨hactual, hsame⟩ := hanswer.ok rfl
    have hname : ref.routeName = actual.ref.routeName :=
      Option.some.inj (hanswer.named (hsame.trans hactual))
    rw [hname]
    exact delete_meets hstore hspares hz

end Control

end MeshRoutes

import MeshRoutes.Proofs.Accounts
import MeshRoutes.Proofs.PlainStage
/-!
# What an errand may send

Every call of an errand has its reason in what was declared, what was listed and what the same
operation was answered before. This holds on every control plane, whatever it answers, and
under every policy.
-/

namespace MeshRoutes

open Control Remote

/-- The address is that of the record itself: its mesh, its router and its name, and as the owner of
the mesh the one that its metadata names. -/
structure Remote.RouteRecord.ReportedAt (record : RouteRecord) (address : RouteRef) : Prop where
  meshName : address.meshName = record.meshName
  meshOwner : address.meshOwner = record.metadata.meshOwner
  routerName : address.routerName = record.routerName
  routeName : address.routeName = record.routeName

theorem Remote.RouteRecord.reportedAt_ref (record : RouteRecord) : record.ReportedAt record.ref :=
  ⟨rfl, rfl, rfl, rfl⟩

namespace Control

variable {σ α : Type}

namespace Call

@[simp] def describes : Call → Bool
  | describe _ => true
  | list .. | create .. | update .. | delete _ => false

@[simp] def mutates : Call → Bool
  | create .. | update .. | delete _ => true
  | list .. | describe _ => false

end Call

/-- The reason for which an operation may issue a call, given what happened before. -/
inductive Warranted (router : RouterRef) (scope : Declared.Scope) (routes : List Declared.Route)
    (refs : List RouteRef) (before : List (Moment σ)) : Operation → Call → Prop where
  | list (token : Option String) :
    Warranted router scope routes refs before .listing (.list router token)
  | create {route : Declared.Route} {spec : RouteSpec} (hroute : route ∈ routes)
      (hunlisted : route.name ∉ refs.map RouteRef.routeName)
      (hspec : route.resolve scope = .ok spec) :
    Warranted router scope routes refs before (.creating route.name)
      (.create router route.name spec)
  | describeMatched {route : Declared.Route} {ref : RouteRef} (hroute : route ∈ routes)
      (href : ref ∈ refs) (hname : ref.routeName = route.name) :
    Warranted router scope routes refs before (.updating route.name) (.describe ref)
  | update {route : Declared.Route} {ref address : RouteRef} {spec : RouteSpec}
      {actual : RouteRecord} {after : σ} (hroute : route ∈ routes) (href : ref ∈ refs)
      (hname : ref.routeName = route.name)
      (hdescribed : .answered (.updating route.name) (.describe ref) (.ok actual) after ∈ before)
      (haddress : actual.ReportedAt address) (hspec : route.resolve scope = .ok spec)
      (hdiffers : ¬agree .upToEmpty spec actual.spec) :
    Warranted router scope routes refs before (.updating route.name) (.update address spec)
  | describeSurplus {ref : RouteRef} (href : ref ∈ refs)
      (hundeclared : ref.routeName ∉ routes.map Declared.Route.name) :
    Warranted router scope routes refs before (.deleting ref.routeName) (.describe ref)
  | delete {ref address : RouteRef} {actual : RouteRecord} {after : σ} (href : ref ∈ refs)
      (hundeclared : ref.routeName ∉ routes.map Declared.Route.name)
      (hdescribed :
        .answered (.deleting ref.routeName) (.describe ref) (.ok actual) after ∈ before)
      (haddress : actual.ReportedAt address) :
    Warranted router scope routes refs before (.deleting ref.routeName) (.delete address)

/-! ## Single calls -/

theorem Work.warranted {router : RouterRef} {scope : Declared.Scope}
    {routes : List Declared.Route} {refs : List RouteRef} {partition : Partition} {work : Work}
    {before : List (Moment σ)} {call : Call} {later : List Deed}
    (hpartition : Partition.of routes refs = .ok partition) (hwork : work ∈ partition.works)
    (h : work.Account router scope (deeds work.operation before ++ .issued call :: later)) :
    Warranted router scope routes refs before work.operation call := by
  rcases Partition.mem_works.1 hwork with ⟨route, hroute, rfl⟩ | ⟨pairing, hpairing, rfl⟩ |
    ⟨ref, href, rfl⟩
  · obtain ⟨hmem, hunlisted⟩ := (Partition.mem_missing hpartition).1 hroute
    have hcall : RouteTask.CreateCall router scope route (deeds (.creating route.name) before)
      call := h.allowed _ _ _ rfl
    generalize deeds (.creating route.name) before = past at hcall
    cases hcall with
    | create hspec => exact .create hmem hunlisted hspec
  · obtain ⟨hroute, href, hname⟩ := (Partition.mem_matched hpartition).1 hpairing
    have hcall : RouteTask.UpdateCall scope pairing (deeds (.updating pairing.route.name) before)
      call := h.allowed _ _ _ rfl
    generalize hpast : deeds (.updating pairing.route.name) before = past at hcall
    cases hcall with
    | describe => exact .describeMatched hroute href hname
    | @update actual spec hspec hdiffers =>
      have hdescribed : .answered (.describe pairing.ref) (.ok actual) ∈
          deeds (.updating pairing.route.name) before := by
        rw [hpast]
        simp
      obtain ⟨after, hanswered⟩ := answered_mem_deeds.1 hdescribed
      exact .update hroute href hname hanswered actual.reportedAt_ref hspec hdiffers
  · obtain ⟨hmem, hundeclared⟩ := (Partition.mem_surplus hpartition).1 href
    have hcall : RouteTask.RetireCall ref (deeds (.deleting ref.routeName) before) call :=
      h.allowed _ _ _ rfl
    generalize hpast : deeds (.deleting ref.routeName) before = past at hcall
    cases hcall with
    | describe => exact .describeSurplus hmem hundeclared
    | @delete actual =>
      have hdescribed : .answered (.describe ref) (.ok actual) ∈
          deeds (.deleting ref.routeName) before := by
        rw [hpast]
        simp
      obtain ⟨after, hanswered⟩ := answered_mem_deeds.1 hdescribed
      exact .delete hmem hundeclared hanswered actual.reportedAt_ref

namespace Reconciler

theorem Accounted.warranted {router : RouterRef} {scope : Declared.Scope}
    {routes : List Declared.Route} {run : Run σ} {before later : List (Moment σ)} {o : Operation}
    {call : Call} {after : σ} (h : Accounted router scope routes run)
    (hsplit : run.history = before ++ .issued o call after :: later) :
    Warranted router scope routes run.listed before o call := by
  by_cases hlisting : o = .listing
  · subst hlisting
    have hissued : call ∈ run.callsOf .listing :=
      Run.mem_callsOf.2 ⟨after, hsplit ▸ List.mem_append_right _ List.mem_cons_self⟩
    obtain ⟨token, rfl⟩ := h.listing hissued
    exact .list token
  · have hdeeds : deeds o run.history = deeds o before ++ .issued call :: deeds o later := by
      rw [hsplit, deeds_append]
      simp [deeds, Moment.deed?]
    obtain ⟨partition, hpartition, work, hwork, rfl, haccount⟩ :=
      h.working hlisting (by rw [hdeeds]; simp)
    rw [hdeeds] at haccount
    exact work.warranted hpartition hwork haccount

end Reconciler

/-! ## The calls of one operation -/

/-- What holds of the calls before each call and of those before each result holds of all. -/
theorem Rules.Account.calls_of {rules : Rules α} {past : List Deed} {P : List Call → Prop}
    (h : rules.Account past) (hnil : P [])
    (hcall : ∀ before call, rules.call before call →
      P (before.filterMap Deed.call? ++ [call]))
    (hresult : ∀ before result, rules.result before result → P (before.filterMap Deed.call?)) :
    P (past.filterMap Deed.call?) := by
  rcases h.cases with rfl | ⟨before, call, rfl, hissued⟩ | ⟨before, result, rfl, hgiven⟩
  · exact hnil
  · rw [List.filterMap_append]
    exact hcall before call hissued
  · rw [List.filterMap_append]
    exact (List.append_nil _).symm ▸ hresult before result hgiven

def AtMostOnce (calls : List Call) : Prop :=
  calls.countP Call.describes ≤ 1 ∧ calls.countP Call.mutates ≤ 1

theorem Work.atMostOnce {router : RouterRef} {scope : Declared.Scope} {work : Work}
    {past : List Deed} (h : work.Account router scope past) :
    AtMostOnce (past.filterMap Deed.call?) := by
  cases work with
  | creating route =>
    refine Rules.Account.calls_of h ⟨by decide, by decide⟩ ?_ ?_
    · intro before call hcall
      cases hcall
      simp [AtMostOnce, List.filterMap_cons, List.countP_cons]
    · intro before result hresult
      cases hresult <;> simp [AtMostOnce, List.filterMap_cons, List.countP_cons]
  | updating pairing =>
    refine Rules.Account.calls_of h ⟨by decide, by decide⟩ ?_ ?_
    · intro before call hcall
      cases hcall <;> simp [AtMostOnce, List.filterMap_cons, List.countP_cons]
    · intro before result hresult
      cases hresult <;> simp [AtMostOnce, List.filterMap_cons, List.countP_cons]
  | deleting ref =>
    refine Rules.Account.calls_of h ⟨by decide, by decide⟩ ?_ ?_
    · intro before call hcall
      cases hcall <;> simp [AtMostOnce, List.filterMap_cons, List.countP_cons]
    · intro before result hresult
      cases hresult <;> simp [AtMostOnce, List.filterMap_cons, List.countP_cons]

theorem Reconciler.Accounted.atMostOnce {router : RouterRef} {scope : Declared.Scope}
    {routes : List Declared.Route} {run : Run σ} (h : Accounted router scope routes run)
    (o : Operation) : AtMostOnce (run.callsOf o) := by
  by_cases hlisting : o = .listing
  · subst hlisting
    have hlists : ∀ call ∈ run.callsOf .listing, ¬call.describes ∧ ¬call.mutates := by
      intro call hcall
      obtain ⟨token, rfl⟩ := h.listing hcall
      simp
    refine ⟨?_, ?_⟩
    · rw [List.countP_eq_zero.2 fun call hcall => (hlists call hcall).1]
      exact Nat.zero_le 1
    · rw [List.countP_eq_zero.2 fun call hcall => (hlists call hcall).2]
      exact Nat.zero_le 1
  · by_cases hnone : deeds o run.history = []
    · rw [Run.callsOf, hnone]
      exact ⟨Nat.zero_le 1, Nat.zero_le 1⟩
    · obtain ⟨_, _, work, _, rfl, haccount⟩ := h.working hlisting hnone
      exact work.atMostOnce haccount

/-! ## Errands that succeed -/

/-- What was sent for each route by an errand that succeeded. -/
structure Dispatched (router : RouterRef) (scope : Declared.Scope) (routes : List Declared.Route)
    (run : Run σ) : Prop where
  /-- What is declared only was created. -/
  created : ∀ route ∈ routes, route.name ∉ run.listed.map RouteRef.routeName →
    ∃ spec, route.resolve scope = .ok spec ∧
      run.callsOf (.creating route.name) = [.create router route.name spec]
  /-- What is declared and listed was described, and updated where the specs do not agree. -/
  brought : ∀ route ∈ routes, ∀ ref ∈ run.listed, ref.routeName = route.name →
    ∃ actual spec, .answered (.describe ref) (.ok actual) ∈
        deeds (.updating route.name) run.history ∧
      route.resolve scope = .ok spec ∧
      run.callsOf (.updating route.name) = .describe ref ::
        if agree .upToEmpty spec actual.spec then [] else [.update actual.ref spec]
  /-- What is listed only was described, and deleted where it was found. -/
  deleted : ∀ ref ∈ run.listed, ref.routeName ∉ routes.map Declared.Route.name →
    (∃ actual, .answered (.describe ref) (.ok actual) ∈
        deeds (.deleting ref.routeName) run.history ∧
      run.callsOf (.deleting ref.routeName) = [.describe ref, .delete actual.ref]) ∨
    ∃ text, .answered (.describe ref) (.error (.notFound text)) ∈
        deeds (.deleting ref.routeName) run.history ∧
      run.callsOf (.deleting ref.routeName) = [.describe ref]

theorem Reconciler.Errand.dispatched {reconciler : Reconciler σ} {router : RouterRef}
    {scope : Declared.Scope} {routes : List Declared.Route} {state : σ} {run : Run σ}
    {records : NameMap RouteRecord}
    (h : Errand reconciler router scope routes { state } (.ok records) run) :
    Dispatched router scope routes run := by
  obtain ⟨partition, hpartition, _, hworks⟩ := h.succeeded
  refine ⟨?_, ?_, ?_⟩
  · intro route hroute hunlisted
    obtain ⟨haccount, hsettled⟩ :=
      hworks _ (Partition.creating_mem_works hpartition hroute hunlisted)
    obtain ⟨before, result, hok, hdeeds, hresult⟩ :=
      Rules.Account.exists_of_settled haccount hsettled
    change deeds (.creating route.name) run.history = _ at hdeeds
    rw [Run.callsOf, hdeeds]
    cases hresult with
    | unresolved _ | refused _ => cases hok
    | created hspec => exact ⟨_, hspec, rfl⟩
  · intro route hroute ref href hname
    obtain ⟨haccount, hsettled⟩ :=
      hworks _ (Partition.updating_mem_works hpartition hroute href hname)
    obtain ⟨before, result, hok, hdeeds, hresult⟩ :=
      Rules.Account.exists_of_settled haccount hsettled
    change deeds (.updating route.name) run.history = _ at hdeeds
    rw [Run.callsOf, hdeeds]
    cases hresult with
    | vanished | undescribed | unresolved _ | refused _ _ => cases hok
    | @upToDate actual spec hspec hagrees =>
      refine ⟨actual, spec, by simp, hspec, ?_⟩
      rw [if_pos hagrees]
      rfl
    | @updated actual _ spec hspec hdiffers =>
      refine ⟨actual, spec, by simp, hspec, ?_⟩
      rw [if_neg hdiffers]
      rfl
  · intro ref href hundeclared
    obtain ⟨haccount, hsettled⟩ :=
      hworks _ (Partition.deleting_mem_works hpartition href hundeclared)
    obtain ⟨before, result, hok, hdeeds, hresult⟩ :=
      Rules.Account.exists_of_settled haccount hsettled
    change deeds (.deleting ref.routeName) run.history = _ at hdeeds
    rw [Run.callsOf, hdeeds]
    cases hresult with
    | undescribed | refused => cases hok
    | @vanished text => exact .inr ⟨text, by simp, rfl⟩
    | @deleted actual => exact .inl ⟨actual, by simp, rfl⟩
    | @deletedBefore actual text => exact .inl ⟨actual, by simp, rfl⟩

/-! ## What an update sends -/

/-- Whatever the control plane answers, every call of an update is warranted, no operation
describes or mutates twice, and an update that succeeds has sent what each route needed. -/
theorem update_calls {reconciler : Reconciler σ} {mesh : Declared.Mesh}
    {router : Declared.VirtualRouter} {nodes : VirtualNode.Table} {state : σ} {run : Run σ}
    {result : Except Stop (NameMap RouteRecord)}
    (hrun : (reconciler.update mesh router nodes).perform state = (result, run)) :
    (∀ before o call after later, run.history = before ++ .issued o call after :: later →
      Warranted (.of mesh router) (router.scope nodes) router.spec.routes run.listed before o
        call) ∧
    (∀ o, (run.callsOf o).countP Call.describes ≤ 1 ∧ (run.callsOf o).countP Call.mutates ≤ 1) ∧
    ∀ records, result = .ok records →
      Dispatched (.of mesh router) (router.scope nodes) router.spec.routes run := by
  have herrand := Reconciler.errand_of_update hrun
  refine ⟨?_, ?_, ?_⟩
  · intro before o call after later hsplit
    exact herrand.accounted.warranted hsplit
  · intro o
    exact herrand.accounted.atMostOnce o
  · rintro records rfl
    exact herrand.dispatched

end Control

namespace Rehearsal.Sample

/-- A route whose mesh is that of somebody else. -/
def lentRecord (name : String) : RouteRecord :=
  { record name with metadata := { (default : RouteMetadata) with meshOwner := some "landlord" } }

/-- It stores a declared route, with another spec, and one that is not declared and lent. -/
def lent : PlainStage := .of [lentRecord "gone", record "kept"] [] [] refusals_nil

end Rehearsal.Sample

namespace Control

open Rehearsal

theorem update_calls_on_sample :
    Dispatched (.of Sample.mesh Sample.router) (Sample.router.scope Sample.nodes)
      Sample.router.spec.routes (Sample.update Sample.two Sample.lent).2 ∧
    (RouterRef.of Sample.mesh Sample.router).meshOwner = none ∧
    ∃ ref address actual, ref.routeName = "gone" ∧ address.meshOwner = some "landlord" ∧
      .delete address ∈ (Sample.update Sample.two Sample.lent).2.calls ∧
      .answered (.describe ref) (.ok actual) ∈
        deeds (.deleting "gone") (Sample.update Sample.two Sample.lent).2.history ∧
      actual.ReportedAt address := by
  have hrun : ((Sample.reconciler Sample.two).update Sample.mesh Sample.router
      Sample.nodes).perform Sample.lent = ((Sample.update Sample.two Sample.lent).1,
        (Sample.update Sample.two Sample.lent).2) := rfl
  obtain ⟨records, hok⟩ : ∃ records, (Sample.update Sample.two Sample.lent).1 = .ok records :=
    ⟨_, by cbv⟩
  have hcalls : (Sample.update Sample.two Sample.lent).2.callsOf (.deleting "gone") =
      [.describe ⟨"mesh", none, "router_web", "gone"⟩,
        .delete ⟨"mesh", some "landlord", "router_web", "gone"⟩] := by cbv
  have hdelete : .delete ⟨"mesh", some "landlord", "router_web", "gone"⟩ ∈
      (Sample.update Sample.two Sample.lent).2.callsOf (.deleting "gone") := by
    rw [hcalls]
    simp
  obtain ⟨hwarranted, _, hdispatched⟩ := update_calls hrun
  obtain ⟨after, hissued⟩ := Run.mem_callsOf.1 hdelete
  obtain ⟨before, later, hsplit⟩ := List.append_of_mem hissued
  refine ⟨hdispatched records hok, rfl, ?_⟩
  have hreason := hwarranted _ _ _ _ _ hsplit
  have hmem := Run.mem_calls.2 ⟨_, _, hissued⟩
  generalize hname : Operation.deleting "gone" = o at hreason ⊢
  cases hreason with
  | @delete ref _ actual state _ _ hdescribed haddress =>
    have hanswered : .answered (.deleting ref.routeName) (.describe ref) (.ok actual) state ∈
        (Sample.update Sample.two Sample.lent).2.history := by
      rw [hsplit]
      exact List.mem_append_left _ hdescribed
    exact ⟨ref, _, actual, (Operation.deleting.inj hname).symm, rfl, hmem,
      answered_mem_deeds.2 ⟨_, hanswered⟩, haddress⟩

end Control

end MeshRoutes

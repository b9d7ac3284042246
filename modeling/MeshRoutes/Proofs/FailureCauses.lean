import MeshRoutes.Proofs.Accounts
import MeshRoutes.Proofs.PlainStage
/-!
# Why operations fail

Each kind of work fails for reasons of its own, which can be read off what its operation was
answered. No failure is passed over: an update succeeds where all of its work does, and
otherwise stops with the first failure that there was.
-/

namespace MeshRoutes.Control

open Remote

variable {σ : Type}

/-! ## Reasons to fail -/

/-- The failures of a creation, by the deeds of its operation. -/
inductive CreationFails (scope : Declared.Scope) (route : Declared.Route) (past : List Deed) :
    Failure → Prop where
  | conversion {defect : Defect} (hbegan : .began ∈ past)
      (hresolve : route.resolve scope = .error defect) :
    CreationFails scope route past (.conversion route.name defect)
  | api {router : RouterRef} {spec : RouteSpec} {error : ApiError}
      (h : .answered (.create router route.name spec) (.error error) ∈ past) :
    CreationFails scope route past (.api error)

/-- The failures of an update of a matched route, by the deeds of its operation. -/
inductive UpdateFails (scope : Declared.Scope) (pairing : Pairing) (past : List Deed) :
    Failure → Prop where
  | vanished {text : String}
      (h : .answered (.describe pairing.ref) (.error (.notFound text)) ∈ past) :
    UpdateFails scope pairing past (.routeNotFound pairing.route.name)
  | undescribed {text : String}
      (h : .answered (.describe pairing.ref) (.error (.other text)) ∈ past) :
    UpdateFails scope pairing past (.api (.other text))
  | conversion {actual : RouteRecord} {defect : Defect}
      (hdescribed : .answered (.describe pairing.ref) (.ok actual) ∈ past)
      (hresolve : pairing.route.resolve scope = .error defect) :
    UpdateFails scope pairing past (.conversion pairing.route.name defect)
  | refused {address : RouteRef} {spec : RouteSpec} {error : ApiError}
      (h : .answered (.update address spec) (.error error) ∈ past) :
    UpdateFails scope pairing past (.api error)

/-- The failures of a deletion, by the deeds of its operation. That a route is not found is
none of them. -/
inductive DeletionFails (ref : RouteRef) (past : List Deed) : Failure → Prop where
  | undescribed {text : String} (h : .answered (.describe ref) (.error (.other text)) ∈ past) :
    DeletionFails ref past (.api (.other text))
  | refused {address : RouteRef} {text : String}
      (h : .answered (.delete address) (.error (.other text)) ∈ past) :
    DeletionFails ref past (.api (.other text))

namespace RouteTask

theorem creationFails_iff {router : RouterRef} {scope : Declared.Scope} {route : Declared.Route}
    {past : List Deed} (h : (createRules router scope route).Account past) {failure : Failure} :
    .settled (some failure) ∈ past ↔ CreationFails scope route past failure := by
  constructor
  · intro hsettled
    obtain ⟨before, result, hfailure, rfl, hresult⟩ := h.exists_of_settled hsettled
    cases hresult with
    | created _ => cases hfailure
    | unresolved hresolve =>
      cases hfailure
      exact .conversion (by simp) hresolve
    | @refused spec error _ =>
      cases hfailure
      exact .api (show Deed.answered (.create router route.name spec) (.error error) ∈ _ by simp)
  · intro hfails
    rcases h.cases with rfl | ⟨before, call, rfl, hcall⟩ | ⟨before, result, rfl, hresult⟩
    · cases hfails with
      | conversion hbegan _ => cases hbegan
      | api hanswered => cases hanswered
    · cases hcall with
      | create hspec =>
        cases hfails with
        | conversion _ hresolve =>
          rw [hspec] at hresolve
          cases hresolve
        | api hanswered => simp at hanswered
    · cases hresult <;> cases hfails <;> simp_all [failureOf]

theorem calls_eq_nil_of_unresolved {router : RouterRef} {scope : Declared.Scope}
    {route : Declared.Route} {past : List Deed} {defect : Defect}
    (h : (createRules router scope route).Account past)
    (hdefect : route.resolve scope = .error defect) : past.filterMap Deed.call? = [] := by
  have hspec : ∀ {spec : RouteSpec}, route.resolve scope ≠ .ok spec := by
    intro spec hok
    rw [hdefect] at hok
    cases hok
  rcases h.cases with rfl | ⟨before, call, rfl, hcall⟩ | ⟨before, result, rfl, hresult⟩
  · rfl
  · cases hcall with
    | create hok => exact absurd hok hspec
  · cases hresult with
    | unresolved _ => rfl
    | refused hok | created hok => exact absurd hok hspec

theorem updateFails_iff {scope : Declared.Scope} {pairing : Pairing} {past : List Deed}
    (h : (updateRules scope pairing).Account past) {failure : Failure} :
    .settled (some failure) ∈ past ↔ UpdateFails scope pairing past failure := by
  constructor
  · intro hsettled
    obtain ⟨before, result, hfailure, rfl, hresult⟩ := h.exists_of_settled hsettled
    cases hresult with
    | upToDate _ _ | updated _ _ => cases hfailure
    | @vanished text =>
      cases hfailure
      exact .vanished
        (show Deed.answered (.describe pairing.ref) (.error (.notFound text)) ∈ _ by simp)
    | undescribed =>
      cases hfailure
      exact .undescribed (by simp)
    | @unresolved actual _ hresolve =>
      cases hfailure
      exact .conversion (show Deed.answered (.describe pairing.ref) (.ok actual) ∈ _ by simp)
        hresolve
    | @refused actual spec error _ _ =>
      cases hfailure
      exact .refused (show Deed.answered (.update actual.ref spec) (.error error) ∈ _ by simp)
  · intro hfails
    rcases h.cases with rfl | ⟨before, call, rfl, hcall⟩ | ⟨before, result, rfl, hresult⟩
    · cases hfails <;> contradiction
    · cases hcall <;> cases hfails <;> simp_all
    · cases hresult <;> cases hfails <;> simp_all [failureOf]

theorem deletionFails_iff {ref : RouteRef} {past : List Deed}
    (h : (retireRules ref).Account past) {failure : Failure} :
    .settled (some failure) ∈ past ↔ DeletionFails ref past failure := by
  constructor
  · intro hsettled
    obtain ⟨before, result, hfailure, rfl, hresult⟩ := h.exists_of_settled hsettled
    cases hresult with
    | vanished | deleted | deletedBefore => cases hfailure
    | undescribed =>
      cases hfailure
      exact .undescribed (by simp)
    | @refused actual text =>
      cases hfailure
      exact .refused (show Deed.answered (.delete actual.ref) (.error (.other text)) ∈ _ by simp)
  · intro hfails
    rcases h.cases with rfl | ⟨before, call, rfl, hcall⟩ | ⟨before, result, rfl, hresult⟩
    · cases hfails <;> contradiction
    · cases hcall <;> cases hfails <;> simp_all
    · cases hresult <;> cases hfails <;> simp_all [failureOf]

/-- A route that is not found counts as deleted. -/
theorem settled_of_notFound {ref : RouteRef} {past : List Deed}
    (h : (retireRules ref).Account past) {call : Call} {text : String}
    (hanswered : .answered call (.error (.notFound text)) ∈ past) : .settled none ∈ past := by
  rcases h.cases with rfl | ⟨before, issued, rfl, hcall⟩ | ⟨before, result, rfl, hresult⟩
  · cases hanswered
  · cases hcall with
    | describe => simp at hanswered
    | delete =>
      simp only [List.mem_append, List.mem_cons, List.not_mem_nil, or_false, reduceCtorEq,
        false_or, Deed.answered.injEq] at hanswered
      obtain ⟨rfl, hne⟩ := hanswered
      cases hne
  · cases hresult with
    | vanished | deleted | deletedBefore => simp [failureOf]
    | undescribed =>
      simp only [List.mem_append, List.mem_cons, List.not_mem_nil, or_false, reduceCtorEq,
        false_or, Deed.answered.injEq] at hanswered
      obtain ⟨rfl, hne⟩ := hanswered
      cases hne
    | refused =>
      simp only [List.mem_append, List.mem_cons, List.not_mem_nil, or_false, reduceCtorEq,
        false_or, Deed.answered.injEq] at hanswered
      rcases hanswered with ⟨rfl, hne⟩ | ⟨rfl, hne⟩
      · cases hne
      · cases hne

end RouteTask

/-! ## Records that are returned -/

/-- The answer from which the record of a route is returned. -/
inductive Supplied (router : RouterRef) (refs : List RouteRef) (history : List (Moment σ))
    (route : Declared.Route) : RouteRecord → Prop where
  | created {spec : RouteSpec} {record : RouteRecord}
      (hunlisted : route.name ∉ refs.map RouteRef.routeName)
      (h : .answered (.create router route.name spec) (.ok record) ∈
        deeds (.creating route.name) history) :
    Supplied router refs history route record
  | updated {ref address : RouteRef} {spec : RouteSpec} {record : RouteRecord} (href : ref ∈ refs)
      (hname : ref.routeName = route.name)
      (h : .answered (.update address spec) (.ok record) ∈ deeds (.updating route.name) history) :
    Supplied router refs history route record
  | unchanged {ref : RouteRef} {record : RouteRecord} (href : ref ∈ refs)
      (hname : ref.routeName = route.name)
      (h : .answered (.describe ref) (.ok record) ∈ deeds (.updating route.name) history)
      (hnone : ∀ address spec, .issued (.update address spec) ∉
        deeds (.updating route.name) history) :
    Supplied router refs history route record

namespace Reconciler

variable {reconciler : Reconciler σ} {router : RouterRef} {scope : Declared.Scope}
  {routes : List Declared.Route} {partition : Partition} {run : Run σ}

theorem Recorded.supplied {refs : List RouteRef} {records : NameMap RouteRecord}
    {history : List (Moment σ)} (h : Recorded router scope partition history records)
    (hpartition : Partition.of routes refs = .ok partition) {route : Declared.Route}
    (hroute : route ∈ routes) :
    ∃ record, records.get? route.name = some record ∧
      Supplied router refs history route record := by
  rcases Partition.exists_missing_or_matched hpartition hroute with hmissing | ⟨ref, hmatched⟩
  · obtain ⟨record, before, hrecord, hdeeds, hresult⟩ := h.created route hmissing
    refine ⟨record, hrecord, ?_⟩
    cases hresult with
    | @created spec _ _ =>
      have hanswered : Deed.answered (.create router route.name spec) (.ok record) ∈
          deeds (.creating route.name) history := by
        rw [hdeeds]
        simp
      exact .created ((Partition.mem_missing hpartition).1 hmissing).2 hanswered
  · obtain ⟨record, before, hrecord, hdeeds, hresult⟩ := h.updated _ hmatched
    obtain ⟨_, href, hname⟩ := (Partition.mem_matched hpartition).1 hmatched
    refine ⟨record, hrecord, ?_⟩
    cases hresult with
    | upToDate _ _ =>
      refine .unchanged href hname ?_ ?_
      · rw [hdeeds]
        simp
      · intro address spec
        rw [hdeeds]
        simp
    | @updated actual _ spec _ _ =>
      have hanswered : Deed.answered (.update actual.ref spec) (.ok record) ∈
          deeds (.updating route.name) history := by
        rw [hdeeds]
        simp
      exact .updated href hname hanswered

theorem Recorded.mem_names {refs : List RouteRef} {records : NameMap RouteRecord}
    {history : List (Moment σ)} (h : Recorded router scope partition history records)
    (hpartition : Partition.of routes refs = .ok partition) {name : String} :
    name ∈ records.names ↔ name ∈ routes.map Declared.Route.name := by
  rw [h.names, List.mem_append]
  simp only [List.mem_map]
  constructor
  · rintro (⟨route, hroute, rfl⟩ | ⟨pairing, hpairing, rfl⟩)
    · exact ⟨route, ((Partition.mem_missing hpartition).1 hroute).1, rfl⟩
    · exact ⟨pairing.route, ((Partition.mem_matched hpartition).1 hpairing).1, rfl⟩
  · rintro ⟨route, hroute, rfl⟩
    rcases Partition.exists_missing_or_matched hpartition hroute with hmissing | ⟨ref, hmatched⟩
    · exact .inl ⟨route, hmissing, rfl⟩
    · exact .inr ⟨⟨route, ref⟩, hmatched, rfl⟩

end Reconciler

/-! ## Failures of a run -/

/-- The first failure that an operation was settled with. -/
def Run.firstFailure? (run : Run σ) : Option Failure :=
  run.history.findSome? fun
    | .settled _ failure => failure
    | .began _ | .logged _ | .issued .. | .answered .. => none

theorem Run.firstFailure?_eq_some {run : Run σ} {o : Operation} {failure : Failure}
    (h : .settled o (some failure) ∈ run.history)
    (honly : ∀ o' another, .settled o' (some another) ∈ run.history → another = failure) :
    run.firstFailure? = some failure := by
  cases hfirst : run.firstFailure? with
  | none =>
    have hnone := List.findSome?_eq_none_iff.1 hfirst _ h
    cases hnone
  | some first =>
    obtain ⟨moment, hmem, hmoment⟩ := List.exists_of_findSome?_eq_some hfirst
    cases moment with
    | settled o' outcome =>
      change outcome = some first at hmoment
      subst hmoment
      rw [honly o' first hmem]
    | began _ | logged _ | issued _ _ _ | answered _ _ _ _ => cases hmoment

namespace Reconciler

variable {reconciler : Reconciler σ} {router : RouterRef} {scope : Declared.Scope}
  {routes : List Declared.Route} {partition : Partition} {run : Run σ}

/-- What is settled in an errand that listed to the end is the listing and the work. -/
theorem Errand.worked {result : Except Stop (NameMap RouteRecord)} {state : σ}
    (h : Errand reconciler router scope routes { state } result run)
    (hlisted : .settled .listing none ∈ run.history)
    (hpartition : Partition.of routes run.listed = .ok partition) :
    (∀ work ∈ partition.works, work.Account router scope (deeds work.operation run.history)) ∧
      Ended partition.works run.history (stop? result) ∧
      ∀ o failure, .settled o (some failure) ∈ run.history →
        ∃ work ∈ partition.works, work.operation = o := by
  obtain ⟨run₁, hlist, hreconcile⟩ := h.reconciles hlisted
  have hworked := worked_of_reconcile hpartition (fun work _ => unbegun_of_list hlist work)
    hreconcile
  refine ⟨hworked.accounts, hworked.ended, ?_⟩
  intro o failure hsettled
  by_contra hnone
  rw [← settled_mem_deeds,
    hworked.left fun work hwork heq => hnone ⟨work, hwork, heq⟩] at hsettled
  by_cases hlisting : o = .listing
  · subst hlisting
    obtain ⟨told, htold, hhistory⟩ := history_of_list hlist
    rw [settled_mem_deeds, hhistory] at hsettled
    rcases htold.result_of_settled hsettled with ⟨hfalse, _⟩ | ⟨reason, _, hfalse⟩
    · cases hfalse
    · cases hfalse
  · rw [deeds_of_list hlist hlisting] at hsettled
    cases hsettled

/-- An errand that listed unique names stops with its first failure. -/
theorem Errand.firstFailure {stop : Stop} {state : σ}
    (h : Errand reconciler router scope routes { state } (.error stop) run)
    (hlisted : .settled .listing none ∈ run.history)
    (hpartition : Partition.of routes run.listed = .ok partition) :
    ∃ failure, run.firstFailure? = some failure ∧ stop = .failed failure := by
  obtain ⟨_, hended, honly⟩ := h.worked hlisted hpartition
  obtain ⟨failure, hstop, work, _, hsettled, hothers⟩ := hended
  refine ⟨failure, Run.firstFailure?_eq_some (settled_mem_deeds.1 (hsettled.mem_iff.2 rfl)) ?_,
    hstop⟩
  intro o another hfailed
  obtain ⟨other, hother, rfl⟩ := honly o another hfailed
  have hdeed := settled_mem_deeds.2 hfailed
  rw [hothers other hother another hdeed, hsettled.mem_iff] at hdeed
  exact Option.some.inj hdeed

/-- An errand that listed unique names succeeds if and only if all of its work does. -/
theorem Errand.succeeds_iff {result : Except Stop (NameMap RouteRecord)} {state : σ}
    (h : Errand reconciler router scope routes { state } result run)
    (hlisted : .settled .listing none ∈ run.history)
    (hpartition : Partition.of routes run.listed = .ok partition) :
    (∃ records, result = .ok records) ↔
      ∀ o, o.Planned routes run.listed → .settled o none ∈ run.history := by
  obtain ⟨_, hended, _⟩ := h.worked hlisted hpartition
  constructor
  · rintro ⟨records, rfl⟩ o hplanned
    obtain ⟨work, hwork, rfl⟩ := (planned_iff hpartition).1 hplanned
    exact settled_mem_deeds.1 ((hended work hwork).mem_iff.2 rfl)
  · intro hall
    cases result with
    | ok records => exact ⟨records, rfl⟩
    | error stop =>
      obtain ⟨failure, _, work, hwork, hsettled, _⟩ := hended
      have hnone := hall work.operation ((planned_iff hpartition).2 ⟨work, hwork, rfl⟩)
      rw [← settled_mem_deeds, hsettled.mem_iff] at hnone
      cases hnone

end Reconciler

/-- The failures of a run are those for which there was a reason. -/
structure FailsForReason (scope : Declared.Scope) (routes : List Declared.Route)
    (run : Run σ) : Prop where
  creation : ∀ route ∈ routes, route.name ∉ run.listed.map RouteRef.routeName → ∀ failure,
    .settled (.creating route.name) (some failure) ∈ run.history ↔
      CreationFails scope route (deeds (.creating route.name) run.history) failure
  /-- What does not resolve is never sent. -/
  unresolved : ∀ route ∈ routes, route.name ∉ run.listed.map RouteRef.routeName → ∀ defect,
    route.resolve scope = .error defect → run.callsOf (.creating route.name) = []
  update : ∀ route ∈ routes, ∀ ref ∈ run.listed, ref.routeName = route.name → ∀ failure,
    .settled (.updating route.name) (some failure) ∈ run.history ↔
      UpdateFails scope ⟨route, ref⟩ (deeds (.updating route.name) run.history) failure
  deletion : ∀ ref ∈ run.listed, ref.routeName ∉ routes.map Declared.Route.name → ∀ failure,
    .settled (.deleting ref.routeName) (some failure) ∈ run.history ↔
      DeletionFails ref (deeds (.deleting ref.routeName) run.history) failure
  /-- What is gone counts as deleted. -/
  vanished : ∀ ref ∈ run.listed, ref.routeName ∉ routes.map Declared.Route.name → ∀ call text,
    .answered call (.error (.notFound text)) ∈ deeds (.deleting ref.routeName) run.history →
      .settled (.deleting ref.routeName) none ∈ run.history

theorem Reconciler.Errand.failsForReason {reconciler : Reconciler σ} {router : RouterRef}
    {scope : Declared.Scope} {routes : List Declared.Route} {partition : Partition}
    {result : Except Stop (NameMap RouteRecord)} {state : σ} {run : Run σ}
    (h : Errand reconciler router scope routes { state } result run)
    (hlisted : .settled .listing none ∈ run.history)
    (hpartition : Partition.of routes run.listed = .ok partition) :
    FailsForReason scope routes run := by
  obtain ⟨haccounts, _, _⟩ := h.worked hlisted hpartition
  refine ⟨?_, ?_, ?_, ?_, ?_⟩
  · intro route hroute hunlisted failure
    rw [← settled_mem_deeds]
    exact RouteTask.creationFails_iff
      (haccounts _ (Partition.creating_mem_works hpartition hroute hunlisted))
  · intro route hroute hunlisted defect hdefect
    exact RouteTask.calls_eq_nil_of_unresolved
      (haccounts _ (Partition.creating_mem_works hpartition hroute hunlisted)) hdefect
  · intro route hroute ref href hname failure
    rw [← settled_mem_deeds]
    exact RouteTask.updateFails_iff
      (haccounts _ (Partition.updating_mem_works hpartition hroute href hname))
  · intro ref href hundeclared failure
    rw [← settled_mem_deeds]
    exact RouteTask.deletionFails_iff
      (haccounts _ (Partition.deleting_mem_works hpartition href hundeclared))
  · intro ref href hundeclared call text hanswered
    rw [← settled_mem_deeds]
    exact RouteTask.settled_of_notFound
      (haccounts _ (Partition.deleting_mem_works hpartition href hundeclared)) hanswered

/-! ## Failures of updates -/

/-- Once its listing has succeeded and no name is repeated, an update succeeds if and only if all
of its work does, stops otherwise with the first failure, and none of its work fails but for a
reason. What it returns is what the work was answered. -/
theorem update_failures {reconciler : Reconciler σ} {mesh : Declared.Mesh}
    {router : Declared.VirtualRouter} {nodes : VirtualNode.Table} {state : σ} {run : Run σ}
    {result : Except Stop (NameMap RouteRecord)}
    (hrun : (reconciler.update mesh router nodes).perform state = (result, run))
    (hlisted : .settled .listing none ∈ run.history)
    (hroutes : (router.spec.routes.map Declared.Route.name).Nodup)
    (hrefs : (run.listed.map RouteRef.routeName).Nodup) :
    ((∃ records, result = .ok records) ↔
      ∀ o, o.Planned router.spec.routes run.listed → .settled o none ∈ run.history) ∧
    (∀ stop, result = .error stop →
      ∃ failure, run.firstFailure? = some failure ∧ stop = .failed failure) ∧
    FailsForReason (router.scope nodes) router.spec.routes run ∧
    ∀ records, result = .ok records →
      (∀ name, name ∈ records.names ↔ name ∈ router.spec.routes.map Declared.Route.name) ∧
      ∀ route ∈ router.spec.routes, ∃ record, records.get? route.name = some record ∧
        Supplied (.of mesh router) run.listed run.history route record := by
  have herrand := Reconciler.errand_of_update hrun
  obtain ⟨partition, hpartition⟩ := Partition.exists_of_nodup hroutes hrefs
  refine ⟨herrand.succeeds_iff hlisted hpartition, ?_, herrand.failsForReason hlisted hpartition,
    ?_⟩
  · rintro stop rfl
    exact herrand.firstFailure hlisted hpartition
  · rintro records rfl
    obtain ⟨partition', hpartition', hrecorded, _⟩ := herrand.succeeded
    refine ⟨fun name => hrecorded.mem_names hpartition', ?_⟩
    intro route hroute
    exact hrecorded.supplied hpartition' hroute

open Rehearsal in
/-- One update does all of its work, another stops at the route that is refused. -/
theorem update_failures_on_sample :
    (∀ o, o.Planned Sample.router.spec.routes (Sample.update Sample.two Sample.stage).2.listed →
      .settled o none ∈ (Sample.update Sample.two Sample.stage).2.history) ∧
    ∃ failure, Sample.stopped.1 = .error (.failed failure) ∧
      Sample.stopped.2.firstFailure? = some failure ∧
      UpdateFails (Sample.longRouter.scope Sample.nodes)
        ⟨Sample.route "kept", (RouterRef.of Sample.mesh Sample.longRouter).route "kept"⟩
        (deeds (.updating "kept") Sample.stopped.2.history) failure := by
  constructor
  · have hrun : ((Sample.reconciler Sample.two).update Sample.mesh Sample.router
        Sample.nodes).perform Sample.stage = ((Sample.update Sample.two Sample.stage).1,
          (Sample.update Sample.two Sample.stage).2) := rfl
    have hlisted : .settled .listing none ∈ (Sample.update Sample.two Sample.stage).2.history :=
      List.mem_of_getElem? (i := 3) (by cbv)
    have hroutes : (Sample.router.spec.routes.map Declared.Route.name).Nodup := by decide
    have hnames : (Sample.update Sample.two Sample.stage).2.listed.map RouteRef.routeName =
        ["gone", "kept"] := by cbv
    obtain ⟨hsucceeds, _⟩ := update_failures hrun hlisted hroutes (by rw [hnames]; decide)
    exact hsucceeds.1 ⟨_, by cbv⟩
  · have hrun : ((Sample.reconciler Sample.two).update Sample.mesh Sample.longRouter
        Sample.nodes).perform Sample.busy = (Sample.stopped.1, Sample.stopped.2) := rfl
    have hlisted : .settled .listing none ∈ Sample.stopped.2.history :=
      List.mem_of_getElem? (i := 3) (by cbv)
    have hroutes : (Sample.longRouter.spec.routes.map Declared.Route.name).Nodup := by decide
    have hrefs : Sample.stopped.2.listed =
        ["gone", "kept", "late"].map (RouterRef.of Sample.mesh Sample.longRouter).route := by cbv
    obtain ⟨_, hstops, hreasons, _⟩ :=
      update_failures hrun hlisted hroutes (by rw [hrefs]; decide)
    have hstop : Sample.stopped.1 = .error (.failed (.api (.other "busy"))) := by cbv
    obtain ⟨failure, hfirst, heq⟩ := hstops _ hstop
    cases heq
    have hsettled : .settled (.updating "kept") (some (.api (.other "busy"))) ∈
        Sample.stopped.2.history := List.mem_of_getElem? (i := 18) (by cbv)
    refine ⟨_, hstop, hfirst, ?_⟩
    refine (hreasons.update (Sample.route "kept") ?_ _ ?_ rfl _).1 hsettled
    · decide
    · rw [hrefs]
      decide

end MeshRoutes.Control

import MeshRoutes.Proofs.PlainStage
import MeshRoutes.Proofs.SharedStore
/-!
# Raced stages

A stage whose only faults are deletions by somebody else is a control plane with another
client: at each call on which a fault is set, the route that the call is about is deleted
first and then not found. It may also list names under which nothing is stored.
-/

namespace MeshRoutes.Rehearsal

open Control Remote

/-! ## Stages that stay raced -/

/-- Every fault is a deletion by somebody else, of a raced name. -/
abbrev Rivalry (raced : String → Prop) : List Fault → Prop :=
  FaultsObey fun cue kind => kind = .gone ∧ raced cue.name

/-- The stage is set with nothing but deletions by somebody else and names that are listed
besides the stored ones. -/
structure Stage.Raced (raced : String → Prop) (phantoms : List String) (stage : Stage) :
    Prop where
  pages : stage.pages = []
  phantoms : stage.phantoms = phantoms
  rivalry : Rivalry raced stage.faults
  named : Named stage.routes

namespace Stage.Raced

variable {raced : String → Prop} {phantoms : List String} {stage : Stage}

/-- The stage once somebody else has deleted a route. -/
abbrev robbed (stage : Stage) (faults : List Fault) (name : String) : Stage :=
  { stage with faults, routes := stage.routes.erase name }

/-- A call is answered as usual, or comes too late. -/
theorem answer_cases (h : stage.Raced raced phantoms) (call : Call) :
    stage.answer call = stage.respond call ∨
      ∃ text faults, Rivalry raced faults ∧ raced (cueOf call).name ∧
        stage.answer call =
          (.error (.notFound text), robbed stage faults (cueOf call).name) := by
  rcases stage.answer_cases call with heq | ⟨fault, faults, hstrike, heq⟩
  · exact .inl heq
  · obtain ⟨hmem, hcue, _⟩ := strike_eq_some hstrike
    obtain ⟨hkind, hraced⟩ := h.rivalry fault hmem
    rw [hcue] at hraced
    refine .inr ⟨fault.text.getD fault.cue.name, faults, h.rivalry.of_strike hstrike, hraced, ?_⟩
    rw [heq, Fault.error, Stage.fail, hkind, hcue]

theorem answer (call : Call) (h : stage.Raced raced phantoms) :
    (stage.answer call).2.Raced raced phantoms := by
  rcases h.answer_cases call with heq | ⟨text, faults, hfaults, _, heq⟩
  · rw [heq]
    have hresponds := responds_respond stage call
    have hnamed := h.named.of_responds hresponds
    rw [eq_of_responds hresponds]
    exact ⟨h.pages, h.phantoms, h.rivalry, hnamed⟩
  · rw [heq]
    exact ⟨h.pages, h.phantoms, hfaults, h.named.erase _⟩

/-! ## What the answers make of the routes -/

section Answers

variable (h : stage.Raced raced phantoms) {stage' : Stage}

include h

theorem thins {call : Call} {outcome : call.Outcome} (hcall : ¬call.stores)
    (hanswer : stage.answer call = (outcome, stage')) :
    NameMap.Thins (fun name => raced name ∨ call.Deletes name) stage.routes stage'.routes := by
  rcases h.answer_cases call with heq | ⟨_, faults, _, hraced, heq⟩
  · rw [heq] at hanswer
    have hresponds : Responds stage call outcome stage' := by
      have hresponse := responds_respond stage call
      rwa [hanswer] at hresponse
    cases hresponds with
    | listed _ _ | described _ | missing _ => exact .refl _ _
    | created _ _ _ | updated _ _ => exact absurd rfl hcall
    | deleted _ => exact .erase _ (.inr rfl)
  · rw [heq] at hanswer
    cases hanswer
    exact .erase _ (.inl hraced)

theorem name_of_described {ref : RouteRef} {record : RouteRecord}
    (hanswer : stage.answer (.describe ref) = (.ok record, stage')) :
    record.routeName = ref.routeName := by
  rcases h.answer_cases (.describe ref) with heq | ⟨_, _, _, _, heq⟩
  · rw [heq, Stage.respond] at hanswer
    split at hanswer
    · rename_i hfound
      cases hanswer
      exact h.named _ _ hfound
    · cases hanswer
  · rw [heq] at hanswer
    cases hanswer

theorem get?_of_vanished {ref : RouteRef} {error : ApiError}
    (hanswer : stage.answer (.describe ref) = (.error error, stage')) :
    stage'.routes.get? ref.routeName = none := by
  rcases h.answer_cases (.describe ref) with heq | ⟨_, _, _, _, heq⟩
  · rw [heq, Stage.respond] at hanswer
    split at hanswer
    · cases hanswer
    · rename_i hnone
      cases hanswer
      exact hnone
  · rw [heq] at hanswer
    cases hanswer
    exact NameMap.get?_erase_self _ _

theorem get?_of_deleted {ref : RouteRef} {outcome : (Call.delete ref).Outcome}
    (hanswer : stage.answer (.delete ref) = (outcome, stage')) :
    stage'.routes.get? ref.routeName = none := by
  rcases h.answer_cases (.delete ref) with heq | ⟨_, _, _, _, heq⟩
  · rw [heq, Stage.respond] at hanswer
    split at hanswer
    · cases hanswer
      exact NameMap.get?_erase_self _ _
    · rename_i hnone
      cases hanswer
      exact hnone
  · rw [heq] at hanswer
    cases hanswer
    exact NameMap.get?_erase_self _ _

end Answers

end Stage.Raced

abbrev RacedStage (raced : String → Prop) (phantoms : List String) : Type :=
  { stage : Stage // stage.Raced raced phantoms }

/-- The control plane of raced stages. -/
def racedPlane (raced : String → Prop) (phantoms : List String) :
    Plane (RacedStage raced phantoms) :=
  planeOn (Stage.Raced raced phantoms) fun _ => Stage.Raced.answer

variable {raced : String → Prop} {phantoms : List String}

/-- A raced stage stores by name, and somebody else deletes what is raced. -/
theorem sharedStore_racedPlane :
    SharedStore (racedPlane raced phantoms) (fun stage => stage.1.routes) raced Tolerable where
  accepted _ := .refl _ _
  answered {stage _ _ _} hcall _ hanswer := stage.2.thins hcall (answer_of_planeOn hanswer)
  described {stage _ _ _} _ hanswer := stage.2.name_of_described (answer_of_planeOn hanswer)
  vanished {stage _ _ _} _ hanswer := stage.2.get?_of_vanished (answer_of_planeOn hanswer)
  deleted {stage _ _ _} _ hanswer := stage.2.get?_of_deleted (answer_of_planeOn hanswer)

/-! ## Listings -/

theorem map_refs_of_racedPlane {router : RouterRef} {pages : Nat}
    {stage stage' : RacedStage raced phantoms} {refs : List RouteRef}
    (h : Listing (racedPlane raced phantoms) router pages stage none (.ok refs) stage') :
    refs.map RouteRef.routeName = stage.1.listedNames ∧ stage'.1 = stage.1 :=
  Stage.map_refs_of_list (listing_of_planeOn h) stage.2.pages

theorem listsDistinctly_racedPlane : ListsDistinctly (racedPlane raced phantoms) := by
  intro router pages stage stage' refs h
  rw [(map_refs_of_racedPlane h).1]
  exact NameMap.nodup_names _

/-- Names that are made up are listed besides the stored ones. -/
theorem listsCompletely_racedPlane :
    ListsCompletely (racedPlane raced phantoms) fun stage => stage.1.routes := by
  intro router pages stage stage' refs h name hname
  obtain ⟨hrefs, hsame⟩ := map_refs_of_racedPlane h
  change name ∈ stage'.1.routes.names at hname
  rw [hsame] at hname
  rw [hrefs, Stage.listedNames, NameMap.mem_names_ofList, List.map_map]
  exact List.mem_map.2 ⟨name, List.mem_append_left _ hname, rfl⟩

/-- Without names that are made up, the listing is that of the stored routes. -/
theorem listsFaithfully_racedPlane :
    ListsFaithfully (racedPlane raced []) fun stage => stage.1.routes where
  distinct := listsDistinctly_racedPlane
  sound {_ _ stage _ _} h := by
    rw [(map_refs_of_racedPlane h).1]
    exact (Stage.perm_listedNames stage.2.phantoms).subset
  complete := listsCompletely_racedPlane

/-! ## A sample -/

/-- The stage on which some records are stored, some names are made up and somebody else deletes
routes at some calls. -/
def RacedStage.of (records : List RouteRecord) (phantoms : List String) (faults : List Fault)
    (h : Rivalry raced faults) : RacedStage raced phantoms where
  val := { routes := .ofList (NameMap.keyed RouteRecord.routeName records), phantoms, faults }
  property := ⟨rfl, rfl, h, fun _ _ => NameMap.name_of_get?_keyed⟩

namespace Sample

/-- Besides the declared routes it stores one that somebody else deletes in time. -/
def contested : RacedStage (· = "stale") [] :=
  .of [record "clashing", record "fitting", record "stale"] []
    [⟨⟨"delete", "stale"⟩, .gone, none, none⟩] <| by
      intro fault hfault
      rw [List.mem_singleton.1 hfault]
      exact ⟨rfl, rfl⟩

/-- A removal from the contested stage. -/
def removal (concurrency : Concurrency) :
    Except Stop Unit × Run (RacedStage (· = "stale") []) :=
  (Reconciler.remove ⟨racedPlane _ _, { concurrency, pageLimit := 1 }⟩ mesh gateway
    listeners).perform contested

/-- Besides three routes, of which somebody else deletes two at the last moment, it lists a name
under which there is none. -/
def crowded : RacedStage (· ∈ ["early", "late"]) ["ghost"] :=
  .of [record "early", record "kept", record "late"] _
    [⟨⟨"describe", "early"⟩, .gone, none, none⟩, ⟨⟨"delete", "late"⟩, .gone, none, none⟩] <| by
      intro fault hfault
      rcases List.mem_pair.1 hfault with rfl | rfl <;> exact ⟨rfl, by decide⟩

/-- A cleanup of the crowded stage. -/
def cleaning (concurrency : Concurrency) :
    Except Stop Unit × Run (RacedStage (· ∈ ["early", "late"]) ["ghost"]) :=
  (Reconciler.cleanup ⟨racedPlane _ _, { concurrency, pageLimit := 1 }⟩ mesh router).perform
    crowded

end Sample

end MeshRoutes.Rehearsal

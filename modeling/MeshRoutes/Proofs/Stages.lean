import MeshRoutes.Proofs.NamedStore
import MeshRoutes.Proofs.NormalForm
import MeshRoutes.Proofs.Partition
import MeshRoutes.Rehearsal.Stage
/-!
# What a stage answers

On a stage, a call is responded to by what is stored, unless a fault strikes, which takes the place
of the response and is struck once more. A stage that makes up no pages lists its names in order,
whatever the size of its pages.

* `Responds` : what a call does when no fault strikes.
* `planeOn` : the stages of a kind that every call keeps, as a control plane.
* `Stage.map_refs_of_list` : what a stage lists.
* `Stage.answer_cases` : a call is responded to, or a fault strikes.
-/

namespace MeshRoutes.Rehearsal

open Control Remote

/-! ## Responses -/

/-- What a call does on a stage when no fault strikes. -/
inductive Responds (stage : Stage) : (call : Call) → call.Outcome → Stage → Prop where
  | listed (router : RouterRef) (token : Option String) :
    Responds stage (.list router token) (.ok (stage.page router token)) stage
  | described {ref : RouteRef} {record : RouteRecord}
      (h : stage.routes.get? ref.routeName = some record) :
    Responds stage (.describe ref) (.ok record) stage
  | created (router : RouterRef) (name : String) (spec : RouteSpec) :
    Responds stage (.create router name spec) (.ok (stage.created router name spec))
      { stage with routes := stage.routes.insert name (stage.created router name spec) }
  | updated {ref : RouteRef} {record : RouteRecord} (spec : RouteSpec)
      (h : stage.routes.get? ref.routeName = some record) :
    Responds stage (.update ref spec) (.ok (stage.updated record spec))
      { stage with routes := stage.routes.insert ref.routeName (stage.updated record spec) }
  | deleted {ref : RouteRef} {record : RouteRecord}
      (h : stage.routes.get? ref.routeName = some record) :
    Responds stage (.delete ref) (.ok ()) { stage with routes := stage.routes.erase ref.routeName }
  | missing {call : Call} (error : ApiError) : Responds stage call (.error error) stage

theorem responds_respond (stage : Stage) (call : Call) :
    Responds stage call (stage.respond call).1 (stage.respond call).2 := by
  cases call with
  | list router token => exact .listed router token
  | create router name spec => exact .created router name spec
  | describe ref =>
    simp only [Stage.respond]
    cases h : stage.routes.get? ref.routeName with
    | none => exact .missing _
    | some record => exact .described h
  | update ref spec =>
    simp only [Stage.respond]
    cases h : stage.routes.get? ref.routeName with
    | none => exact .missing _
    | some record => exact .updated spec h
  | delete ref =>
    simp only [Stage.respond]
    cases h : stage.routes.get? ref.routeName with
    | none => exact .missing _
    | some record => exact .deleted h

/-- A response changes nothing on a stage but its routes. -/
theorem eq_of_responds {stage stage' : Stage} {call : Call} {outcome : call.Outcome}
    (h : Responds stage call outcome stage') : stage' = { stage with routes := stage'.routes } := by
  cases h <;> rfl

theorem routes_of_responds_error {stage stage' : Stage} {call : Call} {error : ApiError}
    (h : Responds stage call (.error error) stage') : stage'.routes = stage.routes := by
  cases h
  rfl

theorem agree_kept (stage : Stage) (spec : RouteSpec) :
    agree .upToEmpty spec (stage.kept spec) := by
  unfold Stage.kept
  split
  · exact spec.agree_normalize
  · exact spec.agree_self _

theorem changes_of_responds {stage stage' : Stage} {call : Call} {answer : call.Answer}
    (h : Responds stage call (.ok answer) stage') :
    call.Changes answer stage.routes stage'.routes := by
  cases h with
  | listed router token => exact ⟨nofun, fun _ => rfl⟩
  | described hrecord =>
    refine ⟨?_, fun _ => rfl⟩
    rintro _ ⟨⟩
    exact ⟨hrecord, rfl⟩
  | created router name spec => exact Call.changes_insert rfl ⟨rfl, agree_kept stage spec⟩
  | updated spec hrecord => exact Call.changes_insert rfl ⟨rfl, agree_kept stage spec⟩
  | deleted hrecord => exact Call.changes_erase rfl rfl

/-- Records are stored under the names that they bear. -/
def Named (routes : NameMap RouteRecord) : Prop :=
  ∀ name record, routes.get? name = some record → record.routeName = name

namespace Named

variable {routes : NameMap RouteRecord}

theorem insert (h : Named routes) {name : String} {record : RouteRecord}
    (hname : record.routeName = name) : Named (routes.insert name record) := by
  intro other found hfound
  rw [NameMap.get?_insert] at hfound
  split at hfound
  · rename_i heq
    cases hfound
    rw [hname, heq]
  · exact h other found hfound

theorem erase (h : Named routes) (name : String) : Named (routes.erase name) := by
  intro other found hfound
  rw [NameMap.get?_erase] at hfound
  split at hfound
  · cases hfound
  · exact h other found hfound

theorem of_responds {stage stage' : Stage} (h : Named stage.routes) {call : Call}
    {outcome : call.Outcome} (hresponds : Responds stage call outcome stage') :
    Named stage'.routes := by
  cases hresponds with
  | listed _ _ | described _ | missing _ => exact h
  | created router name spec => exact h.insert rfl
  | updated spec hrecord =>
    have hname := h _ _ hrecord
    exact h.insert hname
  | deleted _ => exact h.erase _

end Named

/-! ## Listing -/

theorem startOf_toString (place : Nat) : Stage.startOf (some (toString place)) = place := by
  have htoList : (toString place).toList = Text.numeral place := Nat.toList_repr
  change (Text.readNumeral? (toString place).toList).getD 0 = place
  rw [htoList, Text.readNumeral?_numeral]
  rfl

namespace Stage

/-- The place at which a page ends that starts at another. -/
def stopOf (stage : Stage) (start : Nat) : Nat :=
  if stage.pageSize = 0 then stage.listedNames.length
  else min (start + stage.pageSize) stage.listedNames.length

theorem le_stopOf {stage : Stage} {start : Nat} (h : start ≤ stage.listedNames.length) :
    start ≤ stage.stopOf start := by
  unfold stopOf
  split <;> omega

variable {stage : Stage} {router : RouterRef} {token : Option String}

theorem map_refs_page (hpages : stage.pages = []) :
    (stage.page router token).refs.map RouteRef.routeName =
      (stage.listedNames.take (stage.stopOf (startOf token))).drop (startOf token) := by
  unfold page
  rw [hpages]
  change List.map RouteRef.routeName (List.map router.route _) = _
  rw [List.map_map]
  exact List.map_id _

theorem next_page (hpages : stage.pages = []) :
    (stage.page router token).next =
      tokenAt (stage.stopOf (startOf token)) stage.listedNames.length := by
  unfold page
  rw [hpages]
  rfl

theorem tokenAt_eq_some_iff {place count : Nat} {text : String} :
    tokenAt place count = some text ↔ place < count ∧ text = toString place := by
  unfold tokenAt
  split
  · rename_i hlt
    rw [Option.some_inj]
    exact ⟨fun h => ⟨hlt, h.symm⟩, fun h => h.2.symm⟩
  · rename_i hge
    exact ⟨nofun, fun h => absurd h.1 hge⟩

/-- A page that is given is that of the stage, which stays as it is. -/
theorem eq_of_answer_list {state state' : Stage} {page : Page}
    (h : plane.answer (plane.accept state (.list router token)).2 (.list router token) =
      (.ok page, state')) : page = state.page router token ∧ state' = state := by
  change state.answer (.list router token) = (.ok page, state') at h
  unfold answer at h
  split at h
  · cases h
  · cases h
    exact ⟨rfl, rfl⟩

/-- Pages list the names in order, from the place of the token on. -/
theorem map_refs_of_listing {state state' : Stage} {pages : Nat} {refs : List RouteRef}
    (h : Listing plane router pages state token (.ok refs) state') (hpages : state.pages = [])
    (hstart : startOf token ≤ state.listedNames.length) :
    refs.map RouteRef.routeName = state.listedNames.drop (startOf token) ∧ state' = state := by
  generalize hresult : Except.ok refs = result at h
  induction h generalizing refs with
  | failed _ => cases hresult
  | @last state _ token page hanswer hnext =>
    cases hresult
    obtain ⟨rfl, hsame⟩ := eq_of_answer_list hanswer
    have hall : state.listedNames.length ≤ state.stopOf (startOf token) := by
      by_contra hlt
      have hmore := tokenAt_eq_some_iff.2 ⟨Nat.lt_of_not_le hlt, rfl⟩
      rw [next_page hpages, hmore] at hnext
      cases hnext
    rw [map_refs_page hpages, List.take_of_length_le hall]
    exact ⟨rfl, hsame⟩
  | @more _ state mid _ token page next result hanswer hnext hrest ih =>
    obtain ⟨rfl, rfl⟩ := eq_of_answer_list hanswer
    cases result with
    | error error => cases hresult
    | ok rest =>
      cases hresult
      rw [next_page hpages] at hnext
      obtain ⟨hlt, rfl⟩ := tokenAt_eq_some_iff.1 hnext
      have hplace := startOf_toString (mid.stopOf (startOf token))
      have hstart' : startOf (some (toString (mid.stopOf (startOf token)))) ≤
          mid.listedNames.length := by
        rw [hplace]
        exact Nat.le_of_lt hlt
      have hle := le_stopOf hstart
      have htaken : startOf token ≤
          (mid.listedNames.take (mid.stopOf (startOf token))).length := by
        rw [List.length_take]
        omega
      obtain ⟨hrefs, hstate⟩ := ih hpages hstart' rfl
      rw [List.map_append, map_refs_page hpages, hrefs, hplace,
        ← List.drop_append_of_le_length htaken, List.take_append_drop]
      exact ⟨rfl, hstate⟩

/-- A listing of a stage that makes up no pages gives its names. -/
theorem map_refs_of_list {state state' : Stage} {pages : Nat} {refs : List RouteRef}
    (h : Listing plane router pages state none (.ok refs) state') (hpages : state.pages = []) :
    refs.map RouteRef.routeName = state.listedNames ∧ state' = state :=
  map_refs_of_listing h hpages (Nat.zero_le _)

theorem next_of_first_page (hpages : stage.pages = []) (hsize : stage.pageSize = 0) :
    (stage.page router none).next = none := by
  rw [next_page hpages, stopOf, if_pos hsize, tokenAt, if_neg (Nat.lt_irrefl _)]

theorem perm_listedNames {state : Stage} (h : state.phantoms = []) :
    state.listedNames.Perm state.routes.names := by
  refine (List.perm_ext_iff_of_nodup (NameMap.nodup_names _) (NameMap.nodup_names _)).2 ?_
  intro name
  rw [NameMap.mem_names_ofList, h, List.append_nil, List.map_map]
  exact List.mem_map.trans (by simp)

end Stage

/-! ## Faults that strike -/

/-- What is left of some faults are the same faults, struck more often. -/
theorem strike_eq_some {cue : Cue} {faults rest : List Fault} {fault : Fault}
    (h : strike cue faults = some (fault, rest)) :
    fault ∈ faults ∧ fault.cue = cue ∧
      ∀ left ∈ rest, ∃ old ∈ faults, left.cue = old.cue ∧ left.kind = old.kind := by
  induction faults generalizing rest with
  | nil => cases h
  | cons head others ih =>
    rw [strike] at h
    split at h
    · rename_i hstrikes
      cases h
      have hcue : fault.cue = cue := by
        rw [Fault.strikes, Bool.and_eq_true, beq_iff_eq] at hstrikes
        exact hstrikes.1
      refine ⟨List.mem_cons_self, hcue, ?_⟩
      intro left hleft
      rcases List.mem_cons.1 hleft with rfl | hleft
      · exact ⟨fault, List.mem_cons_self, rfl, rfl⟩
      · exact ⟨left, List.mem_cons_of_mem _ hleft, rfl, rfl⟩
    · obtain ⟨⟨struck, kept⟩, hstrike, heq⟩ := Option.map_eq_some_iff.1 h
      cases heq
      obtain ⟨hmem, hcue, hkept⟩ := ih hstrike
      refine ⟨List.mem_cons_of_mem _ hmem, hcue, ?_⟩
      intro left hleft
      rcases List.mem_cons.1 hleft with rfl | hleft
      · exact ⟨left, List.mem_cons_self, rfl, rfl⟩
      · obtain ⟨old, hold, hsame⟩ := hkept left hleft
        exact ⟨old, List.mem_cons_of_mem _ hold, hsame⟩

/-- Every fault is of a kind that is allowed where it is set. -/
def FaultsObey (allowed : Cue → FaultKind → Prop) (faults : List Fault) : Prop :=
  ∀ fault ∈ faults, allowed fault.cue fault.kind

theorem FaultsObey.of_strike {allowed : Cue → FaultKind → Prop} {cue : Cue}
    {faults rest : List Fault} {fault : Fault} (h : FaultsObey allowed faults)
    (hstrike : strike cue faults = some (fault, rest)) : FaultsObey allowed rest := by
  obtain ⟨_, _, hleft⟩ := strike_eq_some hstrike
  intro left hmem
  obtain ⟨old, hold, hcue, hkind⟩ := hleft left hmem
  rw [hcue, hkind]
  exact h old hold

/-- A call is answered as usual, or a fault strikes. -/
theorem Stage.answer_cases (stage : Stage) (call : Call) :
    stage.answer call = stage.respond call ∨ ∃ fault faults,
      strike (cueOf call) stage.faults = some (fault, faults) ∧
        stage.answer call = (.error fault.error, { stage with faults }.fail fault) := by
  unfold answer
  cases strike (cueOf call) stage.faults with
  | none => exact .inl rfl
  | some struck => exact .inr ⟨struck.1, struck.2, rfl, rfl⟩

/-! ## Stages of a kind -/

/-- Stages of a kind that every call keeps, as a control plane. -/
def planeOn (kind : Stage → Prop) (h : ∀ stage call, kind stage → kind (stage.answer call).2) :
    Plane { stage : Stage // kind stage } where
  accept stage call := (stage.1.waitsFor call, stage)
  answer stage call := ((stage.1.answer call).1, ⟨(stage.1.answer call).2, h _ call stage.2⟩)

section PlaneOn

variable {kind : Stage → Prop} {h : ∀ stage call, kind stage → kind (stage.answer call).2}
  {stage stage' : { stage : Stage // kind stage }}

theorem answer_of_planeOn {call : Call} {outcome : call.Outcome}
    (hanswer : (planeOn kind h).answer stage call = (outcome, stage')) :
    stage.1.answer call = (outcome, stage'.1) :=
  congrArg (fun answer => (answer.1, answer.2.1)) hanswer

theorem listing_of_planeOn {router : RouterRef} {pages : Nat} {token : Option String}
    {result : Except ApiError (List RouteRef)}
    (hlisting : Listing (planeOn kind h) router pages stage token result stage') :
    Listing plane router pages stage.1 token result stage'.1 :=
  hlisting.map Subtype.val (fun _ _ => rfl) fun _ _ => rfl

end PlaneOn

/-- A listing that is not cut into pages ends with its first one. -/
theorem Stage.endsWithin_one {kind : Stage → Prop}
    {h : ∀ stage call, kind stage → kind (stage.answer call).2}
    (state : { stage : Stage // kind stage }) (hpages : state.1.pages = [])
    (hsize : state.1.pageSize = 0) (router : RouterRef) :
    Listing.EndsWithin (planeOn kind h) router 1 state := by
  apply Listing.endsWithin_one
  intro page state' hanswer
  rw [(Stage.eq_of_answer_list (answer_of_planeOn hanswer)).1]
  exact Stage.next_of_first_page hpages hsize

end MeshRoutes.Rehearsal

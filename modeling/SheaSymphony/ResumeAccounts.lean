import Mathlib.Data.List.Perm.Subperm
import SheaSymphony.ResumeSources

/-!
# The accounts of a resume preflight

Every state enters the accounts once: it is retained or archived, and what is
counted as an active worker or offered for recovery is retained beside it. A
session of the registry is entered only when no retained state mentions its
issue. So no worker is lost and none is counted twice, whatever the tracker, the
registry and the sessions answer.
-/

namespace SheaSymphony.Preflight

open Interrupted (Program Returns)
open Model (TrackerIssue)
open SheaSymphony.Runtime (RuntimeState)
open Sessions (AgentSessionRecord)

variable {ω : Type}

def issues (states : List RuntimeState) : List (Option String) := states.map RuntimeState.identifier

/-- The states the run has something to do with: workers that are active and
workers to recover. -/
def PreflightRun.workers (run : PreflightRun) : List RuntimeState :=
  run.counted ++ run.recoverableStates.map RuntimeRecoveryCandidate.state

/-- `state` stands for `original`: the same issue, in the same lane. -/
structure StandsFor (state original : RuntimeState) : Prop where
  issue : state.identifier = original.identifier
  lane : runtimeStateIsMainLane state = runtimeStateIsMainLane original

theorem StandsFor.refl (state : RuntimeState) : StandsFor state state := ⟨rfl, rfl⟩

/-- What one state does to the accounts. -/
inductive Entered (run : PreflightRun) (original : RuntimeState) : PreflightRun → Prop where
  | retained : Entered run original (run.retain original)
  | active {state : RuntimeState} (h : StandsFor state original)
      (hmain : runtimeStateIsMainLane state = true) :
      Entered run original (run.retainActive state)
  | recoverable {state : RuntimeState} {issue : TrackerIssue} {reason : String}
      (h : StandsFor state original) (hmain : runtimeStateIsMainLane state = true) :
      Entered run original (run.retainRecoverable state issue reason)
  | archived (hmain : runtimeStateIsMainLane original = true) :
      Entered run original (run.archive original)
  | blocked {after : PreflightRun} {reason : String} (h : Entered run original after) :
      Entered run original (after.block reason)

/-! ## A session stands for the state it was found for -/

variable {states : List RuntimeState} {issue : String} {original : RuntimeState} {recover : Bool}

theorem identifier_runtimeStateFromSessionRecord {record : AgentSessionRecord}
    (h : record.issueIdentifier = some issue) :
    (runtimeStateFromSessionRecord record).identifier = some issue := by
  show some (record.issueIdentifier.getD "unknown") = some issue
  rw [h, Option.getD_some]

theorem isMainLane_runtimeStateFromSessionRecord {record : AgentSessionRecord}
    (h : registeredMainRuntimeSession record = true) :
    runtimeStateIsMainLane (runtimeStateFromSessionRecord record) = true :=
  (Bool.and_eq_true_iff.mp h).1

/-- The state belongs to the issue and to the main lane. -/
def MainStateOf (issue : String) (state : RuntimeState) : Prop :=
  state.identifier = some issue ∧ runtimeStateIsMainLane state = true

theorem mainStateOf_session {record : AgentSessionRecord} (h : sessionOfIssue issue record = true) :
    MainStateOf issue (runtimeStateFromSessionRecord record) := by
  obtain ⟨hregistered, hissue⟩ := Bool.and_eq_true_iff.mp h
  exact ⟨identifier_runtimeStateFromSessionRecord (beq_iff_eq.mp hissue),
    isMainLane_runtimeStateFromSessionRecord hregistered⟩

theorem MainStateOf.standsFor {state original : RuntimeState} (h : MainStateOf issue state)
    (horiginal : MainStateOf issue original) :
    StandsFor state original :=
  ⟨h.1.trans horiginal.1.symm, h.2.trans horiginal.2.symm⟩

section
variable {effects : PreflightEffects ω} {config : PreflightConfig} {nowMs : UInt64}

theorem AdoptedFor.mainStateOf {state : RuntimeState}
    (h : AdoptedFor effects config nowMs issue state) : MainStateOf issue state := by
  obtain ⟨record, hadoptable, rfl | rfl⟩ := h
  · exact mainStateOf_session hadoptable.ofIssue
  · exact mainStateOf_session hadoptable.ofIssue

theorem standsFor_of_adopted {original state : RuntimeState}
    (hmain : runtimeStateIsMainLane original = true)
    (h : recover = true ∧ ∃ issue, original.identifier = some issue
      ∧ AdoptedFor effects config nowMs issue state) : StandsFor state original := by
  obtain ⟨-, issue, hissue, hadopted⟩ := h
  exact hadopted.mainStateOf.standsFor ⟨hissue, hmain⟩

theorem TakenFor.standsFor {original state : RuntimeState}
    (hmain : runtimeStateIsMainLane original = true)
    (h : TakenFor effects config nowMs recover original state) : StandsFor state original := by
  rcases h with rfl | h
  · exact .refl state
  · exact standsFor_of_adopted hmain h

theorem OfferedFor.standsFor {original state : RuntimeState}
    (hmain : runtimeStateIsMainLane original = true)
    (h : OfferedFor effects config nowMs recover original state) : StandsFor state original := by
  rcases h with ⟨rfl, -⟩ | h
  · exact .refl state
  · exact standsFor_of_adopted hmain h

/-! ## One state -/

theorem Handled.entered {run after : PreflightRun}
    (h : Handled effects config nowMs recover run original after) : Entered run original after := by
  induction h with
  | retained => exact .retained
  | active hmain h =>
      have hstands := h.standsFor hmain
      exact .active hstands (hstands.lane.trans hmain)
  | recoverable hmain h =>
      have hstands := h.standsFor hmain
      exact .recoverable hstands (hstands.lane.trans hmain)
  | archived hmain => exact .archived hmain
  | blocked _ ih => exact .blocked ih

theorem preflightState_entered (recover : Bool) (run : PreflightRun) (original : RuntimeState) :
    Returns (preflightState effects config nowMs recover run original) (Entered run original) :=
  (preflightState_handled recover run original).mono fun _ => Handled.entered

end

/-! ## The books balance -/

/-- Active workers are counted, and no worker stands twice or without a retained
main-lane state. -/
structure Balanced (run : PreflightRun) : Prop where
  active : run.activeMainWorkers = run.counted.length
  workers : run.workers.Subperm (run.retainedStates.filter runtimeStateIsMainLane)

theorem Balanced.empty : Balanced .empty := ⟨rfl, List.Subperm.refl []⟩

theorem filter_concat_of_main {state : RuntimeState} (hmain : runtimeStateIsMainLane state = true) :
    (states ++ [state]).filter runtimeStateIsMainLane
      = states.filter runtimeStateIsMainLane ++ [state] := by
  rw [List.filter_append, List.filter_cons_of_pos hmain, List.filter_nil]

namespace Balanced

variable {run : PreflightRun} {state : RuntimeState}

theorem retain (h : Balanced run) : Balanced (run.retain state) where
  active := h.active
  workers := by
    refine h.workers.trans (List.Sublist.subperm ?_)
    exact (List.sublist_append_left run.retainedStates [state]).filter _

theorem retainActive (h : Balanced run) (hmain : runtimeStateIsMainLane state = true) :
    Balanced (run.retainActive state) where
  active := by
    show run.activeMainWorkers + 1 = (run.counted ++ [state]).length
    rw [h.active, List.length_append, List.length_singleton]
  workers := by
    show ((run.counted ++ [state]) ++ run.recoverableStates.map _).Subperm
      ((run.retainedStates ++ [state]).filter runtimeStateIsMainLane)
    rw [filter_concat_of_main hmain, List.append_assoc, List.singleton_append]
    refine List.perm_middle.subperm_right.mpr ?_
    exact (List.perm_append_singleton state _).subperm_left.mpr ((List.subperm_cons state).mpr h.workers)

theorem retainRecoverable (h : Balanced run) {issue : TrackerIssue} {reason : String}
    (hmain : runtimeStateIsMainLane state = true) :
    Balanced (run.retainRecoverable state issue reason) where
  active := h.active
  workers := by
    show (run.counted ++ (run.recoverableStates ++ [_]).map _).Subperm
      ((run.retainedStates ++ [state]).filter runtimeStateIsMainLane)
    rw [filter_concat_of_main hmain, List.map_append, List.map_singleton, ← List.append_assoc]
    exact (List.perm_append_singleton state _).subperm_right.mpr
      ((List.perm_append_singleton state _).subperm_left.mpr ((List.subperm_cons state).mpr h.workers))

theorem archive (h : Balanced run) : Balanced (run.archive state) := ⟨h.active, h.workers⟩

theorem block (h : Balanced run) {reason : String} : Balanced (run.block reason) :=
  ⟨h.active, h.workers⟩

theorem entered (h : Balanced run) {after : PreflightRun} (hentered : Entered run original after) :
    Balanced after := by
  induction hentered with
  | retained => exact h.retain
  | active _ hmain => exact h.retainActive hmain
  | recoverable _ hmain => exact h.retainRecoverable hmain
  | archived _ => exact h.archive
  | blocked _ ih => exact ih.block

end Balanced

/-- Every state seen is archived or retained, and those of other lanes are
retained as they were. -/
structure Enrolled (seen : List RuntimeState) (run : PreflightRun) : Prop where
  roster : (issues (run.archived ++ run.retainedStates)).Perm (issues seen)
  otherLanes : run.retainedStates.filter (fun state => !runtimeStateIsMainLane state)
    = seen.filter fun state => !runtimeStateIsMainLane state
  balanced : Balanced run

theorem Enrolled.empty : Enrolled [] .empty := ⟨.nil, rfl, .empty⟩

theorem issues_concat (states : List RuntimeState) (state : RuntimeState) :
    issues (states ++ [state]) = issues states ++ [state.identifier] :=
  List.map_append

theorem issues_retain {seen archived retained : List RuntimeState} {state original : RuntimeState}
    (h : (issues (archived ++ retained)).Perm (issues seen))
    (hissue : state.identifier = original.identifier) :
    (issues (archived ++ (retained ++ [state]))).Perm (issues (seen ++ [original])) := by
  rw [← List.append_assoc, issues_concat, issues_concat, hissue]
  exact h.append_right _

theorem issues_archive {seen archived retained : List RuntimeState}
    (h : (issues (archived ++ retained)).Perm (issues seen)) :
    (issues ((archived ++ [original]) ++ retained)).Perm (issues (seen ++ [original])) := by
  have hmove : ((archived ++ [original]) ++ retained).Perm ((archived ++ retained) ++ [original]) := by
    rw [List.append_assoc, List.append_assoc]
    exact List.perm_append_comm.append_left archived
  refine (hmove.map RuntimeState.identifier).trans ?_
  show (issues ((archived ++ retained) ++ [original])).Perm _
  rw [issues_concat, issues_concat]
  exact h.append_right _

theorem filter_other_concat {states seen : List RuntimeState} {state original : RuntimeState}
    (h : states.filter (fun state => !runtimeStateIsMainLane state)
      = seen.filter fun state => !runtimeStateIsMainLane state)
    (hstate : runtimeStateIsMainLane state = true)
    (horiginal : runtimeStateIsMainLane original = true) :
    (states ++ [state]).filter (fun state => !runtimeStateIsMainLane state)
      = (seen ++ [original]).filter fun state => !runtimeStateIsMainLane state := by
  rw [List.filter_append, List.filter_append, h, List.filter_cons_of_neg (by simp [hstate]),
    List.filter_cons_of_neg (by simp [horiginal])]

theorem Enrolled.entered {seen : List RuntimeState} {run after : PreflightRun}
    (h : Enrolled seen run) (hentered : Entered run original after) :
    Enrolled (seen ++ [original]) after := by
  have hbalanced := h.balanced.entered hentered
  induction hentered with
  | retained =>
      refine ⟨issues_retain h.roster rfl, ?_, hbalanced⟩
      show (run.retainedStates ++ [original]).filter _ = _
      rw [List.filter_append, List.filter_append, h.otherLanes]
  | active hstands hmain =>
      exact ⟨issues_retain h.roster hstands.issue,
        filter_other_concat h.otherLanes hmain (hstands.lane.symm.trans hmain), hbalanced⟩
  | recoverable hstands hmain =>
      exact ⟨issues_retain h.roster hstands.issue,
        filter_other_concat h.otherLanes hmain (hstands.lane.symm.trans hmain), hbalanced⟩
  | archived hmain =>
      refine ⟨issues_archive h.roster, ?_, hbalanced⟩
      show run.retainedStates.filter _ = _
      rw [List.filter_append, h.otherLanes, List.filter_cons_of_neg (by simp [hmain]),
        List.filter_nil, List.append_nil]
  | blocked hafter ih =>
      have hbefore := ih (h.balanced.entered hafter)
      exact ⟨hbefore.roster, hbefore.otherLanes, hbalanced⟩

theorem preflightStates_enrolled (effects : PreflightEffects ω) (config : PreflightConfig)
    (nowMs : UInt64) (recover : Bool) :
    ∀ (states seen : List RuntimeState) (run : PreflightRun), Enrolled seen run →
      Returns (preflightStates effects config nowMs recover states run) (Enrolled (seen ++ states))
  | [], seen, run, h => Returns.pure (by rwa [List.append_nil])
  | state :: states, seen, run, h => by
      refine Returns.bind (preflightState_entered recover run state)
        fun after hafter => ?_
      have hrest := preflightStates_enrolled effects config nowMs recover states (seen ++ [state])
        after (h.entered hafter)
      rwa [List.append_assoc] at hrest

/-! ## Sessions of the registry -/

/-- What one session of the registry does to the accounts: it may enter a state
of an issue that nothing mentions. -/
inductive Registered (run : PreflightRun) : PreflightRun → Prop where
  | unchanged : Registered run run
  | active {issue : String} {state : RuntimeState} (hnew : run.mentions issue = false)
      (h : MainStateOf issue state) : Registered run (run.retainActive state)
  | recoverable {issue : String} {state : RuntimeState} {read : TrackerIssue} {reason : String}
      (hnew : run.mentions issue = false) (h : MainStateOf issue state) :
      Registered run (run.retainRecoverable state read reason)

theorem Added.registered {effects : PreflightEffects ω} {config : PreflightConfig}
    {run after : PreflightRun} (h : Added effects config run after) : Registered run after := by
  cases h with
  | unchanged => exact .unchanged
  | active hnew h => exact .active hnew (mainStateOf_session h)
  | recoverable hnew h => exact .recoverable hnew (mainStateOf_session h)

theorem recoverRegisteredSession_registered (effects : PreflightEffects ω)
    (config : PreflightConfig) (nowMs : UInt64) (run : PreflightRun) (record : AgentSessionRecord) :
    Returns (recoverRegisteredSession effects config nowMs run record) (Registered run) :=
  (recoverRegisteredSession_added run record).mono fun _ => Added.registered

/-- What the sessions of the registry may add to the accounts of the states. -/
structure Extended (before run : PreflightRun) : Prop where
  archived : run.archived = before.archived
  kept : before.retainedStates <+: run.retainedStates
  otherLanes : run.retainedStates.filter (fun state => !runtimeStateIsMainLane state)
    = before.retainedStates.filter fun state => !runtimeStateIsMainLane state
  distinct : (run.retainedStates.filterMap RuntimeState.identifier).Nodup
  balanced : Balanced run

theorem nodup_concat_of_not_mentions {run : PreflightRun} {state : RuntimeState}
    (hdistinct : (run.retainedStates.filterMap RuntimeState.identifier).Nodup)
    (hnew : run.mentions issue = false) (h : MainStateOf issue state) :
    ((run.retainedStates ++ [state]).filterMap RuntimeState.identifier).Nodup := by
  rw [List.filterMap_append, List.filterMap_cons_some h.1, List.filterMap_nil]
  refine List.nodup_append.mpr ⟨hdistinct, List.nodup_singleton issue, ?_⟩
  intro other hother mine hmine hsame
  obtain rfl := List.mem_singleton.mp hmine
  subst hsame
  obtain ⟨retained, hretained, hidentifier⟩ := List.mem_filterMap.mp hother
  have hany := (Bool.or_eq_false_iff.mp hnew).1
  exact List.any_eq_false.mp hany retained hretained (beq_iff_eq.mpr hidentifier)

theorem filter_other_concat_of_main {state : RuntimeState}
    (hmain : runtimeStateIsMainLane state = true) :
    (states ++ [state]).filter (fun state => !runtimeStateIsMainLane state)
      = states.filter fun state => !runtimeStateIsMainLane state := by
  rw [List.filter_append, List.filter_cons_of_neg (by simp [hmain]), List.filter_nil,
    List.append_nil]

theorem Extended.registered {before run after : PreflightRun} (h : Extended before run)
    (hregistered : Registered run after) : Extended before after := by
  cases hregistered with
  | unchanged => exact h
  | active hnew hstate =>
      exact ⟨h.archived, h.kept.trans (List.prefix_append _ _),
        (filter_other_concat_of_main hstate.2).trans h.otherLanes,
        nodup_concat_of_not_mentions h.distinct hnew hstate, h.balanced.retainActive hstate.2⟩
  | recoverable hnew hstate =>
      exact ⟨h.archived, h.kept.trans (List.prefix_append _ _),
        (filter_other_concat_of_main hstate.2).trans h.otherLanes,
        nodup_concat_of_not_mentions h.distinct hnew hstate, h.balanced.retainRecoverable hstate.2⟩

theorem recoverRegisteredSessions_extended (effects : PreflightEffects ω)
    (config : PreflightConfig) (nowMs : UInt64) (before : PreflightRun) :
    ∀ (sessions : List AgentSessionRecord) (run : PreflightRun), Extended before run →
      Returns (recoverRegisteredSessions effects config nowMs sessions run) (Extended before)
  | [], run, h => Returns.pure h
  | record :: older, run, h => by
      refine Returns.bind (recoverRegisteredSession_registered effects config nowMs run record)
        fun after hafter => ?_
      exact recoverRegisteredSessions_extended effects config nowMs before older after
        (h.registered hafter)

/-! ## Every worker is accounted for -/

/-- The accounts of a finished preflight over `states`. -/
structure Accounted (states : List RuntimeState) (run : PreflightRun) : Prop where
  once : ∀ state ∈ states, ∀ issue, state.identifier = some issue →
    (issues run.archived).count (some issue) = 1 ∨
      ((issues run.archived).count (some issue) = 0 ∧ some issue ∈ issues run.retainedStates)
  otherLanes : run.retainedStates.filter (fun state => !runtimeStateIsMainLane state)
    = states.filter fun state => !runtimeStateIsMainLane state
  distinct : (run.retainedStates.filterMap RuntimeState.identifier).Nodup
  candidates : ∀ candidate ∈ run.recoverableStates, candidate.state ∈ run.retainedStates
  counted : run.activeMainWorkers = run.counted.length
  apart : ∀ candidate ∈ run.recoverableStates, ∀ issue, candidate.state.identifier = some issue →
    some issue ∉ issues run.counted
  bound : run.activeMainWorkers + run.recoverableStates.length
    ≤ (run.retainedStates.filter runtimeStateIsMainLane).length

theorem filterMap_issues (states : List RuntimeState) :
    (issues states).filterMap id = states.filterMap RuntimeState.identifier := by
  rw [issues, List.filterMap_map]
  rfl

theorem count_issues_of_mem {state : RuntimeState}
    (hdistinct : (states.filterMap RuntimeState.identifier).Nodup) (hmem : state ∈ states)
    (hissue : state.identifier = some issue) : (issues states).count (some issue) = 1 := by
  have hcount : ∀ list : List (Option String),
      list.count (some issue) = (list.filterMap id).count issue := by
    intro list
    induction list with
    | nil => rfl
    | cons head rest ih =>
        cases head with
        | none => simpa using ih
        | some other => simp [List.count_cons, ih]
  rw [hcount, filterMap_issues]
  exact List.count_eq_one_of_mem hdistinct (List.mem_filterMap.mpr ⟨state, hmem, hissue⟩)

theorem Enrolled.distinct {run : PreflightRun} (h : Enrolled states run)
    (hdistinct : (states.filterMap RuntimeState.identifier).Nodup) :
    (run.retainedStates.filterMap RuntimeState.identifier).Nodup := by
  have hperm := h.roster.filterMap id
  rw [filterMap_issues, filterMap_issues, List.filterMap_append] at hperm
  exact (hperm.nodup_iff.mpr hdistinct).of_append_right

theorem Enrolled.extended {run : PreflightRun} (h : Enrolled states run)
    (hdistinct : (states.filterMap RuntimeState.identifier).Nodup) :
    Extended run run :=
  ⟨rfl, List.prefix_rfl, rfl, h.distinct hdistinct, h.balanced⟩

theorem Enrolled.once {run : PreflightRun} (h : Enrolled states run)
    (hdistinct : (states.filterMap RuntimeState.identifier).Nodup) {state : RuntimeState}
    (hmem : state ∈ states) (hissue : state.identifier = some issue) :
    (issues run.archived).count (some issue) = 1 ∨
      ((issues run.archived).count (some issue) = 0 ∧ some issue ∈ issues run.retainedStates) := by
  have hcount := h.roster.count_eq (some issue)
  rw [count_issues_of_mem hdistinct hmem hissue, issues, List.map_append, List.count_append]
    at hcount
  rcases Nat.eq_zero_or_pos ((issues run.retainedStates).count (some issue)) with hzero | hpos
  · left
    change (issues run.archived).count (some issue)
      + (issues run.retainedStates).count (some issue) = 1 at hcount
    omega
  · right
    change (issues run.archived).count (some issue)
      + (issues run.retainedStates).count (some issue) = 1 at hcount
    exact ⟨by omega, List.count_pos_iff.mp hpos⟩

theorem Balanced.nodup_workers {run : PreflightRun} (h : Balanced run)
    (hdistinct : (run.retainedStates.filterMap RuntimeState.identifier).Nodup) :
    (run.workers.filterMap RuntimeState.identifier).Nodup := by
  obtain ⟨listed, hperm, hsub⟩ := h.workers
  refine (hperm.filterMap RuntimeState.identifier).nodup_iff.mp ?_
  exact ((hsub.trans List.filter_sublist).filterMap RuntimeState.identifier).nodup hdistinct

theorem Balanced.apart {run : PreflightRun} (h : Balanced run)
    (hdistinct : (run.retainedStates.filterMap RuntimeState.identifier).Nodup)
    {candidate : RuntimeRecoveryCandidate} (hmem : candidate ∈ run.recoverableStates)
    (hissue : candidate.state.identifier = some issue) :
    some issue ∉ issues run.counted := by
  intro hcounted
  obtain ⟨state, hstate, hidentifier⟩ := List.mem_map.mp hcounted
  have hnodup := h.nodup_workers hdistinct
  rw [PreflightRun.workers, List.filterMap_append] at hnodup
  refine List.disjoint_of_nodup_append hnodup
    (List.mem_filterMap.mpr ⟨state, hstate, hidentifier⟩)
    (List.mem_filterMap.mpr ⟨candidate.state, List.mem_map_of_mem hmem, hissue⟩)

theorem Enrolled.accounted {before run : PreflightRun} (h : Enrolled states before)
    (hextended : Extended before run)
    (hdistinct : (states.filterMap RuntimeState.identifier).Nodup) : Accounted states run where
  once state hmem issue hissue := by
    rw [hextended.archived]
    refine (h.once hdistinct hmem hissue).imp id fun ⟨hnot, hretained⟩ => ⟨hnot, ?_⟩
    exact (hextended.kept.map RuntimeState.identifier).subset hretained
  otherLanes := hextended.otherLanes.trans h.otherLanes
  distinct := hextended.distinct
  candidates candidate hmem := by
    have hworker : candidate.state ∈ run.workers :=
      List.mem_append_right _ (List.mem_map_of_mem hmem)
    exact List.mem_of_mem_filter (hextended.balanced.workers.subset hworker)
  counted := hextended.balanced.active
  apart candidate hmem issue hissue := hextended.balanced.apart hextended.distinct hmem hissue
  bound := by
    have hlength := hextended.balanced.workers.length_le
    rw [PreflightRun.workers, List.length_append, List.length_map] at hlength
    rw [hextended.balanced.active]
    exact hlength

theorem resume_preflight_accounts (effects : PreflightEffects ω) (config : PreflightConfig)
    (states : List RuntimeState) (nowMs : UInt64) (recover : Bool)
    (hdistinct : (states.filterMap RuntimeState.identifier).Nodup) :
    Returns (runLoopResumePreflightMany effects config states nowMs recover) (Accounted states) := by
  refine Returns.bind
    (preflightStates_enrolled effects config nowMs recover states [] .empty .empty)
    fun before hbefore => ?_
  have hextended := hbefore.extended hdistinct
  cases recover with
  | false => exact Returns.pure (hbefore.accounted hextended hdistinct)
  | true =>
      refine Returns.seq fun sessions => ?_
      refine (recoverRegisteredSessions_extended effects config nowMs before sessions.reverse before
        hextended).mono fun run hrun => ?_
      exact hbefore.accounted hrun hdistinct

def defaultConfig : PreflightConfig where
  case := .ascii
  runtime := {
    tracker := Config.parseTracker none
    agent := Config.parseAgent .ascii none
    backendKind := "tmux"
    pollingIntervalMs := 30000 }
  stallTimeoutMs := 300000
  sessionStaleAfterMs := 600000

def issueInState (identifier state : String) : TrackerIssue where
  id := identifier
  identifier := identifier
  title := "Retry the upload"
  description := none
  state := state
  priority := none
  blockedBy := []
  projectFields := fun _ => none
  createdAt := none

def storedState (identifier lane : String) : RuntimeState :=
  { RuntimeState.active { id := identifier, identifier } "tmux" with lane := some lane }

/-- A tracker on which every issue is in progress, and an empty registry. -/
def busyTracker : PreflightEffects Unit :=
  steadyEffects (fun identifier => .ok (some (issueInState identifier "In Progress"))) []
    (fun _ => .ok "") fun _ => .ok none

theorem resume_preflight_accounts_two_lanes :
    ∃ run, runLoopResumePreflightMany busyTracker defaultConfig
        [storedState "#7" "main", storedState "#8" "review"] 0 true () = (.ok run, ())
      ∧ run.activeMainWorkers = 1
      ∧ Accounted [storedState "#7" "main", storedState "#8" "review"] run :=
  ⟨_, rfl, rfl, resume_preflight_accounts busyTracker defaultConfig
    [storedState "#7" "main", storedState "#8" "review"] 0 true (by decide) () _ () rfl⟩

end SheaSymphony.Preflight

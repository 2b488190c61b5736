import SheaSymphony.MainRetryCover
import SheaSymphony.ResumeRecovery

/-!
# The retry budget of the main lane

Four things spend an attempt twice or start a run early: a session of the registry
that replaces the stored state, the dispatch plan when it has a free slot for an issue
whose retry waits, a run started for a session that was completed, and a run at the
limit that the tracker is not told of. Without them the budget holds (`retry_budget`).
-/

namespace SheaSymphony.MainLoop

open Lanes (poolClaimEligibility selectPoolWorkerIssues)
open Model (TrackerIssue)
open Preflight (Adoptable AdoptedFor OfferedFor PreflightRun RetryDue RuntimeRecoveryCandidate
  TakenFor TracksInProgress Unstored Verdict identifier_of_forIssue
  identifier_of_sessionOfIssue runtimeStateFromSessionRecord sessionOfIssue)
open SheaSymphony.Runtime (RuntimeState recordRuntimeRetry runtimeStateForIssue)

variable {ω : Type}

/-! ## The state of a dispatch -/

/-- A dispatch may go on in the state: a run may be started unless the state is that
of a completed session, and a result may be concluded. -/
structure Ready (issue : String) (lane : RetryLane) (state : RuntimeState) : Prop where
  issue : state.identifier = some issue
  attempts : ∀ attempt ∈ lane.attempts, attempt ≤ state.attemptCount
  room : lane.RoomFor state.attemptCount.toNat
  counted : state.lastEvent ≠ some "SessionTerminal" → lane.runs + 1 ≤ state.attemptCount.toNat

variable {dispatch : Dispatch ω} {before : RetryLane} {result : IssueExecutionResult}
  {effects : Preflight.PreflightEffects ω} {runs : Nat} {recover : Bool}

section
variable {config : MainLaneConfig} {issue : String} {lane : RetryLane}
  {state existing : RuntimeState}

theorem ready_of_counted (hissue : state.identifier = some issue)
    (hattempts : ∀ attempt ∈ lane.attempts, attempt ≤ state.attemptCount)
    (hcounted : lane.runs + 1 ≤ state.attemptCount.toNat) : Ready issue lane state where
  issue := hissue
  attempts := hattempts
  room := ⟨(Nat.add_le_add_right (failedRuns_le_runs lane) 1).trans hcounted,
    (Nat.le_succ _).trans hcounted⟩
  counted _ := hcounted

theorem le_saturatingSucc (n : UInt32) : n ≤ saturatingSucc n := by
  have hbound : n.toNat < 4294967296 := n.toNat_lt
  rw [UInt32.le_iff_toNat_le, toNat_saturatingSucc]
  omega

theorem Underway.runs_lt_next (h : Underway config issue lane)
    (hruns : lane.runs ≤ existing.attemptCount.toNat) :
    lane.runs + 1 ≤ (saturatingSucc existing.attemptCount).toNat := by
  have hturns : config.maxTurns.toNat < 4294967296 := config.maxTurns.toNat_lt
  have hwithin := h.runs
  rw [toNat_saturatingSucc]
  omega

theorem resumedRuntimeState_ready (h : Underway config issue lane)
    (hstored : lane.stored = some existing) (claimRun : String) :
    Ready issue lane (resumedRuntimeState existing claimRun) := by
  have hcovers := h.covers existing hstored
  by_cases hterminal : existing.lastEvent = some "SessionTerminal"
  · have hcount : (resumedRuntimeState existing claimRun).attemptCount = existing.attemptCount :=
      if_pos hterminal
    constructor
    case issue => exact hcovers.issue
    case attempts => exact hcount ▸ hcovers.attempts
    case room => exact hcount ▸ ⟨hcovers.terminal hterminal, hcovers.runs⟩
    case counted => exact fun hevent => absurd hterminal hevent
  · have hcount : (resumedRuntimeState existing claimRun).attemptCount
        = saturatingSucc existing.attemptCount := if_neg hterminal
    refine ready_of_counted hcovers.issue ?_ (hcount ▸ h.runs_lt_next hcovers.runs)
    intro attempt hmem
    exact hcount ▸ UInt32.le_trans (hcovers.attempts attempt hmem) (le_saturatingSucc _)

theorem freshRuntimeState_ready (h : Underway config issue lane) {latest : TrackerIssue}
    (hissue : latest.identifier = issue) (branchName : Option String) (event claimRun : String) :
    Ready issue lane (freshRuntimeState config lane.stored latest branchName event claimRun) := by
  have hidentifier : (freshRuntimeState config lane.stored latest branchName event
      claimRun).identifier = some issue := congrArg some hissue
  cases hstored : lane.stored with
  | none =>
      obtain ⟨hattempts, hruns⟩ := h.unstored hstored
      rw [hstored] at hidentifier
      refine ready_of_counted hidentifier ?_ (hruns ▸ Nat.le_refl 1)
      rw [hattempts]
      exact nofun
  | some existing =>
      have hcovers := h.covers existing hstored
      have hcount : (freshRuntimeState config (some existing) latest branchName event
          claimRun).attemptCount = saturatingSucc existing.attemptCount := by
        show nextRuntimeAttemptCount (some existing) latest.identifier = _
        rw [nextRuntimeAttemptCount, hissue, Option.filter_some,
          if_pos (beq_iff_eq.mpr hcovers.issue), Option.map_some, Option.getD_some]
      rw [hstored] at hidentifier
      refine ready_of_counted hidentifier ?_ (hcount ▸ h.runs_lt_next hcovers.runs)
      intro attempt hmem
      exact hcount ▸ UInt32.le_trans (hcovers.attempts attempt hmem) (le_saturatingSucc _)

theorem runLoopRuntimeStateForIssue_ready (h : Underway config issue lane) {latest : TrackerIssue}
    (hissue : latest.identifier = issue) (branchName : Option String) (event claimRun : String) :
    Ready issue lane
      (runLoopRuntimeStateForIssue config lane.stored latest branchName event claimRun) := by
  unfold runLoopRuntimeStateForIssue
  split
  · next existing hexisting =>
    split at hexisting
    · exact resumedRuntimeState_ready h (Option.filter_eq_some_iff.mp hexisting).1 claimRun
    · cases hexisting
  · exact freshRuntimeState_ready h hissue branchName event claimRun

theorem dispatchedState_ready (h : Underway config issue lane)
    (hissue : dispatch.issue.identifier = issue)
    (hstate : dispatchedState config dispatch lane.stored = some state) :
    Ready issue lane state := by
  obtain ⟨event, -, rfl⟩ := Option.map_eq_some_iff.mp hstate
  have hready := runLoopRuntimeStateForIssue_ready h hissue dispatch.branchName event
    dispatch.claimRun
  exact ⟨hready.issue, hready.attempts, hready.room, hready.counted⟩

/-! ## The end of a run -/

theorem covers_of_room (hissue : state.identifier = some issue)
    (hattempts : ∀ attempt ∈ lane.attempts, attempt ≤ state.attemptCount)
    (hroom : lane.RoomFor state.attemptCount.toNat) : Covers issue lane state where
  issue := hissue
  attempts := hattempts
  runs := hroom.2
  spare _ _ := hroom.1.trans (le_max_right _ _)
  terminal _ := hroom.1

theorem covers_of_failed (hissue : state.identifier = some issue)
    (hattempts : ∀ attempt ∈ lane.attempts, attempt ≤ state.attemptCount)
    (hruns : lane.runs ≤ state.attemptCount.toNat) (hevent : state.lastEvent = some "Failed") :
    Covers issue lane state where
  issue := hissue
  attempts := hattempts
  runs := hruns
  spare _ hnot := absurd hevent hnot
  terminal hterminal := absurd (hevent.symm.trans hterminal) (by decide)

/-- The states differ in what a retry or a transition writes. -/
structure Rewrites (state after : RuntimeState) : Prop where
  issue : after.identifier = state.identifier
  attempts : after.attemptCount = state.attemptCount
  event : after.lastEvent = state.lastEvent

theorem transitionTo_cases (dispatch : Dispatch ω) (state : RuntimeState) (toState reason : String)
    (lane : RetryLane) :
    ∃ after, Rewrites state after ∧
      (transitionTo dispatch state toState reason lane = (lane.store after).leave toState ∨
        transitionTo dispatch state toState reason lane = lane.store after
          ∧ ¬(dispatch.claimWritten = true ∧ dispatch.stateWritten = true)) := by
  refine ⟨runLoopRuntimeStateWithTransition state (some dispatch.issue.state) toState reason,
    ⟨rfl, rfl, rfl⟩, ?_⟩
  unfold transitionTo
  dsimp only
  split
  · exact Or.inl rfl
  · next hwritten => exact Or.inr ⟨rfl, fun h => hwritten (Bool.and_eq_true_iff.mpr h)⟩

/-- A failed run without a usage limit leaves a state that rewrites the one it had:
at the limit because the tracker was not told, before it with a retry. -/
theorem completeFailedRun_cases (config : MainLaneConfig) (dispatch : Dispatch ω)
    (state : RuntimeState) (lane : RetryLane) (hpause : result.usageLimitPause = none) :
    ∃ after, Rewrites state after ∧
      (completeFailedRun config dispatch state result lane
          = (lane.store after).leave "need_human_input" ∨
        completeFailedRun config dispatch state result lane = lane.store after
          ∧ (state.attemptCount < config.maxTurns ∨
            ¬(dispatch.claimWritten = true ∧ dispatch.stateWritten = true))) := by
  have htransition : ∀ reason, ∃ after, Rewrites state after ∧
      (transitionTo dispatch (markRuntimeStateUpdated state dispatch.endedAtMs) "need_human_input"
          reason lane = (lane.store after).leave "need_human_input" ∨
        transitionTo dispatch (markRuntimeStateUpdated state dispatch.endedAtMs) "need_human_input"
            reason lane = lane.store after
          ∧ (state.attemptCount < config.maxTurns ∨
            ¬(dispatch.claimWritten = true ∧ dispatch.stateWritten = true))) := fun reason => by
    obtain ⟨after, hrewrites, hcases⟩ := transitionTo_cases dispatch
      (markRuntimeStateUpdated state dispatch.endedAtMs) "need_human_input" reason lane
    exact ⟨after, ⟨hrewrites.issue, hrewrites.attempts, hrewrites.event⟩,
      hcases.imp id fun ⟨heq, hnot⟩ => ⟨heq, Or.inr hnot⟩⟩
  unfold completeFailedRun
  rw [hpause]
  dsimp only
  split
  · exact htransition _
  · split
    · next hbelow =>
      refine ⟨recordRuntimeRetry state dispatch.endedAtMs (retryDelayMs config.maxRetryBackoffMs
        state.attemptCount false) result.message, ⟨rfl, rfl, rfl⟩, Or.inr ⟨rfl, Or.inl hbelow⟩⟩
    · exact htransition _

/-- What a dispatch adds to the lane that began it, where `runs` may have been made
when it ends. -/
structure Advanced (config : MainLaneConfig) (issue : String) (runs : Nat)
    (lane after : RetryLane) : Prop where
  sorted : after.attempts.Pairwise (· ≤ ·)
  starts : after.starts = lane.starts
  failedRuns : after.failedRuns ≤ runs
  rest : after.movedTo = some "need_human_input" ∨ after.movedTo = none ∧ after.runs ≤ runs
    ∧ ∃ state, after.stored = some state ∧ Covers issue after state

theorem Advanced.of_store (hunmoved : lane.movedTo = none)
    (hsorted : lane.attempts.Pairwise (· ≤ ·)) (hstarts : lane.starts = before.starts)
    (hruns : lane.runs ≤ runs) (hcovers : Covers issue lane state) :
    Advanced config issue runs before (lane.store state) where
  sorted := pairwise_concat_of_le hsorted hcovers.attempts
  starts := hstarts
  failedRuns := (failedRuns_le_runs lane).trans hruns
  rest := Or.inr ⟨hunmoved, hruns, state, rfl, hcovers.store⟩

theorem Advanced.of_leave (hsorted : lane.attempts.Pairwise (· ≤ ·))
    (hstarts : lane.starts = before.starts) (hruns : lane.runs ≤ runs)
    (hcovers : Covers issue lane state) :
    Advanced config issue runs before ((lane.store state).leave "need_human_input") where
  sorted := pairwise_concat_of_le hsorted hcovers.attempts
  starts := hstarts
  failedRuns := (failedRuns_le_runs lane).trans hruns
  rest := Or.inl rfl

/-- The lane after a failed run whose result is stored. -/
structure Failing (issue : String) (runs : Nat) (before lane : RetryLane) (state : RuntimeState) :
    Prop where
  unmoved : lane.movedTo = none
  sorted : lane.attempts.Pairwise (· ≤ ·)
  starts : lane.starts = before.starts
  runs : lane.runs ≤ runs
  stored : lane.stored = some state
  covers : Covers issue lane state
  event : state.lastEvent = some "Failed"

theorem Failing.rewrites {after : RuntimeState} (h : Failing issue runs before lane state)
    (hrewrites : Rewrites state after) :
    Covers issue lane after := by
  refine covers_of_failed (hrewrites.issue.trans h.covers.issue) ?_ ?_
    (hrewrites.event.trans h.event)
  · exact hrewrites.attempts ▸ h.covers.attempts
  · exact hrewrites.attempts ▸ h.covers.runs

theorem completeFailedRun_advanced (h : Failing issue runs before lane state)
    (hpause : result.usageLimitPause = none) :
    Advanced config issue runs before (completeFailedRun config dispatch state result lane) := by
  obtain ⟨after, hrewrites, hleave | ⟨hstore, -⟩⟩ :=
    completeFailedRun_cases config dispatch state lane hpause
  · rw [hleave]
    exact .of_leave h.sorted h.starts h.runs (h.rewrites hrewrites)
  · rw [hstore]
    exact .of_store h.unmoved h.sorted h.starts h.runs (h.rewrites hrewrites)

theorem Failing.advanced (h : Failing issue runs before lane state) :
    Advanced config issue runs before lane where
  sorted := h.sorted
  starts := h.starts
  failedRuns := (failedRuns_le_runs lane).trans h.runs
  rest := Or.inr ⟨h.unmoved, h.runs, state, h.stored, h.covers⟩

/-- The lane before the result of a run is stored. -/
structure Slack (issue : String) (runs : Nat) (before lane : RetryLane) (state : RuntimeState) :
    Prop where
  unmoved : lane.movedTo = none
  sorted : lane.attempts.Pairwise (· ≤ ·)
  starts : lane.starts = before.starts
  issue : state.identifier = some issue
  attempts : ∀ attempt ∈ lane.attempts, attempt ≤ state.attemptCount
  room : lane.RoomFor state.attemptCount.toNat
  bound : lane.RoomFor runs

/-- The state in which the result of a run is stored. -/
def resultState (dispatch : Dispatch ω) (state : RuntimeState) (result : IssueExecutionResult) :
    RuntimeState :=
  markRuntimeStateUpdated (runLoopRuntimeStateWithResult state result) dispatch.resultAtMs

theorem Slack.failing (h : Slack issue runs before lane state) (dispatch : Dispatch ω)
    (hpending : result.pendingSession = false) (hsuccess : result.success = false)
    (hpause : result.usageLimitPause = none) :
    Failing issue runs before ((lane.store (resultState dispatch state result)).ended result)
      (resultState dispatch state result) := by
  have hended : (lane.store (resultState dispatch state result)).ended result
      = { lane.store (resultState dispatch state result) with
          running := false, failedRuns := lane.failedRuns + 1 } := by
    simp [RetryLane.ended, hpending, hsuccess, hpause, RetryLane.store]
  have hevent : (resultState dispatch state result).lastEvent = some "Failed" := by
    simp [resultState, markRuntimeStateUpdated, runLoopRuntimeStateWithResult, hpending, hsuccess]
  rw [hended]
  constructor
  case unmoved => exact h.unmoved
  case sorted => exact pairwise_concat_of_le h.sorted h.attempts
  case starts => exact h.starts
  case runs => exact h.bound.1
  case stored => rfl
  case covers => exact covers_of_failed h.issue (le_of_mem_concat h.attempts) h.room.1 hevent
  case event => exact hevent

theorem concludeRun_advanced (h : Slack issue runs before lane state)
    (hsuccess : result.success = false) (hpause : result.usageLimitPause = none) :
    Advanced config issue runs before (concludeRun config dispatch state result lane) := by
  unfold concludeRun
  cases hpending : result.pendingSession with
  | true =>
      have hended : (lane.store (resultState dispatch state result)).ended result
          = lane.store (resultState dispatch state result) := if_pos hpending
      rw [Bool.not_true, Bool.and_false, if_neg Bool.false_ne_true]
      change Advanced config issue runs before
        ((lane.store (resultState dispatch state result)).ended result)
      rw [hended]
      exact .of_store h.unmoved h.sorted h.starts h.bound.2
        (covers_of_room h.issue h.attempts h.room)
  | false =>
      have hfailing := h.failing dispatch hpending hsuccess hpause
      split
      · unfold applyTerminalTransition
        rw [hsuccess, if_neg Bool.false_ne_true]
        exact completeFailedRun_advanced hfailing hpause
      · exact hfailing.advanced

theorem concludeRun_limit (h : Slack issue runs before lane state)
    (hsuccess : result.success = false) (hpause : result.usageLimitPause = none)
    (hpending : result.pendingSession = false) (hworkpad : dispatch.workpadWritten = true)
    (hwritten : dispatch.claimWritten = true ∧ dispatch.stateWritten = true)
    (hunmoved : (concludeRun config dispatch state result lane).movedTo = none) :
    (concludeRun config dispatch state result lane).runs < config.maxTurns.toNat := by
  have hfailing := h.failing dispatch hpending hsuccess hpause
  have hconclude : concludeRun config dispatch state result lane
      = completeFailedRun config dispatch (resultState dispatch state result) result
        ((lane.store (resultState dispatch state result)).ended result) := by
    unfold concludeRun
    rw [hworkpad, hpending, Bool.not_false, Bool.and_true, if_pos rfl]
    unfold applyTerminalTransition
    rw [hsuccess, if_neg Bool.false_ne_true]
    rfl
  rw [hconclude] at hunmoved ⊢
  obtain ⟨after, hrewrites, hleave | ⟨hstore, hbelow | hnot⟩⟩ :=
    completeFailedRun_cases config dispatch (resultState dispatch state result) _ hpause
  · rw [hleave] at hunmoved
    cases hunmoved
  · rw [hstore]
    exact hfailing.covers.runs.trans_lt (UInt32.lt_iff_toNat_lt.mp hbelow)
  · exact absurd hwritten hnot

/-! ## A dispatch -/

theorem slack_of_ready (h : Underway config issue lane)
    (hsorted : lane.attempts.Pairwise (· ≤ ·)) (hready : Ready issue lane state) :
    Slack issue (lane.runs + 1) lane (lane.store state) state where
  unmoved := h.unmoved
  sorted := pairwise_concat_of_le hsorted hready.attempts
  starts := rfl
  issue := hready.issue
  attempts := le_of_mem_concat hready.attempts
  room := hready.room
  bound := ⟨Nat.add_le_add_right (failedRuns_le_runs lane) 1, Nat.le_succ _⟩

theorem slack_of_start (h : Underway config issue lane)
    (hsorted : lane.attempts.Pairwise (· ≤ ·)) (hready : Ready issue lane state)
    (hevent : state.lastEvent ≠ some "SessionTerminal") (start : RunStart) :
    Slack issue (lane.runs + 1) { lane with starts := lane.starts ++ [start] }
      ((lane.store state).start start) state where
  unmoved := h.unmoved
  sorted := pairwise_concat_of_le hsorted hready.attempts
  starts := rfl
  issue := hready.issue
  attempts := le_of_mem_concat hready.attempts
  room := ⟨hready.counted hevent, hready.counted hevent⟩
  bound := ⟨Nat.le_refl _, Nat.le_refl _⟩

theorem Slack.advanced (h : Slack issue runs before lane state)
    (hstored : lane.stored = some state) : Advanced config issue runs before lane where
  sorted := h.sorted
  starts := h.starts
  failedRuns := (failedRuns_le_runs lane).trans h.bound.2
  rest := Or.inr ⟨h.unmoved, h.bound.2, state, hstored, covers_of_room h.issue h.attempts h.room⟩

/-- The lane of a dispatch when it has begun a run or found none to begin. -/
def begun (outcome : RunOutcome) (start : RunStart) (state : RuntimeState) (lane : RetryLane) :
    RetryLane :=
  if outcome.started then (lane.store state).start start else lane.store state

/-- The starts of the lane, with one more when a run is begun. -/
def withStart (outcome : RunOutcome) (start : RunStart) (lane : RetryLane) : RetryLane :=
  if outcome.started then { lane with starts := lane.starts ++ [start] } else lane

theorem begun_slack (h : Underway config issue lane) (hsorted : lane.attempts.Pairwise (· ≤ ·))
    (hready : Ready issue lane state) {outcome : RunOutcome}
    (hcompleted : state.lastEvent = some "SessionTerminal" → outcome.started = false)
    (start : RunStart) :
    Slack issue (lane.runs + 1) (withStart outcome start lane) (begun outcome start state lane)
      state := by
  unfold begun withStart
  split
  · next hstarted =>
    refine slack_of_start h hsorted hready (fun hevent => ?_) start
    rw [hcompleted hevent] at hstarted
    cases hstarted
  · exact slack_of_ready h hsorted hready

theorem stored_begun (outcome : RunOutcome) (start : RunStart) (state : RuntimeState)
    (lane : RetryLane) : (begun outcome start state lane).stored = some state := by
  unfold begun
  split <;> rfl

theorem dispatch_eq {start : RunStart}
    (hstate : dispatchedState config dispatch lane.stored = some state) :
    runLoopDispatchWriteCandidate config dispatch effects recover start lane
      = match (runOutcome config dispatch effects recover state).result with
        | none => begun (runOutcome config dispatch effects recover state) start state lane
        | some result => concludeRun config dispatch state result
            (begun (runOutcome config dispatch effects recover state) start state lane) := by
  unfold runLoopDispatchWriteCandidate
  rw [hstate]
  rfl

/-- What a dispatch needs of its issue, its outcome and the budget. -/
structure Admitted (issue : String) (dispatch : Dispatch ω) (state : RuntimeState)
    (outcome : RunOutcome) : Prop where
  issue : dispatch.issue.identifier = issue
  fails : ∀ result ∈ outcome.result, result.success = false ∧ result.usageLimitPause = none
  completed : state.lastEvent = some "SessionTerminal" → outcome.started = false

theorem dispatch_advanced (h : Underway config issue lane)
    (hsorted : lane.attempts.Pairwise (· ≤ ·))
    (hstate : dispatchedState config dispatch lane.stored = some state)
    (hadmitted : Admitted issue dispatch state (runOutcome config dispatch effects recover state))
    (start : RunStart) :
    Advanced config issue (lane.runs + 1)
      (withStart (runOutcome config dispatch effects recover state) start lane)
      (runLoopDispatchWriteCandidate config dispatch effects recover start lane) := by
  have hready := dispatchedState_ready h hadmitted.issue hstate
  have hslack := begun_slack h hsorted hready hadmitted.completed start
  rw [dispatch_eq hstate]
  cases hresult : (runOutcome config dispatch effects recover state).result with
  | none => exact hslack.advanced (stored_begun _ _ _ _)
  | some result =>
      obtain ⟨hsuccess, hpause⟩ := hadmitted.fails result hresult
      exact concludeRun_advanced hslack hsuccess hpause

theorem dispatch_limit (h : Underway config issue lane) (hsorted : lane.attempts.Pairwise (· ≤ ·))
    (hstate : dispatchedState config dispatch lane.stored = some state)
    (hadmitted : Admitted issue dispatch state (runOutcome config dispatch effects recover state))
    (hconcludes : Concludes dispatch (runOutcome config dispatch effects recover state))
    (start : RunStart)
    (hunmoved : (runLoopDispatchWriteCandidate config dispatch effects recover start lane).movedTo
      = none) :
    (runLoopDispatchWriteCandidate config dispatch effects recover start lane).runs
      < config.maxTurns.toNat := by
  have hready := dispatchedState_ready h hadmitted.issue hstate
  have hslack := begun_slack h hsorted hready hadmitted.completed start
  rw [dispatch_eq hstate] at hunmoved ⊢
  cases hresult : (runOutcome config dispatch effects recover state).result with
  | none =>
      have hidle : (runOutcome config dispatch effects recover state).started = false := by
        cases hstarted : (runOutcome config dispatch effects recover state).started with
        | false => rfl
        | true =>
            have hends := hconcludes.ends hstarted
            rw [hresult] at hends
            cases hends
      have hbegun : begun (runOutcome config dispatch effects recover state) start state lane
          = lane.store state := by
        rw [begun, hidle, if_neg Bool.false_ne_true]
      show (begun (runOutcome config dispatch effects recover state) start state lane).runs < _
      rw [hbegun]
      exact h.runs
  | some result =>
      obtain ⟨hsuccess, hpause⟩ := hadmitted.fails result hresult
      rw [hresult] at hunmoved
      exact concludeRun_limit hslack hsuccess hpause (hconcludes.whole result hresult)
        hconcludes.workpad ⟨hconcludes.claim, hconcludes.state⟩ hunmoved

end

/-! ## Iterations -/

/-- The invariant of the lane. -/
structure Budgeted (config : MainLaneConfig) (issue : String) (lane : RetryLane) : Prop where
  attempts : lane.attempts.Pairwise (· ≤ ·)
  starts : ∀ start ∈ lane.starts, ∀ retry ∈ start.retry, retry.nextRetryAtMs ≤ start.nowMs
  failedRuns : lane.failedRuns ≤ config.maxTurns.toNat
  rest : lane.movedTo = some "need_human_input" ∨ Underway config issue lane

section
variable {config : MainLaneConfig} {issue : String} {lane : RetryLane} {iteration : Iteration ω}
  {state : RuntimeState} {run : PreflightRun}

theorem Budgeted.fresh (config : MainLaneConfig) (issue : String) :
    Budgeted config issue .fresh where
  attempts := .nil
  starts := nofun
  failedRuns := Nat.zero_le _
  rest := Or.inr
    { unmoved := rfl
      runs := one_le_toNat config.validTurns
      unstored := fun _ => ⟨rfl, rfl⟩
      covers := fun _ hmem => absurd hmem (by simp [RetryLane.fresh]) }

theorem Budgeted.withinBudget (h : Budgeted config issue lane) : WithinBudget config lane where
  attempts := h.attempts
  starts := h.starts
  failedRuns := h.failedRuns
  stopped hall := by
    refine h.rest.resolve_right fun hunderway => ?_
    have hle := failedRuns_le_runs lane
    have hlt := hunderway.runs
    omega

theorem le_of_dueInMs_eq_zero {retry : Runtime.RuntimeRetryState} {nowMs : UInt64}
    (h : retry.dueInMs nowMs = 0) : retry.nextRetryAtMs ≤ nowMs :=
  UInt64.le_iff_toNat_le.mpr (Nat.sub_eq_zero_iff_le.mp h)

theorem start_due (h : Underway config issue lane)
    (hfailing : KeepsFailing config issue lane iteration)
    (hkeeps : KeepsBudget config issue lane iteration)
    (hdispatches : Dispatches config issue lane iteration run state) :
    ∀ retry ∈ lane.stored.bind (·.retry), retry.nextRetryAtMs ≤ iteration.nowMs := by
  intro retry hretry
  obtain ⟨stored, hstored, hmem⟩ := Option.bind_eq_some_iff.mp hretry
  exact le_of_dueInMs_eq_zero (retryDue_of_dispatches h hfailing hkeeps hstored hdispatches retry hmem)

theorem runs_lt_of_not_limit (h : Underway config issue lane)
    (hlimit : ¬config.maxTurns.toNat ≤ lane.storedAttempts + 1) :
    lane.runs + 1 < config.maxTurns.toNat := by
  have hruns := h.runs_le_storedAttempts
  omega

theorem runLoopIteration_budgeted_of_dispatches (h : Budgeted config issue lane)
    (hunderway : Underway config issue lane) (hfailing : KeepsFailing config issue lane iteration)
    (hkeeps : KeepsBudget config issue lane iteration)
    (hdispatches : Dispatches config issue lane iteration run state) :
    Budgeted config issue
      (runLoopDispatchWriteCandidate config iteration.dispatch iteration.effects iteration.recover
        { nowMs := iteration.nowMs, retry := lane.stored.bind (·.retry) }
        (lane.retain (runtimeStateForIssue run.retainedStates issue))) := by
  obtain ⟨hcovers, hnone⟩ := preflight_covers hunderway hfailing hkeeps hdispatches.preflight
  have hkept := hunderway.retain hcovers hnone
  have hsorted := pairwise_retain h.attempts hcovers
  have hstate : dispatchedState config iteration.dispatch
      (lane.retain (runtimeStateForIssue run.retainedStates issue)).stored = some state := by
    rw [stored_retain]
    exact hdispatches.state
  have hadmitted : Admitted issue iteration.dispatch state
      (runOutcome config iteration.dispatch iteration.effects iteration.recover state) :=
    ⟨hfailing.dispatched, hfailing.fails run state hdispatches,
      hkeeps.completed run state hdispatches⟩
  have hadvanced := dispatch_advanced hkept hsorted hstate hadmitted
    { nowMs := iteration.nowMs, retry := lane.stored.bind (·.retry) }
  have hbound := hunderway.runs
  rw [runs_retain] at hadvanced
  constructor
  case attempts => exact hadvanced.sorted
  case starts =>
    rw [hadvanced.starts, withStart]
    split
    · intro start hmem
      rcases List.mem_append.mp hmem with hold | hnew
      · exact h.starts start (starts_retain _ ▸ hold)
      · obtain rfl := List.mem_singleton.mp hnew
        exact start_due hunderway hfailing hkeeps hdispatches
    · rw [starts_retain]
      exact h.starts
  case failedRuns =>
    have hfailed := hadvanced.failedRuns
    omega
  case rest =>
    refine hadvanced.rest.imp id fun ⟨hunmoved, hruns, after, hstored, hafter⟩ => ?_
    constructor
    case unmoved => exact hunmoved
    case runs =>
      by_cases hlimit : config.maxTurns.toNat ≤ lane.storedAttempts + 1
      · exact dispatch_limit hkept hsorted hstate hadmitted
          (hkeeps.limit hlimit run state hdispatches) _ hunmoved
      · exact hruns.trans_lt (runs_lt_of_not_limit hunderway hlimit)
    case unstored =>
      intro hempty
      rw [hstored] at hempty
      cases hempty
    case covers =>
      intro other hother
      obtain rfl := Option.some.inj (hstored.symm.trans hother)
      exact hafter

theorem runLoopIteration_budgeted (h : Budgeted config issue lane)
    (hfailing : KeepsFailing config issue lane iteration)
    (hkeeps : KeepsBudget config issue lane iteration) :
    Budgeted config issue (runLoopIteration config issue lane iteration) := by
  unfold runLoopIteration
  split
  · exact h
  · next hmoved =>
    have hunderway : Underway config issue lane :=
      h.rest.resolve_left fun hmovedTo => hmoved (by rw [hmovedTo]; rfl)
    split
    · exact h
    · next run hrun =>
      obtain ⟨hcovers, hnone⟩ := preflight_covers hunderway hfailing hkeeps hrun
      have hkept : Budgeted config issue
          (lane.retain (runtimeStateForIssue run.retainedStates issue)) := by
        constructor
        case attempts => exact pairwise_retain h.attempts hcovers
        case starts => exact (starts_retain _).symm ▸ h.starts
        case failedRuns =>
          have hle := failedRuns_le_runs (lane.retain (runtimeStateForIssue run.retainedStates issue))
          have hlt := hunderway.runs
          rw [runs_retain] at hle
          omega
        case rest => exact Or.inr (hunderway.retain hcovers hnone)
      dsimp only
      split
      · next hselected =>
        cases hstate : dispatchedState config iteration.dispatch
            (runtimeStateForIssue run.retainedStates issue) with
        | none =>
            unfold runLoopDispatchWriteCandidate
            rw [stored_retain, hstate]
            exact hkept
        | some state =>
            exact runLoopIteration_budgeted_of_dispatches h hunderway hfailing hkeeps
              ⟨hrun, hselected, hstate⟩
      · exact hkept

/-! ## The budget -/

/-- A later attempt waits no less, and none more than the configured bound; the
product behind the delay is exact. -/
theorem retryDelayMs_le {maxRetryBackoffMs : UInt64} {attempt later : UInt32}
    (h : attempt ≤ later) :
    retryDelayMs maxRetryBackoffMs attempt false ≤ retryDelayMs maxRetryBackoffMs later false := by
  have hle : attempt.toNat ≤ later.toNat := UInt32.le_iff_toNat_le.mp h
  rw [UInt64.le_iff_toNat_le, toNat_retryDelayMs, toNat_retryDelayMs]
  refine min_le_min_right _ (Nat.mul_le_mul_left _ (Nat.pow_le_pow_right (by decide) ?_))
  omega

theorem retryDelayMs_le_max (maxRetryBackoffMs : UInt64) (attempt : UInt32) :
    retryDelayMs maxRetryBackoffMs attempt false ≤ maxRetryBackoffMs := by
  rw [UInt64.le_iff_toNat_le, toNat_retryDelayMs]
  exact Nat.min_le_right _ _

/-- What the delays between attempts satisfy. -/
structure BoundedDelays (maxRetryBackoffMs : UInt64) : Prop where
  exact : ∀ attempt, (retryDelayMs maxRetryBackoffMs attempt false).toNat
    = min (10000 * 2 ^ min (attempt.toNat - 1) 10) maxRetryBackoffMs.toNat
  monotone : ∀ attempt later, attempt ≤ later →
    retryDelayMs maxRetryBackoffMs attempt false ≤ retryDelayMs maxRetryBackoffMs later false
  bounded : ∀ attempt, retryDelayMs maxRetryBackoffMs attempt false ≤ maxRetryBackoffMs

theorem retry_budget (config : MainLaneConfig) (issue : String) (iterations : List (Iteration ω))
    (hfailing : Runs.Allowed (runLoopIteration config issue) (KeepsFailing config issue) .fresh
      iterations)
    (hkeeps : Runs.Allowed (runLoopIteration config issue) (KeepsBudget config issue) .fresh
      iterations) :
    WithinBudget config (Runs.run (runLoopIteration config issue) .fresh iterations)
      ∧ BoundedDelays config.maxRetryBackoffMs := by
  have hinvariant : Budgeted config issue
      (Runs.run (runLoopIteration config issue) .fresh iterations) :=
    Runs.Allowed.invariant (fun _ _ h hguard => runLoopIteration_budgeted h hguard.1 hguard.2)
      iterations (Budgeted.fresh config issue) (hfailing.and iterations hkeeps)
  exact ⟨hinvariant.withinBudget, fun attempt => toNat_retryDelayMs _ attempt,
    fun _ _ h => retryDelayMs_le h, fun attempt => retryDelayMs_le_max _ attempt⟩

end

/-! ### Two runs -/

def failedResult : IssueExecutionResult where
  workspacePath := "/work/7"
  backend := "codex"
  profileId := none
  instanceName := none
  success := false
  pendingSession := false
  sessionId := none
  runId := none
  backendLogPath := none
  backendAttachCommand := none
  message := "turn failed"
  usageLimitPause := none
  actorRole := "Main Agent"
  actorLabel := "Shea Symphony Main"
  gitAuthor := none

/-- A lane of two workers that gives an issue up after four attempts. -/
def twoWorkers : MainLaneConfig where
  preflight := Preflight.defaultConfig
  maxConcurrent := 2
  maxTurns := 4
  maxRetryBackoffMs := 300000
  workerId := "Shea Symphony Main"
  profileId := none
  instanceName := none
  actorRole := "Main Agent"
  actorLabel := "Shea Symphony Main"
  gitAuthor := none
  validTurns := by decide

def busyIssue : TrackerIssue := Preflight.issueInState "#7" "In Progress"

/-- Every run fails, and so does every live handoff. -/
def failingDispatch : Dispatch Unit where
  admitted := true
  issue := busyIssue
  branchName := none
  claimRun := "run-7"
  handoffBranch := "issue-7"
  handoffWorkspace := "/work/7"
  startedAtMs := 1500
  world := ()
  probedAtMs := 1500
  execution := some failedResult
  afterHandoff result := some { result with success := false, usageLimitPause := none }
  resultAtMs := 2000
  workpadWritten := true
  reviewWorkpadWritten := true
  handoffReady := false
  endedAtMs := 2000
  claimWritten := true
  stateWritten := true

/-- The first session of the issue completed, and the second failed. -/
def recoverIteration (nowMs : UInt64) : Iteration Unit where
  effects := Preflight.steadyEffects (fun identifier =>
      .ok (some (Preflight.issueInState identifier "In Progress")))
    [Preflight.finishedSession "first" 1 .completed, Preflight.finishedSession "second" 2 .failed]
    (fun _ => .ok "") fun _ => .ok none
  world := ()
  nowMs := nowMs
  recover := true
  before := []
  after := []
  scanned := true
  planSelected := []
  dispatch := failingDispatch

/-- An iteration without recovery whose dispatch plan has the issue. -/
def planIteration (nowMs : UInt64) : Iteration Unit :=
  { recoverIteration nowMs with recover := false, planSelected := [busyIssue] }

theorem mem_runOutcome {config : MainLaneConfig} {state : RuntimeState}
    (h : result ∈ (runOutcome config dispatch effects recover state).result) :
    ∃ raw, dispatch.afterHandoff raw = some result := by
  have hexecution : result ∈ dispatch.execution.bind dispatch.afterHandoff →
      ∃ raw, dispatch.afterHandoff raw = some result := fun hmem => by
    obtain ⟨raw, -, hraw⟩ := Option.bind_eq_some_iff.mp hmem
    exact ⟨raw, hraw⟩
  unfold runOutcome at h
  dsimp only at h
  split at h
  · cases h
  · exact hexecution h
  · exact ⟨_, h⟩
  · split at h
    · exact hexecution h
    · cases h

theorem recoverIteration_keepsFailing (lane : RetryLane) (nowMs : UInt64) (recover : Bool)
    (planSelected : List TrackerIssue) :
    KeepsFailing twoWorkers "#7" lane { recoverIteration nowMs with recover, planSelected } where
  others _ hmem := absurd hmem List.not_mem_nil
  tracks :=
    { asked := fun _ => Interrupted.Answers.ofExcept.returns.mono fun _ hanswer read hread => by
        subst hanswer
        obtain rfl := Option.some.inj hread
        rfl
      inProgress := Interrupted.Answers.ofExcept.returns.mono fun _ hanswer read hread => by
        subst hanswer
        obtain rfl := Option.some.inj hread
        decide }
  dispatched := rfl
  fails _ _ _ result hresult := by
    obtain ⟨raw, hraw⟩ := mem_runOutcome hresult
    obtain rfl := Option.some.inj hraw
    exact ⟨rfl, rfl⟩

/-- What the first iteration finds when nothing is stored. -/
def firstRun : PreflightRun :=
  ((recoverIteration 1000).preflight twoWorkers none).toOption.getD .empty

theorem retry_budget_first_run :
    WithinBudget twoWorkers
        (Runs.run (runLoopIteration twoWorkers "#7") .fresh [recoverIteration 1000])
      ∧ BoundedDelays twoWorkers.maxRetryBackoffMs := by
  have hfailing : KeepsFailing twoWorkers "#7" .fresh (recoverIteration 1000) :=
    recoverIteration_keepsFailing .fresh 1000 true []
  have hkeeps : KeepsBudget twoWorkers "#7" .fresh (recoverIteration 1000) := by
    constructor
    case sessions =>
      intro _ record hadoptable
      refine ⟨?_, fun _ hmem => absurd hmem (by simp [RetryLane.fresh])⟩
      obtain ⟨sessions, hsessions, hmem⟩ := hadoptable.shown
      obtain rfl := Interrupted.Answers.pure.returns.of_mayReturn hsessions
      rcases List.mem_cons.mp hmem with rfl | hmem
      · decide +kernel
      · obtain rfl := List.mem_singleton.mp hmem
        decide +kernel
    case plan => exact fun _ _ => Or.inl fun _ hmem => absurd hmem (by simp [RetryLane.fresh])
    case completed =>
      intro run state hdispatches hevent
      have hpreflight : (recoverIteration 1000).preflight twoWorkers none = .ok firstRun := rfl
      obtain rfl := Except.ok.inj (hpreflight.symm.trans hdispatches.preflight)
      have hstate : (dispatchedState twoWorkers failingDispatch
          (runtimeStateForIssue firstRun.retainedStates "#7")).map (·.lastEvent)
          = some (some "Resumed") := by decide +kernel
      have hsame := (congrArg (Option.map RuntimeState.lastEvent) hdispatches.state).symm.trans hstate
      rw [Option.map_some, hevent] at hsame
      exact absurd (Option.some.inj (Option.some.inj hsame)) (by decide +kernel)
    case limit => exact fun hlimit => absurd hlimit (by decide +kernel)
  exact retry_budget twoWorkers "#7" [recoverIteration 1000] ⟨hfailing, trivial⟩ ⟨hkeeps, trivial⟩

/-- Recover mode goes back to the first attempt, again and again; and the plan starts
a run at 3000 whose retry is stored for 42000. -/
theorem retry_budget_exceeded :
    (∃ iterations : List (Iteration Unit),
      Runs.Allowed (runLoopIteration twoWorkers "#7") (KeepsFailing twoWorkers "#7") .fresh iterations
        ∧ (fun lane : RetryLane => (lane.attempts, lane.failedRuns, lane.movedTo))
            (Runs.run (runLoopIteration twoWorkers "#7") .fresh iterations)
          = ([2, 3, 3, 3, 1, 1, 1, 1, 1, 1, 1, 1, 1, 1, 1, 1, 1, 1, 1, 1], 5, none)
        ∧ twoWorkers.maxTurns = 4) ∧
    ∃ iterations : List (Iteration Unit),
      Runs.Allowed (runLoopIteration twoWorkers "#7") (KeepsFailing twoWorkers "#7") .fresh iterations
        ∧ (Runs.run (runLoopIteration twoWorkers "#7") .fresh iterations).starts.map
            (fun start => (start.nowMs, start.retry.map (·.nextRetryAtMs)))
          = [(1000, none), (3000, some 42000)] := by
  have hrecover : ∀ lane nowMs, KeepsFailing twoWorkers "#7" lane (recoverIteration nowMs) :=
    fun lane nowMs => recoverIteration_keepsFailing lane nowMs true []
  have hplan : ∀ lane nowMs, KeepsFailing twoWorkers "#7" lane (planIteration nowMs) :=
    fun lane nowMs => recoverIteration_keepsFailing lane nowMs false [busyIssue]
  refine ⟨⟨[recoverIteration 1000, recoverIteration 3000, recoverIteration 3000,
      recoverIteration 3000, recoverIteration 3000],
      ⟨hrecover _ _, hrecover _ _, hrecover _ _, hrecover _ _, hrecover _ _, trivial⟩, ?_, rfl⟩,
    ⟨[recoverIteration 1000, planIteration 3000], ⟨hrecover _ _, hplan _ _, trivial⟩, ?_⟩⟩
  · decide +kernel
  · decide +kernel

end SheaSymphony.MainLoop

import SheaSymphony.ClaimRace
import SheaSymphony.Collected
import SheaSymphony.PoolSelection
import SheaSymphony.ResumePreflight
import SheaSymphony.ReviewEvidence
import SheaSymphony.RuntimeStateStore

/-!
# Retries of the main lane

One iteration of the main loop, as one issue sees it: the preflight over the stored
states, the selection, and `run_loop_dispatch_write_candidate` from the state it
stores to the retry or the transition it ends with (`lanes/main_loop/session.rs`,
`selection.rs`, `write_candidate.rs` and `write_candidate/terminal.rs`).

What the outside answers is a field of the iteration. The runtime state file is read
and written without failing, and a worker that is cut off leaves what it stored.
-/

namespace SheaSymphony.MainLoop

open Interrupted (Program)
open Lanes (claimDecision poolClaimEligibility selectPoolWorkerIssues)
open Model (TrackerIssue)
open Preflight (CommandOutput PreflightConfig PreflightEffects RuntimeRecoveryCandidate
  awaitedSession compactEvidence defaultSessionStatusLines latestSession runLoopResumePreflightMany)
open Review (UsageLimitPause)
open SheaSymphony.Runtime (RuntimeIssueState RuntimeRetryState RuntimeState RuntimeTransition
  recordRuntimeRetry runtimeStateForIssue)
open Sessions (AgentSessionRecord SessionStatusProbe classifySessionRecord)

/-! ## The delay -/

def saturatingMul (a b : UInt64) : UInt64 :=
  UInt64.ofNat (min (a.toNat * b.toNat) (UInt64.size - 1))

/-- `Orchestrator::retry_delay_ms`. -/
def retryDelayMs (maxRetryBackoffMs : UInt64) (attempt : UInt32) (continuation : Bool) : UInt64 :=
  if continuation && attempt == 1 then 1000
  else
    let power := min (attempt.toNat - 1) 10
    min (saturatingMul 10000 (1 <<< UInt64.ofNat power)) maxRetryBackoffMs

theorem toNat_one_shiftLeft {power : Nat} (h : power ≤ 10) :
    ((1 : UInt64) <<< UInt64.ofNat power).toNat = 2 ^ power := by
  have hbound : 2 ^ power ≤ 2 ^ 10 := Nat.pow_le_pow_right (by decide) h
  have hone : (1 : UInt64).toNat = 1 := rfl
  rw [UInt64.toNat_shiftLeft, UInt64.toNat_ofNat', Nat.mod_eq_of_lt (by omega : power < 2 ^ 64),
    Nat.mod_eq_of_lt (by omega : power < 64), hone, Nat.one_shiftLeft]
  exact Nat.mod_eq_of_lt (by omega)

theorem toNat_retryDelayMs (maxRetryBackoffMs : UInt64) (attempt : UInt32) :
    (retryDelayMs maxRetryBackoffMs attempt false).toNat
      = min (10000 * 2 ^ min (attempt.toNat - 1) 10) maxRetryBackoffMs.toNat := by
  have hpower : 2 ^ min (attempt.toNat - 1) 10 ≤ 2 ^ 10 :=
    Nat.pow_le_pow_right (by decide) (Nat.min_le_right _ _)
  have hproduct : (saturatingMul 10000 (1 <<< UInt64.ofNat (min (attempt.toNat - 1) 10))).toNat
      = 10000 * 2 ^ min (attempt.toNat - 1) 10 := by
    rw [saturatingMul, toNat_one_shiftLeft (Nat.min_le_right _ _), UInt64.toNat_ofNat']
    have hbase : (10000 : UInt64).toNat = 10000 := rfl
    have hsize : UInt64.size = 18446744073709551616 := rfl
    rw [hbase, hsize]
    omega
  rw [← hproduct]
  show (min (saturatingMul 10000 _) maxRetryBackoffMs).toNat = _
  generalize saturatingMul 10000 (1 <<< UInt64.ofNat (min (attempt.toNat - 1) 10)) = delay
  show (if delay ≤ maxRetryBackoffMs then delay else maxRetryBackoffMs).toNat = _
  split
  · next h => exact (Nat.min_eq_left (UInt64.le_iff_toNat_le.mp h)).symm
  · next h => exact (Nat.min_eq_right (by rw [UInt64.le_iff_toNat_le] at h; omega)).symm

/-! ## Results -/

structure IssueExecutionResult where
  workspacePath : String
  backend : String
  profileId : Option String
  instanceName : Option String
  success : Bool
  pendingSession : Bool
  sessionId : Option String
  runId : Option String
  backendLogPath : Option String
  backendAttachCommand : Option String
  message : String
  usageLimitPause : Option UsageLimitPause
  actorRole : String
  actorLabel : String
  gitAuthor : Option String
deriving DecidableEq

/-- The configuration of the lane; `max_turns` is validated. -/
structure MainLaneConfig where
  preflight : PreflightConfig
  maxConcurrent : Nat
  maxTurns : UInt32
  maxRetryBackoffMs : UInt64
  workerId : String
  profileId : Option String
  instanceName : Option String
  actorRole : String
  actorLabel : String
  gitAuthor : Option String
  validTurns : 0 < maxTurns

/-! ## Runtime states of a dispatch -/

def saturatingSucc (n : UInt32) : UInt32 := UInt32.ofNat (min (n.toNat + 1) (UInt32.size - 1))

theorem toNat_saturatingSucc (n : UInt32) :
    (saturatingSucc n).toNat = min (n.toNat + 1) 4294967295 := by
  have hsize : UInt32.size = 4294967296 := rfl
  rw [saturatingSucc, UInt32.toNat_ofNat', hsize]
  omega

def nextRuntimeAttemptCount (existing : Option RuntimeState) (issueIdentifier : String) : UInt32 :=
  ((existing.filter fun state => state.identifier == some issueIdentifier).map fun state =>
    saturatingSucc state.attemptCount).getD 1

/-- A stored state whose session the dispatch goes on with. -/
def resumesSession (issueIdentifier : String) (state : RuntimeState) : Bool :=
  state.identifier == some issueIdentifier
    && (state.lastEvent == some "SessionTerminal"
      || state.backend == "codex" && state.backendSessionId.isSome)

/-- A completed session is taken up under the attempt it was made in. -/
def resumedRuntimeState (existing : RuntimeState) (claimRun : String) : RuntimeState :=
  { existing with
    runId := existing.runId <|> some claimRun
    attemptCount :=
      if existing.lastEvent = some "SessionTerminal" then existing.attemptCount
      else saturatingSucc existing.attemptCount }

def freshRuntimeState (config : MainLaneConfig) (existing : Option RuntimeState)
    (issue : TrackerIssue) (branchName : Option String) (event claimRun : String) : RuntimeState :=
  { RuntimeState.active { id := issue.id, identifier := issue.identifier }
      config.preflight.runtime.backendKind with
    attemptCount := nextRuntimeAttemptCount existing issue.identifier
    branchName
    lane := some "main"
    runId := some claimRun
    profileId := config.profileId
    instanceName := config.instanceName
    actorRole := some config.actorRole
    actorLabel := some config.actorLabel
    gitAuthor := config.gitAuthor
    lastEvent := some event }

def runLoopRuntimeStateForIssue (config : MainLaneConfig) (existing : Option RuntimeState)
    (issue : TrackerIssue) (branchName : Option String) (event claimRun : String) : RuntimeState :=
  match (if event = "Resumed" then existing.filter (resumesSession issue.identifier) else none) with
  | some existing => resumedRuntimeState existing claimRun
  | none => freshRuntimeState config existing issue branchName event claimRun

def runLoopRuntimeStateWithResult (state : RuntimeState) (result : IssueExecutionResult) :
    RuntimeState :=
  { state with
    workspacePath := some result.workspacePath
    backend := result.backend
    backendSessionId := result.sessionId
    runId := result.runId
    backendLogPath := result.backendLogPath
    backendAttachCommand := result.backendAttachCommand
    profileId := result.profileId
    instanceName := result.instanceName
    actorRole := some result.actorRole
    actorLabel := some result.actorLabel
    gitAuthor := result.gitAuthor
    lastEvent := some (if result.pendingSession then "SessionRunning"
      else if result.success then "Completed" else "Failed") }

def runLoopRuntimeStateWithTransition (state : RuntimeState) (fromState : Option String)
    (toState reason : String) : RuntimeState :=
  { state with lastTransition := some { fromState, toState, reason } }

def markRuntimeStateUpdated (state : RuntimeState) (nowMs : UInt64) : RuntimeState :=
  { state with updatedAtMs := some nowMs }

/-! ## The session a state waits for -/

inductive MainSessionReconciliation where
  | terminal (result : IssueExecutionResult)
  | active (status source evidence : String)
deriving DecidableEq

/-- An observed session that recover mode gives up and starts anew. -/
def mainSessionActiveRecoverable (status evidence : String) : Bool :=
  status == "stale"
    || (status == "unknown"
      && Sessions.containsAny evidence
        ["missing from session registry", "without backend session id", "tmux", "unavailable"])

def defaultSessionStaleAfterMs : UInt64 := 1800000

def resultFromReconciledMainSession (config : MainLaneConfig) (workspacePath : String)
    (state : RuntimeState) (record : AgentSessionRecord) (success : Bool)
    (usageLimitPause : Option UsageLimitPause) (message : String) : IssueExecutionResult where
  workspacePath := state.workspacePath.getD workspacePath
  backend := state.backend
  profileId := state.profileId
  instanceName := state.instanceName
  success := success
  pendingSession := false
  sessionId := state.backendSessionId <|> some record.sessionName
  runId := state.runId <|> record.runId
  backendLogPath := state.backendLogPath <|> some record.logPath
  backendAttachCommand := state.backendAttachCommand <|> some record.attachCommand
  message := message
  usageLimitPause := usageLimitPause
  actorRole := state.actorRole.getD config.actorRole
  actorLabel := state.actorLabel.getD config.actorLabel
  gitAuthor := state.gitAuthor <|> config.gitAuthor

/-- What the probe of the session says of its run. -/
def reconciledSession (config : MainLaneConfig) (workspacePath : String) (state : RuntimeState)
    (record : AgentSessionRecord) (probe : SessionStatusProbe) : MainSessionReconciliation :=
  let result := resultFromReconciledMainSession config workspacePath state record
  match probe.status with
  | .completed => .terminal (result true none probe.evidence)
  | .failed => .terminal (result false none ("main session failed: " ++ probe.evidence))
  | .usageLimited =>
      .terminal (result false (some { classifier := "usage_limit", evidence := probe.evidence })
        ("main session usage-limited: " ++ probe.evidence))
  | _ => .active probe.status.asStr probe.source.asStr probe.evidence

section
variable {ω : Type} (effects : PreflightEffects ω) (config : MainLaneConfig)

def reconcileSessionRecord (workspacePath : String) (state : RuntimeState) (sessionId : String)
    (record : AgentSessionRecord) (nowMs : UInt64) :
    Program ω String MainSessionReconciliation :=
  let classified := fun paneTail logTail =>
    reconciledSession config workspacePath state record
      (classifySessionRecord config.preflight.case record paneTail logTail nowMs
        defaultSessionStaleAfterMs)
  if record.backend = "tmux" then do
    match ← (effects.captureTmuxPaneTail record.paneTarget).outcome with
    | .error error =>
        pure (.active "unknown" "tmux" ("tmux pane unavailable for session " ++ sessionId ++ ": "
          ++ compactEvidence error))
    | .ok paneTail => do
        let log ← effects.readToString record.logPath
        let logTail := log.map fun content => Sessions.tailLines content defaultSessionStatusLines
        pure (classified (some paneTail) logTail)
  else pure (classified none none)

def reconcilePendingMainSession (workspacePath : String) (issueIdentifier : String)
    (state : RuntimeState) (nowMs : UInt64) :
    Program ω String (Option MainSessionReconciliation) :=
  if state.identifier = some issueIdentifier ∧ awaitedSession state then
    match state.backendSessionId with
    | none =>
        pure (some (.active "unknown" "runtime"
          "runtime state records SessionRunning without backend session id"))
    | some sessionId => do
        let sessions ← effects.loadSessionRegistry
        match latestSession sessions sessionId with
        | none =>
            pure (some (.active "unknown" "runtime"
              ("runtime session " ++ sessionId ++ " is missing from session registry")))
        | some record => do
            let reconciliation ←
              reconcileSessionRecord effects config workspacePath state sessionId record nowMs
            pure (some reconciliation)
  else pure none

end

/-! ## Selection -/

/-- Candidates for recovery in their order, each issue once, as many as there are slots. -/
def selectRecoverable (availableSlots : Nat) :
    List RuntimeRecoveryCandidate → List TrackerIssue → List TrackerIssue
  | [], selected => selected
  | candidate :: rest, selected =>
      if availableSlots ≤ selected.length then selected
      else if selected.any fun issue => issue.identifier == candidate.issue.identifier then
        selectRecoverable availableSlots rest selected
      else selectRecoverable availableSlots rest (selected ++ [candidate.issue])

def selectMainRunLoopIssues (config : MainLaneConfig)
    (recoverableRuntimeStates : List RuntimeRecoveryCandidate) (planSelected : List TrackerIssue)
    (availableSlots : Nat) : List TrackerIssue :=
  if availableSlots = 0 then []
  else
    let selected := selectRecoverable availableSlots recoverableRuntimeStates []
    let normalSelected := selectPoolWorkerIssues config.preflight.case planSelected .main
      config.workerId (availableSlots - selected.length) config.preflight.runtime
    normalSelected.foldl (Collected.push TrackerIssue.identifier fun first _ => first) selected

/-! ## The lane and one issue -/

/-- A backend run: when its iteration looked at the clock, and the retry that was
stored for the issue then. -/
structure RunStart where
  nowMs : UInt64
  retry : Option RuntimeRetryState

/-- What the lane has stored and done for an issue. A run is `running` from its start
until its result is stored; one that another run supersedes has failed. -/
structure RetryLane where
  stored : Option RuntimeState
  attempts : List UInt32
  starts : List RunStart
  running : Bool
  failedRuns : Nat
  movedTo : Option String

namespace RetryLane

def fresh : RetryLane where
  stored := none
  attempts := []
  starts := []
  running := false
  failedRuns := 0
  movedTo := none

/-- The runs that have failed, and the one that is not over. -/
def runs (lane : RetryLane) : Nat := lane.failedRuns + lane.running.toNat

/-- `upsert_runtime_state`, on the entry of the issue. -/
def store (lane : RetryLane) (state : RuntimeState) : RetryLane :=
  { lane with stored := some state, attempts := lane.attempts ++ [state.attemptCount] }

/-- `save_runtime_states` of what the preflight retains. -/
def retain (lane : RetryLane) : Option RuntimeState → RetryLane
  | none => { lane with stored := none }
  | some state => lane.store state

def start (lane : RetryLane) (start : RunStart) : RetryLane :=
  { lane with starts := lane.starts ++ [start], failedRuns := lane.runs, running := true }

/-- The result of a run is stored; a pending session goes on. -/
def ended (lane : RetryLane) (result : IssueExecutionResult) : RetryLane :=
  if result.pendingSession then lane
  else
    { lane with
      running := false
      failedRuns :=
        if result.success ∨ result.usageLimitPause.isSome then lane.failedRuns
        else lane.failedRuns + 1 }

/-- The tracker has the new state, and the runtime state of the issue is removed. -/
def leave (lane : RetryLane) (toState : String) : RetryLane :=
  { lane with stored := none, movedTo := some toState }

end RetryLane

/-! ## A dispatch -/

/-- What happens to a dispatch of the issue. `afterHandoff` is what the salvage and
the live handoff make of a result; a worker is cut off where there is none. -/
structure Dispatch (ω : Type) where
  admitted : Bool
  issue : TrackerIssue
  branchName : Option String
  claimRun : String
  handoffBranch : String
  handoffWorkspace : String
  startedAtMs : UInt64
  world : ω
  probedAtMs : UInt64
  execution : Option IssueExecutionResult
  afterHandoff : IssueExecutionResult → Option IssueExecutionResult
  resultAtMs : UInt64
  workpadWritten : Bool
  reviewWorkpadWritten : Bool
  handoffReady : Bool
  endedAtMs : UInt64
  claimWritten : Bool
  stateWritten : Bool

section
variable {ω : Type} (config : MainLaneConfig) (dispatch : Dispatch ω)

/-- The transition is stored before it is written to the tracker. -/
def transitionTo (state : RuntimeState) (toState reason : String) (lane : RetryLane) : RetryLane :=
  let state := runLoopRuntimeStateWithTransition state (some dispatch.issue.state) toState reason
  let lane := lane.store state
  if dispatch.claimWritten && dispatch.stateWritten then lane.leave toState else lane

def completeSuccessfulRun (state : RuntimeState) (lane : RetryLane) : RetryLane :=
  if !dispatch.reviewWorkpadWritten then lane
  else if dispatch.handoffReady then
    transitionTo dispatch (markRuntimeStateUpdated state dispatch.endedAtMs) "agent_review"
      "main agent completed" lane
  else
    transitionTo dispatch state "need_human_input" "agent review handoff invariant failed" lane

def completeFailedRun (state : RuntimeState) (result : IssueExecutionResult) (lane : RetryLane) :
    RetryLane :=
  let delayMs := retryDelayMs config.maxRetryBackoffMs state.attemptCount false
  match result.usageLimitPause with
  | some pause =>
      lane.store (recordRuntimeRetry state dispatch.endedAtMs delayMs
        ("usage-limit pause: " ++ pause.evidence))
  | none =>
      if Text.contains result.message "handoff PR link" then
        transitionTo dispatch (markRuntimeStateUpdated state dispatch.endedAtMs) "need_human_input"
          "handoff PR linkage invariant failed" lane
      else if state.attemptCount < config.maxTurns then
        lane.store (recordRuntimeRetry state dispatch.endedAtMs delayMs result.message)
      else
        transitionTo dispatch (markRuntimeStateUpdated state dispatch.endedAtMs) "need_human_input"
          "backend run failed after retry limit" lane

def applyTerminalTransition (state : RuntimeState) (result : IssueExecutionResult)
    (lane : RetryLane) : RetryLane :=
  if result.success then completeSuccessfulRun dispatch state lane
  else completeFailedRun config dispatch state result lane

/-- From the result of a run to the end of the dispatch. -/
def concludeRun (state : RuntimeState) (result : IssueExecutionResult) (lane : RetryLane) :
    RetryLane :=
  let state := markRuntimeStateUpdated (runLoopRuntimeStateWithResult state result)
    dispatch.resultAtMs
  let lane := (lane.store state).ended result
  if dispatch.workpadWritten && !result.pendingSession then
    applyTerminalTransition config dispatch state result lane
  else lane

/-- Whether a backend run is started, and the result the dispatch goes on with. -/
structure RunOutcome where
  started : Bool
  result : Option IssueExecutionResult

def runOutcome (effects : PreflightEffects ω) (recover : Bool) (state : RuntimeState) :
    RunOutcome :=
  let execution := { started := true, result := dispatch.execution.bind dispatch.afterHandoff }
  match (reconcilePendingMainSession effects config dispatch.handoffWorkspace
      dispatch.issue.identifier state dispatch.probedAtMs dispatch.world).1 with
  | .error _ => { started := false, result := none }
  | .ok none => execution
  | .ok (some (.terminal result)) => { started := false, result := dispatch.afterHandoff result }
  | .ok (some (.active status _ evidence)) =>
      if recover && mainSessionActiveRecoverable status evidence then execution
      else { started := false, result := none }

/-- The event of the claim, where the dispatch comes to it. -/
def dispatchEvent : Option String :=
  if dispatch.admitted then
    match claimDecision config.preflight.case dispatch.issue config.preflight.runtime with
    | .claimable => some "Claimed"
    | .alreadyInProgress => some "Resumed"
    | .stopAndReplan _ => none
  else none

/-- The state a dispatch stores before it looks at the session. -/
def dispatchedState (existing : Option RuntimeState) : Option RuntimeState :=
  (dispatchEvent config dispatch).map fun event =>
    markRuntimeStateUpdated
      { runLoopRuntimeStateForIssue config existing dispatch.issue dispatch.branchName event
          dispatch.claimRun with branchName := some dispatch.handoffBranch }
      dispatch.startedAtMs

/-- `run_loop_dispatch_write_candidate`. -/
def runLoopDispatchWriteCandidate (effects : PreflightEffects ω) (recover : Bool)
    (start : RunStart) (lane : RetryLane) : RetryLane :=
  match dispatchedState config dispatch lane.stored with
  | none => lane
  | some state =>
      let outcome := runOutcome config dispatch effects recover state
      let lane := lane.store state
      let lane := if outcome.started then lane.start start else lane
      match outcome.result with
      | none => lane
      | some result => concludeRun config dispatch state result lane

end

/-! ## An iteration -/

/-- What one iteration meets. `before` and `after` are the states of other issues
around that of the issue in the file; `scanned` says that the queue could be read. -/
structure Iteration (ω : Type) where
  effects : PreflightEffects ω
  world : ω
  nowMs : UInt64
  recover : Bool
  before : List RuntimeState
  after : List RuntimeState
  scanned : Bool
  planSelected : List TrackerIssue
  dispatch : Dispatch ω

section
variable {ω : Type} (config : MainLaneConfig) (issueIdentifier : String)

def Iteration.preflight (iteration : Iteration ω) (stored : Option RuntimeState) :
    Except String Preflight.PreflightRun :=
  (runLoopResumePreflightMany iteration.effects config.preflight
    (iteration.before ++ stored.toList ++ iteration.after) iteration.nowMs iteration.recover
    iteration.world).1

/-- The issues an iteration dispatches after its preflight. -/
def Iteration.selected (iteration : Iteration ω) (run : Preflight.PreflightRun) :
    List TrackerIssue :=
  if run.blocked.isSome || !iteration.scanned then []
  else
    selectMainRunLoopIssues config (if iteration.recover then run.recoverableStates else [])
      iteration.planSelected (config.maxConcurrent - run.activeMainWorkers)

/-- An iteration of `run_loop` in write mode; an issue that has left `In Progress` is
not its concern. -/
def runLoopIteration (lane : RetryLane) (iteration : Iteration ω) : RetryLane :=
  if lane.movedTo.isSome then lane
  else
    match iteration.preflight config lane.stored with
    | .error _ => lane
    | .ok run =>
        let kept := lane.retain (runtimeStateForIssue run.retainedStates issueIdentifier)
        if (iteration.selected config run).any fun issue => issue.identifier == issueIdentifier then
          runLoopDispatchWriteCandidate config iteration.dispatch iteration.effects
            iteration.recover { nowMs := iteration.nowMs, retry := lane.stored.bind (·.retry) } kept
        else kept

end

end SheaSymphony.MainLoop

import SheaSymphony.LiveHandoff
import SheaSymphony.MainRecovery
import SheaSymphony.QualityGate

/-!
# The dispatch of an issue

`run_loop_dispatch_write_candidate` of the main lane, from the read of the issue to its
terminal transition, with every write to the tracker in its place
(`lanes/main_loop/write_candidate.rs` and `write_candidate/terminal.rs`).

What the dispatch asks of its surroundings is answered by an environment: the tracker, the
quality gate, the plan, the workspaces, the backend and the file of runtime states. The
texts of the workpads are functions of what they are made of. What is printed and the
audit log are left out.
-/

namespace SheaSymphony.MainHandoff

open Handoff (BranchTargetRole)
open Interrupted (Program)
open Lanes (LaneClaim LaneClaimState WorkerLane claimDecision laneClaimForIssue poolClaimEligibility
  projectTextField terminalLaneClaimValue)
open MainLoop (IssueExecutionResult MainLaneConfig MainRecoveryPlan MainSessionReconciliation
  mainSessionActiveRecoverable markRuntimeStateUpdated retryDelayMs runLoopRuntimeStateForIssue
  runLoopRuntimeStateWithResult runLoopRuntimeStateWithTransition)
open QualityGate (GateDecision)
open Review (UsageLimitPause)
open SheaSymphony.Runtime (RuntimeState recordRuntimeRetry runtimeStateForIssue)
open Tracker (AdapterError Mutation TrackerMutationOutcome WrappedOperation WriteAdapter
  WriteFailure recoveryKey stableRecoveryHash)

structure DispatchConfig extends MainLaneConfig, HandoffConfig where
  /-- `options.write` -/
  write : Bool
  codexAppServer : Bool

inductive DispatchFailure where
  | write (failure : WriteFailure)
  | tracker (error : AdapterError)
  | git (error : GitHandoffError)
  | message (text : String)

inductive RunLoopWorkerOutcome where
  | completed | stopIteration
deriving DecidableEq

/-- The marker of the runtime that owns an issue, and why the issue has another one. -/
structure RuntimeOwnership where
  marker : String
  mismatch : Option String

structure BackendRun where
  issue : MainIssue
  workspaceKey : String
  attempt : UInt32
  claim : LaneClaim
  recovery : Option MainRecoveryPlan
  profileId : Option String

/-- What a dispatch meets. -/
structure DispatchOutside (σ : Type) extends HandoffOutside σ where
  getIssue : σ → String → Except AdapterError (Option MainIssue) × σ
  mutate : σ → Mutation → Except AdapterError Unit × σ
  gate : σ → MainIssue → Except String GateDecision × σ
  handoffPlan : σ → MainIssue → Except String IssueHandoffPlan × σ
  logins : σ → Except String (Option String × Option String) × σ
  assigneeBlock : MainIssue → Option String × Option String → Option String
  loadRuntimeStates : σ → Except String (List RuntimeState) × σ
  recoveryHandoff : σ → MainIssue → IssueHandoffPlan → RuntimeState →
    Except String (Option IssueHandoffPlan) × σ
  launchPreflight : σ → Bool → MainIssue → IssueHandoffPlan → Except String IssueHandoffPlan × σ
  currentDir : σ → Except String String × σ
  runtimeReadiness : σ → String → Except String (Option String) × σ
  persistReadinessFailure : σ → String → Except String Unit × σ
  runtimeOwnership : σ → MainIssue → IssueHandoffPlan → Except String RuntimeOwnership × σ
  currentTimeMs : σ → UInt64 × σ
  upsertRuntimeState : σ → RuntimeState → Except String Unit × σ
  removeRuntimeState : σ → String → Except String Unit × σ
  reconcileHandoffRuntimeState : σ → String → String → Except String Unit × σ
  appendSupervisionEvent : σ → RuntimeState → String → Except String Unit × σ
  reconcileSession : σ → MainIssue → IssueHandoffPlan → RuntimeState →
    Except String (Option MainSessionReconciliation) × σ
  recoveryPlan : σ → MainIssue → RuntimeState → Except String MainRecoveryPlan × σ
  execute : σ → BackendRun → Except String IssueExecutionResult × σ
  readLog : σ → String → Option String × σ
  handoffWorkpad : σ → MainIssue → HandoffResult → IssueHandoffPlan → RuntimeOwnership → String × σ
  parentHasBranch : MainIssue → String → Bool
  gateWorkpad : MainIssue → GateDecision → String
  handoffFailureWorkpad : MainIssue → String → String
  parentTopologyWorkpad : MainIssue → MainIssue → IssueHandoffPlan → String
  assigneeWorkpad : MainIssue → String → String
  ownershipWorkpad : MainIssue → RuntimeOwnership → String → LaneClaim → Option String → String
  reviewWorkpad : MainIssue → AgentReviewHandoffEvidence → AgentReviewHandoffReport → String
  pauseWorkpad : MainIssue → HandoffResult → UsageLimitPause → UInt64 → String

abbrev Dispatching (σ : Type) := Program (HandoffWorld σ) DispatchFailure

section
variable {σ α : Type}

/-! ## Calls and writes -/

/-- `?` on what the surroundings answer. -/
def ask (f : σ → Except String α × σ) : Dispatching σ α := do
  match ← look f with
  | .ok answer => return answer
  | .error error => Program.stop (.message error)

/-- `?` on a git step. -/
def gitStep (program : GitProgram σ α) : Dispatching σ α := do
  match ← attempt program with
  | .ok answer => return answer
  | .error error => Program.stop (.git error)

variable (outside : DispatchOutside σ) (config : DispatchConfig)

def readIssue (issueRef missing : String) : Dispatching σ MainIssue := do
  match ← look fun state => outside.getIssue state issueRef with
  | .ok (some issue) => return issue
  | .ok none => Program.stop (.message (missing ++ issueRef))
  | .error error => Program.stop (.tracker error)

def writeAdapter : WriteAdapter σ where
  getIssue state issueRef :=
    ((outside.getIssue state issueRef).1.map (Option.map MainIssue.reviewed),
      (outside.getIssue state issueRef).2)
  mutate := outside.mutate

/-- A write with recovery, its calls in the log of the dispatch. -/
def wrapped (operation : WrappedOperation) : Dispatching σ TrackerMutationOutcome := fun world =>
  let (result, after) := operation.run (writeAdapter outside) config.preflight.case
    { tracker := world.outside, calls := [] }
  (result.mapError .write,
    { outside := after.tracker, log := world.log ++ after.calls.map .tracker })

/-- A write without recovery. -/
def writeOnce (mutation : Mutation) : Dispatching σ Unit := do
  match ← call (fun answer => .tracker (.mutated mutation answer))
      fun state => outside.mutate state mutation with
  | .ok () => return ()
  | .error error => Program.stop (.tracker error)

def setState (issue : MainIssue) (normalizedState : String) : Dispatching σ Unit := do
  let _ ← wrapped outside config
    (.setState issue.identifier (some issue.reviewed) normalizedState "state_change")
  return ()

def upsertWorkpad (issue : MainIssue) (markdown key : String) : Dispatching σ Unit := do
  let _ ← wrapped outside config
    (.upsertWorkpad issue.identifier (some issue.reviewed) markdown key)
  return ()

/-- The key of a workpad of a run. -/
def runWorkpadKey (label : String) (issue : MainIssue) (claim : LaneClaim) (markdown : String) :
    String :=
  recoveryKey label issue.identifier
    (issue.identifier ++ "|" ++ claim.run ++ "|" ++ stableRecoveryHash markdown)

def writeClaimValue (issue : MainIssue) (value : Except String String) : Dispatching σ Unit := do
  match value with
  | .error error => Program.stop (.message error)
  | .ok value =>
      let _ ← wrapped outside config
        (.setProjectField issue.reviewed WorkerLane.main.claimField value "claim_field")
      return ()

/-- A claim is written only when it reads back as it is. -/
def renderParseableLaneClaim (claim : LaneClaim) : Except String String :=
  match LaneClaim.parse claim.render with
  | .error _ => .error ("rendered lane claim is not parseable: value=" ++ claim.render)
  | .ok parsed =>
      if parsed = claim then .ok claim.render
      else .error ("rendered lane claim did not round-trip; rendered=" ++ claim.render)

def writeLaneClaimField (issue : MainIssue) (claim : LaneClaim) : Dispatching σ Unit :=
  writeClaimValue outside config issue (renderParseableLaneClaim claim)

def writeLaneClaimTerminalResult (issue : MainIssue) (claim : LaneClaim) (state : LaneClaimState)
    (result : String) : Dispatching σ Unit :=
  writeClaimValue outside config issue (terminalLaneClaimValue claim state result)

/-! ## Failures before the claim -/

def gateTargetState (decision : GateDecision) : String :=
  match decision.kind with
  | .needToClarify | .tooBroad => "need_to_clarify"
  | .blocked => "need_human_input"
  | .duplicateAlreadyCovered => "done"
  | .ready | .readyWithAssumptions => "todo"

def handleRunLoopGateFailure (issue : MainIssue) (decision : GateDecision) : Dispatching σ Unit :=
  if config.write then do
    writeOnce outside (.upsertWorkpad issue.identifier (outside.gateWorkpad issue decision))
    writeOnce outside (.setState issue.identifier (gateTargetState decision))
  else return ()

def handleRunLoopHandoffFailure (issue : MainIssue) (error : String) : Dispatching σ Unit :=
  if config.write then do
    writeOnce outside (.upsertWorkpad issue.identifier (outside.handoffFailureWorkpad issue error))
    writeOnce outside (.setState issue.identifier "need_human_input")
  else return ()

/-! ## Before the claim -/

def isClaimable (issue : MainIssue) : Bool :=
  (poolClaimEligibility config.preflight.case issue.toTrackerIssue .main config.workerId
    config.preflight.runtime).isClaimable

/-- Whether the issue may be dispatched, as it reads now; what stands in the way at the gate
is written to the tracker. -/
def admitted (issue : MainIssue) : Dispatching σ Bool := do
  if !isClaimable config issue then return false
  else
    let decision ← ask fun state => outside.gate state issue
    if decision.isDispatchable then return true
    else
      handleRunLoopGateFailure outside config issue decision
      return false

def ensureParentIntegrationBranchEvidence (issue : MainIssue) (plan : IssueHandoffPlan) :
    Dispatching σ Unit := do
  match plan.branchTarget.role, plan.branchTarget.parentIssue,
      plan.branchTarget.parentIntegrationBranch with
  | .subissue, some parentRef, some branch =>
      let parent ← readIssue outside parentRef "native parent issue disappeared: "
      if outside.parentHasBranch parent branch then return ()
      else
        let _ ← wrapped outside config (.upsertWorkpad parentRef (some parent.reviewed)
          (outside.parentTopologyWorkpad issue parent plan)
          (recoveryKey "main-parent-topology-workpad" parentRef
            (parentRef ++ "|" ++ issue.identifier ++ "|" ++ branch)))
        return ()
  | _, _, _ => return ()

def assigneeAllows (issue : MainIssue) (logins : Option String × Option String) :
    Dispatching σ Bool := do
  match outside.assigneeBlock issue logins with
  | none => return true
  | some reason =>
      let markdown := outside.assigneeWorkpad issue reason
      upsertWorkpad outside config issue markdown
        (recoveryKey "main-assignee-ownership-workpad" issue.identifier
          (issue.identifier ++ "|" ++ stableRecoveryHash markdown))
      return false

/-- The plan with the workspace of a recovered dispatch, where there is one. -/
def recoveredPlan (issue : MainIssue) (plan : IssueHandoffPlan) (existing : Option RuntimeState)
    (recover : Bool) : Dispatching σ (Option IssueHandoffPlan) :=
  match existing.filter fun _ => recover with
  | some state => ask fun world => outside.recoveryHandoff world issue plan state
  | none => return none

/-- The plan with the workspace that the launch is to use. -/
def launchPlan (issue : MainIssue) (plan : IssueHandoffPlan) (existing : Option RuntimeState)
    (recover : Bool) : Dispatching σ (Except String IssueHandoffPlan) := do
  let recovered ← recoveredPlan outside issue plan existing recover
  look fun world => outside.launchPreflight world recovered.isSome issue (recovered.getD plan)

def liveWorktree (plan : IssueHandoffPlan) : Dispatching σ (Option LiveWorktreeResult) := do
  if runLoopLiveHandoffEnabled config.toHandoffConfig then
    let repoRoot ← ask outside.currentDir
    let worktree ← gitStep (prepareIssueWorktree outside.toHandoffOutside plan repoRoot)
    return some worktree
  else return none

structure PreparedDispatch where
  latest : MainIssue
  plan : IssueHandoffPlan
  liveWorktree : Option LiveWorktreeResult
  profileId : Option String
  existing : Option RuntimeState

/-- The profile of the runtime, where it is ready. -/
def readyProfile (workspacePath : String) : Dispatching σ (Option (Option String)) := do
  match ← look fun state => outside.runtimeReadiness state workspacePath with
  | .ok profileId => return some profileId
  | .error error =>
      ask fun state => outside.persistReadinessFailure state error
      return none

/-- From the plan to the second read of the issue. -/
def prepareWorkspace (issue : MainIssue) (plan : IssueHandoffPlan)
    (logins : Option String × Option String) (recover : Bool) :
    Dispatching σ (Option PreparedDispatch) := do
  let states ← ask outside.loadRuntimeStates
  let existing := runtimeStateForIssue states issue.identifier
  match ← launchPlan outside issue plan existing recover with
  | .error error =>
      handleRunLoopHandoffFailure outside config issue error
      return none
  | .ok plan =>
      let worktree ← liveWorktree outside config plan
      match ← readyProfile outside ((worktree.map (·.workspacePath)).getD plan.workspacePath) with
      | none => return none
      | some profileId =>
          -- the claim is based on this read
          let latest ← readIssue outside issue.identifier "issue disappeared after readiness: "
          if ← admitted outside config latest then
            if (outside.assigneeBlock latest logins).isSome then return none
            else return some { latest, plan, liveWorktree := worktree, profileId, existing }
          else return none

/-- The issue as the dispatch starts from it. -/
def dispatchedIssue (issue : MainIssue) (recover : Bool) : Dispatching σ MainIssue :=
  if recover && issue.normalizedState config.preflight.case == "in progress" then return issue
  else readIssue outside issue.identifier "issue disappeared before claim: "

def prepareDispatch (issue : MainIssue) (recover : Bool) :
    Dispatching σ (Option PreparedDispatch) := do
  let latest ← dispatchedIssue outside config issue recover
  if ← admitted outside config latest then
    match ← look fun state => outside.handoffPlan state latest with
    | .error error =>
        handleRunLoopHandoffFailure outside config latest error
        return none
    | .ok plan =>
        ensureParentIntegrationBranchEvidence outside config latest plan
        let logins ← ask outside.logins
        if ← assigneeAllows outside config latest logins then
          prepareWorkspace outside config latest plan logins recover
        else return none
  else return none

/-! ## The claim -/

structure ClaimedDispatch extends PreparedDispatch where
  claim : LaneClaim
  ownership : RuntimeOwnership
  runtimeState : RuntimeState

def touchRuntimeState (state : RuntimeState) : Dispatching σ RuntimeState := do
  let nowMs ← look outside.currentTimeMs
  return markRuntimeStateUpdated state nowMs

def storeRuntimeState (state : RuntimeState) : Dispatching σ RuntimeState := do
  let state ← touchRuntimeState outside state
  ask fun world => outside.upsertRuntimeState world state
  return state

/-- An issue that is resumed has its state. -/
def enterInProgress (issue : MainIssue) (event : String) : Dispatching σ Unit :=
  if event = "Claimed" then setState outside config issue "in_progress" else return ()

/-- The claim, the ownership and the runtime state are written. -/
def recordClaim (prepared : PreparedDispatch) (claim : LaneClaim) (ownership : RuntimeOwnership)
    (event : String) : Dispatching σ (Option ClaimedDispatch) := do
  let issue := prepared.latest
  writeLaneClaimField outside config issue claim
  enterInProgress outside config issue event
  let markdown := outside.ownershipWorkpad issue ownership event claim prepared.profileId
  upsertWorkpad outside config issue markdown
    (runWorkpadKey "main-ownership-workpad" issue claim markdown)
  let runtimeState ← storeRuntimeState outside
    { runLoopRuntimeStateForIssue config.toMainLaneConfig prepared.existing issue.toTrackerIssue
        issue.branchName event claim.run with branchName := some prepared.plan.branchName }
  return some { prepared with claim, ownership, runtimeState }

def claimDispatch (prepared : PreparedDispatch) : Dispatching σ (Option ClaimedDispatch) := do
  let issue := prepared.latest
  let ownership ← ask fun state => outside.runtimeOwnership state issue prepared.plan
  let nowMs ← look outside.currentTimeMs
  let claim := (laneClaimForIssue issue.toTrackerIssue WorkerLane.main.claimLane .codex .loop nowMs
    (projectTextField issue.toTrackerIssue WorkerLane.main.claimField)).withWorker config.workerId
  match claimDecision config.preflight.case issue.toTrackerIssue config.preflight.runtime with
  | .claimable => recordClaim outside config prepared claim ownership "Claimed"
  | .alreadyInProgress =>
      if ownership.mismatch.isSome then return none
      else recordClaim outside config prepared claim ownership "Resumed"
  | .stopAndReplan _ => return none

/-! ## The run -/

def mainRecoveryPlanApplicable (state : RuntimeState) : Bool :=
  (state.backendSessionId.any fun sessionId => !Text.isBlank sessionId)
    || state.backendLogPath.isSome || state.workspacePath.isSome
    || state.lastEvent.any fun event =>
      ["SessionRunning", "SessionTerminal", "Failed", "Completed"].contains event

/-- What is resumed is told to the supervision. -/
def superviseResume (state : RuntimeState) (resumed : Option String) (event : String) :
    Dispatching σ Unit :=
  if resumed.isSome then ask fun world => outside.appendSupervisionEvent world state event
  else return ()

def dispatchRecovery (claimed : ClaimedDispatch) (recover : Bool) :
    Dispatching σ (Option MainRecoveryPlan) :=
  let state := claimed.runtimeState
  if recover && (state.backend == "codex" && config.codexAppServer
      || state.backend == "claude-code") && mainRecoveryPlanApplicable state then do
    let plan ← ask fun world => outside.recoveryPlan world claimed.latest state
    ask fun world => outside.appendSupervisionEvent world state "MainRecoveryMode"
    superviseResume outside state plan.appServerResumeThreadId "CodexAppServerResume"
    superviseResume outside state plan.claudeResumeSessionId "ClaudeStreamJsonResume"
    return some plan
  else return none

def runBackend (claimed : ClaimedDispatch) (recover : Bool) :
    Dispatching σ IssueExecutionResult := do
  let recovery ← dispatchRecovery outside config claimed recover
  ask fun world => outside.execute world {
    issue := claimed.latest
    workspaceKey := claimed.plan.workspaceKey
    attempt := claimed.runtimeState.attemptCount
    claim := claimed.claim
    recovery
    profileId := claimed.profileId }

/-- The result of the backend, or of the session the state waits for. -/
def backendResult (claimed : ClaimedDispatch) (recover : Bool) :
    Dispatching σ (Option IssueExecutionResult) := do
  match ← ask fun world =>
      outside.reconcileSession world claimed.latest claimed.plan claimed.runtimeState with
  | some (.terminal result) => return some result
  | none =>
      let result ← runBackend outside config claimed recover
      return some result
  | some (.active status _ evidence) =>
      if recover && mainSessionActiveRecoverable status evidence then
        ask fun world =>
          outside.appendSupervisionEvent world claimed.runtimeState "MainSessionRecovering"
        let result ← runBackend outside config claimed recover
        return some result
      else
        ask fun world =>
          outside.appendSupervisionEvent world claimed.runtimeState "MainSessionStillActive"
        return none

/-! ## The handoff of a result -/

/-- The log of a failed run; it is read only when the message does not say enough. -/
def salvageLog (result : HandoffResult) : Dispatching σ (Option String) :=
  if failedWithoutHandoff result && !Text.contains result.message appServerStall then
    match result.backendLogPath with
    | some path => look fun state => outside.readLog state path
    | none => pure none
  else pure none

def salvageResult (claimed : ClaimedDispatch) (result : HandoffResult) :
    Dispatching σ HandoffResult := do
  let log ← salvageLog outside result
  if failedBackendCanUseLiveHandoff result log && claimed.liveWorktree.isSome then
    ask fun world => outside.appendSupervisionEvent world claimed.runtimeState
      "MainBackendFailureLiveHandoffSalvage"
    note .salvaged
    return result.salvaged
  else return result

def handOff (claimed : ClaimedDispatch) (result : HandoffResult) : Dispatching σ HandoffResult := do
  let result ← salvageResult outside claimed result
  if result.success then
    applyLiveHandoffSteps outside.toHandoffOutside config.toHandoffConfig claimed.latest
      claimed.plan claimed.profileId claimed.liveWorktree result
  else return result

/-! ## Terminal transitions -/

/-- A transition: it is stored, the claim gets its result and the issue its state. -/
def transition (claimed : ClaimedDispatch) (state : RuntimeState) (claimState : LaneClaimState)
    (claimResult toState reason : String) : Dispatching σ Unit := do
  let issue := claimed.latest
  ask fun world => outside.upsertRuntimeState world
    (runLoopRuntimeStateWithTransition state (some issue.state) toState reason)
  writeLaneClaimTerminalResult outside config issue claimed.claim claimState claimResult
  setState outside config issue toState

def completeSuccessfulRun (claimed : ClaimedDispatch) (state : RuntimeState)
    (result : HandoffResult) (workpad : String) : Dispatching σ RunLoopWorkerOutcome := do
  let issue := claimed.latest
  let evidence := runLoopAgentReviewHandoffEvidence issue result claimed.plan (some workpad)
  let report := evaluateAgentReviewHandoff evidence
  note (.evaluated evidence report)
  let markdown := outside.reviewWorkpad issue evidence report
  upsertWorkpad outside config issue markdown
    (runWorkpadKey "agent-review-handoff-workpad" issue claimed.claim markdown)
  if report.isReady then
    let state ← touchRuntimeState outside state
    transition outside config claimed state .done "agent_review_handoff" "agent_review"
      "main agent completed"
    ask fun world => outside.reconcileHandoffRuntimeState world issue.identifier "agent_review"
    ask fun world => outside.removeRuntimeState world issue.identifier
    return .completed
  else
    transition outside config claimed state .failed "handoff_invariant_failed" "need_human_input"
      "agent review handoff invariant failed"
    ask fun world => outside.removeRuntimeState world issue.identifier
    return .completed

/-- What a failed run comes to. -/
inductive FailureRoute where
  | usageLimitPause (pause : UsageLimitPause)
  | prLinkage
  | retry
  | retryLimit
deriving DecidableEq

def prLinkMarker : String := "handoff PR link"

def failureRoute (maxTurns : UInt32) (state : RuntimeState) (result : HandoffResult) :
    FailureRoute :=
  match result.usageLimitPause with
  | some pause => .usageLimitPause pause
  | none =>
      if Text.contains result.message prLinkMarker then .prLinkage
      else if state.attemptCount < maxTurns then .retry
      else .retryLimit

def storeRetry (state : RuntimeState) (delayMs : UInt64)
    (error : String) : Dispatching σ RuntimeState := do
  let nowMs ← look outside.currentTimeMs
  let state := recordRuntimeRetry state nowMs delayMs error
  ask fun world => outside.upsertRuntimeState world state
  return state

def completeFailedRun (claimed : ClaimedDispatch) (state : RuntimeState) (result : HandoffResult) :
    Dispatching σ RunLoopWorkerOutcome := do
  let issue := claimed.latest
  let delayMs := retryDelayMs config.maxRetryBackoffMs state.attemptCount false
  match failureRoute config.maxTurns state result with
  | .usageLimitPause pause =>
      let state ← storeRetry outside state delayMs
        ("usage-limit pause: " ++ pause.evidence)
      let markdown := outside.pauseWorkpad issue result pause delayMs
      upsertWorkpad outside config issue markdown
        (runWorkpadKey "main-usage-limit-workpad" issue claimed.claim markdown)
      ask fun world => outside.appendSupervisionEvent world state "UsageLimitPaused"
      return .stopIteration
  | .prLinkage =>
      let state ← touchRuntimeState outside state
      transition outside config claimed state .failed "handoff_pr_linkage_failed"
        "need_human_input" "handoff PR linkage invariant failed"
      ask fun world => outside.removeRuntimeState world issue.identifier
      return .completed
  | .retry =>
      let state ← storeRetry outside state delayMs result.message
      ask fun world => outside.appendSupervisionEvent world state "RetryScheduled"
      return .stopIteration
  | .retryLimit =>
      let state ← touchRuntimeState outside state
      transition outside config claimed state .failed "backend_retry_limit" "need_human_input"
        "backend run failed after retry limit"
      ask fun world => outside.removeRuntimeState world issue.identifier
      return .completed

def applyTerminalTransition (claimed : ClaimedDispatch) (state : RuntimeState)
    (result : HandoffResult) (workpad : String) : Dispatching σ RunLoopWorkerOutcome :=
  if result.success then completeSuccessfulRun outside config claimed state result workpad
  else completeFailedRun outside config claimed state result

/-- From the result of the handoff on. -/
def concludeDispatch (claimed : ClaimedDispatch) (result : HandoffResult) :
    Dispatching σ RunLoopWorkerOutcome := do
  let issue := claimed.latest
  let state ← storeRuntimeState outside
    (runLoopRuntimeStateWithResult claimed.runtimeState result.toIssueExecutionResult)
  let workpad ← look fun world =>
    outside.handoffWorkpad world issue result claimed.plan claimed.ownership
  upsertWorkpad outside config issue workpad
    (runWorkpadKey "main-handoff-workpad" issue claimed.claim workpad)
  if result.pendingSession then
    ask fun world => outside.appendSupervisionEvent world state "TmuxSessionRunning"
    return .completed
  else applyTerminalTransition outside config claimed state result workpad

/-- A result before anything of the handoff. -/
def freshResult (result : IssueExecutionResult) : HandoffResult :=
  { result with liveHandoff := none, handoffVerification := none }

def finishDispatch (claimed : ClaimedDispatch) (result : IssueExecutionResult) :
    Dispatching σ RunLoopWorkerOutcome := do
  note (.result (freshResult result))
  let result ← handOff outside config claimed (freshResult result)
  concludeDispatch outside config claimed result

def runLoopDispatchWriteCandidate (issue : MainIssue) (recover : Bool) :
    Dispatching σ RunLoopWorkerOutcome := do
  match ← prepareDispatch outside config issue recover with
  | none => return .completed
  | some prepared =>
      match ← claimDispatch outside config prepared with
      | none => return .completed
      | some claimed =>
          match ← backendResult outside config claimed recover with
          | none => return .stopIteration
          | some result => finishDispatch outside config claimed result

end

end SheaSymphony.MainHandoff

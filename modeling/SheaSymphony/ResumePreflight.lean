import SheaSymphony.Config
import SheaSymphony.Interrupted
import SheaSymphony.Model
import SheaSymphony.RuntimeState
import SheaSymphony.SessionRegistry

/-!
# Resume preflight

What the main lane does with the stored runtime states before it plans
(`lanes/main_loop/runtime.rs` with its `archive`, `recovery` and `session_probe`):
each main-lane state is retained, retained as an active worker, retained as a
candidate for recovery, or archived. In recover mode the session registry is then
read for workers that no state mentions.

Everything outside is an effect on a world: the tracker, the registry file, the
panes and logs of the sessions, the workspaces, the audit log and the archive.
An effect may answer differently every time and may fail where the source's can.
-/

namespace SheaSymphony.Preflight

open Interrupted (Program)
open Model (TrackerIssue normalizeState)
open SheaSymphony.Runtime (RuntimeIssueState RuntimeRetryState RuntimeStallState RuntimeState)
open Sessions (AgentSessionRecord SessionStatus SessionStatusProbe)

/-- `std::process::Command::output`. -/
inductive CommandOutput where
  | exited (success : Bool) (status stdout stderr : String)
  | failed (error : String)
deriving DecidableEq

/-- An error is its text. -/
structure PreflightEffects (ω : Type) where
  getIssue : String → Program ω String (Option TrackerIssue)
  loadSessionRegistry : Program ω String (List AgentSessionRecord)
  saveSessionRecord : AgentSessionRecord → Program ω String Unit
  captureTmuxPaneTail : String → Program ω String String
  readToString : String → Program ω String (Option String)
  pathExists : String → ω → Bool × ω
  pathIsDir : String → ω → Bool × ω
  gitStatusPorcelain : String → ω → CommandOutput × ω
  killTerm : UInt32 → ω → CommandOutput × ω
  unixTimestampMs : ω → UInt64 × ω
  archiveRuntimeState : RuntimeState → String → Program ω String Unit
  appendRuntimeSupervisionEvent : RuntimeState → String → Program ω String Unit

/-- The configuration the preflight reads, with the language's lowercasing. -/
structure PreflightConfig where
  case : Text.UnicodeCase
  runtime : Config.RuntimeConfig
  stallTimeoutMs : UInt64
  sessionStaleAfterMs : UInt64

variable {ω : Type} (effects : PreflightEffects ω) (config : PreflightConfig)

/-- `compact_evidence` of the main lane. -/
def compactEvidence (value : String) : String :=
  let compact := Text.collapseWhitespace value
  let truncated := String.ofList (compact.toList.take 240)
  if Text.byteLength truncated < Text.byteLength compact then truncated ++ "..." else compact

/-! ## Sessions -/

def defaultSessionStatusLines : Nat := 80

def registeredMainRuntimeSession (record : AgentSessionRecord) : Bool :=
  Text.eqIgnoreAsciiCase record.lane "main" && record.backend != "codex-app-manual"

def runtimeStateFromSessionRecord (record : AgentSessionRecord) : RuntimeState :=
  let identifier := record.issueIdentifier.getD "unknown"
  { RuntimeState.active { id := record.issueId.getD identifier, identifier } record.backend with
    workspacePath := some record.worktree
    branchName := record.branch
    backendSessionId := some record.sessionName
    lane := some record.lane
    runId := record.runId
    backendLogPath := some record.logPath
    backendAttachCommand := some record.attachCommand
    profileId := record.profileId
    instanceName := record.instanceName
    actorRole := record.actorRole
    actorLabel := record.actorLabel
    gitAuthor := record.gitAuthor
    attemptCount := record.attempt
    updatedAtMs := some record.updatedAtMs
    lastEvent := some "SessionRunning" }

/-- Only a tmux session has a pane and a log to look at. -/
def runtimeSessionProbeFromRecord (record : AgentSessionRecord) (nowMs : UInt64) :
    Program ω String SessionStatusProbe :=
  if record.backend = "tmux" then do
    let captured ← (effects.captureTmuxPaneTail record.paneTarget).outcome
    let paneTail ← Program.ofExcept (captured.mapError fun error =>
      "tmux_pane_unavailable session=" ++ record.sessionName ++ " error=" ++ compactEvidence error)
    let log ← effects.readToString record.logPath
    let logTail := log.map fun content => Sessions.tailLines content defaultSessionStatusLines
    pure (Sessions.classifySessionRecord config.case record (some paneTail) logTail nowMs
      config.sessionStaleAfterMs)
  else
    pure (Sessions.classifySessionRecord config.case record none none nowMs
      config.sessionStaleAfterMs)

def sessionStatusCountsAsActiveWorker : SessionStatus → Bool
  | .starting | .running | .waitingForTrust | .waitingForApproval | .waitingForHumanInput
  | .usageLimited | .unknown | .unknownPersisted _ => true
  | .completed | .recorded | .failed | .stale => false

def activeSessionStatusPriority : SessionStatus → Nat
  | .running => 0
  | .starting => 1
  | .waitingForApproval | .waitingForHumanInput | .waitingForTrust => 2
  | .usageLimited => 3
  | .unknown | .unknownPersisted _ => 4
  | .completed | .recorded | .failed | .stale => 5

/-- The session a state waits for: one it says is running or has ended. -/
def awaitedSession (state : RuntimeState) : Bool :=
  state.lastEvent = some "SessionRunning" || state.lastEvent = some "SessionTerminal"

def latestSession (sessions : List AgentSessionRecord) (sessionId : String) :
    Option AgentSessionRecord :=
  sessions.reverse.find? fun record => record.sessionName == sessionId

def runtimeSessionProbeForState (state : RuntimeState) (nowMs : UInt64) :
    Program ω String (Option SessionStatusProbe) :=
  if awaitedSession state then
    match state.backendSessionId with
    | none => pure none
    | some sessionId => do
        let sessions ← effects.loadSessionRegistry
        match latestSession sessions sessionId with
        | none => pure none
        | some record => do
            let probe ← runtimeSessionProbeFromRecord effects config record nowMs
            pure (some probe)
  else pure none

/-! ## The session of an issue -/

structure ActiveRuntimeSessionProbe where
  state : RuntimeState
  sessionName : String
  probe : SessionStatusProbe

/-- A main-lane session of the issue. -/
def sessionOfIssue (issueIdentifier : String) (record : AgentSessionRecord) : Bool :=
  registeredMainRuntimeSession record && record.issueIdentifier == some issueIdentifier

/-- The active session of the best priority, the latest among equals; a session
that cannot be probed is passed over. -/
def bestActiveSession (issueIdentifier : String) (nowMs : UInt64) :
    List AgentSessionRecord → Option (Nat × ActiveRuntimeSessionProbe) →
      Program ω String (Option (Nat × ActiveRuntimeSessionProbe))
  | [], best => pure best
  | record :: older, best =>
      if sessionOfIssue issueIdentifier record then do
        match ← (runtimeSessionProbeFromRecord effects config record nowMs).outcome with
        | .error _ => bestActiveSession issueIdentifier nowMs older best
        | .ok probe =>
            let priority := activeSessionStatusPriority probe.status
            if sessionStatusCountsAsActiveWorker probe.status
                && best.all fun (bestPriority, _) => priority < bestPriority then
              bestActiveSession issueIdentifier nowMs older
                (some (priority,
                  { state := runtimeStateFromSessionRecord record
                    sessionName := record.sessionName
                    probe }))
            else bestActiveSession issueIdentifier nowMs older best
      else bestActiveSession issueIdentifier nowMs older best

def activeRuntimeSessionForIssue (state : RuntimeState) (nowMs : UInt64) :
    Program ω String (Option ActiveRuntimeSessionProbe) :=
  match state.identifier with
  | none => pure none
  | some issueIdentifier => do
      let sessions ← effects.loadSessionRegistry
      match ← bestActiveSession effects config issueIdentifier nowMs sessions.reverse none with
      | some (_, activeSession) => pure (some activeSession)
      | none => do
          match ← (runtimeSessionProbeForState effects config state nowMs).outcome with
          | .error _ => pure none
          | .ok probe =>
              pure ((probe.filter fun probe => sessionStatusCountsAsActiveWorker probe.status).map
                fun probe =>
                  { state, sessionName := state.backendSessionId.getD "unknown", probe })

/-- The latest session that is neither passed over nor active. -/
def latestTerminalSession (issueIdentifier : String) (nowMs : UInt64) :
    List AgentSessionRecord → Program ω String (Option ActiveRuntimeSessionProbe)
  | [] => pure none
  | record :: older =>
      if sessionOfIssue issueIdentifier record then do
        match ← (runtimeSessionProbeFromRecord effects config record nowMs).outcome with
        | .error _ => latestTerminalSession issueIdentifier nowMs older
        | .ok probe =>
            if probe.status = .completed then
              pure (some {
                state := { runtimeStateFromSessionRecord record with
                  lastEvent := some "SessionTerminal" }
                sessionName := record.sessionName
                probe })
            else if sessionStatusCountsAsActiveWorker probe.status then pure none
            else latestTerminalSession issueIdentifier nowMs older
      else latestTerminalSession issueIdentifier nowMs older

def terminalRuntimeSessionForIssue (state : RuntimeState) (nowMs : UInt64) :
    Program ω String (Option ActiveRuntimeSessionProbe) :=
  match state.identifier with
  | none => pure none
  | some issueIdentifier => do
      let sessions ← effects.loadSessionRegistry
      latestTerminalSession effects config issueIdentifier nowMs sessions.reverse

/-- Why the session a state waits for will not end by itself. -/
def lostSessionReason (state : RuntimeState) (nowMs : UInt64) : Program ω String (Option String) :=
  match state.backendSessionId with
  | none => pure (some "session_running_without_backend_session_id")
  | some sessionId => do
      let sessions ← effects.loadSessionRegistry
      match latestSession sessions sessionId with
      | none => pure (some ("session_missing_from_registry session=" ++ sessionId))
      | some record => do
          match ← (runtimeSessionProbeFromRecord effects config record nowMs).outcome with
          | .error error => pure (some (compactEvidence error))
          | .ok probe =>
              if probe.status = .stale ∨ probe.status = .failed then
                pure (some ("session_" ++ probe.status.asStr ++ " source=" ++ probe.source.asStr
                  ++ " evidence=" ++ compactEvidence probe.evidence))
              else pure none

def runtimeRecoveryReason (state : RuntimeState) (nowMs : UInt64) :
    Program ω String (Option String) :=
  match state.retry with
  | some retry =>
      if 0 < retry.dueInMs nowMs then pure none
      else
        pure (some ("retry_due attempt=" ++ toString retry.attempt ++ " error="
          ++ compactEvidence retry.error))
  | none =>
      match Runtime.detectRuntimeStall state nowMs config.stallTimeoutMs with
      | some stall =>
          pure (some ("runtime_stalled stalled_for_ms=" ++ toString stall.stalledForMs
            ++ " reason=" ++ stall.reason))
      | none =>
          if awaitedSession state then lostSessionReason effects config state nowMs else pure none

/-! ## One state against the tracker -/

inductive RuntimeWorkspaceStatus where
  | absent
  | clean (path : String)
  | dirty (path : String)
  | unknown (path reason : String)
deriving DecidableEq

def gitWorkspaceStatus (path : String) : CommandOutput → RuntimeWorkspaceStatus
  | .exited true _ stdout _ => if stdout = "" then .clean path else .dirty path
  | .exited false _ _ stderr => .unknown path (Text.trim stderr)
  | .failed error => .unknown path error

def runtimeWorkspaceStatus (state : RuntimeState) : Program ω String RuntimeWorkspaceStatus :=
  match state.workspacePath with
  | none => pure .absent
  | some path => do
      if ← Program.step (effects.pathExists path) then
        if ← Program.step (effects.pathIsDir path) then
          let output ← Program.step (effects.gitStatusPorcelain path)
          pure (gitWorkspaceStatus path output)
        else pure (.unknown path "workspace path is not a directory")
      else pure .absent

inductive ResumePreflightAction where
  | continue
  | archiveStale (issueIdentifier trackerState archiveReason : String)
  | retryLater (issueIdentifier : String) (retry : RuntimeRetryState) (dueInMs : Nat)
  | stalled (issueIdentifier : String) (stall : RuntimeStallState)
  | block (reason : String)
deriving DecidableEq

def archiveReason (normalizedState : String) : String :=
  if normalizedState = "need human input" then "tracker_state_need_human_input"
  else if (config.runtime.terminalStateSet config.case).contains normalizedState then
    "tracker_state_terminal"
  else if normalizedState = "agent review" ∨ normalizedState = "human review" then
    "tracker_state_handoff"
  else "tracker_state_non_active"

def staleRuntimeStateAction (state : RuntimeState) (issue : TrackerIssue)
    (normalizedState : String) : Program ω String ResumePreflightAction :=
  match state.activeIssue with
  | none => Program.stop "runtime state has no active issue"
  | some activeIssue => do
      let archiveStale := ResumePreflightAction.archiveStale activeIssue.identifier issue.state
        (archiveReason config normalizedState)
      match ← runtimeWorkspaceStatus effects state with
      | .absent | .clean _ => pure archiveStale
      | .dirty path =>
          if normalizedState = "need human input" then pure archiveStale
          else
            pure (.block ("runtime state references " ++ activeIssue.identifier
              ++ " but tracker state is " ++ issue.state ++ "; workspace is dirty at " ++ path))
      | .unknown path reason =>
          pure (.block ("runtime state references " ++ activeIssue.identifier
            ++ " but tracker state is " ++ issue.state ++ "; workspace status is unknown at "
            ++ path ++ ": " ++ reason))

/-- A state whose issue is in progress: the retry deadline, then the stall. -/
def liveRuntimeStateAction (state : RuntimeState) (activeIssue : RuntimeIssueState)
    (nowMs : UInt64) : ResumePreflightAction :=
  match state.retry with
  | some retry =>
      if 0 < retry.dueInMs nowMs then
        .retryLater activeIssue.identifier retry (retry.dueInMs nowMs)
      else .continue
  | none =>
      match Runtime.detectRuntimeStall state nowMs config.stallTimeoutMs with
      | some stall => .stalled activeIssue.identifier stall
      | none => .continue

def runLoopResumePreflight (state : Option RuntimeState) (nowMs : UInt64) :
    Program ω String ResumePreflightAction :=
  match state with
  | none => pure .continue
  | some state =>
      match state.activeIssue with
      | none => pure .continue
      | some activeIssue => do
          match ← effects.getIssue activeIssue.identifier with
          | none =>
              pure (.block ("runtime state references missing issue " ++ activeIssue.identifier))
          | some issue =>
              if normalizeState config.case issue.state = "in progress" then
                pure (liveRuntimeStateAction config state activeIssue nowMs)
              else
                staleRuntimeStateAction effects config state issue
                  (normalizeState config.case issue.state)

/-! ## All states -/

structure RuntimeRecoveryCandidate where
  state : RuntimeState
  issue : TrackerIssue
  reason : String

structure RuntimePreflightSummary where
  retainedStates : List RuntimeState
  activeMainWorkers : Nat
  recoverableStates : List RuntimeRecoveryCandidate
  blocked : Option String

/-- The accumulators of a preflight. Beside those of the source, the states it
archived and the retained states it counted as active workers. -/
structure PreflightRun extends RuntimePreflightSummary where
  archived : List RuntimeState
  counted : List RuntimeState

namespace PreflightRun

def empty : PreflightRun where
  retainedStates := []
  activeMainWorkers := 0
  recoverableStates := []
  blocked := none
  archived := []
  counted := []

def retain (run : PreflightRun) (state : RuntimeState) : PreflightRun :=
  { run with retainedStates := run.retainedStates ++ [state] }

/-- Count an active worker and retain its state. -/
def retainActive (run : PreflightRun) (state : RuntimeState) : PreflightRun :=
  { run.retain state with
    activeMainWorkers := run.activeMainWorkers + 1
    counted := run.counted ++ [state] }

/-- Offer a state for recovery and retain it. -/
def retainRecoverable (run : PreflightRun) (state : RuntimeState) (issue : TrackerIssue)
    (reason : String) : PreflightRun :=
  { run.retain state with
    recoverableStates := run.recoverableStates ++ [{ state, issue, reason }] }

def archive (run : PreflightRun) (state : RuntimeState) : PreflightRun :=
  { run with archived := run.archived ++ [state] }

/-- `blocked.get_or_insert(reason)`. -/
def block (run : PreflightRun) (reason : String) : PreflightRun :=
  { run with blocked := run.blocked <|> some reason }

end PreflightRun

def runtimeStateIsMainLane (state : RuntimeState) : Bool :=
  state.lane.all fun lane => Text.eqIgnoreAsciiCase lane "main"

def runtimeStateInProgressIssue (state : RuntimeState) : Program ω String (Option TrackerIssue) :=
  match state.activeIssue with
  | none => pure none
  | some activeIssue => do
      let issue ← effects.getIssue activeIssue.identifier
      pure (issue.filter fun issue => normalizeState config.case issue.state == "in progress")

def retainByReason (state : RuntimeState) (issue : TrackerIssue) (nowMs : UInt64)
    (run : PreflightRun) : Program ω String (Option PreflightRun) := do
  match ← runtimeRecoveryReason effects config state nowMs with
  | none => pure none
  | some reason => do
      effects.appendRuntimeSupervisionEvent state "RuntimeRecoverable"
      pure (some (run.retainRecoverable state issue reason))

def terminalSessionReason (session : ActiveRuntimeSessionProbe) : String :=
  "registry_session_terminal session=" ++ session.sessionName
    ++ " status=" ++ session.probe.status.asStr ++ " source=" ++ session.probe.source.asStr
    ++ " evidence=" ++ compactEvidence session.probe.evidence

def retainTerminalSession (state : RuntimeState) (issue : TrackerIssue) (nowMs : UInt64)
    (run : PreflightRun) : Program ω String (Option PreflightRun) := do
  match ← terminalRuntimeSessionForIssue effects config state nowMs with
  | none => retainByReason effects config state issue nowMs run
  | some session => do
      effects.appendRuntimeSupervisionEvent session.state "RuntimeRecoverableTerminalSession"
      pure (some (run.retainRecoverable session.state issue (terminalSessionReason session)))

/-- What recover mode does with a state whose issue is in progress; `none` when
it has no answer. -/
def recoverInProgress (state : RuntimeState) (issue : TrackerIssue) (nowMs : UInt64)
    (run : PreflightRun) : Program ω String (Option PreflightRun) := do
  let session ← activeRuntimeSessionForIssue effects config state nowMs
  match session.filter fun session => sessionStatusCountsAsActiveWorker session.probe.status with
  | none => retainTerminalSession effects config state issue nowMs run
  | some session => do
      effects.appendRuntimeSupervisionEvent state "RuntimeRecoverSkippedActiveSession"
      pure (some (run.retainActive session.state))

def stalledReason (stall : RuntimeStallState) : String :=
  "runtime_stalled stalled_for_ms=" ++ toString stall.stalledForMs ++ " reason=" ++ stall.reason

def retainStalled (state : RuntimeState) (issueIdentifier : String) (stall : RuntimeStallState)
    (recover : Bool) (run : PreflightRun) : Program ω String PreflightRun :=
  if recover then do
    match ← runtimeStateInProgressIssue effects config state with
    | none => pure (run.retain state)
    | some issue => do
        effects.appendRuntimeSupervisionEvent state "RuntimeRecoverable"
        pure (run.retainRecoverable state issue (stalledReason stall))
  else do
    effects.appendRuntimeSupervisionEvent state "RuntimeStalled"
    pure ((run.retainActive state).block ("runtime_stalled issue=" ++ issueIdentifier
      ++ " stalled_for_ms=" ++ toString stall.stalledForMs))

def preflightByAction (state : RuntimeState) (nowMs : UInt64) (recover : Bool)
    (run : PreflightRun) : Program ω String PreflightRun := do
  match ← runLoopResumePreflight effects config (some state) nowMs with
  | .continue => do
      let issue ← runtimeStateInProgressIssue effects config state
      pure (if issue.isSome then run.retainActive state else run.retain state)
  | .archiveStale _ _ reason => do
      effects.archiveRuntimeState state reason
      effects.appendRuntimeSupervisionEvent state "RuntimeStateArchived"
      pure (run.archive state)
  | .retryLater _ _ _ => do
      effects.appendRuntimeSupervisionEvent state "RetryDeferred"
      pure (run.retainActive state)
  | .stalled issueIdentifier stall =>
      retainStalled effects config state issueIdentifier stall recover run
  | .block reason => do
      effects.appendRuntimeSupervisionEvent state "ResumeBlocked"
      pure ((run.retain state).block reason)

/-- The body of the loop of `run_loop_resume_preflight_many`. -/
def preflightState (nowMs : UInt64) (recover : Bool) (run : PreflightRun) (state : RuntimeState) :
    Program ω String PreflightRun :=
  if !runtimeStateIsMainLane state then pure (run.retain state)
  else if recover then do
    match ← (runtimeStateInProgressIssue effects config state).outcome with
    | .error _ => do
        effects.appendRuntimeSupervisionEvent state "RuntimeRecoverReadSkipped"
        pure (run.retain state)
    | .ok none => preflightByAction effects config state nowMs recover run
    | .ok (some issue) => do
        match ← recoverInProgress effects config state issue nowMs run with
        | some recovered => pure recovered
        | none => preflightByAction effects config state nowMs recover run
  else preflightByAction effects config state nowMs recover run

def preflightStates (nowMs : UInt64) (recover : Bool) :
    List RuntimeState → PreflightRun → Program ω String PreflightRun
  | [], run => pure run
  | state :: states, run => do
      let run ← preflightState effects config nowMs recover run state
      preflightStates nowMs recover states run

/-! ## The sessions no state mentions -/

/-- The two parts of the answer to a failed read differ in recover mode: an
active session is kept, a session to restart is left alone. -/
def recoverRegistryIssue (state : RuntimeState) (issueIdentifier : String) :
    Program ω String (Except String (Option TrackerIssue)) := do
  match ← (effects.getIssue issueIdentifier).outcome with
  | .ok issue =>
      pure (.ok (issue.filter fun issue => normalizeState config.case issue.state == "in progress"))
  | .error error => do
      effects.appendRuntimeSupervisionEvent state "RuntimeRecoverReadSkipped"
      pure (.error error)

def recoverRegistryIssueAllowsActiveRetention (state : RuntimeState) (issueIdentifier : String) :
    Program ω String Bool := do
  match ← recoverRegistryIssue effects config state issueIdentifier with
  | .ok issue => pure issue.isSome
  | .error _ => pure true

def recoverRegistryIssueForRestart (state : RuntimeState) (issueIdentifier : String) :
    Program ω String (Option TrackerIssue) := do
  match ← recoverRegistryIssue effects config state issueIdentifier with
  | .ok issue => pure issue
  | .error _ => pure none

def terminationEvidence (processId : UInt32) : CommandOutput → String
  | .exited true _ _ _ => "terminated_process_id=" ++ toString processId ++ " signal=TERM"
  | .exited false status _ stderr =>
      "terminate_process_id=" ++ toString processId ++ " failed status=" ++ status ++ " stderr="
        ++ compactEvidence stderr
  | .failed error =>
      "terminate_process_id=" ++ toString processId ++ " failed error=" ++ compactEvidence error

def terminateStaleStructuredAgentSession (record : AgentSessionRecord) :
    Program ω String (Option String) :=
  if record.sessionSource = some "codex-app-server"
      ∨ record.sessionSource = some "claude-code-stream-json" then
    match record.processId with
    | none => pure (some "terminate_process_id=missing")
    | some processId => do
        let output ← Program.step (effects.killTerm processId)
        let updatedAtMs ← Program.step effects.unixTimestampMs
        effects.saveSessionRecord { record with status := .stale, updatedAtMs }
        pure (some (terminationEvidence processId output))
  else pure none

def recoverRegisteredSessionCandidate (state : RuntimeState) (issue : TrackerIssue)
    (reason : String) (run : PreflightRun) : Program ω String PreflightRun := do
  effects.appendRuntimeSupervisionEvent state "RuntimeRecoverable"
  pure (run.retainRecoverable state issue reason)

/-- A session that answered and does not count as an active worker. -/
def restartRegisteredSession (record : AgentSessionRecord) (issueIdentifier : String)
    (probe : SessionStatusProbe) (run : PreflightRun) : Program ω String PreflightRun :=
  let state := runtimeStateFromSessionRecord record
  if probe.status = .stale ∨ probe.status = .failed then do
    match ← recoverRegistryIssueForRestart effects config state issueIdentifier with
    | none => pure run
    | some issue => do
        let termination ←
          (if probe.status = .stale then terminateStaleStructuredAgentSession effects record
          else pure none)
        recoverRegisteredSessionCandidate effects state issue
          ("registry_session_recoverable session=" ++ record.sessionName ++ " status="
            ++ probe.status.asStr ++ " source=" ++ probe.source.asStr ++ " evidence="
            ++ compactEvidence probe.evidence
            ++ termination.elim "" fun evidence => " " ++ evidence) run
  else pure run

/-- A registered main session whose issue no retained state mentions. -/
def recoverUnmentionedSession (nowMs : UInt64) (record : AgentSessionRecord)
    (issueIdentifier : String) (run : PreflightRun) : Program ω String PreflightRun := do
  let state := runtimeStateFromSessionRecord record
  match ← (runtimeSessionProbeFromRecord effects config record nowMs).outcome with
  | .ok probe =>
      if sessionStatusCountsAsActiveWorker probe.status then do
        if ← recoverRegistryIssueAllowsActiveRetention effects config state issueIdentifier then
          effects.appendRuntimeSupervisionEvent state "RuntimeRecoverSkippedActiveRegistrySession"
          pure (run.retainActive state)
        else pure run
      else restartRegisteredSession effects config record issueIdentifier probe run
  | .error error => do
      match ← recoverRegistryIssueForRestart effects config state issueIdentifier with
      | none => pure run
      | some issue =>
          recoverRegisteredSessionCandidate effects state issue
            ("registry_session_unavailable session=" ++ record.sessionName ++ " reason="
              ++ compactEvidence error) run

/-- The issue is already retained or offered for recovery. -/
def PreflightRun.mentions (run : PreflightRun) (issueIdentifier : String) : Bool :=
  (run.retainedStates.any fun state => state.identifier == some issueIdentifier)
    || run.recoverableStates.any fun candidate => candidate.state.identifier == some issueIdentifier

def recoverRegisteredSession (nowMs : UInt64) (run : PreflightRun) (record : AgentSessionRecord) :
    Program ω String PreflightRun :=
  match if registeredMainRuntimeSession record then record.issueIdentifier else none with
  | none => pure run
  | some issueIdentifier =>
      if run.mentions issueIdentifier then pure run
      else recoverUnmentionedSession effects config nowMs record issueIdentifier run

def recoverRegisteredSessions (nowMs : UInt64) :
    List AgentSessionRecord → PreflightRun → Program ω String PreflightRun
  | [], run => pure run
  | record :: older, run => do
      let run ← recoverRegisteredSession effects config nowMs run record
      recoverRegisteredSessions nowMs older run

def recoverRegisteredMainSessions (nowMs : UInt64) (run : PreflightRun) :
    Program ω String PreflightRun := do
  let sessions ← effects.loadSessionRegistry
  recoverRegisteredSessions effects config nowMs sessions.reverse run

def runLoopResumePreflightMany (states : List RuntimeState) (nowMs : UInt64) (recover : Bool) :
    Program ω String PreflightRun := do
  let run ← preflightStates effects config nowMs recover states .empty
  if recover then recoverRegisteredMainSessions effects config nowMs run else pure run

/-! ## A steady outside -/

/-- An outside that answers the same every time and loses no record. -/
def steadyEffects (getIssue : String → Except String (Option TrackerIssue))
    (sessions : List AgentSessionRecord) (pane : String → Except String String)
    (log : String → Except String (Option String)) : PreflightEffects Unit where
  getIssue identifier := Program.ofExcept (getIssue identifier)
  loadSessionRegistry := pure sessions
  saveSessionRecord _ := pure ()
  captureTmuxPaneTail target := Program.ofExcept (pane target)
  readToString path := Program.ofExcept (log path)
  pathExists _ world := (false, world)
  pathIsDir _ world := (false, world)
  gitStatusPorcelain _ world := (.exited true "exit status: 0" "" "", world)
  killTerm _ world := (.exited true "exit status: 0" "" "", world)
  unixTimestampMs world := (0, world)
  archiveRuntimeState _ _ := pure ()
  appendRuntimeSupervisionEvent _ _ := pure ()

end SheaSymphony.Preflight

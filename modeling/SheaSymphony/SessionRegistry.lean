import SheaSymphony.Text

/-!
# Session registry

The records of `session_registry.rs`, what a pane or a log says of the session
behind a record, and the two operations that rewrite one record of the registry.
The registry keeps every session ever recorded, in the order they were first
saved.
-/

namespace SheaSymphony.Sessions

inductive SessionStatus where
  | starting
  | running
  | waitingForTrust
  | waitingForApproval
  | waitingForHumanInput
  | usageLimited
  | failed
  | completed
  | recorded
  | stale
  | unknown
  | unknownPersisted (raw : String)
deriving DecidableEq

inductive SessionStatusSource where
  | pane
  | log
  | registry
  | none
deriving DecidableEq

structure SessionStatusProbe where
  status : SessionStatus
  source : SessionStatusSource
  evidence : String
deriving DecidableEq

structure AgentSessionRecord where
  issueId : Option String
  issueIdentifier : Option String
  issueTitle : Option String
  lane : String
  runId : Option String
  thread : Option String
  sessionSource : Option String
  claimValue : Option String
  actorRole : Option String
  actorLabel : Option String
  gitAuthor : Option String
  profileId : Option String
  instanceName : Option String
  worktree : String
  branch : Option String
  backend : String
  sessionName : String
  processId : Option UInt32
  paneTarget : String
  promptArtifactPath : String
  logPath : String
  attachCommand : String
  attempt : UInt32
  status : SessionStatus
  startedAtMs : UInt64
  updatedAtMs : UInt64
deriving DecidableEq

def SessionStatus.asStr : SessionStatus → String
  | .starting => "starting"
  | .running => "running"
  | .waitingForTrust => "waiting_for_trust"
  | .waitingForApproval => "waiting_for_approval"
  | .waitingForHumanInput => "waiting_for_human_input"
  | .usageLimited => "usage_limited"
  | .failed => "failed"
  | .completed => "completed"
  | .recorded => "recorded"
  | .stale => "stale"
  | .unknown => "unknown"
  | .unknownPersisted _ => "unknown"

def SessionStatus.rawPersistedUnknown : SessionStatus → Option String
  | .unknownPersisted raw => some raw
  | _ => none

def SessionStatusSource.asStr : SessionStatusSource → String
  | .pane => "pane"
  | .log => "log"
  | .registry => "registry"
  | .none => "none"

/-! ## What a session shows -/

def tailLines (text : String) (maxLines : Nat) : String :=
  let lines := Text.lines text
  Text.join "\n" (lines.drop (lines.length - max maxLines 1))

def compactSessionEvidence (text : String) : String :=
  let compact := Text.collapseWhitespace text
  if 180 < compact.length then String.ofList (compact.toList.take 180) ++ "..." else compact

def containsAny (text : String) (needles : List String) : Bool :=
  needles.any fun needle => Text.contains text needle

def normalizedSessionText (case : Text.UnicodeCase) (text : String) : String :=
  case.toLowercase (Text.collapseWhitespace text)

/-- The tests in the order they are made: the first that applies decides. -/
def sessionOutputStatus (text normalized : String) : Option SessionStatus :=
  if containsAny normalized
      ["usage limit", "rate limit", "quota exceeded", "too many requests", "429"] then
    some .usageLimited
  else if containsAny normalized
      ["do you trust the contents of this directory", "do you trust the files in this directory",
        "do you trust the files in this folder"]
      || (Text.contains normalized "trust" && Text.contains normalized "directory"
        && Text.contains normalized "codex") then
    some .waitingForTrust
  else if containsAny normalized ["approval", "approve", "allow"]
      && containsAny normalized
        ["command", "permission", "escalation", "sandbox", "execute", "action"] then
    some .waitingForApproval
  else if containsAny normalized
      ["conversation interrupted", "need human input", "needs human input", "waiting for human",
        "requires human input", "clarification needed", "please provide"] then
    some .waitingForHumanInput
  else if containsAny normalized
      ["completed successfully", "task complete", "status=complete", "final answer",
        "done; verification"] then
    some .completed
  else if containsAny normalized
      ["exited with status", "fatal:", "panic", "thread '", "error:", "operation not permitted",
        "permission denied"] then
    some .failed
  else if containsAny normalized
      ["starting", "launching", "loading", "checking workspace", "preparing"] then
    some .starting
  else if containsAny normalized
      ["thinking", "working", "running", "executing", "applying patch", "tokens", "codex"]
      || text.toList.contains '›' || text.toList.contains '▌' then
    some .running
  else none

def classifySessionOutput (case : Text.UnicodeCase) (text : String)
    (source : SessionStatusSource) : Option SessionStatusProbe :=
  let evidence := compactSessionEvidence text
  if evidence = "" then
    some { status := .starting, source, evidence := "no pane or log output yet" }
  else
    (sessionOutputStatus text (normalizedSessionText case text)).map fun status =>
      { status, source, evidence }

def registryStatusEvidence (record : AgentSessionRecord) : String :=
  match record.status.rawPersistedUnknown with
  | some raw => "unknown persisted session status " ++ raw
  | none => "registry status " ++ record.status.asStr

/-- What is left to say when neither pane nor log shows a known state. -/
def classifySilentSession (record : AgentSessionRecord) (paneTail logTail : Option String)
    (nowMs staleAfterMs : UInt64) : SessionStatusProbe :=
  let silentMs := nowMs.toNat - record.updatedAtMs.toNat
  if 0 < staleAfterMs ∧ staleAfterMs.toNat < silentMs
      ∧ record.status ∉ [.completed, .failed, .recorded] then
    { status := .stale
      source := .registry
      evidence := "registry record has not updated for " ++ toString silentMs ++ "ms" }
  else
    match (paneTail.filter fun tail => !Text.isBlank tail)
        <|> logTail.filter fun tail => !Text.isBlank tail with
    | some tail =>
        { status := .unknown
          source := if paneTail.isSome then .pane else .log
          evidence := compactSessionEvidence tail }
    | none =>
        { status := record.status, source := .registry, evidence := registryStatusEvidence record }

def classifySessionRecord (case : Text.UnicodeCase) (record : AgentSessionRecord)
    (paneTail logTail : Option String) (nowMs staleAfterMs : UInt64) : SessionStatusProbe :=
  if record.status = .completed ∨ record.status = .recorded then
    { status := record.status, source := .registry, evidence := registryStatusEvidence record }
  else
    ((paneTail.bind fun tail => classifySessionOutput case tail .pane)
      <|> logTail.bind fun tail => classifySessionOutput case tail .log).getD
      (classifySilentSession record paneTail logTail nowMs staleAfterMs)

/-! ## Rewriting one record -/

/-- `save_session_record` on the sessions it read. -/
def saveSessionRecordEntry (sessions : List AgentSessionRecord) (record : AgentSessionRecord) :
    List AgentSessionRecord :=
  match sessions with
  | [] => [record]
  | existing :: rest =>
      if existing.sessionName = record.sessionName then record :: rest
      else existing :: saveSessionRecordEntry rest record

/-- `update_session_record_status` on the sessions it read; nothing is written
when no session has the name. -/
def updateSessionRecordStatusEntry (sessions : List AgentSessionRecord) (sessionId : String)
    (status : SessionStatus) (updatedAtMs : UInt64) : List AgentSessionRecord :=
  match sessions with
  | [] => []
  | record :: rest =>
      if record.sessionName = sessionId then { record with status, updatedAtMs } :: rest
      else record :: updateSessionRecordStatusEntry rest sessionId status updatedAtMs

end SheaSymphony.Sessions

import SheaSymphony.ClaudeStream

/-!
# The app-server of Codex

The lines of a Codex app-server as `codex_app_server.rs` reads them, and the protocol
`agent.rs` runs over them: `initialize`, `thread/start` or `thread/resume`, `turn/start`,
and the wait for the end of the turn. What the server prints is a list of lines and the
way the reading ends. The parameters of the requests are left out, as are files.
-/

namespace SheaSymphony.Agent

open Interrupted (Program)
open Sessions (SessionStatus)

/-! ## Events of the app-server -/

def appServerBackendName : String := "codex-app-server"

inductive CodexAppServerEventKind where
  | turnCompleted | turnFailed | turnCancelled | turnInputRequired | unsupportedRequest
  | tokenUsage | notification | otherMessage | malformed
deriving DecidableEq

structure CodexAppServerEvent where
  event : CodexAppServerEventKind
  method : Option String
  sessionId : Option String
  message : String
  agentEvent : Option AgentEvent
deriving DecidableEq

/-- What reads and writes documents. -/
structure JsonText where
  parse : String → Except String Json
  compact : Json → String

def inputRequiredMethods : List String :=
  ["applyPatchApproval", "execCommandApproval", "item/commandExecution/requestApproval",
    "item/fileChange/requestApproval", "item/tool/call", "item/tool/requestUserInput",
    "tool/requestUserInput", "turn/input_required"]

def turnStatus (payload : Json) : Option String :=
  (pointer ["params", "turn", "status"] payload).bind Json.asStr

def errorMessage (payload : Json) : Option String :=
  (pointer ["params", "error", "message"] payload <|> pointer ["params", "message"] payload
    <|> pointer ["error", "message"] payload).bind Json.asStr

def jsonU64Any (payload : Json) (keys : List String) : Option Nat :=
  keys.findSome? fun key => (payload.get key).bind Json.asU64

section
variable (json : JsonText) (sessionId : Option String)

def malformedEvent (raw message : String) : CodexAppServerEvent where
  event := .malformed
  method := none
  sessionId := sessionId
  message := message
  agentEvent := some (.failed appServerBackendName
    (if raw = "" then message else message ++ ": " ++ raw))

def failedEvent (event : CodexAppServerEventKind) (method : String) (payload : Json) :
    CodexAppServerEvent :=
  let reason := (errorMessage payload).getD (json.compact payload)
  { event
    method := some method
    sessionId
    message := reason
    agentEvent := some (.failed appServerBackendName (method ++ ": " ++ reason)) }

def completedEvent (method : String) (payload : Json) : CodexAppServerEvent :=
  let completed := fun summary =>
    { event := .turnCompleted
      method := some method
      sessionId
      message := "Codex app-server turn completed."
      agentEvent := some (.completed appServerBackendName sessionId summary) }
  match turnStatus payload with
  | none => completed "Codex app-server turn completed."
  | some status =>
      if status = "completed" then
        completed ("Codex app-server turn completed with status " ++ status ++ ".")
      else if status = "interrupted" ∨ status = "cancelled" then
        failedEvent json sessionId .turnCancelled method payload
      else if status = "failed" then failedEvent json sessionId .turnFailed method payload
      else
        malformedEvent sessionId (json.compact payload)
          ("unsupported app-server terminal turn status " ++ status)

def tokenUsageEvent (method : String) (payload : Json) : CodexAppServerEvent :=
  let usage := (payload.get "params").getD payload
  let inputTokens := jsonU64Any usage ["input_tokens", "inputTokens", "input"]
  let outputTokens := jsonU64Any usage ["output_tokens", "outputTokens", "output"]
  let totalTokens := jsonU64Any usage ["total_tokens", "totalTokens", "total"]
    -- a plain `+` of two `u64`s: a release build wraps it around, a debug build panics
    <|> (inputTokens.bind fun input => outputTokens.map fun output =>
      (input + output) % 18446744073709551616)
  { event := .tokenUsage
    method := some method
    sessionId
    message := "Codex app-server token usage updated."
    agentEvent :=
      match inputTokens, outputTokens, totalTokens with
      | some inputTokens, some outputTokens, some totalTokens =>
          some (.tokenUsage appServerBackendName inputTokens outputTokens totalTokens)
      | _, _, _ => some (.message appServerBackendName sessionId (json.compact payload)) }

/-- A request that is refused, with the payload as evidence. -/
def refusedRequestEvent (event : CodexAppServerEventKind) (method message : String)
    (payload : Json) : CodexAppServerEvent where
  event := event
  method := some method
  sessionId := sessionId
  message := message
  agentEvent := some (.failed appServerBackendName (message ++ ": " ++ json.compact payload))

def inputRequiredEvent (method : String) (payload : Json) : CodexAppServerEvent :=
  refusedRequestEvent json sessionId .turnInputRequired method
    (method ++ ": app-server turn requires unavailable user input") payload

def unsupportedRequestEvent (method : String) (payload : Json) : CodexAppServerEvent :=
  refusedRequestEvent json sessionId .unsupportedRequest method
    ("unsupported app-server request \x60" ++ method ++ "\x60") payload

def notificationEvent (method : String) (payload : Json) : CodexAppServerEvent where
  event := .notification
  method := some method
  sessionId := sessionId
  message := method
  agentEvent := some (.message appServerBackendName sessionId (json.compact payload))

def otherMessageEvent (payload : Json) : CodexAppServerEvent where
  event := .otherMessage
  method := none
  sessionId := sessionId
  message := "app-server message without method"
  agentEvent := some (.message appServerBackendName sessionId (json.compact payload))

def methodEvent (method : String) (payload : Json) : CodexAppServerEvent :=
  if method = "turn/completed" then completedEvent json sessionId method payload
  else if method = "turn/failed" then failedEvent json sessionId .turnFailed method payload
  else if method = "turn/cancelled" then failedEvent json sessionId .turnCancelled method payload
  else if method = "thread/tokenUsage/updated" then tokenUsageEvent json sessionId method payload
  else if inputRequiredMethods.contains method then inputRequiredEvent json sessionId method payload
  else if (payload.get "id").isSome then unsupportedRequestEvent json sessionId method payload
  else notificationEvent json sessionId method payload

def normalizeJsonRpcLine (line : String) : CodexAppServerEvent :=
  let trimmed := Text.trim line
  if trimmed = "" then malformedEvent sessionId trimmed "empty app-server line"
  else
    match json.parse trimmed with
    | .error _ => malformedEvent sessionId trimmed "malformed app-server JSON line"
    | .ok payload =>
        match stringField payload "method" with
        | none => otherMessageEvent json sessionId payload
        | some method => methodEvent json sessionId method payload

end

/-! ## The protocol -/

inductive AppServerMessage where
  | initializeRequest
  | initializedNotification
  | threadStart
  | threadResume (threadId : String)
  | turnStart (threadId : String)
deriving DecidableEq

/-- How the reading of the lines ends; `idle` is the deadline without output. -/
inductive AppServerCut where
  | exited
  | cancelled
  | deadline (idle : Bool)
  | readFailed (error : String)
  | waitFailed (error : String)
deriving DecidableEq

/-- What a run meets once its process has been started. -/
structure AppServerRun where
  backend : String
  json : JsonText
  resumeThreadId : Option String
  send : AppServerMessage → Except String Unit
  saveRecord : String → String → Except String Unit
  lines : List String
  cut : AppServerCut
  exitStatus : ExitStatus
  stderr : String
  artifacts : String

/-- What a run has done: a message it has sent, a line it has read, and a line it has
taken for the response it was waiting for. -/
inductive AppServerStep where
  | sent (message : AppServerMessage)
  | read (line : String)
  | answered (expectedId : Nat) (payload : Json)

structure AppServerWorld where
  lines : List String
  events : List AgentEvent
  steps : List AppServerStep

abbrev AppServer := Program AppServerWorld String

def jsonRpcIdMatches (value : Option Json) (expected : Nat) : Bool :=
  match value with
  | some (.str text) => text == toString expected
  | some value => value.asU64 == some expected
  | none => false

def isTerminalOrFailClosedAppServerEvent (kind : CodexAppServerEventKind) : Bool :=
  [.turnFailed, .turnCancelled, .turnInputRequired, .unsupportedRequest, .malformed].contains kind

namespace AppServerWorld

def observe (world : AppServerWorld) (event : CodexAppServerEvent) : AppServerWorld :=
  { world with events := world.events ++ event.agentEvent.toList }

def take (world : AppServerWorld) (line : String) (rest : List String) : AppServerWorld :=
  { world with lines := rest, steps := world.steps ++ [.read line] }

end AppServerWorld

section
variable (run : AppServerRun)

def sendAppServerMessage (message : AppServerMessage) : AppServer Unit := fun world =>
  match run.send message with
  | .error error => (.error ("Codex app-server stdin write failed: " ++ error), world)
  | .ok () => (.ok (), { world with steps := world.steps ++ [.sent message] })

/-- The error of a wait whose lines have come to an end. -/
def cutError (exited : String) (idle : String) : String :=
  match run.cut with
  | .exited => exited
  | .cancelled => "Codex app-server review was cancelled"
  | .deadline true => idle
  | .deadline false => "Codex app-server timed out waiting for protocol output"
  | .readFailed error => "Codex app-server stdout read failed: " ++ error
  | .waitFailed error => error

/-- The document of a line that is awaited as the response to a request. -/
def awaitedPayload (expectedId : Nat) (line : String) : Option Json :=
  ((run.json.parse (Text.trim line)).toOption).filter fun payload =>
    jsonRpcIdMatches (payload.get "id") expectedId

def awaitResponseFrom (expectedId : Nat) :
    List String → AppServerWorld → Except String Json × AppServerWorld
  | [], world =>
      (.error (cutError run ("Codex app-server exited before response id " ++ toString expectedId)
        "Codex app-server timed out waiting for protocol output"), world)
  | line :: rest, world =>
      let world := world.take line rest
      match awaitedPayload run expectedId line with
      | some payload =>
          let world := { world with steps := world.steps ++ [.answered expectedId payload] }
          match payload.get "error" with
          | some error =>
              (.error ("Codex app-server response id " ++ toString expectedId ++ " returned error: "
                ++ run.json.compact error), world)
          | none => (.ok payload, world)
      | none =>
          let event := normalizeJsonRpcLine run.json none (Text.trimEnd line)
          let world := world.observe event
          if isTerminalOrFailClosedAppServerEvent event.event then (.error event.message, world)
          else awaitResponseFrom expectedId rest world

def awaitAppServerResponse (expectedId : Nat) : AppServer Json := fun world =>
  awaitResponseFrom run expectedId world.lines world

def awaitTerminalFrom (sessionId : String) :
    List String → AppServerWorld → Except String Unit × AppServerWorld
  | [], world =>
      (.error (cutError run "Codex app-server exited before a terminal turn event"
        "Codex app-server stalled waiting for turn event"), world)
  | line :: rest, world =>
      let event := normalizeJsonRpcLine run.json (some sessionId) (Text.trimEnd line)
      let world := (world.take line rest).observe event
      if event.event = .turnCompleted then (.ok (), world)
      else if isTerminalOrFailClosedAppServerEvent event.event then (.error event.message, world)
      else awaitTerminalFrom sessionId rest world

def awaitAppServerTerminalEvent (sessionId : String) : AppServer Unit := fun world =>
  awaitTerminalFrom run sessionId world.lines world

def responseId (name : String) (response : Json) : Option String :=
  (pointer ["result", name, "id"] response <|> pointer [name, "id"] response).bind Json.asStr

def pushEvents (events : List AgentEvent) : AppServer Unit := fun world =>
  (.ok (), { world with events := world.events ++ events })

def resumeThread (threadId : String) : AppServer String := do
  sendAppServerMessage run (.threadResume threadId)
  let response ← awaitAppServerResponse run 2
  let resumed ← Program.ofExcept (Fallible.okOr (responseId "thread" response)
    ("Codex app-server thread/resume response missing thread id: " ++ run.json.compact response))
  Program.require (resumed == threadId) ("Codex app-server thread/resume returned \x60" ++ resumed
    ++ "\x60 for requested thread \x60" ++ threadId ++ "\x60")
  return resumed

def startThread : AppServer String := do
  sendAppServerMessage run .threadStart
  let response ← awaitAppServerResponse run 2
  Program.ofExcept (Fallible.okOr (responseId "thread" response)
    ("Codex app-server thread/start response missing thread id: " ++ run.json.compact response))

def openThread : AppServer String :=
  match visible run.resumeThreadId with
  | some threadId => resumeThread run threadId
  | none => startThread run

/-- The session that a turn of a thread is. -/
def startTurn (threadId : String) : AppServer String := do
  sendAppServerMessage run (.turnStart threadId)
  let response ← awaitAppServerResponse run 3
  let turnId ← Program.ofExcept (Fallible.okOr (responseId "turn" response)
    ("Codex app-server turn/start response missing turn id: " ++ run.json.compact response))
  let sessionId := threadId ++ "-" ++ turnId
  pushEvents [.message appServerBackendName (some sessionId)
      ("app_server_identity thread_id=" ++ threadId ++ " turn_id=" ++ turnId),
    .sessionStarted run.backend sessionId]
  Program.ofExcept (run.saveRecord threadId sessionId)
  return sessionId

def runCodexAppServerProtocol : AppServer Unit := do
  sendAppServerMessage run .initializeRequest
  let _ ← awaitAppServerResponse run 1
  sendAppServerMessage run .initializedNotification
  let threadId ← openThread run
  let sessionId ← startTurn run threadId
  awaitAppServerTerminalEvent run sessionId

/-! ## After the protocol -/

def appServerProtocolRun : Except String Unit × AppServerWorld :=
  runCodexAppServerProtocol run { lines := run.lines, events := [], steps := [] }

def terminalSessionId : Option String :=
  (appServerProtocolRun run).2.events.findSome? AgentEvent.startedSession

def appServerExitFailed : Bool :=
  match run.exitStatus with
  | .code value => value != 0
  | .terminated => false

/-- The events when the status of the session is written. -/
def finishedAppServerEvents : List AgentEvent :=
  let events := (appServerProtocolRun run).2.events
    ++ (if Text.isBlank run.stderr then []
      else [.message appServerBackendName none run.stderr])
  let events := events ++
    match (appServerProtocolRun run).1 with
    | .error error => [.failed run.backend error]
    | .ok () => []
  if appServerExitFailed run && !(events.any fun event => event.failure.isSome) then
    events ++ [.failed run.backend ("Codex app-server exited unexpectedly with status "
      ++ run.exitStatus.display)]
  else events

def appServerFinalSessionStatus (events : List AgentEvent) : Option SessionStatus :=
  if events.any fun event => event.completion.isSome then some .completed
  else (usageLimitPauseFromEvents events).map fun pause =>
    if pause.isSome then .usageLimited else .failed

def appServerRunEvents : List AgentEvent :=
  finishedAppServerEvents run
    ++ [.message appServerBackendName (terminalSessionId run) run.artifacts]

/-- What is written to the registry at the end, for a session that was reported. -/
def appServerRegistryStatus : Option (String × Option SessionStatus) :=
  (terminalSessionId run).map fun sessionId =>
    (sessionId, appServerFinalSessionStatus (finishedAppServerEvents run))

end

end SheaSymphony.Agent

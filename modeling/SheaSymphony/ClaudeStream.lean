import SheaSymphony.AgentEvents

/-!
# The stream of a Claude run

`run_claude_stream_json_backend_with_cancel` of `agent.rs`, from the prompt it writes to
the artifacts it leaves. What the process prints is a list of lines and the way the
reading ends; how it exits is another input. The JSON parser and the session registry
are parameters, files are written without failing.
-/

namespace SheaSymphony.Agent

open Sessions (SessionStatus)

/-! ## Reading a document -/

/-- `Value::pointer`, for names that are no indices. -/
def pointer (path : List String) (value : Json) : Option Json :=
  path.foldl (fun found name => found.bind (Json.get name)) (some value)

def stringField (value : Json) (name : String) : Option String :=
  (value.get name).bind Json.asStr

def visible (value : Option String) : Option String := value.filter fun text => !Text.isBlank text

def jsonU64 (value : Option Json) : Nat := (value.bind Json.asU64).getD 0

def saturatingAdd (a b : Nat) : Nat := min (a + b) 18446744073709551615

/-! ## Inputs -/

/-- How the reading of the lines ends. -/
inductive StreamCut where
  | ended
  | cancelled
  | timedOut
  | readFailed (error : String)
  | waitFailed (error : String)
deriving DecidableEq

def StreamCut.error : StreamCut → Option String
  | ended => none
  | cancelled => some "Claude Code execution was cancelled before a terminal result event"
  | timedOut => some "Claude Code timed out waiting for a terminal result event"
  | readFailed error => some ("Claude Code stdout read failed: " ++ error)
  | waitFailed error => some error

/-- What a run meets once its process has been started. -/
structure ClaudeRun where
  backend : String
  parse : String → Except String Json
  saveRecord : String → Except String Unit
  inputError : Option String
  lines : List String
  cut : StreamCut
  exitStatus : Option ExitStatus
  stderr : String
  artifacts : String

structure ClaudeProtocolState where
  sessionId : Option String
  initialized : Bool
  terminal : Bool
deriving DecidableEq

def ClaudeProtocolState.default : ClaudeProtocolState :=
  { sessionId := none, initialized := false, terminal := false }

/-! ## One line -/

def validateClaudeEventSession (state : ClaudeProtocolState) (value : Json) : Except String Unit :=
  match visible (stringField value "session_id"), state.sessionId with
  | some actual, some expected =>
      if actual ≠ expected then
        .error ("Claude Code session changed within one stream: expected " ++ expected ++ ", got "
          ++ actual)
      else .ok ()
  | _, _ => .ok ()

def requireClaudeInitialization (state : ClaudeProtocolState) (eventType : String) :
    Except String Unit :=
  if state.initialized then .ok ()
  else .error ("Claude Code emitted " ++ eventType ++ " before initialization")

/-- The state and the events a line leaves, and the error of a line that is refused. -/
structure LineOutcome where
  state : ClaudeProtocolState
  events : List AgentEvent
  error : Option String
deriving DecidableEq

section
variable (run : ClaudeRun)

def claudeAssistantBlock (state : ClaudeProtocolState) (block : Json) : Option AgentEvent :=
  match stringField block "type" with
  | some "text" => (stringField block "text").map (.message run.backend state.sessionId)
  | some "tool_use" =>
      some (.message run.backend state.sessionId
        ("claude_tool_use name=" ++ (stringField block "name").getD "unknown" ++ " id="
          ++ (stringField block "id").getD "unknown"))
  | some kind => some (.message run.backend state.sessionId ("claude_assistant_block type=" ++ kind))
  | none => none

def claudeUsage (usage : Json) : List AgentEvent :=
  let inputTokens := jsonU64 (usage.get "input_tokens")
  let outputTokens := jsonU64 (usage.get "output_tokens")
  if 0 < inputTokens ∨ 0 < outputTokens then
    [.tokenUsage run.backend inputTokens outputTokens (saturatingAdd inputTokens outputTokens)]
  else []

def messageContent (value : Json) : List Json :=
  ((pointer ["message", "content"] value).bind Json.asArray).getD []

def normalizeClaudeAssistant (state : ClaudeProtocolState) (value : Json) : List AgentEvent :=
  (messageContent value).filterMap (claudeAssistantBlock run state)
    ++ (pointer ["message", "usage"] value).elim [] (claudeUsage run)

def claudeToolResult (state : ClaudeProtocolState) (block : Json) : Option AgentEvent :=
  if stringField block "type" = some "tool_result" then
    some (.message run.backend state.sessionId
      ("claude_tool_result tool_use_id=" ++ (stringField block "tool_use_id").getD "unknown"
        ++ " is_error=" ++ toString (((block.get "is_error").bind Json.asBool).getD false)))
  else none

def normalizeClaudeToolResults (state : ClaudeProtocolState) (value : Json) : List AgentEvent :=
  (messageContent value).filterMap (claudeToolResult run state)

/-- The record of the session is saved after the session is reported. -/
def initializeClaude (value : Json) : Except String LineOutcome := do
  let sessionId ← Fallible.okOr (visible (stringField value "session_id"))
    "Claude Code initialization is missing session_id"
  let state := { sessionId := some sessionId, initialized := true, terminal := false }
  match run.saveRecord sessionId with
  | .error error =>
      return { state, events := [.sessionStarted run.backend sessionId], error := some error }
  | .ok () =>
      return {
        state
        events := [.sessionStarted run.backend sessionId,
          .message run.backend (some sessionId) "claude_event type=system subtype=init"]
        error := none }

def claudeResult (state : ClaudeProtocolState) (value : Json) : AgentEvent :=
  let subtype := (stringField value "subtype").getD "unknown"
  let isError := ((value.get "is_error").bind Json.asBool).getD (subtype != "success")
  if isError || subtype != "success" then
    .failed run.backend ("Claude Code result failed (" ++ subtype ++ "): "
      ++ (visible (stringField value "result")).getD subtype)
  else
    .completed run.backend state.sessionId
      ((visible (stringField value "result")).getD "Claude Code completed successfully.")

def claudeError (value : Json) : AgentEvent :=
  .failed run.backend ("Claude Code error event: "
    ++ (stringField value "error" <|> stringField value "message").getD "unspecified error")

/-- The event of a line by its kind; kinds that are not known are kept as evidence. -/
def claudeEvent (state : ClaudeProtocolState) (eventType : String) (value : Json) :
    Except String LineOutcome :=
  let accepted := fun events => { state, events, error := none }
  let final := fun event => { state := { state with terminal := true }, events := [event], error := none }
  if eventType = "system" ∧ stringField value "subtype" = some "init" then
    if state.initialized then .error "Claude Code emitted more than one initialization event"
    else initializeClaude run value
  else if eventType = "assistant" then do
    requireClaudeInitialization state eventType
    return accepted (normalizeClaudeAssistant run state value)
  else if eventType = "user" then do
    requireClaudeInitialization state eventType
    return accepted (normalizeClaudeToolResults run state value)
  else if eventType = "result" then do
    requireClaudeInitialization state eventType
    return final (claudeResult run state value)
  else if eventType = "error" then .ok (final (claudeError run value))
  else
    .ok (accepted [.message run.backend state.sessionId
      ("claude_event type=" ++ eventType ++ " subtype="
        ++ (stringField value "subtype").getD "n/a")])

def claudeStreamValue (line : String) : Except String Json :=
  (run.parse (Text.trim line)).mapError ("Claude Code emitted malformed stream-json: " ++ ·)

def checkedClaudeLine (state : ClaudeProtocolState) (line : String) : Except String LineOutcome := do
  if state.terminal then throw "Claude Code emitted data after its terminal result event"
  let value ← claudeStreamValue run line
  let eventType ← Fallible.okOr (stringField value "type")
    "Claude Code stream-json event is missing string field `type`"
  validateClaudeEventSession state value
  claudeEvent run state eventType value

def normalizeClaudeStreamLine (state : ClaudeProtocolState) (line : String) : LineOutcome :=
  match checkedClaudeLine run state line with
  | .ok outcome => outcome
  | .error error => { state, events := [], error := some error }

/-! ## The loop -/

/-- What the loop has come to; a forced stop ends the process. -/
structure StreamResult where
  state : ClaudeProtocolState
  events : List AgentEvent
  forceStop : Bool
deriving DecidableEq

def readClaudeStream (state : ClaudeProtocolState) (events : List AgentEvent) :
    List String → StreamResult
  | [] =>
      match run.cut.error with
      | none => { state, events, forceStop := false }
      | some error => { state, events := events ++ [.failed run.backend error], forceStop := true }
  | line :: lines =>
      let outcome := normalizeClaudeStreamLine run state line
      match outcome.error with
      | none => readClaudeStream outcome.state (events ++ outcome.events) lines
      | some error =>
          { state := outcome.state
            events := events ++ outcome.events ++ [.failed run.backend error]
            forceStop := true }

/-- A prompt that could not be written leaves nothing to read. -/
def claudeStream : StreamResult :=
  match run.inputError with
  | some error =>
      { state := .default
        events := [.failed run.backend ("Claude Code input write failed: " ++ error)]
        forceStop := true }
  | none => readClaudeStream run .default [] run.lines

/-! ## After the loop -/

def exitFailed : Bool := run.exitStatus.any fun status => !status.success

def endedWithoutResult (stream : StreamResult) : List AgentEvent :=
  if !stream.state.terminal && !(stream.events.any fun event => event.failure.isSome) then
    [.failed run.backend
      (if !stream.state.initialized && exitFailed run then
        "Claude Code startup failed with status " ++ displayExitStatus run.exitStatus
          ++ " before initialization"
      else "Claude Code stream ended before a terminal result event")]
  else []

def endedWithStatus (events : List AgentEvent) : List AgentEvent :=
  if exitFailed run
      && !(events.any fun event => event.failure.any fun error => Text.contains error "timed out") then
    [.failed run.backend ("Claude Code exited with status " ++ displayExitStatus run.exitStatus)]
  else []

/-- The events when the status of the session is written. -/
def checkedClaudeEvents : List AgentEvent :=
  let stream := claudeStream run
  let events := stream.events ++ endedWithoutResult run stream
  let events := events ++ endedWithStatus run events
  if Text.isBlank run.stderr then events
  else events ++ [.message run.backend stream.state.sessionId run.stderr]

/-- The status the session of the run is left with; `none` where the evidence of a
pause panics. -/
def claudeSessionStatus (events : List AgentEvent) : Option SessionStatus :=
  if (events.any fun event => event.completion.isSome)
      && !(events.any fun event => event.failure.isSome) then some .completed
  else (usageLimitPauseFromEvents events).map fun pause =>
    if pause.isSome then .usageLimited else .failed

def claudeRunEvents : List AgentEvent :=
  let events := checkedClaudeEvents run
  events ++ [.message run.backend (events.findSome? AgentEvent.startedSession) run.artifacts]

/-- What is written to the registry at the end, for a session that was reported. -/
def claudeRegistryStatus : Option (String × Option SessionStatus) :=
  (claudeStream run).state.sessionId.map fun sessionId =>
    (sessionId, claudeSessionStatus (checkedClaudeEvents run))

end

end SheaSymphony.Agent

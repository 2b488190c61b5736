import SheaSymphony.AppServer

/-!
# Runs of the app-server protocol

What a wait of the protocol does with the lines that are left (`awaitResponseFrom_ends`,
`awaitTerminalFrom_ends`), which waits a run comes to by its input alone (`Awaits`), and how
its events are made of the lines it has passed over (`protocol_ends`).
-/

namespace SheaSymphony.Agent

open Interrupted (Program Triple)

/-! ## What a line is -/

/-- The three ways a line is read: as a failure, as the end of the turn, or past it. -/
inductive Read : CodexAppServerEvent → Prop
  | failing {event : CodexAppServerEvent} (error : String)
      (hkind : isTerminalOrFailClosedAppServerEvent event.event = true)
      (hevent : event.agentEvent = some (.failed appServerBackendName error)) : Read event
  | completing {event : CodexAppServerEvent} (summary : String) (hkind : event.event = .turnCompleted)
      (hevent : event.agentEvent = some (.completed appServerBackendName event.sessionId summary)) :
      Read event
  | passing {event : CodexAppServerEvent}
      (hkind : isTerminalOrFailClosedAppServerEvent event.event = false)
      (hopen : event.event ≠ .turnCompleted) (hplain : ∀ agent ∈ event.agentEvent, Plain agent) :
      Read event

section
variable (json : JsonText) (sessionId : Option String)

theorem read_malformed (raw message : String) : Read (malformedEvent sessionId raw message) :=
  .failing _ rfl rfl

theorem read_completed (method : String) (payload : Json) :
    Read (completedEvent json sessionId method payload) := by
  unfold completedEvent
  split
  · exact .completing _ rfl rfl
  · split
    · exact .completing _ rfl rfl
    · split
      · exact .failing _ rfl rfl
      · split
        · exact .failing _ rfl rfl
        · exact .failing _ rfl rfl

theorem read_tokenUsage (method : String) (payload : Json) :
    Read (tokenUsageEvent json sessionId method payload) := by
  refine .passing rfl nofun fun agent hagent => ?_
  unfold tokenUsageEvent at hagent
  dsimp only at hagent
  split at hagent
  · cases hagent
    exact ⟨rfl, rfl, rfl⟩
  · cases hagent
    exact plain_message

theorem read_method (method : String) (payload : Json) :
    Read (methodEvent json sessionId method payload) := by
  unfold methodEvent
  split
  · exact read_completed json sessionId method payload
  split
  · exact .failing _ rfl rfl
  split
  · exact .failing _ rfl rfl
  split
  · exact read_tokenUsage json sessionId method payload
  split
  · exact .failing _ rfl rfl
  split
  · exact .failing _ rfl rfl
  · refine .passing rfl nofun fun agent hagent => ?_
    cases hagent
    exact plain_message

theorem read_line (line : String) : Read (normalizeJsonRpcLine json sessionId line) := by
  unfold normalizeJsonRpcLine
  dsimp only
  split
  · exact read_malformed sessionId _ _
  split
  · exact read_malformed sessionId _ _
  split
  · refine .passing rfl nofun fun agent hagent => ?_
    cases hagent
    exact plain_message
  · exact read_method json sessionId _ _

theorem normalize_event_eq (other : Option String) (line : String) :
    (normalizeJsonRpcLine json sessionId line).event = (normalizeJsonRpcLine json other line).event := by
  unfold normalizeJsonRpcLine methodEvent completedEvent
  dsimp only
  repeat' split
  all_goals rfl

end

namespace AppServerRun

variable (run : AppServerRun)

def lineKind (line : String) : CodexAppServerEventKind :=
  (normalizeJsonRpcLine run.json none (Text.trimEnd line)).event

def FailsClosed (line : String) : Prop :=
  isTerminalOrFailClosedAppServerEvent (run.lineKind line) = true

def CompletesTurn (line : String) : Prop := run.lineKind line = .turnCompleted

/-- A wait for a response reads past the line. -/
def Passes (expectedId : Nat) (line : String) : Prop :=
  awaitedPayload run expectedId line = none ∧ ¬ run.FailsClosed line

/-- The first line of those left that a wait takes for the response it waits for. -/
structure Answer (expectedId : Nat) (lines skipped : List String) (line : String) (rest : List String)
    (payload : Json) : Prop where
  lines_eq : lines = skipped ++ line :: rest
  passes : ∀ other ∈ skipped, run.Passes expectedId other
  awaited : awaitedPayload run expectedId line = some payload

/-- The first line of those left that a wait refuses. -/
structure Refusal (expectedId : Nat) (lines skipped : List String) (line : String)
    (rest : List String) : Prop where
  lines_eq : lines = skipped ++ line :: rest
  passes : ∀ other ∈ skipped, run.Passes expectedId other
  awaited : awaitedPayload run expectedId line = none
  fails : run.FailsClosed line

/-- What the lines that are read past report. -/
def passedEvents (sessionId : Option String) (skipped : List String) : List AgentEvent :=
  skipped.flatMap fun line =>
    (normalizeJsonRpcLine run.json sessionId (Text.trimEnd line)).agentEvent.toList

end AppServerRun

/-! ## Waiting for a response -/

namespace AppServerWorld

/-- Past some lines. -/
def past (world : AppServerWorld) (run : AppServerRun) (sessionId : Option String)
    (skipped rest : List String) : AppServerWorld where
  lines := rest
  events := world.events ++ run.passedEvents sessionId skipped
  steps := world.steps ++ skipped.map .read

def answer (world : AppServerWorld) (expectedId : Nat) (payload : Json) : AppServerWorld :=
  { world with steps := world.steps ++ [.answered expectedId payload] }

end AppServerWorld

/-- The world after the response to a request. -/
def answeredWorld (run : AppServerRun) (world : AppServerWorld) (expectedId : Nat)
    (skipped : List String) (line : String) (rest : List String) (payload : Json) : AppServerWorld :=
  ((world.past run none skipped (line :: rest)).take line rest).answer expectedId payload

/-- How a wait for a response ends. -/
inductive AwaitEnds (run : AppServerRun) (expectedId : Nat) (lines : List String)
    (world : AppServerWorld) : Except String Json × AppServerWorld → Prop
  | answered {skipped rest : List String} {line : String} {payload : Json}
      (hanswer : run.Answer expectedId lines skipped line rest payload)
      (herror : payload.get "error" = none) :
      AwaitEnds run expectedId lines world
        (.ok payload, answeredWorld run world expectedId skipped line rest payload)
  | rejected {skipped rest : List String} {line : String} {payload : Json} (error : String)
      (hanswer : run.Answer expectedId lines skipped line rest payload)
      (herror : (payload.get "error").isSome = true) :
      AwaitEnds run expectedId lines world
        (.error error, answeredWorld run world expectedId skipped line rest payload)
  | refused {skipped rest : List String} {line : String} (error : String)
      (hrefusal : run.Refusal expectedId lines skipped line rest) :
      AwaitEnds run expectedId lines world
        (.error error, ((world.past run none skipped (line :: rest)).take line rest).observe
          (normalizeJsonRpcLine run.json none (Text.trimEnd line)))
  | cut (error : String) (hover : ∀ other ∈ lines, run.Passes expectedId other) :
      AwaitEnds run expectedId lines world (.error error, world.past run none lines [])

theorem past_take_observe (run : AppServerRun) (sessionId : Option String) (world : AppServerWorld)
    (line : String) (skipped rest rest' : List String) :
    ((world.take line rest').observe
        (normalizeJsonRpcLine run.json sessionId (Text.trimEnd line))).past run sessionId skipped rest
      = world.past run sessionId (line :: skipped) rest := by
  simp [AppServerWorld.past, AppServerWorld.take, AppServerWorld.observe, AppServerRun.passedEvents]

theorem past_nil (run : AppServerRun) (sessionId : Option String) (world : AppServerWorld)
    (line : String) (rest : List String) :
    (world.past run sessionId [] (line :: rest)).take line rest = world.take line rest := by
  simp [AppServerWorld.past, AppServerWorld.take, AppServerRun.passedEvents]

variable {steps : List AppServerStep} {line : String} {passed rest : List String}
  {threadId turnId : String} {world : AppServerWorld} {wait : AppServerWait}

theorem AwaitEnds.cons {run : AppServerRun} {expectedId : Nat} {lines : List String}
    {result : Except String Json × AppServerWorld} (hpasses : run.Passes expectedId line)
    (h : AwaitEnds run expectedId lines ((world.take line lines).observe
      (normalizeJsonRpcLine run.json none (Text.trimEnd line))) result) :
    AwaitEnds run expectedId (line :: lines) world result := by
  have hforall : ∀ {skipped : List String}, (∀ other ∈ skipped, run.Passes expectedId other) →
      ∀ other ∈ line :: skipped, run.Passes expectedId other :=
    fun h => List.forall_mem_cons.mpr ⟨hpasses, h⟩
  cases h with
  | answered hanswer herror =>
      rw [answeredWorld, past_take_observe]
      exact .answered ⟨by rw [hanswer.lines_eq]; rfl, hforall hanswer.passes, hanswer.awaited⟩ herror
  | rejected error hanswer herror =>
      rw [answeredWorld, past_take_observe]
      exact .rejected error
        ⟨by rw [hanswer.lines_eq]; rfl, hforall hanswer.passes, hanswer.awaited⟩ herror
  | refused error hrefusal =>
      rw [past_take_observe]
      exact .refused error ⟨by rw [hrefusal.lines_eq]; rfl, hforall hrefusal.passes,
        hrefusal.awaited, hrefusal.fails⟩
  | cut error hover =>
      rw [past_take_observe]
      exact .cut error (hforall hover)

theorem world_past_nil (run : AppServerRun) (sessionId : Option String)
    (hlines : world.lines = []) : world.past run sessionId [] [] = world := by
  cases world
  simp only at hlines
  simp [AppServerWorld.past, AppServerRun.passedEvents, hlines]

theorem awaitResponseFrom_ends (run : AppServerRun) (expectedId : Nat) :
    ∀ (lines : List String) (world : AppServerWorld), world.lines = lines →
      AwaitEnds run expectedId lines world (awaitResponseFrom run expectedId lines world)
  | [], world, hlines => by
      rw [awaitResponseFrom]
      nth_rewrite 2 [← world_past_nil run none hlines]
      exact .cut _ fun _ hmem => by cases hmem
  | line :: rest, world, _ => by
      have hnil : ∀ other ∈ ([] : List String), run.Passes expectedId other := by simp
      have hanswered : ∀ payload, (world.take line rest).answer expectedId payload
          = answeredWorld run world expectedId [] line rest payload := by
        intro payload
        rw [answeredWorld, past_nil]
      cases hpayload : awaitedPayload run expectedId line with
      | some payload =>
          have hanswer : run.Answer expectedId (line :: rest) [] line rest payload :=
            ⟨rfl, hnil, hpayload⟩
          cases herror : payload.get "error" with
          | some error =>
              simp only [awaitResponseFrom, hpayload, herror]
              show AwaitEnds run expectedId (line :: rest) world
                (_, (world.take line rest).answer expectedId payload)
              rw [hanswered]
              exact .rejected _ hanswer (by rw [herror]; rfl)
          | none =>
              simp only [awaitResponseFrom, hpayload, herror]
              show AwaitEnds run expectedId (line :: rest) world
                (_, (world.take line rest).answer expectedId payload)
              rw [hanswered]
              exact .answered hanswer herror
      | none =>
          simp only [awaitResponseFrom, hpayload]
          split
          · next hfails =>
            rw [← past_nil run none world line rest]
            exact .refused _ ⟨rfl, hnil, hpayload, hfails⟩
          · next hpasses =>
            exact .cons ⟨hpayload, hpasses⟩ (awaitResponseFrom_ends run expectedId rest _ rfl)

theorem awaitAppServerResponse_ends (run : AppServerRun) (expectedId : Nat) (world : AppServerWorld) :
    AwaitEnds run expectedId world.lines world (awaitAppServerResponse run expectedId world) :=
  awaitResponseFrom_ends run expectedId world.lines world rfl

/-! ## Waiting for the end of the turn -/

namespace AppServerRun

variable (run : AppServerRun)

/-- The wait for the end of the turn goes on after the line. -/
def GoesOn (line : String) : Prop := ¬ run.CompletesTurn line ∧ ¬ run.FailsClosed line

/-- Among the lines left, the first that ends the turn completes it. -/
def TurnCompletes (lines : List String) : Prop :=
  ∃ skipped line rest, lines = skipped ++ line :: rest ∧ (∀ other ∈ skipped, run.GoesOn other)
    ∧ run.CompletesTurn line

end AppServerRun

/-- How the wait for the end of the turn ends. -/
inductive TerminalEnds (run : AppServerRun) (sessionId : String) (lines : List String)
    (world : AppServerWorld) : Except String Unit × AppServerWorld → Prop
  | completed {skipped rest : List String} {line : String} (hlines : lines = skipped ++ line :: rest)
      (hover : ∀ other ∈ skipped, run.GoesOn other) (hline : run.CompletesTurn line) :
      TerminalEnds run sessionId lines world
        (.ok (), world.past run (some sessionId) (skipped ++ [line]) rest)
  | refused {skipped rest : List String} {line : String} (error : String)
      (hlines : lines = skipped ++ line :: rest) (hover : ∀ other ∈ skipped, run.GoesOn other)
      (hline : ¬ run.CompletesTurn line) (hfails : run.FailsClosed line) :
      TerminalEnds run sessionId lines world
        (.error error, world.past run (some sessionId) (skipped ++ [line]) rest)
  | cut (error : String) (hover : ∀ other ∈ lines, run.GoesOn other) :
      TerminalEnds run sessionId lines world
        (.error error, world.past run (some sessionId) lines [])

theorem take_observe_eq_past (run : AppServerRun) (sessionId : Option String)
    (world : AppServerWorld) (line : String) (rest : List String) :
    (world.take line rest).observe (normalizeJsonRpcLine run.json sessionId (Text.trimEnd line))
      = world.past run sessionId [line] rest := by
  simp [AppServerWorld.past, AppServerWorld.take, AppServerWorld.observe, AppServerRun.passedEvents]

theorem TerminalEnds.cons {run : AppServerRun} {sessionId : String} {lines : List String}
    {result : Except String Unit × AppServerWorld} (hgoes : run.GoesOn line)
    (h : TerminalEnds run sessionId lines ((world.take line lines).observe
      (normalizeJsonRpcLine run.json (some sessionId) (Text.trimEnd line))) result) :
    TerminalEnds run sessionId (line :: lines) world result := by
  have hforall : ∀ {skipped : List String}, (∀ other ∈ skipped, run.GoesOn other) →
      ∀ other ∈ line :: skipped, run.GoesOn other :=
    fun h => List.forall_mem_cons.mpr ⟨hgoes, h⟩
  cases h with
  | @completed skipped rest last hlines hover hline =>
      rw [past_take_observe, ← List.cons_append]
      exact .completed (by rw [hlines]; rfl) (hforall hover) hline
  | @refused skipped rest last error hlines hover hline hfails =>
      rw [past_take_observe, ← List.cons_append]
      exact .refused error (by rw [hlines]; rfl) (hforall hover) hline hfails
  | cut error hover =>
      rw [past_take_observe]
      exact .cut error (hforall hover)

theorem awaitTerminalFrom_ends (run : AppServerRun) (sessionId : String) :
    ∀ (lines : List String) (world : AppServerWorld), world.lines = lines →
      TerminalEnds run sessionId lines world (awaitTerminalFrom run sessionId lines world)
  | [], world, hlines => by
      rw [awaitTerminalFrom]
      nth_rewrite 2 [← world_past_nil run (some sessionId) hlines]
      exact .cut _ fun _ hmem => by cases hmem
  | line :: rest, world, _ => by
      have hkind : (normalizeJsonRpcLine run.json (some sessionId) (Text.trimEnd line)).event
          = run.lineKind line := normalize_event_eq run.json _ _ _
      have hnil : ∀ other ∈ ([] : List String), run.GoesOn other := by simp
      simp only [awaitTerminalFrom, hkind]
      split
      · next hcompletes =>
        rw [take_observe_eq_past, ← List.nil_append [line]]
        exact .completed rfl hnil hcompletes
      · next hgoes =>
        split
        · next hfails =>
          rw [take_observe_eq_past, ← List.nil_append [line]]
          exact .refused _ rfl hnil hgoes hfails
        · next hpasses =>
          exact .cons ⟨hgoes, hpasses⟩ (awaitTerminalFrom_ends run sessionId rest _ rfl)

/-! ## The waits a run comes to -/

/-- A wait for the response to a request. -/
inductive AppServerWait where
  | opening
  | thread
  | turn (threadId : String)

def AppServerWait.expectedId : AppServerWait → Nat
  | opening => 1
  | thread => 2
  | turn _ => 3

namespace AppServerRun

variable (run : AppServerRun)

def threadMessage : AppServerMessage :=
  match visible run.resumeThreadId with
  | some threadId => .threadResume threadId
  | none => .threadStart

/-- The thread a response opens; a resumed one has to be the one asked for. -/
def openedThread (response : Json) : Option String :=
  match visible run.resumeThreadId with
  | some threadId => (responseId "thread" response).filter (· == threadId)
  | none => responseId "thread" response

end AppServerRun

/-- The steps after the response to a request. -/
def answeredSteps (steps : List AppServerStep) (expectedId : Nat) (skipped : List String)
    (line : String) (payload : Json) : List AppServerStep :=
  steps ++ skipped.map .read ++ [.read line, .answered expectedId payload]

/-- The run comes to the wait, having read past the lines `passed` and taken the steps
`steps`, with `lines` left to read. -/
inductive Awaits (run : AppServerRun) :
    AppServerWait → List String → List AppServerStep → List String → Prop
  | opening (hsent : run.send .initializeRequest = .ok ()) :
      Awaits run .opening [] [.sent .initializeRequest] run.lines
  | thread {passed lines skipped rest : List String} {steps : List AppServerStep} {line : String}
      {payload : Json} (h : Awaits run .opening passed steps lines)
      (hanswer : run.Answer 1 lines skipped line rest payload) (hok : payload.get "error" = none)
      (hinitialized : run.send .initializedNotification = .ok ())
      (hsent : run.send run.threadMessage = .ok ()) :
      Awaits run .thread (passed ++ skipped)
        (answeredSteps steps 1 skipped line payload
          ++ [.sent .initializedNotification, .sent run.threadMessage]) rest
  | turn {passed lines skipped rest : List String} {steps : List AppServerStep} {line : String}
      {payload : Json} {threadId : String} (h : Awaits run .thread passed steps lines)
      (hanswer : run.Answer 2 lines skipped line rest payload) (hok : payload.get "error" = none)
      (hthread : run.openedThread payload = some threadId)
      (hsent : run.send (.turnStart threadId) = .ok ()) :
      Awaits run (.turn threadId) (passed ++ skipped)
        (answeredSteps steps 2 skipped line payload ++ [.sent (.turnStart threadId)]) rest

/-- The run reports the turn of the thread, and waits for its end with `rest` left. -/
inductive Opens (run : AppServerRun) (threadId turnId : String) :
    List String → List AppServerStep → List String → Prop
  | intro {passed lines skipped rest : List String} {steps : List AppServerStep} {line : String}
      {payload : Json} (h : Awaits run (.turn threadId) passed steps lines)
      (hanswer : run.Answer 3 lines skipped line rest payload) (hok : payload.get "error" = none)
      (hturn : responseId "turn" payload = some turnId) :
      Opens run threadId turnId (passed ++ skipped) (answeredSteps steps 3 skipped line payload) rest

/-! ## How the protocol ends -/

def waitingWorld (run : AppServerRun) (passed : List String) (steps : List AppServerStep)
    (lines : List String) : AppServerWorld where
  lines := lines
  events := run.passedEvents none passed
  steps := steps

def sessionName (threadId turnId : String) : String := threadId ++ "-" ++ turnId

/-- The events that report a session. -/
def sessionEvents (run : AppServerRun) (threadId turnId : String) : List AgentEvent :=
  [.message appServerBackendName (some (sessionName threadId turnId))
      ("app_server_identity thread_id=" ++ threadId ++ " turn_id=" ++ turnId),
    .sessionStarted run.backend (sessionName threadId turnId)]

def openedWorld (run : AppServerRun) (threadId turnId : String) (passed : List String)
    (steps : List AppServerStep) (rest : List String) : AppServerWorld where
  lines := rest
  events := run.passedEvents none passed ++ sessionEvents run threadId turnId
  steps := steps

/-- Where a run ends. -/
inductive ProtocolEnds (run : AppServerRun) : Except String Unit × AppServerWorld → Prop
  | unsent (error : String) : ProtocolEnds run (.error error, waitingWorld run [] [] run.lines)
  | stopped {wait : AppServerWait} {passed lines : List String} {steps : List AppServerStep}
      {error : String} {after : AppServerWorld} (h : Awaits run wait passed steps lines)
      (hends : AwaitEnds run wait.expectedId lines (waitingWorld run passed steps lines)
        (.error error, after)) : ProtocolEnds run (.error error, after)
  | unopened {wait : AppServerWait} {passed lines skipped rest : List String}
      {steps : List AppServerStep} {line : String} {payload : Json} (error : String)
      (sent : List AppServerMessage) (h : Awaits run wait passed steps lines)
      (hanswer : run.Answer wait.expectedId lines skipped line rest payload)
      (hsent : ∀ message ∈ sent, ∀ threadId, message ≠ .turnStart threadId) :
      ProtocolEnds run (.error error, waitingWorld run (passed ++ skipped)
        (answeredSteps steps wait.expectedId skipped line payload ++ sent.map .sent) rest)
  | unsaved {threadId turnId : String} {passed rest : List String} {steps : List AppServerStep}
      (error : String) (h : Opens run threadId turnId passed steps rest) :
      ProtocolEnds run (.error error, openedWorld run threadId turnId passed steps rest)
  | terminal {threadId turnId : String} {passed rest : List String} {steps : List AppServerStep}
      {result : Except String Unit × AppServerWorld} (h : Opens run threadId turnId passed steps rest)
      (hends : TerminalEnds run (sessionName threadId turnId) rest
        (openedWorld run threadId turnId passed steps rest) result) : ProtocolEnds run result

section
variable {run : AppServerRun}

theorem answeredWorld_waiting (passed : List String) (steps : List AppServerStep)
    (lines skipped : List String) (line : String) (rest : List String) (expectedId : Nat)
    (payload : Json) :
    answeredWorld run (waitingWorld run passed steps lines) expectedId skipped line rest payload
      = waitingWorld run (passed ++ skipped) (answeredSteps steps expectedId skipped line payload) rest := by
  simp [answeredWorld, waitingWorld, answeredSteps, AppServerWorld.past, AppServerWorld.take,
    AppServerWorld.answer, AppServerRun.passedEvents]

theorem sendAppServerMessage_ok {message : AppServerMessage} (h : run.send message = .ok ())
    (passed : List String) (steps : List AppServerStep) (lines : List String) :
    sendAppServerMessage run message (waitingWorld run passed steps lines)
      = (.ok (), waitingWorld run passed (steps ++ [.sent message]) lines) := by
  simp [sendAppServerMessage, h, waitingWorld]

theorem sendAppServerMessage_error {message : AppServerMessage} {error : String}
    (h : run.send message = .error error) (world : AppServerWorld) :
    sendAppServerMessage run message world
      = (.error ("Codex app-server stdin write failed: " ++ error), world) := by
  simp [sendAppServerMessage, h]

/-- The thread is read off a response. -/
def readThread (run : AppServerRun) (response : Json) : AppServer String :=
  match visible run.resumeThreadId with
  | some threadId => do
      let resumed ← Program.ofExcept (Fallible.okOr (responseId "thread" response)
        ("Codex app-server thread/resume response missing thread id: " ++ run.json.compact response))
      Program.require (resumed == threadId) ("Codex app-server thread/resume returned \x60" ++ resumed
        ++ "\x60 for requested thread \x60" ++ threadId ++ "\x60")
      return resumed
  | none =>
      Program.ofExcept (Fallible.okOr (responseId "thread" response)
        ("Codex app-server thread/start response missing thread id: " ++ run.json.compact response))

theorem openThread_eq :
    openThread run = (do
      sendAppServerMessage run run.threadMessage
      let response ← awaitAppServerResponse run 2
      readThread run response) := by
  unfold openThread readThread AppServerRun.threadMessage resumeThread startThread
  cases visible run.resumeThreadId <;> rfl

theorem readThread_cases (run : AppServerRun) (response : Json) (world : AppServerWorld) :
    (∃ threadId, run.openedThread response = some threadId
        ∧ readThread run response world = (.ok threadId, world))
      ∨ (run.openedThread response = none
        ∧ ∃ error, readThread run response world = (.error error, world)) := by
  unfold readThread AppServerRun.openedThread
  cases visible run.resumeThreadId with
  | none =>
      cases hid : responseId "thread" response with
      | none => exact Or.inr ⟨rfl, _, rfl⟩
      | some threadId => exact Or.inl ⟨threadId, rfl, rfl⟩
  | some expected =>
      cases hid : responseId "thread" response with
      | none => exact Or.inr ⟨rfl, _, rfl⟩
      | some resumed =>
          cases hsame : resumed == expected with
          | true =>
              refine Or.inl ⟨resumed, ?_, ?_⟩
              · simp [hsame]
              · dsimp only [Fallible.okOr]
                rw [Program.ofExcept_ok_bind, hsame, Program.require_true_bind]
                rfl
          | false =>
              refine Or.inr ⟨?_, ?_⟩
              · simp [beq_eq_false_iff_ne.mp hsame]
              · dsimp only [Fallible.okOr]
                rw [Program.ofExcept_ok_bind, hsame, Program.require_false_bind]
                exact ⟨_, rfl⟩

/-! ## From the run to its end -/

/-- What a run does from a wait on. -/
def continueFrom (run : AppServerRun) : AppServerWait → Json → AppServer Unit
  | .opening, _ => do
      sendAppServerMessage run .initializedNotification
      let threadId ← openThread run
      let sessionId ← startTurn run threadId
      awaitAppServerTerminalEvent run sessionId
  | .thread, response => do
      let threadId ← readThread run response
      let sessionId ← startTurn run threadId
      awaitAppServerTerminalEvent run sessionId
  | .turn threadId, response => do
      let turnId ← Program.ofExcept (Fallible.okOr (responseId "turn" response)
        ("Codex app-server turn/start response missing turn id: " ++ run.json.compact response))
      pushEvents (sessionEvents run threadId turnId)
      Program.ofExcept (run.saveRecord threadId (sessionName threadId turnId))
      awaitAppServerTerminalEvent run (sessionName threadId turnId)

/-- What a wait makes of the response it waits for. -/
def answerResult (run : AppServerRun) (expectedId : Nat) (payload : Json) : Except String Json :=
  match payload.get "error" with
  | some error =>
      .error ("Codex app-server response id " ++ toString expectedId ++ " returned error: "
        ++ run.json.compact error)
  | none => .ok payload

theorem awaitResponse_of_answer {expectedId : Nat} {lines skipped rest : List String}
    {payload : Json} (h : run.Answer expectedId lines skipped line rest payload) :
    ∀ world, world.lines = lines →
      awaitAppServerResponse run expectedId world
        = (answerResult run expectedId payload,
          answeredWorld run world expectedId skipped line rest payload) := by
  have hfrom : ∀ (skipped lines : List String) (world : AppServerWorld),
      run.Answer expectedId lines skipped line rest payload →
      awaitResponseFrom run expectedId lines world
        = (answerResult run expectedId payload,
          answeredWorld run world expectedId skipped line rest payload) := by
    intro skipped
    induction skipped with
    | nil =>
        intro lines world h
        rw [h.lines_eq, List.nil_append, answeredWorld, past_nil]
        simp only [awaitResponseFrom, h.awaited, answerResult]
        cases payload.get "error" <;> rfl
    | cons other skipped ih =>
        intro lines world h
        obtain ⟨hnone, hpasses⟩ := h.passes other List.mem_cons_self
        have hopen : isTerminalOrFailClosedAppServerEvent
            (normalizeJsonRpcLine run.json none (Text.trimEnd other)).event = false :=
          Bool.eq_false_iff.mpr hpasses
        rw [h.lines_eq, List.cons_append]
        simp only [awaitResponseFrom, hnone, hopen]
        rw [if_neg Bool.false_ne_true, ih _ _ ⟨rfl, fun other hmem =>
          h.passes other (List.mem_cons_of_mem _ hmem), h.awaited⟩]
        rw [answeredWorld, answeredWorld, past_take_observe]
  intro world hlines
  rw [awaitAppServerResponse, hlines]
  exact hfrom skipped lines world h

theorem continue_of_answer {passed lines skipped rest : List String} {payload : Json}
    (hrun : appServerProtocolRun run
      = (awaitAppServerResponse run wait.expectedId >>= continueFrom run wait)
          (waitingWorld run passed steps lines))
    (hanswer : run.Answer wait.expectedId lines skipped line rest payload)
    (hok : payload.get "error" = none) :
    appServerProtocolRun run = continueFrom run wait payload (waitingWorld run (passed ++ skipped)
      (answeredSteps steps wait.expectedId skipped line payload) rest) := by
  have hresult : answerResult run wait.expectedId payload = .ok payload := by
    rw [answerResult, hok]
  have hawait := awaitResponse_of_answer hanswer (waitingWorld run passed steps lines) rfl
  rw [hresult] at hawait
  rw [hrun, Program.bind_ok hawait, answeredWorld_waiting]

theorem startTurn_bind (run : AppServerRun) (threadId : String) :
    (startTurn run threadId >>= awaitAppServerTerminalEvent run) = (do
      sendAppServerMessage run (.turnStart threadId)
      let response ← awaitAppServerResponse run 3
      continueFrom run (.turn threadId) response) := by
  unfold startTurn
  simp only [Program.bind_assoc]
  rfl

theorem Awaits.run_eq {passed lines : List String} (h : Awaits run wait passed steps lines) :
    appServerProtocolRun run
      = (awaitAppServerResponse run wait.expectedId >>= continueFrom run wait)
          (waitingWorld run passed steps lines) := by
  induction h with
  | opening hsent =>
      have hstart : appServerProtocolRun run
          = runCodexAppServerProtocol run (waitingWorld run [] [] run.lines) := rfl
      rw [hstart, runCodexAppServerProtocol, Program.bind_ok (sendAppServerMessage_ok hsent _ _ _)]
      rfl
  | thread h hanswer hok hinitialized hsent ih =>
      rw [continue_of_answer ih hanswer hok, continueFrom,
        Program.bind_ok (sendAppServerMessage_ok hinitialized _ _ _), openThread_eq,
        Program.bind_assoc, Program.bind_ok (sendAppServerMessage_ok hsent _ _ _),
        Program.bind_assoc, List.append_assoc]
      rfl
  | @turn passed lines skipped rest steps line payload threadId h hanswer hok hthread hsent ih =>
      have hread : readThread run payload (waitingWorld run (passed ++ skipped)
            (answeredSteps steps 2 skipped line payload) rest)
          = (.ok threadId, waitingWorld run (passed ++ skipped)
            (answeredSteps steps 2 skipped line payload) rest) := by
        rcases readThread_cases run payload (waitingWorld run (passed ++ skipped)
          (answeredSteps steps 2 skipped line payload) rest) with ⟨other, hother, hread⟩ | ⟨hnone, -⟩
        · rw [hthread] at hother
          cases hother
          exact hread
        · rw [hthread] at hnone
          cases hnone
      rw [continue_of_answer ih hanswer hok, continueFrom]
      refine (Program.bind_ok hread).trans ?_
      rw [startTurn_bind, Program.bind_ok (sendAppServerMessage_ok hsent _ _ _)]
      rfl

theorem Opens.run_eq (h : Opens run threadId turnId passed steps rest) :
    appServerProtocolRun run = (do
      Program.ofExcept (run.saveRecord threadId (sessionName threadId turnId))
      awaitAppServerTerminalEvent run (sessionName threadId turnId) : AppServer Unit)
        (openedWorld run threadId turnId passed steps rest) := by
  cases h with
  | @intro passed lines skipped rest steps line payload hawaits hanswer hok hturn =>
      rw [continue_of_answer hawaits.run_eq hanswer hok, continueFrom, hturn]
      rfl

theorem Opens.run_saved (h : Opens run threadId turnId passed steps rest)
    (hsave : run.saveRecord threadId (sessionName threadId turnId) = .ok ()) :
    appServerProtocolRun run = awaitTerminalFrom run (sessionName threadId turnId) rest
      (openedWorld run threadId turnId passed steps rest) := by
  rw [h.run_eq, hsave, Program.ofExcept_ok_bind]
  rfl

theorem Opens.ends (h : Opens run threadId turnId passed steps rest) :
    (∃ error, run.saveRecord threadId (sessionName threadId turnId) = .error error
        ∧ appServerProtocolRun run = (.error error, openedWorld run threadId turnId passed steps rest))
      ∨ (run.saveRecord threadId (sessionName threadId turnId) = .ok ()
        ∧ TerminalEnds run (sessionName threadId turnId) rest
          (openedWorld run threadId turnId passed steps rest) (appServerProtocolRun run)) := by
  cases hsave : run.saveRecord threadId (sessionName threadId turnId) with
  | error error =>
      have hrun := h.run_eq
      rw [hsave, Program.ofExcept_error_bind] at hrun
      exact Or.inl ⟨error, rfl, hrun⟩
  | ok u =>
      rw [h.run_saved hsave]
      exact Or.inr ⟨rfl, awaitTerminalFrom_ends run _ _ _ rfl⟩

theorem Awaits.ends {passed lines : List String} (h : Awaits run wait passed steps lines)
    (hnext : ∀ skipped line rest payload, run.Answer wait.expectedId lines skipped line rest payload →
      payload.get "error" = none → ProtocolEnds run (appServerProtocolRun run)) :
    ProtocolEnds run (appServerProtocolRun run) := by
  have hends := awaitAppServerResponse_ends run wait.expectedId (waitingWorld run passed steps lines)
  cases hresult : awaitAppServerResponse run wait.expectedId (waitingWorld run passed steps lines) with
  | mk result after =>
      rw [hresult] at hends
      cases result with
      | error error =>
          rw [h.run_eq, Program.bind_error hresult]
          exact .stopped h hends
      | ok payload =>
          cases hends with
          | answered hanswer herror => exact hnext _ _ _ _ hanswer herror

theorem protocol_ends (run : AppServerRun) : ProtocolEnds run (appServerProtocolRun run) := by
  cases hinitialize : run.send .initializeRequest with
  | error error =>
      have hrun : appServerProtocolRun run = (.error ("Codex app-server stdin write failed: " ++ error),
          waitingWorld run [] [] run.lines) := by
        show runCodexAppServerProtocol run (waitingWorld run [] [] run.lines) = _
        rw [runCodexAppServerProtocol, Program.bind_error (sendAppServerMessage_error hinitialize _)]
      rw [hrun]
      exact .unsent _
  | ok u =>
      have hopening := Awaits.opening hinitialize
      refine hopening.ends fun skipped line rest payload hanswer hok => ?_
      have hrun := continue_of_answer hopening.run_eq hanswer hok
      cases hinitialized : run.send .initializedNotification with
      | error error =>
          rw [hrun, continueFrom, Program.bind_error (sendAppServerMessage_error hinitialized _),
            ← List.append_nil (answeredSteps _ _ _ _ _)]
          exact .unopened _ [] hopening hanswer (by simp)
      | ok u =>
      cases hthread : run.send run.threadMessage with
      | error error =>
          rw [hrun, continueFrom, Program.bind_ok (sendAppServerMessage_ok hinitialized _ _ _),
            openThread_eq, Program.bind_assoc,
            Program.bind_error (sendAppServerMessage_error hthread _)]
          exact .unopened _ [.initializedNotification] hopening hanswer (by simp)
      | ok u =>
      have hthreadWait := Awaits.thread hopening hanswer hok hinitialized hthread
      refine hthreadWait.ends fun skipped line rest payload hanswer hok => ?_
      have hrun := continue_of_answer hthreadWait.run_eq hanswer hok
      rcases readThread_cases run payload _ with ⟨threadId, hopened, hread⟩ | ⟨-, error, hread⟩
      · cases hturn : run.send (.turnStart threadId) with
        | error error =>
            rw [hrun, continueFrom, Program.bind_ok hread, startTurn_bind,
              Program.bind_error (sendAppServerMessage_error hturn _),
              ← List.append_nil (answeredSteps _ _ _ _ _)]
            exact .unopened _ [] hthreadWait hanswer (by simp)
        | ok u =>
            have hturnWait := Awaits.turn hthreadWait hanswer hok hopened hturn
            refine hturnWait.ends fun skipped line rest payload hanswer hok => ?_
            have hrun := continue_of_answer hturnWait.run_eq hanswer hok
            cases hid : responseId "turn" payload with
            | none =>
                rw [hrun, continueFrom, hid, ← List.append_nil (answeredSteps _ _ _ _ _)]
                exact .unopened _ [] hturnWait hanswer (by simp)
            | some turnId =>
                have hopens := Opens.intro hturnWait hanswer hok hid
                rcases hopens.ends with ⟨error, -, hrun⟩ | ⟨-, hends⟩
                · rw [hrun]
                  exact .unsaved error hopens
                · exact .terminal hopens hends
      · rw [hrun, continueFrom, Program.bind_error hread, ← List.append_nil (answeredSteps _ _ _ _ _)]
        exact .unopened _ [] hthreadWait hanswer (by simp)

end

end SheaSymphony.Agent

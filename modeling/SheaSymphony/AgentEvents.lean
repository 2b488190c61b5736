import SheaSymphony.ReviewEvidence
import SheaSymphony.SessionRegistry

/-!
# Events of an agent run

What a backend run reports (`AgentEvent` of `model.rs`) and what is made of the report:
the summary of `agent.rs`, the pause of a usage limit and the status a session is left
with. A panic is a missing value.
-/

namespace SheaSymphony.Agent

open Review (UsageLimitPause firstUsageLimitPause)
open Sessions (SessionStatus)

inductive AgentEvent where
  | sessionStarted (backend sessionId : String)
  | message (backend : String) (sessionId : Option String) (text : String)
  | tokenUsage (backend : String) (inputTokens outputTokens totalTokens : Nat)
  | completed (backend : String) (sessionId : Option String) (summary : String)
  | failed (backend error : String)
deriving DecidableEq

namespace AgentEvent

def startedSession : AgentEvent → Option String
  | sessionStarted _ sessionId => some sessionId
  | _ => none

def failure : AgentEvent → Option String
  | failed _ error => some error
  | _ => none

def completion : AgentEvent → Option String
  | completed _ _ summary => some summary
  | _ => none

end AgentEvent

/-! ## The process -/

/-- How a process has ended; one that a signal has ended has no code. -/
inductive ExitStatus where
  | code (value : Int)
  | terminated
deriving DecidableEq

namespace ExitStatus

def success : ExitStatus → Bool
  | code value => value == 0
  | terminated => false

def display : ExitStatus → String
  | code value => toString value
  | terminated => "terminated"

end ExitStatus

def displayExitStatus (status : Option ExitStatus) : String :=
  (status.map ExitStatus.display).getD "unknown"

/-! ## The summary -/

structure AgentSummary where
  backend : String
  success : Bool
  pendingSession : Bool
  sessionId : Option String
  message : String
  logPath : Option String
  attachCommand : Option String
deriving DecidableEq

/-- The first token of a message that starts with the prefix, without it. -/
def messageField (events : List AgentEvent) (pattern : String) : Option String :=
  events.findSome? fun event =>
    match event with
    | .message _ _ text =>
        (Text.splitWhitespace text).findSome? fun part => Text.stripPrefix part pattern
    | _ => none

def summarizeEvents (backend : String) (events : List AgentEvent) : AgentSummary :=
  let failure := events.findSome? AgentEvent.failure
  let completed := events.findSome? AgentEvent.completion
  { backend
    success := failure.isNone && completed.isSome
    pendingSession := false
    sessionId := events.findSome? AgentEvent.startedSession
    message := (failure <|> completed).getD "no terminal event"
    logPath := messageField events "normalized_events_artifact=" <|> messageField events "log_path="
    attachCommand := none }

def usageLimitPauseFromEvents (events : List AgentEvent) : Option (Option UsageLimitPause) :=
  firstUsageLimitPause (events.filterMap AgentEvent.failure)

/-! ## What is among the events -/

def Fails (events : List AgentEvent) : Prop := ∃ backend error, .failed backend error ∈ events

def Completes (events : List AgentEvent) : Prop :=
  ∃ backend sessionId summary, .completed backend sessionId summary ∈ events

section
variable {events more : List AgentEvent}

theorem fails_append : Fails (events ++ more) ↔ Fails events ∨ Fails more := by
  simp only [Fails, List.mem_append, exists_or]

theorem completes_append : Completes (events ++ more) ↔ Completes events ∨ Completes more := by
  simp only [Completes, List.mem_append, exists_or]

@[simp] theorem not_fails_nil : ¬ Fails [] := by simp [Fails]

@[simp] theorem not_completes_nil : ¬ Completes [] := by simp [Completes]

theorem any_failure_iff : (events.any fun event => event.failure.isSome) = true ↔ Fails events := by
  rw [List.any_eq_true]
  constructor
  · rintro ⟨event, hmem, hsome⟩
    cases event with
    | failed backend error => exact ⟨backend, error, hmem⟩
    | sessionStarted | message | tokenUsage | completed => cases hsome
  · rintro ⟨backend, error, hmem⟩
    exact ⟨_, hmem, rfl⟩

theorem any_completion_iff :
    (events.any fun event => event.completion.isSome) = true ↔ Completes events := by
  rw [List.any_eq_true]
  constructor
  · rintro ⟨event, hmem, hsome⟩
    cases event with
    | completed backend sessionId summary => exact ⟨backend, sessionId, summary, hmem⟩
    | sessionStarted | message | tokenUsage | failed => cases hsome
  · rintro ⟨backend, sessionId, summary, hmem⟩
    exact ⟨_, hmem, rfl⟩

theorem summarizeEvents_success_iff {backend : String} :
    (summarizeEvents backend events).success = true ↔ Completes events ∧ ¬ Fails events := by
  rw [← any_failure_iff, ← any_completion_iff, ← List.isSome_findSome?, ← List.isSome_findSome?,
    and_comm]
  simp [summarizeEvents, Option.isNone_iff_eq_none]

/-! ## Plain events -/

/-- An event that neither starts nor ends anything. -/
def Plain (event : AgentEvent) : Prop :=
  event.startedSession = none ∧ event.failure = none ∧ event.completion = none

theorem plain_message {backend : String} {sessionId : Option String} {text : String} :
    Plain (.message backend sessionId text) := ⟨rfl, rfl, rfl⟩

theorem countP_eq_zero_of_plain {p : AgentEvent → Bool} (h : ∀ event ∈ events, p event = false) :
    events.countP p = 0 := by
  rw [List.countP_eq_zero]
  intro event hmem htrue
  rw [h event hmem] at htrue
  cases htrue

theorem not_completes_of_plain (h : ∀ event ∈ events, Plain event) : ¬ Completes events := by
  rintro ⟨backend, sessionId, summary, hmem⟩
  obtain ⟨-, -, hnone⟩ := h _ hmem
  cases hnone

theorem not_fails_of_plain (h : ∀ event ∈ events, Plain event) : ¬ Fails events := by
  rintro ⟨backend, error, hmem⟩
  obtain ⟨-, hnone, -⟩ := h _ hmem
  cases hnone

end

end SheaSymphony.Agent

import SheaSymphony.AppServerRuns
import SheaSymphony.Traces

/-!
# Requests of the app-server

The server numbers its own requests, so one of them may carry the id a wait is for. A
wait looks at the id alone: a request is taken for the response exactly where the first
line with the awaited id carries a method (`requestsFailClosed_iff`). Where none does,
every request that is read ends the run with a failure.
-/

namespace SheaSymphony.Agent

open Interrupted (Program Triple)
open Traces (Everywhere)

namespace AppServerRun

variable (run : AppServerRun)

/-- A request for an approval or an input, or one that is not supported. -/
def IsRequest (line : String) : Prop :=
  run.lineKind line = .turnInputRequired ∨ run.lineKind line = .unsupportedRequest

/-- The responses to `initialize` and to the request for a thread are there. -/
def ThreadOpened (earlier : List AppServerStep) : Prop :=
  ∃ first message second,
    [.sent .initializeRequest, .answered 1 first, .sent message, .answered 2 second].Sublist earlier
      ∧ stringField first "method" = none ∧ stringField second "method" = none
      ∧ (message = .threadStart ∨ ∃ threadId, message = .threadResume threadId)

/-- A turn is started only once a thread is opened. -/
def TurnAfterThread (earlier : List AppServerStep) (step : AppServerStep) : Prop :=
  ∀ threadId, step = .sent (.turnStart threadId) → ThreadOpened earlier

def steps : List AppServerStep := (appServerProtocolRun run).2.steps

/-- Requests are never taken for responses. -/
structure RequestsFailClosed : Prop where
  genuine : ∀ expectedId payload, .answered expectedId payload ∈ run.steps →
    stringField payload "method" = none
  refused : ∀ line, .read line ∈ run.steps → run.IsRequest line → Fails (appServerRunEvents run)
  started : Everywhere TurnAfterThread run.steps

/-- At every wait the run comes to, the first line with the awaited id has no method. -/
def AnswersAreGenuine : Prop :=
  ∀ wait passed steps lines skipped line rest payload, Awaits run wait passed steps lines →
    run.Answer wait.expectedId lines skipped line rest payload → stringField payload "method" = none

end AppServerRun

variable {steps : List AppServerStep} {line : String} {expectedId : Nat} {payload : Json}
  {passed lines : List String} {wait : AppServerWait}

section
variable {run : AppServerRun}

/-! ## Steps that are in order -/

/-- A step that takes no request for a response and reads none. -/
def Orderly (run : AppServerRun) : AppServerStep → Prop
  | .sent _ => True
  | .read line => ¬ run.IsRequest line
  | .answered _ payload => stringField payload "method" = none

theorem not_isRequest_of_passes (h : run.Passes expectedId line) : ¬ run.IsRequest line := by
  rintro (hkind | hkind) <;>
  · refine h.2 ?_
    rw [AppServerRun.FailsClosed, hkind]
    rfl

theorem not_isRequest_of_goesOn (h : run.GoesOn line) : ¬ run.IsRequest line := by
  rintro (hkind | hkind) <;>
  · refine h.2 ?_
    rw [AppServerRun.FailsClosed, hkind]
    rfl

theorem not_isRequest_of_completesTurn (h : run.CompletesTurn line) :
    ¬ run.IsRequest line := by
  intro hrequest
  rw [AppServerRun.IsRequest, show run.lineKind line = _ from h] at hrequest
  rcases hrequest with hkind | hkind <;> cases hkind

theorem not_isRequest_of_answer (h : awaitedPayload run expectedId line = some payload)
    (hmethod : stringField payload "method" = none) : ¬ run.IsRequest line := by
  obtain ⟨hparse, -⟩ := Option.filter_eq_some_iff.mp h
  have hread : run.json.parse (Text.trim line) = .ok payload := by
    cases hresult : run.json.parse (Text.trim line) with
    | error error =>
        rw [hresult] at hparse
        cases hparse
    | ok value =>
        rw [hresult] at hparse
        rw [Option.some.inj hparse]
  have hkind : run.lineKind line = .malformed ∨ run.lineKind line = .otherMessage := by
    unfold AppServerRun.lineKind normalizeJsonRpcLine
    rw [Text.trim_trimEnd]
    dsimp only
    rw [hread]
    split
    · exact Or.inl rfl
    · dsimp only
      rw [hmethod]
      exact Or.inr rfl
  rintro (hrequest | hrequest) <;> rcases hkind with hkind | hkind <;>
  · rw [hkind] at hrequest
    cases hrequest

theorem orderly_map_read {lines : List String} (h : ∀ line ∈ lines, ¬ run.IsRequest line) :
    ∀ step ∈ lines.map AppServerStep.read, Orderly run step := by
  intro step hstep
  obtain ⟨line, hline, rfl⟩ := List.mem_map.mp hstep
  exact h line hline

theorem orderly_append {steps more : List AppServerStep} (h : ∀ step ∈ steps, Orderly run step)
    (hmore : ∀ step ∈ more, Orderly run step) : ∀ step ∈ steps ++ more, Orderly run step :=
  List.forall_mem_append.mpr ⟨h, hmore⟩

theorem orderly_sent {messages : List AppServerMessage} :
    ∀ step ∈ messages.map AppServerStep.sent, Orderly run step := by
  intro step hstep
  obtain ⟨message, -, rfl⟩ := List.mem_map.mp hstep
  trivial

theorem orderly_answered {lines skipped rest : List String} (h : ∀ step ∈ steps, Orderly run step)
    (hanswer : run.Answer expectedId lines skipped line rest payload)
    (hmethod : stringField payload "method" = none) :
    ∀ step ∈ answeredSteps steps expectedId skipped line payload, Orderly run step := by
  refine orderly_append (orderly_append h (orderly_map_read fun other hother =>
    not_isRequest_of_passes (hanswer.passes other hother))) ?_
  exact List.forall_mem_cons.mpr ⟨not_isRequest_of_answer hanswer.awaited hmethod,
    List.forall_mem_singleton.mpr hmethod⟩

section
variable (hgenuine : run.AnswersAreGenuine)
include hgenuine

theorem Awaits.orderly (h : Awaits run wait passed steps lines) :
    ∀ step ∈ steps, Orderly run step := by
  induction h with
  | opening hsent => exact List.forall_mem_singleton.mpr trivial
  | thread h hanswer hok hinitialized hsent ih =>
      exact orderly_append (orderly_answered ih hanswer (hgenuine _ _ _ _ _ _ _ _ h hanswer))
        (List.forall_mem_cons.mpr ⟨trivial, List.forall_mem_singleton.mpr trivial⟩)
  | turn h hanswer hok hthread hsent ih =>
      exact orderly_append (orderly_answered ih hanswer (hgenuine _ _ _ _ _ _ _ _ h hanswer))
        (List.forall_mem_singleton.mpr trivial)

theorem Opens.orderly {threadId turnId : String} {passed rest : List String}
    (h : Opens run threadId turnId passed steps rest) :
    ∀ step ∈ steps, Orderly run step := by
  cases h with
  | intro h hanswer hok hturn =>
      exact orderly_answered (h.orderly hgenuine) hanswer (hgenuine _ _ _ _ _ _ _ _ h hanswer)

theorem protocol_orderly :
    (∀ step ∈ run.steps, Orderly run step)
      ∨ (∃ error, (appServerProtocolRun run).1 = .error error)
        ∧ ∃ front line, run.steps = front ++ [.read line] ∧ ∀ step ∈ front, Orderly run step := by
  have hends := protocol_ends run
  unfold AppServerRun.steps
  generalize appServerProtocolRun run = result at hends
  cases hends with
  | unsent error => exact Or.inl fun step hstep => by cases hstep
  | stopped h hends =>
      have hsteps := h.orderly hgenuine
      generalize hresult : (Except.error _, _) = result at hends
      cases hends with
      | answered hanswer herror => cases hresult
      | rejected error hanswer herror =>
          cases hresult
          left
          rw [answeredWorld_waiting]
          exact orderly_answered hsteps hanswer (hgenuine _ _ _ _ _ _ _ _ h hanswer)
      | refused error hrefusal =>
          cases hresult
          refine Or.inr ⟨⟨_, rfl⟩, _, _, rfl, ?_⟩
          exact orderly_append hsteps (orderly_map_read fun other hother =>
            not_isRequest_of_passes (hrefusal.passes other hother))
      | cut error hover =>
          cases hresult
          exact Or.inl (orderly_append hsteps (orderly_map_read fun other hother =>
            not_isRequest_of_passes (hover other hother)))
  | unopened error sent h hanswer hsent =>
      exact Or.inl (orderly_append
        (orderly_answered (h.orderly hgenuine) hanswer (hgenuine _ _ _ _ _ _ _ _ h hanswer))
        orderly_sent)
  | unsaved error h => exact Or.inl (h.orderly hgenuine)
  | terminal h hends =>
      have hsteps := h.orderly hgenuine
      cases hends with
      | completed hlines hover hline =>
          refine Or.inl (orderly_append hsteps (orderly_map_read ?_))
          exact List.forall_mem_append.mpr ⟨fun other hother => not_isRequest_of_goesOn (hover other hother),
            List.forall_mem_singleton.mpr (not_isRequest_of_completesTurn hline)⟩
      | @refused skipped rest line error hlines hover hline hfails =>
          refine Or.inr ⟨⟨_, rfl⟩, _ ++ skipped.map .read, line, ?_, orderly_append hsteps
            (orderly_map_read fun other hother => not_isRequest_of_goesOn (hover other hother))⟩
          simp [AppServerWorld.past, openedWorld]
      | cut error hover =>
          exact Or.inl (orderly_append hsteps (orderly_map_read fun other hother =>
            not_isRequest_of_goesOn (hover other hother)))

/-! ## The order of the steps -/

omit hgenuine in
theorem everywhere_of_not_turn {steps more : List AppServerStep}
    (h : Everywhere AppServerRun.TurnAfterThread steps)
    (hmore : ∀ step ∈ more, ∀ threadId, step ≠ .sent (.turnStart threadId)) :
    Everywhere AppServerRun.TurnAfterThread (steps ++ more) :=
  h.append fun step hstep _ threadId heq => absurd heq (hmore step hstep threadId)

omit hgenuine in
theorem everywhere_answered {skipped : List String}
    (h : Everywhere AppServerRun.TurnAfterThread steps) :
    Everywhere AppServerRun.TurnAfterThread (answeredSteps steps expectedId skipped line payload) := by
  rw [answeredSteps, List.append_assoc]
  refine everywhere_of_not_turn h fun step hstep threadId heq => ?_
  subst heq
  simp at hstep

omit hgenuine in
theorem sublist_answered {front steps : List AppServerStep} (h : front.Sublist steps)
    (expectedId : Nat) (skipped : List String) (line : String) (payload : Json) :
    (front ++ [AppServerStep.answered expectedId payload]).Sublist
      (answeredSteps steps expectedId skipped line payload) := by
  have hanswered : [AppServerStep.answered expectedId payload].Sublist
      [AppServerStep.read line, AppServerStep.answered expectedId payload] :=
    List.sublist_append_right [AppServerStep.read line] _
  rw [answeredSteps, List.append_assoc]
  exact h.append (hanswered.trans (List.sublist_append_right _ _))

omit hgenuine in
theorem threadMessage_cases (run : AppServerRun) :
    run.threadMessage = .threadStart ∨ ∃ threadId, run.threadMessage = .threadResume threadId := by
  unfold AppServerRun.threadMessage
  cases visible run.resumeThreadId with
  | none => exact Or.inl rfl
  | some threadId => exact Or.inr ⟨threadId, rfl⟩

/-- Before the wait for a thread, `initialize` has been answered. -/
theorem Awaits.thread_requested (h : Awaits run .thread passed steps lines) :
    ∃ first, [.sent .initializeRequest, .answered 1 first, .sent run.threadMessage].Sublist steps
      ∧ stringField first "method" = none := by
  cases h with
  | @thread _ lines skipped _ steps line payload h hanswer hok hinitialized hsent =>
      refine ⟨payload, ?_, hgenuine _ _ _ _ _ _ _ _ h hanswer⟩
      cases h with
      | opening =>
          have hfront := sublist_answered
            (List.Sublist.refl [AppServerStep.sent .initializeRequest]) 1 skipped line payload
          exact hfront.append
            (List.sublist_append_right [AppServerStep.sent .initializedNotification] _)

theorem Awaits.everywhere (h : Awaits run wait passed steps lines) :
    Everywhere AppServerRun.TurnAfterThread steps := by
  induction h with
  | opening hsent =>
      have hnil : Everywhere AppServerRun.TurnAfterThread [] := Traces.everywhere_nil
      exact everywhere_of_not_turn hnil (by simp)
  | thread h hanswer hok hinitialized hsent ih =>
      refine everywhere_of_not_turn (everywhere_answered ih) fun step hstep threadId heq => ?_
      subst heq
      rcases threadMessage_cases run with hmessage | ⟨_, hmessage⟩ <;>
        simp [hmessage] at hstep
  | @turn _ _ _ _ _ _ payload threadId h hanswer hok hthread hsent ih =>
      refine Traces.everywhere_concat.mpr ⟨everywhere_answered ih, fun _ _ => ?_⟩
      obtain ⟨first, hsublist, hfirst⟩ := h.thread_requested hgenuine
      refine ⟨first, run.threadMessage, payload, ?_, hfirst, hgenuine _ _ _ _ _ _ _ _ h hanswer,
        threadMessage_cases run⟩
      exact sublist_answered hsublist 2 _ _ payload

theorem Opens.everywhere {threadId turnId : String} {passed rest : List String}
    (h : Opens run threadId turnId passed steps rest) :
    Everywhere AppServerRun.TurnAfterThread steps := by
  cases h with
  | intro h hanswer hok hturn => exact everywhere_answered (h.everywhere hgenuine)

theorem protocol_everywhere : Everywhere AppServerRun.TurnAfterThread run.steps := by
  have hends := protocol_ends run
  unfold AppServerRun.steps
  generalize appServerProtocolRun run = result at hends
  have hread : ∀ (lines : List String), ∀ step ∈ lines.map AppServerStep.read,
      ∀ threadId, step ≠ .sent (.turnStart threadId) := by
    intro lines step hstep threadId heq
    obtain ⟨line, -, rfl⟩ := List.mem_map.mp hstep
    cases heq
  cases hends with
  | unsent error => exact Traces.everywhere_nil
  | stopped h hends =>
      have hsteps := h.everywhere hgenuine
      generalize hresult : (Except.error _, _) = result at hends
      cases hends with
      | answered hanswer herror => cases hresult
      | rejected error hanswer herror =>
          cases hresult
          rw [answeredWorld_waiting]
          exact everywhere_answered hsteps
      | refused error hrefusal =>
          cases hresult
          refine everywhere_of_not_turn (everywhere_of_not_turn hsteps (hread _)) ?_
          exact hread [_]
      | cut error hover =>
          cases hresult
          exact everywhere_of_not_turn hsteps (hread _)
  | unopened error sent h hanswer hsent =>
      refine everywhere_of_not_turn (everywhere_answered (h.everywhere hgenuine)) ?_
      intro step hstep threadId heq
      obtain ⟨message, hmem, rfl⟩ := List.mem_map.mp hstep
      exact hsent message hmem threadId (AppServerStep.sent.inj heq)
  | unsaved error h => exact h.everywhere hgenuine
  | terminal h hends =>
      have hsteps := h.everywhere hgenuine
      cases hends <;> exact everywhere_of_not_turn hsteps (hread _)

end

/-! ## Steps stay taken -/

section
variable (step : AppServerStep)

/-- The program leaves the step among those taken. -/
def Leaves {α : Type} (program : AppServer α) : Prop :=
  Triple (fun world => step ∈ world.steps) program (fun _ world => step ∈ world.steps)
    fun world => step ∈ world.steps

variable {step} in
theorem mem_of_leaves {α : Type} {program : AppServer α} (h : Leaves step program)
    {world : AppServerWorld} (hmem : step ∈ world.steps) : step ∈ (program world).2.steps := by
  have hrun := h.run hmem
  revert hrun
  cases program world with
  | mk result after => cases result <;> exact id

theorem leaves_send (message : AppServerMessage) : Leaves step (sendAppServerMessage run message) := by
  refine Triple.of_run fun world hmem => ?_
  rw [sendAppServerMessage]
  cases run.send message with
  | error error => exact hmem
  | ok u => exact List.mem_append_left _ hmem

theorem leaves_await (expectedId : Nat) : Leaves step (awaitAppServerResponse run expectedId) := by
  refine Triple.of_run fun world hmem => ?_
  have hends := awaitAppServerResponse_ends run expectedId world
  generalize awaitAppServerResponse run expectedId world = result at hends
  cases hends <;> simp [answeredWorld, AppServerWorld.past, AppServerWorld.take,
    AppServerWorld.answer, AppServerWorld.observe, hmem]

theorem leaves_terminal (sessionId : String) :
    Leaves step (awaitAppServerTerminalEvent run sessionId) := by
  refine Triple.of_run fun world hmem => ?_
  have hends : TerminalEnds run sessionId world.lines world
      (awaitAppServerTerminalEvent run sessionId world) := awaitTerminalFrom_ends run sessionId _ world rfl
  generalize awaitAppServerTerminalEvent run sessionId world = result at hends
  cases hends <;> exact List.mem_append_left _ hmem

theorem leaves_ofExcept {α : Type} (result : Except String α) :
    Leaves step (Program.ofExcept result) :=
  Triple.ofExcept (fun _ _ _ hmem => hmem) fun _ hmem => hmem

theorem leaves_require (condition : Bool) (error : String) :
    Leaves step (Program.require condition error) :=
  Triple.require (fun _ _ hmem => hmem) fun _ hmem => hmem

theorem leaves_readThread (response : Json) : Leaves step (readThread run response) := by
  unfold readThread
  split
  · refine (leaves_ofExcept step _).bind fun resumed => ?_
    exact (leaves_require step _ _).bind fun _ => Triple.pure fun _ hmem => hmem
  · exact leaves_ofExcept step _

theorem leaves_pushEvents (events : List AgentEvent) : Leaves step (pushEvents events) :=
  Triple.of_run fun _ hmem => hmem

theorem leaves_continueFrom (run : AppServerRun) (wait : AppServerWait) (response : Json) :
    Leaves step (continueFrom run wait response) := by
  have hturn : ∀ threadId response, Leaves step (continueFrom run (.turn threadId) response) :=
    fun threadId response => (leaves_ofExcept step _).bind fun turnId =>
      (leaves_pushEvents step _).bind fun _ => (leaves_ofExcept step _).bind fun _ =>
        leaves_terminal step _
  have hthread : ∀ response, Leaves step (continueFrom run .thread response) := by
    intro response
    refine (leaves_readThread step response).bind fun threadId => ?_
    rw [startTurn_bind]
    exact (leaves_send step _).bind fun _ => (leaves_await step 3).bind fun response =>
      hturn threadId response
  cases wait with
  | opening =>
      rw [continueFrom, openThread_eq]
      simp only [Program.bind_assoc]
      exact (leaves_send step _).bind fun _ => (leaves_send step _).bind fun _ =>
        (leaves_await step 2).bind fun response => hthread response
  | thread => exact hthread response
  | turn threadId => exact hturn threadId response

end

theorem answered_mem_steps {passed lines skipped rest : List String}
    (h : Awaits run wait passed steps lines)
    (hanswer : run.Answer wait.expectedId lines skipped line rest payload) :
    .answered wait.expectedId payload ∈ run.steps := by
  have hmem : AppServerStep.answered wait.expectedId payload
      ∈ answeredSteps steps wait.expectedId skipped line payload := by
    rw [answeredSteps]
    exact List.mem_append_right _ (List.mem_cons_of_mem _ List.mem_cons_self)
  have hawait := awaitResponse_of_answer hanswer (waitingWorld run passed steps lines) rfl
  rw [answeredWorld_waiting] at hawait
  rw [AppServerRun.steps, h.run_eq]
  cases hresult : answerResult run wait.expectedId payload with
  | error error =>
      rw [hresult] at hawait
      rw [Program.bind_error hawait]
      exact hmem
  | ok response =>
      rw [hresult] at hawait
      rw [Program.bind_ok hawait]
      exact mem_of_leaves (leaves_continueFrom _ run wait response) hmem

/-! ## When requests fail closed -/

theorem fails_of_error {error : String} (h : (appServerProtocolRun run).1 = .error error) :
    Fails (appServerRunEvents run) := by
  have hfinished : Fails (finishedAppServerEvents run) := by
    rw [← any_failure_iff]
    unfold finishedAppServerEvents
    simp [h, AgentEvent.failure]
  exact fails_append.mpr (Or.inl hfinished)

theorem refused_of_genuine (hgenuine : run.AnswersAreGenuine) (line : String)
    (hread : .read line ∈ run.steps) (hrequest : run.IsRequest line) :
    Fails (appServerRunEvents run) := by
  rcases protocol_orderly hgenuine with horderly | ⟨⟨error, herror⟩, -⟩
  · exact absurd hrequest (horderly _ hread)
  · exact fails_of_error herror

theorem answered_of_genuine (hgenuine : run.AnswersAreGenuine) (expectedId : Nat) (payload : Json)
    (hmem : .answered expectedId payload ∈ run.steps) : stringField payload "method" = none := by
  rcases protocol_orderly hgenuine with horderly | ⟨-, front, line, hsteps, horderly⟩
  · exact horderly _ hmem
  · rw [hsteps] at hmem
    rcases List.mem_append.mp hmem with hmem | hmem
    · exact horderly _ hmem
    · cases List.mem_singleton.mp hmem

/-- Requests are never taken for responses exactly where, at every wait the run comes to,
the first line with the awaited id carries no method. -/
theorem requestsFailClosed_iff (run : AppServerRun) :
    run.RequestsFailClosed ↔ run.AnswersAreGenuine := by
  constructor
  · intro h wait passed steps lines skipped line rest payload hawaits hanswer
    exact h.genuine _ _ (answered_mem_steps hawaits hanswer)
  · intro hgenuine
    exact ⟨answered_of_genuine hgenuine, refused_of_genuine hgenuine, protocol_everywhere hgenuine⟩

end

/-! ## A request with the id of a response -/

def approvalLine : String := "\x7b\"id\":1,\"method\":\"execCommandApproval\"\x7d"

def approvalRequest : Json := .obj [("id", .int 1), ("method", .str "execCommandApproval")]

def initializedLine : String := "\x7b\"id\":1,\"result\":\x7b\x7d\x7d"

def threadLine : String := "\x7b\"id\":2,\"result\":\x7b\"thread\":\x7b\"id\":\"t1\"\x7d\x7d\x7d"

def turnLine : String := "\x7b\"id\":3,\"result\":\x7b\"turn\":\x7b\"id\":\"u1\"\x7d\x7d\x7d"

def turnCompletedLine : String := "\x7b\"method\":\"turn/completed\"\x7d"

def appServerDocuments : List (String × Json) :=
  [(approvalLine, approvalRequest),
    (initializedLine, .obj [("id", .int 1), ("result", .obj [])]),
    (threadLine, .obj [("id", .int 2), ("result", .obj [("thread", .obj [("id", .str "t1")])])]),
    (turnLine, .obj [("id", .int 3), ("result", .obj [("turn", .obj [("id", .str "u1")])])]),
    (turnCompletedLine, .obj [("method", .str "turn/completed")])]

def documentKey (payload : Json) : Option Nat × Option String :=
  ((payload.get "id").bind Json.asU64, stringField payload "method")

def sampleAppServerRun (lines : List String) (exitStatus : ExitStatus) : AppServerRun where
  backend := "codex-app-server"
  json :=
    { parse := fun text =>
        Fallible.okOr (appServerDocuments.lookup text) "expected value at line 1 column 1"
      compact := fun payload =>
        ((appServerDocuments.find? fun document =>
          documentKey document.2 == documentKey payload).map Prod.fst).getD "" }
  resumeThreadId := none
  send _ := .ok ()
  saveRecord _ _ := .ok ()
  lines := lines
  cut := .exited
  exitStatus := exitStatus
  stderr := ""
  artifacts := "codex_app_server_artifacts exit_status=0"

def approvalRun : AppServerRun :=
  sampleAppServerRun [approvalLine, threadLine, turnLine, turnCompletedLine] (.code 0)

/-- An approval with the id of the first request is taken for the response to it, and the
run succeeds. -/
theorem approval_taken_for_response :
    ¬ approvalRun.RequestsFailClosed
      ∧ (summarizeEvents "codex-app-server" (appServerRunEvents approvalRun)).success = true := by
  refine ⟨fun h => ?_, by decide +kernel⟩
  have hanswer : approvalRun.Answer 1 approvalRun.lines [] approvalLine
      [threadLine, turnLine, turnCompletedLine] approvalRequest :=
    ⟨rfl, by simp, by rfl⟩
  have hopening : Awaits approvalRun .opening [] [.sent .initializeRequest] approvalRun.lines :=
    .opening rfl
  have hmethod := h.genuine 1 approvalRequest (answered_mem_steps hopening hanswer)
  have hsome : stringField approvalRequest "method" = some "execCommandApproval" := by decide +kernel
  rw [hsome] at hmethod
  cases hmethod

end SheaSymphony.Agent

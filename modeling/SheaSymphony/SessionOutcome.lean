import SheaSymphony.AppServerRequests

/-!
# The status a session is left with

Both run loops write a status for the session they have recorded. The one of Claude is
made of the same events as the summary (`claude_registryAgrees`). The one of the
app-server takes any completion for success, a failure beside it or not: it agrees with
the summary exactly where the condition `Settles` holds of the lines and the exit status.
-/

namespace SheaSymphony.Agent

open Sessions (SessionStatus)

/-- What is written to the registry is a completion exactly where the run succeeded. -/
def RegistryAgrees (registry : Option (String × Option SessionStatus)) (summary : AgentSummary) :
    Prop :=
  ∀ sessionId status, registry = some (sessionId, status) →
    (status = some .completed ↔ summary.success = true)

variable {sessionId : Option String} {steps : List AppServerStep} {threadId turnId : String}
  {lines : List String}

section
variable {events more : List AgentEvent}

theorem usageStatus_ne_completed :
    ((usageLimitPauseFromEvents events).map fun pause =>
      if pause.isSome then SessionStatus.usageLimited else .failed) ≠ some .completed := by
  cases usageLimitPauseFromEvents events with
  | none => nofun
  | some pause => cases pause <;> nofun

theorem not_completes_message {backend text : String} :
    ¬ Completes [.message backend sessionId text] :=
  not_completes_of_plain (List.forall_mem_singleton.mpr plain_message)

theorem not_fails_message {backend text : String} :
    ¬ Fails [.message backend sessionId text] :=
  not_fails_of_plain (List.forall_mem_singleton.mpr plain_message)

theorem success_append_message {backend other text : String} :
    (summarizeEvents backend (events ++ [.message other sessionId text])).success = true
      ↔ Completes events ∧ ¬ Fails events := by
  rw [summarizeEvents_success_iff, completes_append, fails_append]
  simp only [not_completes_message, not_fails_message, or_false]

/-! ## Claude -/

theorem claudeSessionStatus_eq_completed :
    claudeSessionStatus events = some .completed ↔ Completes events ∧ ¬ Fails events := by
  rw [← any_completion_iff, ← any_failure_iff, Bool.not_eq_true]
  unfold claudeSessionStatus
  split
  · next h => simpa using h
  · next h =>
    refine ⟨fun hstatus => absurd hstatus usageStatus_ne_completed, fun hboth => absurd ?_ h⟩
    simp [hboth.1, hboth.2]

theorem claude_registryAgrees (run : ClaudeRun) (backend : String) :
    RegistryAgrees (claudeRegistryStatus run) (summarizeEvents backend (claudeRunEvents run)) := by
  intro sessionId status hregistry
  obtain ⟨_, -, heq⟩ := Option.map_eq_some_iff.mp hregistry
  obtain ⟨-, rfl⟩ := Prod.mk.injEq .. |>.mp heq
  rw [claudeRunEvents, success_append_message, claudeSessionStatus_eq_completed]

/-! ## What the lines of an app-server report -/

variable {run : AppServerRun}

theorem appServerFinalSessionStatus_eq_completed :
    appServerFinalSessionStatus events = some .completed ↔ Completes events := by
  rw [← any_completion_iff]
  unfold appServerFinalSessionStatus
  split
  · next h => simp [h]
  · next h => exact ⟨fun hstatus => absurd hstatus usageStatus_ne_completed, fun hany => absurd hany h⟩

theorem lineKind_eq (run : AppServerRun) (sessionId : Option String) (line : String) :
    (normalizeJsonRpcLine run.json sessionId (Text.trimEnd line)).event = run.lineKind line :=
  normalize_event_eq run.json _ _ _

theorem mem_passedEvents {event : AgentEvent} :
    event ∈ run.passedEvents sessionId lines ↔ ∃ line ∈ lines,
      (normalizeJsonRpcLine run.json sessionId (Text.trimEnd line)).agentEvent = some event := by
  simp only [AppServerRun.passedEvents, List.mem_flatMap, Option.mem_toList]

theorem completes_passedEvents :
    Completes (run.passedEvents sessionId lines) ↔ ∃ line ∈ lines, run.CompletesTurn line := by
  simp only [Completes, mem_passedEvents, AppServerRun.CompletesTurn]
  constructor
  · rintro ⟨backend, session, summary, line, hline, hevent⟩
    refine ⟨line, hline, ?_⟩
    rw [← lineKind_eq run sessionId]
    cases read_line run.json sessionId (Text.trimEnd line) with
    | failing error hkind hfailed =>
        rw [hfailed] at hevent
        cases hevent
    | completing summary hkind hcompleted => exact hkind
    | passing hkind hopen hplain => cases (hplain _ hevent).2.2
  · rintro ⟨line, hline, hkind⟩
    rw [← lineKind_eq run sessionId] at hkind
    cases read_line run.json sessionId (Text.trimEnd line) with
    | failing error hfails hfailed =>
        rw [hkind] at hfails
        cases hfails
    | completing summary _ hcompleted => exact ⟨_, _, _, line, hline, hcompleted⟩
    | passing _ hopen hplain => exact absurd hkind hopen

theorem not_fails_passedEvents (h : ∀ line ∈ lines, ¬ run.FailsClosed line) :
    ¬ Fails (run.passedEvents sessionId lines) := by
  rintro ⟨backend, error, hmem⟩
  obtain ⟨line, hline, hevent⟩ := mem_passedEvents.mp hmem
  have hopen := h line hline
  rw [AppServerRun.FailsClosed, ← lineKind_eq run sessionId] at hopen
  cases read_line run.json sessionId (Text.trimEnd line) with
  | failing error hfails hfailed => exact hopen hfails
  | completing summary hkind hcompleted =>
      rw [hcompleted] at hevent
      cases hevent
  | passing hkind _ hplain => cases (hplain _ hevent).2.1

/-! ## The events of a run -/

/-- The events before the exit status is looked at. -/
def reportedEvents (run : AppServerRun) : List AgentEvent :=
  (appServerProtocolRun run).2.events
    ++ (if Text.isBlank run.stderr then [] else [.message appServerBackendName none run.stderr])
    ++ match (appServerProtocolRun run).1 with
      | .error error => [.failed run.backend error]
      | .ok () => []

theorem finishedAppServerEvents_eq :
    finishedAppServerEvents run
      = if appServerExitFailed run && !((reportedEvents run).any fun event => event.failure.isSome) then
          reportedEvents run ++ [.failed run.backend
            ("Codex app-server exited unexpectedly with status " ++ run.exitStatus.display)]
        else reportedEvents run := rfl

theorem not_completes_failed {backend error : String} : ¬ Completes [.failed backend error] := by
  simp [Completes]

theorem fails_failed {backend error : String} : Fails [.failed backend error] := by simp [Fails]

theorem plain_stderr : ∀ event ∈ (if Text.isBlank run.stderr then []
    else [AgentEvent.message appServerBackendName none run.stderr]), Plain event := by
  split
  · exact nofun
  · exact List.forall_mem_singleton.mpr plain_message

theorem completes_finished :
    Completes (finishedAppServerEvents run) ↔ Completes (appServerProtocolRun run).2.events := by
  have hreported : Completes (reportedEvents run)
      ↔ Completes (appServerProtocolRun run).2.events := by
    rw [reportedEvents, completes_append, completes_append]
    simp only [not_completes_of_plain plain_stderr, or_false]
    cases (appServerProtocolRun run).1 with
    | error error => simp only [not_completes_failed, or_false]
    | ok u => simp only [not_completes_nil, or_false]
  rw [finishedAppServerEvents_eq, ← hreported]
  split
  · simp only [completes_append, not_completes_failed, or_false]
  · rfl

theorem fails_finished :
    Fails (finishedAppServerEvents run) ↔ Fails (appServerProtocolRun run).2.events
      ∨ (∃ error, (appServerProtocolRun run).1 = .error error) ∨ appServerExitFailed run = true := by
  have hreported : Fails (reportedEvents run) ↔ Fails (appServerProtocolRun run).2.events
      ∨ ∃ error, (appServerProtocolRun run).1 = .error error := by
    rw [reportedEvents, fails_append, fails_append]
    simp only [not_fails_of_plain plain_stderr, or_false]
    cases (appServerProtocolRun run).1 with
    | error error => simp [fails_failed]
    | ok u => simp
  rw [finishedAppServerEvents_eq, ← or_assoc, ← hreported]
  split
  · next hadds =>
    have hexit := (Bool.and_eq_true _ _ |>.mp hadds).1
    simp only [fails_append, fails_failed, hexit, or_true]
  · next hadds =>
    refine ⟨Or.inl, fun h => h.elim id fun hexit => ?_⟩
    by_contra hfails
    rw [← any_failure_iff, Bool.not_eq_true] at hfails
    exact hadds (by rw [hexit, hfails]; rfl)

/-- The registry of a run that has reported a session agrees with the summary exactly
when no completion stands beside a failure. -/
theorem registryAgrees_iff (backend : String)
    (hsession : ∃ sessionId, terminalSessionId run = some sessionId) :
    RegistryAgrees (appServerRegistryStatus run) (summarizeEvents backend (appServerRunEvents run))
      ↔ (Completes (appServerProtocolRun run).2.events
        → ¬ Fails (appServerProtocolRun run).2.events
          ∧ (¬ ∃ error, (appServerProtocolRun run).1 = .error error)
          ∧ appServerExitFailed run = false) := by
  obtain ⟨sessionId, hsession⟩ := hsession
  have hregistry : appServerRegistryStatus run
      = some (sessionId, appServerFinalSessionStatus (finishedAppServerEvents run)) := by
    rw [appServerRegistryStatus, hsession]
    rfl
  rw [appServerRunEvents, RegistryAgrees, success_append_message, completes_finished, fails_finished]
  have hcompleted : appServerFinalSessionStatus (finishedAppServerEvents run) = some .completed
      ↔ Completes (finishedAppServerEvents run) := appServerFinalSessionStatus_eq_completed
  rw [completes_finished] at hcompleted
  constructor
  · intro h hcompletes
    have hboth := (h sessionId _ hregistry).mp (hcompleted.mpr hcompletes)
    simpa only [not_or, Bool.not_eq_true] using hboth.2
  · intro h other status hother
    rw [hregistry] at hother
    obtain ⟨-, rfl⟩ := Prod.mk.injEq .. |>.mp (Option.some.inj hother)
    rw [hcompleted, not_or, not_or, Bool.not_eq_true]
    exact ⟨fun hcompletes => ⟨hcompletes, h hcompletes⟩, And.left⟩

/-! ## Runs with a session -/

namespace AppServerRun

variable (run)

/-- The run has created the record of a session. -/
def RecordCreated : Prop :=
  ∃ threadId turnId passed steps rest, Opens run threadId turnId passed steps rest
    ∧ run.saveRecord threadId (sessionName threadId turnId) = .ok ()

/-- What is written to the registry for a recorded session agrees with the summary. -/
def OutcomeAgrees (backend : String) : Prop :=
  run.RecordCreated →
    RegistryAgrees (appServerRegistryStatus run) (summarizeEvents backend (appServerRunEvents run))

/-- Once the session is recorded, either the turn completes and the process does not fail,
or the turn does not complete and no line before the session has completed one. -/
def Settles : Prop :=
  ∀ threadId turnId passed steps rest, Opens run threadId turnId passed steps rest →
    run.saveRecord threadId (sessionName threadId turnId) = .ok () →
      (run.TurnCompletes rest ∧ appServerExitFailed run = false)
        ∨ (¬ run.TurnCompletes rest ∧ ∀ line ∈ passed, ¬ run.CompletesTurn line)

end AppServerRun

theorem not_turnCompletes_nil : ¬ run.TurnCompletes [] := by
  rintro ⟨skipped, line, rest, hlines, -⟩
  simp at hlines

theorem turnCompletes_cons {line : String} (hgoes : run.GoesOn line) :
    run.TurnCompletes (line :: lines) ↔ run.TurnCompletes lines := by
  constructor
  · rintro ⟨skipped, last, rest, hlines, hover, hlast⟩
    cases skipped with
    | nil =>
        obtain ⟨rfl, -⟩ := List.cons.inj hlines
        exact absurd hlast hgoes.1
    | cons other skipped =>
        obtain ⟨-, hlines⟩ := List.cons.inj hlines
        exact ⟨skipped, last, rest, hlines, fun line hline => hover line (List.mem_cons_of_mem _ hline),
          hlast⟩
  · rintro ⟨skipped, last, rest, rfl, hover, hlast⟩
    exact ⟨line :: skipped, last, rest, rfl, List.forall_mem_cons.mpr ⟨hgoes, hover⟩, hlast⟩

theorem turnCompletes_append {skipped lines : List String} (hover : ∀ line ∈ skipped, run.GoesOn line) :
    run.TurnCompletes (skipped ++ lines) ↔ run.TurnCompletes lines := by
  induction skipped with
  | nil => rfl
  | cons line skipped ih =>
      obtain ⟨hline, hover⟩ := List.forall_mem_cons.mp hover
      rw [List.cons_append, turnCompletes_cons hline, ih hover]

theorem Awaits.passed_open {wait : AppServerWait} {passed lines : List String}
    (h : Awaits run wait passed steps lines) :
    ∀ line ∈ passed, ¬ run.FailsClosed line := by
  induction h with
  | opening => exact nofun
  | thread h hanswer hok hinitialized hsent ih =>
      exact List.forall_mem_append.mpr ⟨ih, fun line hline => (hanswer.passes line hline).2⟩
  | turn h hanswer hok hthread hsent ih =>
      exact List.forall_mem_append.mpr ⟨ih, fun line hline => (hanswer.passes line hline).2⟩

theorem Opens.passed_open {passed rest : List String}
    (h : Opens run threadId turnId passed steps rest) :
    ∀ line ∈ passed, ¬ run.FailsClosed line := by
  cases h with
  | intro h hanswer hok hturn =>
      exact List.forall_mem_append.mpr
        ⟨h.passed_open, fun line hline => (hanswer.passes line hline).2⟩

theorem Opens.session_reported {passed rest : List String}
    (h : Opens run threadId turnId passed steps rest) :
    ∃ sessionId, terminalSessionId run = some sessionId := by
  have hstarted : .sessionStarted run.backend (sessionName threadId turnId)
      ∈ (openedWorld run threadId turnId passed steps rest).events :=
    List.mem_append_right _ (List.mem_cons_of_mem _ List.mem_cons_self)
  have hmem : .sessionStarted run.backend (sessionName threadId turnId)
      ∈ (appServerProtocolRun run).2.events := by
    rcases h.ends with ⟨error, -, hrun⟩ | ⟨-, hends⟩
    · rw [hrun]
      exact hstarted
    · generalize appServerProtocolRun run = result at hends
      cases hends <;> exact List.mem_append_left _ hstarted
  rw [terminalSessionId, ← Option.isSome_iff_exists, List.findSome?_isSome_iff]
  exact ⟨_, hmem, rfl⟩

theorem completes_opened {passed rest read left : List String} :
    Completes ((openedWorld run threadId turnId passed steps rest).past run sessionId read left).events
      ↔ (∃ line ∈ passed, run.CompletesTurn line) ∨ ∃ line ∈ read, run.CompletesTurn line := by
  have hsession : ¬ Completes (sessionEvents run threadId turnId) := by
    simp [Completes, sessionEvents]
  rw [AppServerWorld.past, openedWorld]
  simp only [completes_append, completes_passedEvents, hsession, or_false]

theorem not_fails_opened {passed rest read left : List String}
    (hpassed : ∀ line ∈ passed, ¬ run.FailsClosed line)
    (hread : ∀ line ∈ read, ¬ run.FailsClosed line) :
    ¬ Fails ((openedWorld run threadId turnId passed steps rest).past run sessionId read left).events := by
  have hsession : ¬ Fails (sessionEvents run threadId turnId) := by simp [Fails, sessionEvents]
  rw [AppServerWorld.past, openedWorld]
  simp only [fails_append, hsession, not_fails_passedEvents hpassed, not_fails_passedEvents hread,
    or_false, not_false_eq_true]

theorem not_failsClosed_of_completesTurn {line : String} (h : run.CompletesTurn line) :
    ¬ run.FailsClosed line := by
  rw [AppServerRun.FailsClosed, show run.lineKind line = _ from h]
  decide

theorem Opens.agrees_of_error {threadId turnId error : String} {passed rest skipped : List String}
    {left : List String} (backend : String) (h : Opens run threadId turnId passed steps rest)
    (hrun : appServerProtocolRun run = (.error error, (openedWorld run threadId turnId passed steps
      rest).past run (some (sessionName threadId turnId)) skipped left))
    (hover : ∀ line ∈ skipped, ¬ run.CompletesTurn line) :
    RegistryAgrees (appServerRegistryStatus run) (summarizeEvents backend (appServerRunEvents run))
      ↔ ∀ line ∈ passed, ¬ run.CompletesTurn line := by
  have hnone : ¬ ∃ line ∈ skipped, run.CompletesTurn line :=
    fun ⟨line, hline, hcompletes⟩ => hover line hline hcompletes
  rw [registryAgrees_iff backend h.session_reported, hrun, completes_opened]
  simp [hnone]

theorem Opens.agrees_iff {passed rest : List String} (backend : String)
    (h : Opens run threadId turnId passed steps rest)
    (hsaved : run.saveRecord threadId (sessionName threadId turnId) = .ok ()) :
    RegistryAgrees (appServerRegistryStatus run) (summarizeEvents backend (appServerRunEvents run))
      ↔ (run.TurnCompletes rest ∧ appServerExitFailed run = false)
        ∨ (¬ run.TurnCompletes rest ∧ ∀ line ∈ passed, ¬ run.CompletesTurn line) := by
  rcases h.ends with ⟨error, herror, -⟩ | ⟨-, hends⟩
  · rw [hsaved] at herror
    cases herror
  generalize hrun : appServerProtocolRun run = result at hends
  cases hends with
  | @completed skipped left line hlines hover hline =>
      have hturn : run.TurnCompletes rest := ⟨skipped, line, left, hlines, hover, hline⟩
      have hread : ∀ other ∈ skipped ++ [line], ¬ run.FailsClosed other :=
        List.forall_mem_append.mpr ⟨fun other hother => (hover other hother).2,
          List.forall_mem_singleton.mpr (not_failsClosed_of_completesTurn hline)⟩
      have hcompletes : ∃ other ∈ skipped ++ [line], run.CompletesTurn other :=
        ⟨line, List.mem_append_right _ List.mem_cons_self, hline⟩
      rw [registryAgrees_iff backend h.session_reported, hrun, completes_opened]
      refine ⟨fun hagrees => Or.inl ⟨hturn, (hagrees (Or.inr hcompletes)).2.2⟩, ?_⟩
      rintro (⟨-, hexit⟩ | ⟨hnot, -⟩)
      · exact fun _ => ⟨not_fails_opened h.passed_open hread, by simp, hexit⟩
      · exact absurd hturn hnot
  | @refused skipped left line error hlines hover hline hfails =>
      have hturn : ¬ run.TurnCompletes rest := by
        rw [hlines, turnCompletes_append hover]
        rintro ⟨before, last, after, heq, hbefore, hlast⟩
        cases before with
        | nil =>
            obtain ⟨rfl, -⟩ := List.cons.inj heq
            exact hline hlast
        | cons other before =>
            obtain ⟨rfl, -⟩ := List.cons.inj heq
            exact (hbefore _ List.mem_cons_self).2 hfails
      rw [h.agrees_of_error backend hrun (List.forall_mem_append.mpr
        ⟨fun other hother => (hover other hother).1, List.forall_mem_singleton.mpr hline⟩)]
      simp [hturn]
  | cut error hover =>
      have hturn : ¬ run.TurnCompletes rest := by
        rw [← List.append_nil rest, turnCompletes_append hover]
        exact not_turnCompletes_nil
      rw [h.agrees_of_error backend hrun fun other hother => (hover other hother).1]
      simp [hturn]

/-- For Claude the registry always agrees with the summary; for the app-server exactly
where the run settles. -/
theorem registry_agrees_iff (backend : String) (claude : ClaudeRun) (run : AppServerRun) :
    RegistryAgrees (claudeRegistryStatus claude) (summarizeEvents backend (claudeRunEvents claude))
      ∧ (run.OutcomeAgrees backend ↔ run.Settles) := by
  refine ⟨claude_registryAgrees claude backend, ?_, ?_⟩
  · intro hagrees threadId turnId passed steps rest hopens hsaved
    exact (hopens.agrees_iff backend hsaved).mp
      (hagrees ⟨threadId, turnId, passed, steps, rest, hopens, hsaved⟩)
  · rintro hsettles ⟨threadId, turnId, passed, steps, rest, hopens, hsaved⟩
    exact (hopens.agrees_iff backend hsaved).mpr (hsettles _ _ _ _ _ hopens hsaved)

end

/-! ## A completed turn of a process that fails -/

def failedExitRun : AppServerRun :=
  sampleAppServerRun [initializedLine, threadLine, turnLine, turnCompletedLine] (.code 1)

theorem failedExitRun_opens :
    ∃ passed steps, Opens failedExitRun "t1" "u1" passed steps [turnCompletedLine] := by
  have hinitialized : failedExitRun.Answer 1 failedExitRun.lines [] initializedLine
      [threadLine, turnLine, turnCompletedLine] (.obj [("id", .int 1), ("result", .obj [])]) :=
    ⟨rfl, by simp, by rfl⟩
  have hthread : failedExitRun.Answer 2 [threadLine, turnLine, turnCompletedLine] [] threadLine
      [turnLine, turnCompletedLine]
      (.obj [("id", .int 2), ("result", .obj [("thread", .obj [("id", .str "t1")])])]) :=
    ⟨rfl, by simp, by rfl⟩
  have hturn : failedExitRun.Answer 3 [turnLine, turnCompletedLine] [] turnLine [turnCompletedLine]
      (.obj [("id", .int 3), ("result", .obj [("turn", .obj [("id", .str "u1")])])]) :=
    ⟨rfl, by simp, by rfl⟩
  have hopening : Awaits failedExitRun .opening [] [.sent .initializeRequest] failedExitRun.lines :=
    .opening rfl
  have hwait := (hopening.thread hinitialized (by rfl) rfl rfl).turn hthread (by rfl) (by rfl) rfl
  exact ⟨_, _, .intro hwait hturn (by rfl) (by rfl)⟩

/-- The session of a run that has failed is recorded as completed. -/
theorem failed_exit_recorded_completed :
    ¬ failedExitRun.OutcomeAgrees "codex-app-server" := by
  intro hagrees
  obtain ⟨passed, steps, hopens⟩ := failedExitRun_opens
  have hregistry : appServerRegistryStatus failedExitRun = some ("t1-u1", some .completed) := by
    decide
  have hsummary : (summarizeEvents "codex-app-server" (appServerRunEvents failedExitRun)).success
      = false := by decide
  have hstatus := hagrees ⟨"t1", "u1", passed, steps, _, hopens, rfl⟩ _ _ hregistry
  rw [hsummary] at hstatus
  cases hstatus.mp rfl

end SheaSymphony.Agent

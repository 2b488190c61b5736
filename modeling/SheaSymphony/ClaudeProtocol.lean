import SheaSymphony.ClaudeStream

/-!
# The protocol of a Claude run

What the lines of a stream make of its events. Every line takes one of five steps
(`lineStep`); the state the accepted lines have led to says what has been reported, and
a run succeeds only when its last line is the result of the session it started.
-/

namespace SheaSymphony.Agent

open Fallible

/-! ## Lines -/

namespace ClaudeRun

variable (run : ClaudeRun)

def lineValue (line : String) : Option Json := (run.parse (Text.trim line)).toOption

def isInitLine (line : String) : Bool :=
  (run.lineValue line).any fun value =>
    stringField value "type" == some "system" && stringField value "subtype" == some "init"

def isSuccessLine (line : String) : Bool :=
  (run.lineValue line).any fun value =>
    stringField value "type" == some "result" && stringField value "subtype" == some "success"
      && (value.get "is_error").bind Json.asBool != some true

/-- The session a line names. -/
def lineSession (line : String) : Option String :=
  (run.lineValue line).bind fun value => visible (stringField value "session_id")

/-- The state after lines that are all accepted. -/
def acceptedState (state : ClaudeProtocolState) : List String → Option ClaudeProtocolState
  | [] => some state
  | line :: lines =>
      let outcome := normalizeClaudeStreamLine run state line
      if outcome.error.isSome then none else acceptedState outcome.state lines

/-- After an initialization, a line names no other session. -/
def SessionConsistent (lines : List String) : Prop :=
  lines.Pairwise fun first later => run.isInitLine first = true →
    ∀ session ∈ run.lineSession later, run.lineSession first = some session

/-- The line that completes a run after the lines before it. -/
structure CompletedBy (before : List String) (line : String) : Prop where
  accepted : (run.acceptedState .default (before ++ [line])).isSome = true
  result : run.isSuccessLine line = true
  initialized : before.countP run.isInitLine = 1
  consistent : run.SessionConsistent (before ++ [line])

end ClaudeRun

/-! ## The steps of a line -/

/-- The session of a line is the one of the state, where both are known. -/
def SameSession (run : ClaudeRun) (state : ClaudeProtocolState) (line : String) : Prop :=
  ∀ actual ∈ run.lineSession line, ∀ expected ∈ state.sessionId, actual = expected

inductive LineStep (run : ClaudeRun) (state : ClaudeProtocolState) (line : String) :
    LineOutcome → Prop
  | refused (error : String) : LineStep run state line { state, events := [], error := some error }
  | unrecorded {next : ClaudeProtocolState} (session error : String)
      (hnew : state.initialized = false) :
      LineStep run state line
        { state := next, events := [.sessionStarted run.backend session], error := some error }
  | initialized {next : ClaudeProtocolState} {events : List AgentEvent} (session text : String)
      (hterminal : state.terminal = false) (hnew : state.initialized = false)
      (hinit : run.isInitLine line = true) (hsuccess : run.isSuccessLine line = false)
      (hsession : run.lineSession line = some session)
      (hnext : next = { sessionId := some session, initialized := true, terminal := false })
      (hevents : events
        = [.sessionStarted run.backend session, .message run.backend (some session) text]) :
      LineStep run state line { state := next, events, error := none }
  | progressed (events : List AgentEvent) (hterminal : state.terminal = false)
      (hinit : run.isInitLine line = false) (hsuccess : run.isSuccessLine line = false)
      (hsession : SameSession run state line) (hplain : ∀ event ∈ events, Plain event) :
      LineStep run state line { state, events, error := none }
  | completed (summary : String) (hterminal : state.terminal = false)
      (hopen : state.initialized = true) (hinit : run.isInitLine line = false)
      (hsuccess : run.isSuccessLine line = true) (hsession : SameSession run state line) :
      LineStep run state line
        { state := { state with terminal := true }
          events := [.completed run.backend state.sessionId summary]
          error := none }
  | failed (error : String) (hterminal : state.terminal = false)
      (hinit : run.isInitLine line = false) (hsuccess : run.isSuccessLine line = false)
      (hsession : SameSession run state line) :
      LineStep run state line
        { state := { state with terminal := true }
          events := [.failed run.backend error]
          error := none }

variable {event : AgentEvent} {stream : StreamResult} {rest : List String}

section
variable {run : ClaudeRun} {state : ClaudeProtocolState} {line : String} {value : Json}

theorem sameSession_of_validate (hvalue : run.lineValue line = some value)
    (h : validateClaudeEventSession state value = .ok ()) : SameSession run state line := by
  intro actual hactual expected hexpected
  rw [ClaudeRun.lineSession, hvalue] at hactual
  have hnamed : visible (stringField value "session_id") = some actual := hactual
  rw [validateClaudeEventSession, hnamed, Option.mem_def.mp hexpected] at h
  by_contra hne
  replace h : (if actual ≠ expected then _ else _ : Except String Unit) = .ok () := h
  rw [if_pos hne] at h
  cases h

theorem plain_assistant (h : event ∈ normalizeClaudeAssistant run state value) : Plain event := by
  rcases List.mem_append.mp h with hblock | husage
  · obtain ⟨block, -, hevent⟩ := List.mem_filterMap.mp hblock
    unfold claudeAssistantBlock at hevent
    split at hevent
    · obtain ⟨text, -, rfl⟩ := Option.map_eq_some_iff.mp hevent
      exact plain_message
    · cases hevent
      exact plain_message
    · cases hevent
      exact plain_message
    · cases hevent
  · cases hfound : pointer ["message", "usage"] value with
    | none => simp [hfound] at husage
    | some usage =>
        rw [hfound, Option.elim_some, claudeUsage] at husage
        split at husage
        · rw [List.mem_singleton.mp husage]
          exact ⟨rfl, rfl, rfl⟩
        · cases husage

theorem plain_toolResults (h : event ∈ normalizeClaudeToolResults run state value) :
    Plain event := by
  obtain ⟨block, -, hevent⟩ := List.mem_filterMap.mp h
  unfold claudeToolResult at hevent
  split at hevent
  · cases hevent
    exact plain_message
  · cases hevent

theorem claudeResult_cases (state : ClaudeProtocolState) (hvalue : run.lineValue line = some value)
    (htype : stringField value "type" = some "result") :
    (run.isSuccessLine line = true ∧
        ∃ summary, claudeResult run state value = .completed run.backend state.sessionId summary)
      ∨ (run.isSuccessLine line = false ∧
        ∃ error, claudeResult run state value = .failed run.backend error) := by
  have hline : run.isSuccessLine line = (stringField value "subtype" == some "success"
      && (value.get "is_error").bind Json.asBool != some true) := by
    simp [ClaudeRun.isSuccessLine, hvalue, htype]
  rw [hline, claudeResult]
  cases hsubtype : stringField value "subtype" with
  | none =>
      right
      simp
  | some subtype =>
      by_cases hok : subtype = "success"
      · subst hok
        cases (value.get "is_error").bind Json.asBool with
        | none =>
            left
            simp
        | some flag => cases flag <;> simp
      · right
        simp [hok]

theorem lineStep_initialize (hvalue : run.lineValue line = some value)
    (hterminal : state.terminal = false) (hnew : state.initialized = false)
    (hinit : run.isInitLine line = true) (hsuccess : run.isSuccessLine line = false) :
    ∀ {outcome}, initializeClaude run value = .ok outcome → LineStep run state line outcome := by
  intro outcome h
  cases hsession : visible (stringField value "session_id") with
  | none =>
      rw [initializeClaude, hsession] at h
      cases h
  | some session =>
      have hline : run.lineSession line = some session := by
        rw [ClaudeRun.lineSession, hvalue]
        exact hsession
      cases hrecord : run.saveRecord session with
      | error error =>
          have houtcome : initializeClaude run value = .ok {
              state := { sessionId := some session, initialized := true, terminal := false }
              events := [.sessionStarted run.backend session]
              error := some error } := by
            rw [initializeClaude, hsession]
            simp [okOr, hrecord]
          obtain rfl := Except.ok.inj (houtcome.symm.trans h)
          exact .unrecorded session error hnew
      | ok u =>
          have houtcome : initializeClaude run value = .ok {
              state := { sessionId := some session, initialized := true, terminal := false }
              events := [.sessionStarted run.backend session,
                .message run.backend (some session) "claude_event type=system subtype=init"]
              error := none } := by
            rw [initializeClaude, hsession]
            simp [okOr, hrecord]
          obtain rfl := Except.ok.inj (houtcome.symm.trans h)
          exact .initialized session _ hterminal hnew hinit hsuccess hline rfl rfl

theorem lineStep_event (hvalue : run.lineValue line = some value)
    (hterminal : state.terminal = false) {eventType : String}
    (htype : stringField value "type" = some eventType) (hsession : SameSession run state line) :
    ∀ {outcome}, claudeEvent run state eventType value = .ok outcome →
      LineStep run state line outcome := by
  intro outcome h
  have hinitLine : run.isInitLine line
      = (eventType == "system" && stringField value "subtype" == some "init") := by
    simp [ClaudeRun.isInitLine, hvalue, htype]
  have hsuccessLine : eventType ≠ "result" → run.isSuccessLine line = false := by
    intro hne
    simp [ClaudeRun.isSuccessLine, hvalue, htype, hne]
  unfold claudeEvent at h
  split at h
  · next hinit =>
    obtain ⟨rfl, hsubtype⟩ := hinit
    split at h
    · cases h
    · next hnew =>
      exact lineStep_initialize hvalue hterminal (Bool.eq_false_iff.mpr hnew)
        (by simp [hinitLine, hsubtype]) (hsuccessLine (by decide)) h
  · next hinit =>
    have hno : run.isInitLine line = false := by
      rw [hinitLine, Bool.eq_false_iff]
      intro hboth
      exact hinit (by simpa using hboth)
    unfold requireClaudeInitialization at h
    split at h
    · next hassistant =>
      split at h
      · cases h
        exact .progressed _ hterminal hno (hsuccessLine (by rw [hassistant]; decide)) hsession
          fun event => plain_assistant
      · cases h
    split at h
    · next huser =>
      split at h
      · cases h
        exact .progressed _ hterminal hno (hsuccessLine (by rw [huser]; decide)) hsession
          fun event => plain_toolResults
      · cases h
    split at h
    · next hresult =>
      split at h
      · next hopen =>
        cases h
        subst hresult
        rcases claudeResult_cases state hvalue htype with
          ⟨hsuccess, summary, hevent⟩ | ⟨hsuccess, error, hevent⟩
        · rw [hevent]
          exact .completed summary hterminal hopen hno hsuccess hsession
        · rw [hevent]
          exact .failed error hterminal hno hsuccess hsession
      · cases h
    · next hresult =>
      split at h
      · cases h
        exact .failed _ hterminal hno (hsuccessLine hresult) hsession
      · cases h
        refine .progressed _ hterminal hno (hsuccessLine hresult) hsession fun event hmem => ?_
        rw [List.mem_singleton.mp hmem]
        exact plain_message

theorem lineStep (run : ClaudeRun) (state : ClaudeProtocolState) (line : String) :
    LineStep run state line (normalizeClaudeStreamLine run state line) := by
  unfold normalizeClaudeStreamLine
  cases hchecked : checkedClaudeLine run state line with
  | error error => exact .refused error
  | ok outcome =>
      unfold checkedClaudeLine claudeStreamValue at hchecked
      cases hterminal : state.terminal with
      | true =>
          rw [hterminal] at hchecked
          cases hchecked
      | false =>
          rw [hterminal] at hchecked
          cases hparse : run.parse (Text.trim line) with
          | error error =>
              rw [hparse] at hchecked
              cases hchecked
          | ok value =>
              rw [hparse] at hchecked
              have hvalue : run.lineValue line = some value := by
                rw [ClaudeRun.lineValue, hparse]
                rfl
              cases htype : stringField value "type" with
              | none =>
                  simp [htype, okOr, Except.mapError] at hchecked
              | some eventType =>
                  cases hvalid : validateClaudeEventSession state value with
                  | error error =>
                      simp [htype, okOr, Except.mapError, hvalid] at hchecked
                  | ok u =>
                      have hevent : claudeEvent run state eventType value = .ok outcome := by
                        simpa [htype, okOr, Except.mapError, hvalid] using hchecked
                      exact lineStep_event hvalue hterminal htype
                        (sameSession_of_validate hvalue hvalid) hevent

/-! ## What the accepted lines have reported -/

/-- After the lines `seen`, all of them accepted. -/
structure Seen (run : ClaudeRun) (seen : List String) (state : ClaudeProtocolState)
    (events : List AgentEvent) : Prop where
  accepted : run.acceptedState .default seen = some state
  started : (events.countP fun event => event.startedSession.isSome) = state.initialized.toNat
  inits : seen.countP run.isInitLine = state.initialized.toNat
  session : ∀ first ∈ seen, run.isInitLine first = true →
    ∃ session, run.lineSession first = some session ∧ state.sessionId = some session
  consistent : run.SessionConsistent seen
  going : state.terminal = false → ¬ Completes events ∧ ¬ Fails events
  closed : state.terminal = true →
    (¬ Completes events ∧ Fails events)
      ∨ (¬ Fails events ∧ Completes events ∧ (events.countP fun event => event.completion.isSome) = 1
        ∧ ∃ before line, seen = before ++ [line] ∧ run.CompletedBy before line)

end

section
variable {run : ClaudeRun} {state : ClaudeProtocolState} {seen : List String}
  {events : List AgentEvent} {line : String}

theorem acceptedState_append (state : ClaudeProtocolState) (front back : List String) :
    run.acceptedState state (front ++ back)
      = (run.acceptedState state front).bind fun next => run.acceptedState next back := by
  induction front generalizing state with
  | nil => rfl
  | cons line front ih =>
      rw [List.cons_append, ClaudeRun.acceptedState, ClaudeRun.acceptedState]
      split
      · rfl
      · exact ih _

theorem acceptedState_concat (h : run.acceptedState .default seen = some state)
    (hline : (normalizeClaudeStreamLine run state line).error = none) :
    run.acceptedState .default (seen ++ [line])
      = some (normalizeClaudeStreamLine run state line).state := by
  rw [acceptedState_append, h]
  simp [ClaudeRun.acceptedState, hline]

theorem sessionConsistent_concat (h : run.SessionConsistent seen)
    (hline : ∀ first ∈ seen, run.isInitLine first = true →
      ∀ session ∈ run.lineSession line, run.lineSession first = some session) :
    run.SessionConsistent (seen ++ [line]) := by
  refine List.pairwise_append.mpr ⟨h, List.pairwise_singleton _ _, fun first hfirst later hlater => ?_⟩
  rw [List.mem_singleton.mp hlater]
  exact hline first hfirst

namespace Seen

theorem nil (run : ClaudeRun) : Seen run [] .default [] where
  accepted := rfl
  started := rfl
  inits := rfl
  session := by simp
  consistent := List.Pairwise.nil
  going _ := ⟨not_completes_nil, not_fails_nil⟩
  closed h := by cases h

theorem consistent_concat (h : Seen run seen state events) (hsame : SameSession run state line) :
    run.SessionConsistent (seen ++ [line]) := by
  refine sessionConsistent_concat h.consistent fun first hfirst hinit session hsession => ?_
  obtain ⟨own, hown, hstate⟩ := h.session first hfirst hinit
  rw [hown, hsame session hsession own hstate]

theorem session_concat (h : Seen run seen state events) (hinit : run.isInitLine line = false) :
    ∀ first ∈ seen ++ [line], run.isInitLine first = true →
      ∃ session, run.lineSession first = some session ∧ state.sessionId = some session := by
  intro first hfirst htrue
  rcases List.mem_append.mp hfirst with hseen | hlast
  · exact h.session first hseen htrue
  · rw [List.mem_singleton.mp hlast, hinit] at htrue
    cases htrue

theorem inits_concat (h : Seen run seen state events) (hinit : run.isInitLine line = false) :
    (seen ++ [line]).countP run.isInitLine = state.initialized.toNat := by
  rw [List.countP_append, h.inits, List.countP_singleton, hinit, if_neg Bool.false_ne_true,
    Nat.add_zero]

theorem opened (h : Seen run seen state events) {session text : String}
    (hnew : state.initialized = false) (hterminal : state.terminal = false)
    (hinit : run.isInitLine line = true) (hsession : run.lineSession line = some session)
    (haccepted : run.acceptedState .default (seen ++ [line])
      = some { sessionId := some session, initialized := true, terminal := false }) :
    Seen run (seen ++ [line]) { sessionId := some session, initialized := true, terminal := false }
      (events ++ [.sessionStarted run.backend session, .message run.backend (some session) text]) := by
  have hnone : ∀ first ∈ seen, run.isInitLine first = false := by
    intro first hfirst
    have hcount := h.inits
    rw [hnew] at hcount
    exact Bool.eq_false_iff.mpr (List.countP_eq_zero.mp hcount first hfirst)
  refine ⟨haccepted, ?_, ?_, ?_, ?_, ?_, by intro h; cases h⟩
  · rw [List.countP_append, h.started, hnew]
    rfl
  · rw [List.countP_append, h.inits, hnew, List.countP_singleton, hinit]
    rfl
  · intro first hfirst htrue
    rcases List.mem_append.mp hfirst with hseen | hlast
    · rw [hnone first hseen] at htrue
      cases htrue
    · rw [List.mem_singleton.mp hlast]
      exact ⟨session, hsession, rfl⟩
  · refine sessionConsistent_concat h.consistent fun first hfirst htrue => ?_
    rw [hnone first hfirst] at htrue
    cases htrue
  · intro _
    obtain ⟨hcompletes, hfails⟩ := h.going hterminal
    rw [completes_append, fails_append]
    refine ⟨?_, ?_⟩
    · rintro (hold | ⟨_, _, _, hmem⟩)
      · exact hcompletes hold
      · simp at hmem
    · rintro (hold | ⟨_, _, hmem⟩)
      · exact hfails hold
      · simp at hmem

theorem progress (h : Seen run seen state events) {more : List AgentEvent}
    (hterminal : state.terminal = false) (hinit : run.isInitLine line = false)
    (hsame : SameSession run state line) (hplain : ∀ event ∈ more, Plain event)
    (haccepted : run.acceptedState .default (seen ++ [line]) = some state) :
    Seen run (seen ++ [line]) state (events ++ more) := by
  refine ⟨haccepted, ?_, h.inits_concat hinit, h.session_concat hinit, h.consistent_concat hsame,
    ?_, fun hover => ?_⟩
  · have hzero : more.countP (fun event => event.startedSession.isSome) = 0 :=
      countP_eq_zero_of_plain fun event hmem => by rw [(hplain event hmem).1]; rfl
    rw [List.countP_append, h.started, hzero, Nat.add_zero]
  · intro _
    obtain ⟨hcompletes, hfails⟩ := h.going hterminal
    rw [completes_append, fails_append]
    exact ⟨fun hor => hor.elim hcompletes (not_completes_of_plain hplain),
      fun hor => hor.elim hfails (not_fails_of_plain hplain)⟩
  · rw [hterminal] at hover
    cases hover

theorem close (h : Seen run seen state events) (hstarted : event.startedSession = none)
    (hinit : run.isInitLine line = false) (hsame : SameSession run state line)
    (haccepted : run.acceptedState .default (seen ++ [line])
      = some { state with terminal := true })
    (hover : (¬ Completes (events ++ [event]) ∧ Fails (events ++ [event]))
      ∨ (¬ Fails (events ++ [event]) ∧ Completes (events ++ [event])
        ∧ ((events ++ [event]).countP fun event => event.completion.isSome) = 1
        ∧ ∃ before last, seen ++ [line] = before ++ [last] ∧ run.CompletedBy before last)) :
    Seen run (seen ++ [line]) { state with terminal := true } (events ++ [event]) := by
  refine ⟨haccepted, ?_, h.inits_concat hinit, h.session_concat hinit, h.consistent_concat hsame,
    (by intro hgoing; cases hgoing), fun _ => hover⟩
  rw [List.countP_append, h.started, List.countP_singleton, hstarted]
  rfl

theorem step (h : Seen run seen state events)
    (hline : (normalizeClaudeStreamLine run state line).error = none) :
    Seen run (seen ++ [line]) (normalizeClaudeStreamLine run state line).state
      (events ++ (normalizeClaudeStreamLine run state line).events) := by
  have haccepted := acceptedState_concat h.accepted hline
  have hstep := lineStep run state line
  generalize normalizeClaudeStreamLine run state line = outcome at hline haccepted hstep
  cases hstep with
  | refused error => cases hline
  | unrecorded session error hnew => cases hline
  | initialized session text hterminal hnew hinit hsuccess hsession hnext hevents =>
      subst hnext hevents
      exact h.opened hnew hterminal hinit hsession haccepted
  | progressed more hterminal hinit hsuccess hsession hplain =>
      exact h.progress hterminal hinit hsession hplain haccepted
  | completed summary hterminal hopen hinit hsuccess hsession =>
      obtain ⟨hcompletes, hfails⟩ := h.going hterminal
      have hcount : events.countP (fun event => event.completion.isSome) = 0 := by
        by_contra hne
        have hsome := List.countP_pos_iff.mp (Nat.pos_of_ne_zero hne)
        exact hcompletes (any_completion_iff.mp (List.any_eq_true.mpr hsome))
      refine h.close rfl hinit hsession haccepted (Or.inr ⟨?_, ?_, ?_, seen, line, rfl, ?_⟩)
      · rw [fails_append]
        rintro (hold | ⟨_, _, hmem⟩)
        · exact hfails hold
        · simp at hmem
      · exact completes_append.mpr (Or.inr ⟨_, _, _, List.mem_singleton_self _⟩)
      · rw [List.countP_append, hcount]
        rfl
      · refine ⟨by rw [haccepted]; rfl, hsuccess, ?_, h.consistent_concat hsession⟩
        rw [h.inits, hopen]
        rfl
  | failed error hterminal hinit hsuccess hsession =>
      obtain ⟨hcompletes, hfails⟩ := h.going hterminal
      refine h.close rfl hinit hsession haccepted (Or.inl ⟨?_, ?_⟩)
      · rw [completes_append]
        rintro (hold | ⟨_, _, _, hmem⟩)
        · exact hcompletes hold
        · simp at hmem
      · exact fails_append.mpr (Or.inr ⟨_, _, List.mem_singleton_self _⟩)

end Seen

/-! ## How a stream ends -/

/-- What stops a stream early has reported a failure. -/
inductive StreamEnds (run : ClaudeRun) : StreamResult → Prop
  | unwritten {stream : StreamResult} (backend error : String)
      (hevents : stream.events = [.failed backend error]) : StreamEnds run stream
  | stopped {stream : StreamResult} {seen rest : List String} {state : ClaudeProtocolState}
      {events started : List AgentEvent} (backend error : String) (hlines : run.lines = seen ++ rest)
      (hseen : Seen run seen state events)
      (hstarted : started = []
        ∨ state.initialized = false ∧ ∃ session, started = [.sessionStarted run.backend session])
      (hevents : stream.events = events ++ started ++ [.failed backend error]) :
      StreamEnds run stream
  | accepted {state : ClaudeProtocolState} {events : List AgentEvent} (hcut : run.cut.error = none)
      (hinput : run.inputError = none) (hseen : Seen run run.lines state events) :
      StreamEnds run { state, events, forceStop := false }

theorem readClaudeStream_of_accepted (h : (normalizeClaudeStreamLine run state line).error = none) :
    readClaudeStream run state events (line :: rest)
      = readClaudeStream run (normalizeClaudeStreamLine run state line).state
          (events ++ (normalizeClaudeStreamLine run state line).events) rest := by
  simp only [readClaudeStream, h]

theorem readClaudeStream_of_refused {error : String}
    (h : (normalizeClaudeStreamLine run state line).error = some error) :
    readClaudeStream run state events (line :: rest)
      = { state := (normalizeClaudeStreamLine run state line).state
          events := events ++ (normalizeClaudeStreamLine run state line).events
            ++ [.failed run.backend error]
          forceStop := true } := by
  simp only [readClaudeStream, h]

theorem readClaudeStream_ends (hinput : run.inputError = none) :
    ∀ (rest : List String) {seen : List String} {state : ClaudeProtocolState}
      {events : List AgentEvent}, run.lines = seen ++ rest → Seen run seen state events →
      StreamEnds run (readClaudeStream run state events rest)
  | [], seen, state, events, hlines, hseen => by
      unfold readClaudeStream
      cases hcut : run.cut.error with
      | none =>
          rw [List.append_nil] at hlines
          exact .accepted hcut hinput (hlines ▸ hseen)
      | some error =>
          exact .stopped run.backend error hlines hseen (Or.inl rfl) (by rw [List.append_nil])
  | line :: rest, seen, state, events, hlines, hseen => by
      cases herror : (normalizeClaudeStreamLine run state line).error with
      | none =>
          rw [readClaudeStream_of_accepted herror]
          refine readClaudeStream_ends hinput rest ?_ (hseen.step herror)
          rw [hlines, List.append_assoc, List.cons_append, List.nil_append]
      | some error =>
          rw [readClaudeStream_of_refused herror]
          refine .stopped run.backend error hlines hseen ?_ rfl
          have hstep := lineStep run state line
          generalize normalizeClaudeStreamLine run state line = outcome at herror hstep
          cases hstep with
          | refused => exact Or.inl rfl
          | unrecorded session _ hnew => exact Or.inr ⟨hnew, session, rfl⟩
          | initialized | progressed | completed | failed => cases herror

theorem claudeStream_ends (run : ClaudeRun) : StreamEnds run (claudeStream run) := by
  unfold claudeStream
  cases hinput : run.inputError with
  | some error => exact .unwritten run.backend _ rfl
  | none => exact readClaudeStream_ends hinput run.lines rfl (.nil run)

theorem exists_seen_of_accepted (hinput : run.inputError = none)
    (hlines : run.lines = seen ++ rest) (haccepted : run.acceptedState .default seen = some state) :
    ∃ events, Seen run seen state events
      ∧ claudeStream run = readClaudeStream run state events rest := by
  induction seen using List.reverseRecOn generalizing rest state with
  | nil =>
      cases haccepted
      refine ⟨[], .nil run, ?_⟩
      rw [claudeStream, hinput, hlines]
      rfl
  | append_singleton seen line ih =>
      rw [acceptedState_append] at haccepted
      obtain ⟨middle, hmiddle, hlast⟩ := Option.bind_eq_some_iff.mp haccepted
      have hsplit : run.lines = seen ++ line :: rest := by
        rw [hlines, List.append_assoc, List.cons_append, List.nil_append]
      obtain ⟨events, hseen, hrun⟩ := ih hsplit hmiddle
      have hline : (normalizeClaudeStreamLine run middle line).error = none := by
        cases herror : (normalizeClaudeStreamLine run middle line).error with
        | none => rfl
        | some error => simp [ClaudeRun.acceptedState, herror] at hlast
      have hnext : (normalizeClaudeStreamLine run middle line).state = state := by
        simpa [ClaudeRun.acceptedState, hline] using hlast
      have hstep := hseen.step hline
      rw [hnext] at hstep
      refine ⟨_, hstep, ?_⟩
      rw [hrun, readClaudeStream_of_accepted hline, hnext]

theorem prefix_readClaudeStream (run : ClaudeRun) :
    ∀ (rest : List String) (state : ClaudeProtocolState) (events : List AgentEvent),
      events <+: (readClaudeStream run state events rest).events
  | [], state, events => by
      unfold readClaudeStream
      cases run.cut.error with
      | none => exact List.prefix_refl _
      | some error => exact List.prefix_append _ _
  | line :: rest, state, events => by
      cases herror : (normalizeClaudeStreamLine run state line).error with
      | none =>
          rw [readClaudeStream_of_accepted herror]
          exact (List.prefix_append _ _).trans (prefix_readClaudeStream run rest _ _)
      | some error =>
          rw [readClaudeStream_of_refused herror, List.append_assoc]
          exact List.prefix_append _ _

theorem ClaudeRun.CompletedBy.exists_seen {before : List String} {last : String}
    (h : run.CompletedBy before last) (hinput : run.inputError = none)
    (hlines : run.lines = before ++ last :: rest) :
    ∃ state events, Seen run (before ++ [last]) state events ∧ state.terminal = true
      ∧ Completes events ∧ ¬ Fails events
      ∧ claudeStream run = readClaudeStream run state events rest := by
  obtain ⟨state, hstate⟩ := Option.isSome_iff_exists.mp h.accepted
  rw [acceptedState_append] at hstate
  obtain ⟨middle, hmiddle, hlast⟩ := Option.bind_eq_some_iff.mp hstate
  obtain ⟨events, hseen, hrun⟩ := exists_seen_of_accepted hinput hlines hmiddle
  have hline : (normalizeClaudeStreamLine run middle last).error = none := by
    cases herror : (normalizeClaudeStreamLine run middle last).error with
    | none => rfl
    | some error => simp [ClaudeRun.acceptedState, herror] at hlast
  have hresult := h.result
  rw [readClaudeStream_of_accepted hline] at hrun
  have hnext := hseen.step hline
  have hstep := lineStep run middle last
  generalize normalizeClaudeStreamLine run middle last = outcome at hline hrun hnext hstep
  cases hstep with
  | refused => cases hline
  | unrecorded => cases hline
  | initialized _ _ _ _ _ hsuccess =>
      rw [hsuccess] at hresult
      cases hresult
  | progressed _ _ _ hsuccess =>
      rw [hsuccess] at hresult
      cases hresult
  | failed _ _ _ hsuccess =>
      rw [hsuccess] at hresult
      cases hresult
  | completed summary =>
      have hcompletes : Completes (events ++ [.completed run.backend middle.sessionId summary]) :=
        completes_append.mpr (Or.inr ⟨_, _, _, List.mem_singleton_self _⟩)
      refine ⟨_, _, hnext, rfl, hcompletes, ?_, hrun⟩
      rcases hnext.closed rfl with ⟨hnot, -⟩ | ⟨hfails, -⟩
      · exact absurd hcompletes hnot
      · exact hfails

/-! ## The events of a run -/

/-- The failures that are found after the stream. -/
def trailing (run : ClaudeRun) : List AgentEvent :=
  endedWithoutResult run (claudeStream run)
    ++ endedWithStatus run
      ((claudeStream run).events ++ endedWithoutResult run (claudeStream run))

/-- The messages that come last. -/
def closing (run : ClaudeRun) : List AgentEvent :=
  (if Text.isBlank run.stderr then []
    else [.message run.backend (claudeStream run).state.sessionId run.stderr])
    ++ [.message run.backend
      ((checkedClaudeEvents run).findSome? AgentEvent.startedSession) run.artifacts]

theorem claudeRunEvents_eq (run : ClaudeRun) :
    claudeRunEvents run = (claudeStream run).events ++ trailing run ++ closing run := by
  have hchecked : checkedClaudeEvents run = (claudeStream run).events ++ trailing run
      ++ (if Text.isBlank run.stderr then []
        else [.message run.backend (claudeStream run).state.sessionId run.stderr]) := by
    unfold checkedClaudeEvents trailing
    split <;> simp
  have hlast : claudeRunEvents run = checkedClaudeEvents run ++ [.message run.backend
      ((checkedClaudeEvents run).findSome? AgentEvent.startedSession) run.artifacts] := rfl
  rw [closing, ← List.append_assoc, ← hchecked, hlast]

theorem failed_of_mem_trailing (h : event ∈ trailing run) :
    ∃ error, event = .failed run.backend error := by
  rcases List.mem_append.mp h with hresult | hstatus
  · unfold endedWithoutResult at hresult
    split at hresult
    · exact ⟨_, List.mem_singleton.mp hresult⟩
    · cases hresult
  · unfold endedWithStatus at hstatus
    split at hstatus
    · exact ⟨_, List.mem_singleton.mp hstatus⟩
    · cases hstatus

theorem plain_of_mem_closing (h : event ∈ closing run) : Plain event := by
  rcases List.mem_append.mp h with hstderr | hlast
  · split at hstderr
    · cases hstderr
    · rw [List.mem_singleton.mp hstderr]
      exact plain_message
  · rw [List.mem_singleton.mp hlast]
    exact plain_message

theorem completes_run_iff : Completes (claudeRunEvents run) ↔ Completes (claudeStream run).events := by
  rw [claudeRunEvents_eq, completes_append, completes_append]
  constructor
  · rintro ((hstream | ⟨_, _, _, hmem⟩) | hclosing)
    · exact hstream
    · obtain ⟨error, herror⟩ := failed_of_mem_trailing hmem
      cases herror
    · exact absurd hclosing (not_completes_of_plain fun _ => plain_of_mem_closing)
  · exact fun h => Or.inl (Or.inl h)

theorem fails_run_iff :
    Fails (claudeRunEvents run) ↔ Fails (claudeStream run).events ∨ trailing run ≠ [] := by
  rw [claudeRunEvents_eq, fails_append, fails_append]
  have hclosing : ¬ Fails (closing run) := not_fails_of_plain fun _ => plain_of_mem_closing
  constructor
  · rintro ((hstream | ⟨_, _, hmem⟩) | h)
    · exact Or.inl hstream
    · exact Or.inr (List.ne_nil_of_mem hmem)
    · exact absurd h hclosing
  · rintro (hstream | htrailing)
    · exact Or.inl (Or.inl hstream)
    · obtain ⟨event, hmem⟩ := List.exists_mem_of_ne_nil _ htrailing
      obtain ⟨error, rfl⟩ := failed_of_mem_trailing hmem
      exact Or.inl (Or.inr ⟨_, _, hmem⟩)

theorem countP_run {p : AgentEvent → Bool} (hfailed : ∀ backend error, p (.failed backend error) = false)
    (hplain : ∀ event, Plain event → p event = false) :
    (claudeRunEvents run).countP p = (claudeStream run).events.countP p := by
  have htrailing : (trailing run).countP p = 0 := by
    refine countP_eq_zero_of_plain fun event hmem => ?_
    obtain ⟨error, rfl⟩ := failed_of_mem_trailing hmem
    exact hfailed _ _
  have hclosing : (closing run).countP p = 0 :=
    countP_eq_zero_of_plain fun event hmem => hplain event (plain_of_mem_closing hmem)
  rw [claudeRunEvents_eq, List.countP_append, List.countP_append, htrailing, hclosing]
  rfl

theorem trailing_eq_nil_iff (hfails : ¬ Fails (claudeStream run).events) :
    trailing run = [] ↔ (claudeStream run).state.terminal = true ∧ exitFailed run = false := by
  have hquiet : ((claudeStream run).events.any fun event => event.failure.isSome) = false :=
    Bool.eq_false_iff.mpr fun hany => hfails (any_failure_iff.mp hany)
  rw [trailing, List.append_eq_nil_iff]
  cases hterminal : (claudeStream run).state.terminal with
  | false => simp [endedWithoutResult, hterminal, hquiet]
  | true =>
      have hnone : endedWithoutResult run (claudeStream run) = [] := by
        simp [endedWithoutResult, hterminal]
      have htimeless : ((claudeStream run).events.any fun event =>
          event.failure.any fun error => Text.contains error "timed out") = false := by
        rw [Bool.eq_false_iff, Ne, List.any_eq_true]
        rintro ⟨event, hmem, hany⟩
        rw [List.any_eq_false] at hquiet
        cases hfailure : event.failure with
        | none =>
            rw [hfailure] at hany
            cases hany
        | some error => exact hquiet event hmem (by rw [hfailure]; rfl)
      rw [hnone, List.append_nil]
      cases hexit : exitFailed run <;> simp [endedWithStatus, hexit, htimeless]

theorem Seen.countP_completion_le (h : Seen run seen state events) :
    (events.countP fun event => event.completion.isSome) ≤ 1 := by
  have hzero : ¬ Completes events → (events.countP fun event => event.completion.isSome) ≤ 1 := by
    intro hnot
    rw [List.countP_eq_zero.mpr fun event hmem hsome =>
      hnot (any_completion_iff.mp (List.any_eq_true.mpr ⟨event, hmem, hsome⟩))]
    exact Nat.zero_le 1
  cases hterminal : state.terminal with
  | false => exact hzero (h.going hterminal).1
  | true =>
      rcases h.closed hterminal with ⟨hnot, -⟩ | ⟨-, -, hone, -⟩
      · exact hzero hnot
      · exact Nat.le_of_eq hone

theorem StreamEnds.countP_started_le (h : StreamEnds run stream) :
    (stream.events.countP fun event => event.startedSession.isSome) ≤ 1 := by
  cases h with
  | unwritten backend error hevents =>
      rw [hevents]
      exact Nat.zero_le 1
  | accepted _ _ hseen =>
      rw [hseen.started]
      exact Bool.toNat_le _
  | stopped backend error hlines hseen hstarted hevents =>
      rw [hevents, List.countP_append, List.countP_append, hseen.started]
      rcases hstarted with rfl | ⟨hnew, session, rfl⟩
      · exact Bool.toNat_le _
      · rw [hnew]
        exact Nat.le_refl 1

theorem StreamEnds.countP_completion_le (h : StreamEnds run stream) :
    (stream.events.countP fun event => event.completion.isSome) ≤ 1 := by
  cases h with
  | unwritten backend error hevents =>
      rw [hevents]
      exact Nat.zero_le 1
  | accepted _ _ hseen => exact hseen.countP_completion_le
  | stopped backend error hlines hseen hstarted hevents =>
      rw [hevents, List.countP_append, List.countP_append]
      rcases hstarted with rfl | ⟨hnew, session, rfl⟩
      · exact hseen.countP_completion_le
      · exact hseen.countP_completion_le

theorem StreamEnds.exists_completedBy (h : StreamEnds run stream)
    (hcompletes : Completes stream.events) :
    ∃ before line after, run.lines = before ++ line :: after ∧ run.CompletedBy before line := by
  have hseen : ∀ {seen rest state events}, Seen run seen state events → run.lines = seen ++ rest →
      Completes events →
      ∃ before line after, run.lines = before ++ line :: after ∧ run.CompletedBy before line := by
    intro seen rest state events hseen hlines hcompletes
    cases hterminal : state.terminal with
    | false => exact absurd hcompletes (hseen.going hterminal).1
    | true =>
        rcases hseen.closed hterminal with ⟨hnot, -⟩ | ⟨-, -, -, before, line, rfl, hby⟩
        · exact absurd hcompletes hnot
        · exact ⟨before, line, rest, by rw [hlines, List.append_assoc]; rfl, hby⟩
  cases h with
  | unwritten backend error hevents =>
      rw [hevents] at hcompletes
      obtain ⟨_, _, _, hmem⟩ := hcompletes
      simp at hmem
  | accepted _ _ h => exact hseen h (List.append_nil _).symm hcompletes
  | stopped backend error hlines h hstarted hevents =>
      rw [hevents, completes_append, completes_append] at hcompletes
      rcases hcompletes with (hold | ⟨_, _, _, hmem⟩) | ⟨_, _, _, hmem⟩
      · exact hseen h hlines hold
      · rcases hstarted with rfl | ⟨-, session, rfl⟩ <;> simp at hmem
      · simp at hmem

theorem inputError_eq_none_of_completes (h : Completes (claudeStream run).events) :
    run.inputError = none := by
  cases hinput : run.inputError with
  | none => rfl
  | some error =>
      simp only [claudeStream, hinput] at h
      obtain ⟨_, _, _, hmem⟩ := h
      simp at hmem

theorem StreamEnds.of_not_fails (h : StreamEnds run stream) (hfails : ¬ Fails stream.events) :
    run.cut.error = none ∧ Seen run run.lines stream.state stream.events := by
  cases h with
  | unwritten backend error hevents =>
      exact absurd ⟨backend, error, by rw [hevents]; exact List.mem_cons_self⟩ hfails
  | stopped backend error hlines hseen hstarted hevents =>
      refine absurd ⟨backend, error, ?_⟩ hfails
      rw [hevents]
      exact List.mem_append_right _ (List.mem_singleton_self _)
  | accepted hcut _ hseen => exact ⟨hcut, hseen⟩

theorem cut_error_eq_none_iff {cut : StreamCut} : cut.error = none ↔ cut = .ended := by
  cases cut <;> simp [StreamCut.error]

/-! ## The protocol -/

/-- The last line completes the run, nothing follows it, and nothing has failed. -/
structure EndsWithResult (run : ClaudeRun) : Prop where
  written : run.inputError = none
  ended : run.cut = .ended
  exited : exitFailed run = false
  result : ∃ before line, run.lines = before ++ [line] ∧ run.CompletedBy before line

structure ClaudeProtocol (run : ClaudeRun) : Prop where
  startedOnce : ((claudeRunEvents run).countP fun event => event.startedSession.isSome) ≤ 1
  completedOnce : ((claudeRunEvents run).countP fun event => event.completion.isSome) ≤ 1
  completes_iff : Completes (claudeRunEvents run) ↔ run.inputError = none
    ∧ ∃ before line after, run.lines = before ++ line :: after ∧ run.CompletedBy before line
  success_iff : (summarizeEvents run.backend (claudeRunEvents run)).success = true ↔
    EndsWithResult run
  failed : (summarizeEvents run.backend (claudeRunEvents run)).success = false →
    Fails (claudeRunEvents run)

theorem endsWithResult_of_success
    (h : (summarizeEvents run.backend (claudeRunEvents run)).success = true) :
    EndsWithResult run := by
  obtain ⟨hcompletes, hfails⟩ := summarizeEvents_success_iff.mp h
  rw [completes_run_iff] at hcompletes
  rw [fails_run_iff, not_or, not_not] at hfails
  obtain ⟨hterminal, hexit⟩ := (trailing_eq_nil_iff hfails.1).mp hfails.2
  obtain ⟨hcut, hseen⟩ := (claudeStream_ends run).of_not_fails hfails.1
  refine ⟨inputError_eq_none_of_completes hcompletes, cut_error_eq_none_iff.mp hcut, hexit, ?_⟩
  rcases hseen.closed hterminal with ⟨hnot, -⟩ | ⟨-, -, -, hline⟩
  · exact absurd hcompletes hnot
  · exact hline

theorem EndsWithResult.success (h : EndsWithResult run) :
    (summarizeEvents run.backend (claudeRunEvents run)).success = true := by
  obtain ⟨before, line, hlines, hby⟩ := h.result
  obtain ⟨state, events, hseen, hterminal, hcompletes, hfails, hrun⟩ :=
    hby.exists_seen h.written hlines
  have hstream : claudeStream run = { state, events, forceStop := false } := by
    rw [hrun]
    simp only [readClaudeStream, h.ended, StreamCut.error]
  have hquiet : ¬ Fails (claudeStream run).events := by rwa [hstream]
  rw [summarizeEvents_success_iff, completes_run_iff, fails_run_iff, not_or, not_not]
  refine ⟨by rwa [hstream], hquiet, (trailing_eq_nil_iff hquiet).mpr ⟨?_, h.exited⟩⟩
  rw [hstream]
  exact hterminal

theorem fails_of_not_success
    (h : (summarizeEvents run.backend (claudeRunEvents run)).success = false) :
    Fails (claudeRunEvents run) := by
  by_contra hfails
  have hstream := hfails
  rw [fails_run_iff, not_or, not_not] at hstream
  obtain ⟨hterminal, -⟩ := (trailing_eq_nil_iff hstream.1).mp hstream.2
  obtain ⟨-, hseen⟩ := (claudeStream_ends run).of_not_fails hstream.1
  rcases hseen.closed hterminal with ⟨-, hnot⟩ | ⟨-, hcompletes, -⟩
  · exact hstream.1 hnot
  · rw [summarizeEvents_success_iff.mpr ⟨completes_run_iff.mpr hcompletes, hfails⟩] at h
    cases h

end

/-- The protocol of every run, whatever it meets. -/
theorem claudeProtocol (run : ClaudeRun) : ClaudeProtocol run where
  startedOnce := by
    rw [countP_run (fun _ _ => rfl) fun event h => by rw [h.1]; rfl]
    exact (claudeStream_ends run).countP_started_le
  completedOnce := by
    rw [countP_run (fun _ _ => rfl) fun event h => by rw [h.2.2]; rfl]
    exact (claudeStream_ends run).countP_completion_le
  completes_iff := by
    rw [completes_run_iff]
    constructor
    · intro h
      exact ⟨inputError_eq_none_of_completes h, (claudeStream_ends run).exists_completedBy h⟩
    · rintro ⟨hinput, before, line, after, hlines, hby⟩
      obtain ⟨state, events, -, -, ⟨backend, sessionId, summary, hmem⟩, -, hrun⟩ :=
        hby.exists_seen hinput hlines
      rw [hrun]
      exact ⟨backend, sessionId, summary,
        (prefix_readClaudeStream run after state events).subset hmem⟩
  success_iff := ⟨endsWithResult_of_success, EndsWithResult.success⟩
  failed := fails_of_not_success

/-! ## Runs that end otherwise -/

def hookLine : String := "\x7b\"type\":\"hook\",\"session_id\":\"s0\"\x7d"

def initLine : String :=
  "\x7b\"type\":\"system\",\"subtype\":\"init\",\"session_id\":\"s1\"\x7d"

def resultLine : String :=
  "\x7b\"type\":\"result\",\"subtype\":\"success\",\"is_error\":false,\"session_id\":\"s1\"\x7d"

def streamDocuments : List (String × Json) :=
  [(hookLine, .obj [("type", .str "hook"), ("session_id", .str "s0")]),
    (initLine, .obj [("type", .str "system"), ("subtype", .str "init"), ("session_id", .str "s1")]),
    (resultLine, .obj [("type", .str "result"), ("subtype", .str "success"),
      ("is_error", .bool false), ("session_id", .str "s1")])]

def sampleClaudeRun (lines : List String) (cut : StreamCut) : ClaudeRun where
  backend := "claude-code"
  parse text := Fallible.okOr (streamDocuments.lookup text) "expected value at line 1 column 1"
  saveRecord _ := .ok ()
  inputError := none
  lines := lines
  cut := cut
  exitStatus := some (.code 0)
  stderr := ""
  artifacts := "claude_stream_json_artifacts exit_status=0"

/-- A run that is cancelled after its result has failed, and a session is taken up
after an event of another one. -/
theorem claude_run_cancelled_after_result :
    ((∃ before line, [initLine, resultLine] = before ++ [line]
          ∧ (sampleClaudeRun [initLine, resultLine] .cancelled).CompletedBy before line)
        ∧ exitFailed (sampleClaudeRun [initLine, resultLine] .cancelled) = false
        ∧ (summarizeEvents "claude-code"
          (claudeRunEvents (sampleClaudeRun [initLine, resultLine] .cancelled))).success = false)
      ∧ (summarizeEvents "claude-code"
          (claudeRunEvents (sampleClaudeRun [hookLine, initLine, resultLine] .ended))).success = true
      ∧ (sampleClaudeRun [hookLine, initLine, resultLine] .ended).lineSession hookLine = some "s0"
      ∧ (sampleClaudeRun [hookLine, initLine, resultLine] .ended).lineSession initLine = some "s1" := by
  refine ⟨⟨⟨[initLine], resultLine, rfl, ?_⟩, by decide +kernel, by decide +kernel⟩,
    by decide +kernel, by decide +kernel, by decide +kernel⟩
  refine ⟨by decide +kernel, by decide +kernel, by decide +kernel, ?_⟩
  refine List.pairwise_pair.mpr fun _ session hsession => ?_
  have hnamed : (sampleClaudeRun [initLine, resultLine] .cancelled).lineSession resultLine
      = (sampleClaudeRun [initLine, resultLine] .cancelled).lineSession initLine := by decide +kernel
  rw [← hnamed]
  exact hsession

end SheaSymphony.Agent

import SheaSymphony.ResumeAccounts

/-!
# What the preflight keeps and what it takes up again

The preflight keeps a worker when the tracker's name of its issue's state is
`In Progress`, where the writers use the name the configuration gives. In recover
mode it takes up the completed session it comes to first, passing over later
sessions that failed, went stale or cannot be probed.
-/

namespace SheaSymphony.Preflight

open Interrupted (Program Returns Answers)
open Model (TrackerIssue normalizeState)
open SheaSymphony.Runtime (RuntimeIssueState RuntimeState)
open Sessions (AgentSessionRecord SessionStatusProbe)

variable {ω : Type}

/-! ## Live work -/

/-- The action gives up a worker's state, or the whole loop for it. -/
def ResumePreflightAction.dropsWork : ResumePreflightAction → Bool
  | .archiveStale _ _ _ | .block _ => true
  | .continue | .retryLater _ _ _ | .stalled _ _ => false

/-- A main-lane state whose issue exists and is in the state that the
configuration displays for `in_progress`. -/
structure LiveWork (ω : Type) where
  effects : PreflightEffects ω
  config : PreflightConfig
  nowMs : UInt64
  state : RuntimeState
  activeIssue : RuntimeIssueState
  issue : TrackerIssue
  world : ω
  next : ω
  mainLane : runtimeStateIsMainLane state = true
  active : state.activeIssue = some activeIssue
  read : effects.getIssue activeIssue.identifier world = (.ok (some issue), next)
  displayed : normalizeState config.case issue.state
    = normalizeState config.case config.runtime.tracker.stateMap.inProgress

theorem runtimeWorkspaceStatus_returns (effects : PreflightEffects ω) (state : RuntimeState)
    (world : ω) :
    ∃ status after, runtimeWorkspaceStatus effects state world = (.ok status, after) := by
  unfold runtimeWorkspaceStatus
  cases state.workspacePath with
  | none => exact ⟨_, _, rfl⟩
  | some path =>
      dsimp only
      have hexists : Program.step (ε := String) (effects.pathExists path) world
          = (.ok (effects.pathExists path world).1, (effects.pathExists path world).2) := rfl
      rw [Program.bind_ok hexists]
      generalize (effects.pathExists path world).2 = seen
      cases (effects.pathExists path world).1 with
      | false => exact ⟨_, _, rfl⟩
      | true =>
          rw [if_pos rfl]
          have hisDir : Program.step (ε := String) (effects.pathIsDir path) seen
              = (.ok (effects.pathIsDir path seen).1, (effects.pathIsDir path seen).2) := rfl
          rw [Program.bind_ok hisDir]
          cases (effects.pathIsDir path seen).1 with
          | false => exact ⟨_, _, rfl⟩
          | true => exact ⟨_, _, rfl⟩

/-- Outside `in progress` a state is archived or blocks the loop. -/
theorem staleRuntimeStateAction_drops (effects : PreflightEffects ω) (config : PreflightConfig)
    {state : RuntimeState} {activeIssue : RuntimeIssueState}
    (hactive : state.activeIssue = some activeIssue) (issue : TrackerIssue)
    (normalizedState : String) (world : ω) :
    ∃ action after, staleRuntimeStateAction effects config state issue normalizedState world
      = (.ok action, after) ∧ action.dropsWork = true := by
  obtain ⟨status, after, hstatus⟩ := runtimeWorkspaceStatus_returns effects state world
  unfold staleRuntimeStateAction
  rw [hactive]
  dsimp only
  rw [Program.bind_ok hstatus]
  cases status with
  | absent => exact ⟨_, _, rfl, rfl⟩
  | clean path => exact ⟨_, _, rfl, rfl⟩
  | dirty path =>
      dsimp only
      split
      · exact ⟨_, _, rfl, rfl⟩
      · exact ⟨_, _, rfl, rfl⟩
  | unknown path reason => exact ⟨_, _, rfl, rfl⟩

theorem liveRuntimeStateAction_keeps (config : PreflightConfig) (state : RuntimeState)
    (activeIssue : RuntimeIssueState) (nowMs : UInt64) :
    (liveRuntimeStateAction config state activeIssue nowMs).dropsWork = false := by
  unfold liveRuntimeStateAction
  split
  · split <;> rfl
  · split <;> rfl

namespace LiveWork

variable (work : LiveWork ω)

def inProgressDisplay : String := work.config.runtime.tracker.stateMap.inProgress

theorem preflight_eq :
    runLoopResumePreflight work.effects work.config (some work.state) work.nowMs work.world
      = if normalizeState work.config.case work.inProgressDisplay = "in progress" then
          (.ok (liveRuntimeStateAction work.config work.state work.activeIssue work.nowMs), work.next)
        else
          staleRuntimeStateAction work.effects work.config work.state work.issue
            (normalizeState work.config.case work.issue.state) work.next := by
  unfold runLoopResumePreflight
  dsimp only
  rw [work.active]
  dsimp only
  rw [Program.bind_ok work.read]
  dsimp only
  rw [work.displayed]
  split
  · next h => rw [if_pos (show normalizeState work.config.case work.inProgressDisplay = _ from h)]; rfl
  · next h => rw [if_neg (show ¬normalizeState work.config.case work.inProgressDisplay = _ from h)]

end LiveWork

/-- The preflight keeps live work exactly when the configured name of the state
is `In Progress`, up to case and surrounding whitespace. -/
theorem live_work_kept_iff (work : LiveWork ω) :
    (∀ action after,
      runLoopResumePreflight work.effects work.config (some work.state) work.nowMs work.world
        = (.ok action, after) → action.dropsWork = false)
      ↔ normalizeState work.config.case work.inProgressDisplay = "in progress" := by
  rw [work.preflight_eq]
  constructor
  · intro hkept
    by_contra hname
    rw [if_neg hname] at hkept
    obtain ⟨action, after, hrun, hdrops⟩ := staleRuntimeStateAction_drops work.effects work.config
      work.active work.issue (normalizeState work.config.case work.issue.state) work.next
    rw [hkept action after hrun] at hdrops
    exact Bool.false_ne_true hdrops
  · intro hname action after hrun
    rw [if_pos hname] at hrun
    obtain rfl := Except.ok.inj (congrArg Prod.fst hrun)
    exact liveRuntimeStateAction_keeps work.config work.state work.activeIssue work.nowMs

/-- A configuration that displays `in_progress` as `Doing`. -/
def renamedConfig : PreflightConfig :=
  { defaultConfig with
    runtime := { defaultConfig.runtime with
      tracker := Config.parseTracker (some (.obj [("state_map", .obj [("in_progress", .str "Doing")])])) } }

/-- A tracker on which every issue is in that state. -/
def doingTracker : PreflightEffects Unit :=
  steadyEffects (fun identifier => .ok (some (issueInState identifier "Doing"))) []
    (fun _ => .ok "") fun _ => .ok none

def renamedWork : LiveWork Unit where
  effects := doingTracker
  config := renamedConfig
  nowMs := 0
  state := storedState "#7" "main"
  activeIssue := { id := "#7", identifier := "#7" }
  issue := issueInState "#7" "Doing"
  world := ()
  next := ()
  mainLane := rfl
  active := rfl
  read := rfl
  displayed := rfl

theorem renamed_live_work_archived :
    runLoopResumePreflight renamedWork.effects renamedWork.config (some renamedWork.state)
        renamedWork.nowMs renamedWork.world
      = (.ok (.archiveStale "#7" "Doing" "tracker_state_non_active"), ()) :=
  rfl

/-! ## Superseded runs -/

/-- What recover mode finds of a main-lane state: its issue in progress, the
registry, and what panes and logs show. -/
structure RecoverySnapshot where
  config : PreflightConfig
  nowMs : UInt64
  state : RuntimeState
  activeIssue : RuntimeIssueState
  issue : TrackerIssue
  sessions : List AgentSessionRecord
  pane : String → Except String String
  log : String → Except String (Option String)
  mainLane : runtimeStateIsMainLane state = true
  active : state.activeIssue = some activeIssue
  inProgress : normalizeState config.case issue.state = "in progress"

/-- The outside shows what the snapshot says, whatever else it does. -/
structure RecoverySnapshot.Shows (snapshot : RecoverySnapshot) (effects : PreflightEffects ω) :
    Prop where
  tracker : Answers (effects.getIssue snapshot.activeIssue.identifier) (.ok (some snapshot.issue))
  registry : Answers effects.loadSessionRegistry (.ok snapshot.sessions)
  pane : ∀ target, Answers (effects.captureTmuxPaneTail target) (snapshot.pane target)
  log : ∀ path, Answers (effects.readToString path) (snapshot.log path)

namespace RecoverySnapshot

variable (snapshot : RecoverySnapshot)

/-- What probing a session gives. -/
def probe (record : AgentSessionRecord) : Except String SessionStatusProbe :=
  if record.backend = "tmux" then do
    let paneTail ← (snapshot.pane record.paneTarget).mapError fun error =>
      "tmux_pane_unavailable session=" ++ record.sessionName ++ " error=" ++ compactEvidence error
    let log ← snapshot.log record.logPath
    return Sessions.classifySessionRecord snapshot.config.case record (some paneTail)
      (log.map fun content => Sessions.tailLines content defaultSessionStatusLines) snapshot.nowMs
      snapshot.config.sessionStaleAfterMs
  else
    return Sessions.classifySessionRecord snapshot.config.case record none none snapshot.nowMs
      snapshot.config.sessionStaleAfterMs

/-- The main-lane sessions of the issue, the latest first. -/
def issueSessions : List AgentSessionRecord :=
  snapshot.sessions.reverse.filter (sessionOfIssue snapshot.activeIssue.identifier)

/-- The session can be probed and counts as an active worker. -/
def IsActive (record : AgentSessionRecord) : Prop :=
  ∃ probe, snapshot.probe record = .ok probe ∧ sessionStatusCountsAsActiveWorker probe.status = true

def IsCompleted (record : AgentSessionRecord) : Prop :=
  ∃ probe, snapshot.probe record = .ok probe ∧ probe.status = .completed

/-- The session the state itself waits for is active. -/
def OwnSessionActive : Prop :=
  awaitedSession snapshot.state = true ∧ ∃ sessionId record,
    snapshot.state.backendSessionId = some sessionId ∧
      latestSession snapshot.sessions sessionId = some record ∧ snapshot.IsActive record

end RecoverySnapshot

/-- The state of a candidate that a completed session gives. -/
def terminalState (record : AgentSessionRecord) : RuntimeState :=
  { runtimeStateFromSessionRecord record with lastEvent := some "SessionTerminal" }

variable {record : AgentSessionRecord}

section
variable {snapshot : RecoverySnapshot} {effects : PreflightEffects ω}

theorem probe_answers (hshows : snapshot.Shows effects) (record : AgentSessionRecord) :
    Answers (runtimeSessionProbeFromRecord effects snapshot.config record snapshot.nowMs)
      (snapshot.probe record) := by
  unfold runtimeSessionProbeFromRecord RecoverySnapshot.probe
  split
  · refine Answers.bind (hshows.pane record.paneTarget).outcome ?_
    cases hpane : snapshot.pane record.paneTarget with
    | error e => exact Answers.bind_error Answers.ofExcept
    | ok paneTail =>
        refine Answers.bind Answers.ofExcept ?_
        have hlog := hshows.log record.logPath
        cases hread : snapshot.log record.logPath with
        | error e => exact Answers.bind_error (hread ▸ hlog)
        | ok log => exact Answers.bind (hread ▸ hlog) Answers.pure
  · exact Answers.pure

/-! ### The active session -/

theorem not_active_of_error {e : String} (h : snapshot.probe record = .error e) : ¬snapshot.IsActive record := by
  rintro ⟨probe, hprobe, -⟩
  rw [h] at hprobe
  cases hprobe

theorem isActive_iff {probe : SessionStatusProbe} (h : snapshot.probe record = .ok probe) :
    snapshot.IsActive record ↔ sessionStatusCountsAsActiveWorker probe.status = true := by
  refine ⟨?_, fun hactive => ⟨probe, h, hactive⟩⟩
  rintro ⟨other, hother, hactive⟩
  obtain rfl := Except.ok.inj (h.symm.trans hother)
  exact hactive

theorem isCompleted_iff {probe : SessionStatusProbe} (h : snapshot.probe record = .ok probe) :
    snapshot.IsCompleted record ↔ probe.status = .completed := by
  refine ⟨?_, fun hcompleted => ⟨probe, h, hcompleted⟩⟩
  rintro ⟨other, hother, hcompleted⟩
  obtain rfl := Except.ok.inj (h.symm.trans hother)
  exact hcompleted

theorem bestActiveSession_answers (hshows : snapshot.Shows effects) :
    ∀ (sessions : List AgentSessionRecord) (best : Option (Nat × ActiveRuntimeSessionProbe)),
      (∀ found ∈ best, sessionStatusCountsAsActiveWorker found.2.probe.status = true) →
      ∃ result, Answers (bestActiveSession effects snapshot.config snapshot.activeIssue.identifier
          snapshot.nowMs sessions best) (.ok result)
        ∧ (∀ found ∈ result, sessionStatusCountsAsActiveWorker found.2.probe.status = true)
        ∧ (result = none ↔ best = none
          ∧ ∀ record ∈ sessions, sessionOfIssue snapshot.activeIssue.identifier record = true →
            ¬snapshot.IsActive record)
  | [], best, hbest => ⟨best, Answers.pure, hbest, by simp⟩
  | record :: older, best, hbest => by
      rw [bestActiveSession]
      cases hsession : sessionOfIssue snapshot.activeIssue.identifier record with
      | false =>
          rw [if_neg Bool.false_ne_true]
          obtain ⟨result, hanswers, hactive, hnone⟩ :=
            bestActiveSession_answers hshows older best hbest
          exact ⟨result, hanswers, hactive, by simp [hnone, hsession]⟩
      | true =>
          rw [if_pos rfl]
          have hprobe := (probe_answers hshows record).outcome
          cases hresult : snapshot.probe record with
          | error e =>
              obtain ⟨result, hanswers, hactive, hnone⟩ :=
                bestActiveSession_answers hshows older best hbest
              rw [hresult] at hprobe
              refine ⟨result, Answers.bind hprobe ?_, hactive, ?_⟩
              · exact hanswers
              · simp [hnone, hsession, not_active_of_error hresult]
          | ok probe =>
              cases hcounts : sessionStatusCountsAsActiveWorker probe.status
                  && best.all fun found =>
                    activeSessionStatusPriority probe.status < found.1 with
              | true =>
                  have hprobeActive := (Bool.and_eq_true_iff.mp hcounts).1
                  obtain ⟨result, hanswers, hactive, hnone⟩ :=
                    bestActiveSession_answers hshows older
                      (some (activeSessionStatusPriority probe.status,
                        { state := runtimeStateFromSessionRecord record
                          sessionName := record.sessionName
                          probe })) (by simpa using hprobeActive)
                  refine ⟨result, Answers.bind (hresult ▸ hprobe) ?_, hactive, ?_⟩
                  · dsimp only
                    rw [if_pos hcounts]
                    exact hanswers
                  · simp [hnone, hsession, (isActive_iff hresult).mpr hprobeActive]
              | false =>
                  obtain ⟨result, hanswers, hactive, hnone⟩ :=
                    bestActiveSession_answers hshows older best hbest
                  refine ⟨result, Answers.bind (hresult ▸ hprobe) ?_, hactive, ?_⟩
                  · dsimp only
                    rw [hcounts, if_neg Bool.false_ne_true]
                    exact hanswers
                  · rw [hnone]
                    refine and_congr_right fun hbestNone => ?_
                    subst hbestNone
                    rw [Option.all_none, Bool.and_true] at hcounts
                    simp [hsession, isActive_iff hresult, hcounts]

theorem mem_issueSessions :
    record ∈ snapshot.issueSessions ↔ record ∈ snapshot.sessions.reverse ∧
      sessionOfIssue snapshot.activeIssue.identifier record = true :=
  List.mem_filter

theorem identifier_state (snapshot : RecoverySnapshot) :
    snapshot.state.identifier = some snapshot.activeIssue.identifier := by
  rw [RuntimeState.identifier, snapshot.active, Option.map_some]

theorem runtimeSessionProbeForState_answers (hshows : snapshot.Shows effects) :
    ∃ result, Answers (runtimeSessionProbeForState effects snapshot.config snapshot.state
        snapshot.nowMs) result
      ∧ ((∃ probe, result = .ok (some probe) ∧
          sessionStatusCountsAsActiveWorker probe.status = true) ↔ snapshot.OwnSessionActive) := by
  unfold runtimeSessionProbeForState RecoverySnapshot.OwnSessionActive
  cases hawaited : awaitedSession snapshot.state with
  | false => exact ⟨.ok none, Answers.pure, by simp⟩
  | true =>
      rw [if_pos rfl]
      cases hid : snapshot.state.backendSessionId with
      | none => exact ⟨.ok none, Answers.pure, by simp⟩
      | some sessionId =>
          cases hlatest : latestSession snapshot.sessions sessionId with
          | none =>
              refine ⟨.ok none, Answers.bind hshows.registry ?_, by simp [hlatest]⟩
              rw [hlatest]
              exact Answers.pure
          | some record =>
              have hprobe := probe_answers hshows record
              cases hresult : snapshot.probe record with
              | error e =>
                  rw [hresult] at hprobe
                  refine ⟨.error e, Answers.bind hshows.registry ?_, ?_⟩
                  · rw [hlatest]
                    exact Answers.bind_error hprobe
                  · simp [hlatest, not_active_of_error hresult]
              | ok probe =>
                  rw [hresult] at hprobe
                  refine ⟨.ok (some probe), Answers.bind hshows.registry ?_, ?_⟩
                  · rw [hlatest]
                    exact Answers.bind hprobe Answers.pure
                  · simp [hlatest, isActive_iff hresult]

/-- Some session keeps the issue's worker active. -/
def RecoverySnapshot.HasActiveSession (snapshot : RecoverySnapshot) : Prop :=
  (∃ record ∈ snapshot.issueSessions, snapshot.IsActive record) ∨ snapshot.OwnSessionActive

theorem activeRuntimeSessionForIssue_answers (hshows : snapshot.Shows effects) :
    ∃ session, Answers (activeRuntimeSessionForIssue effects snapshot.config snapshot.state
        snapshot.nowMs) (.ok session)
      ∧ (∀ found ∈ session, sessionStatusCountsAsActiveWorker found.probe.status = true)
      ∧ (session = none ↔ ¬snapshot.HasActiveSession) := by
  unfold activeRuntimeSessionForIssue
  rw [identifier_state]
  dsimp only
  obtain ⟨best, hbest, hcounts, hnone⟩ :=
    bestActiveSession_answers hshows snapshot.sessions.reverse none (by simp)
  have hlisted : best = none ↔ ¬∃ record ∈ snapshot.issueSessions, snapshot.IsActive record := by
    rw [hnone]
    simp only [mem_issueSessions, true_and]
    exact ⟨fun h ⟨record, ⟨hmem, hsession⟩, hactive⟩ => h record hmem hsession hactive,
      fun h record hmem hsession hactive => h ⟨record, ⟨hmem, hsession⟩, hactive⟩⟩
  cases best with
  | some found =>
      refine ⟨some found.2, Answers.bind hshows.registry (Answers.bind hbest Answers.pure), ?_, ?_⟩
      · intro session hsession
        obtain rfl := Option.some.inj hsession
        exact hcounts found rfl
      · have hfound := not_not.mp fun h => Option.some_ne_none found (hlisted.mpr h)
        exact ⟨nofun, fun h => absurd (Or.inl hfound) h⟩
  | none =>
      have hnot := hlisted.mp rfl
      obtain ⟨result, hanswers, hown⟩ := runtimeSessionProbeForState_answers hshows
      have hactive : snapshot.HasActiveSession ↔ snapshot.OwnSessionActive :=
        or_iff_right hnot
      cases result with
      | error e =>
          refine ⟨none, Answers.bind hshows.registry (Answers.bind hbest
            (Answers.bind hanswers.outcome Answers.pure)), by simp, ?_⟩
          rw [hactive, ← hown]
          simp
      | ok probed =>
          refine ⟨_, Answers.bind hshows.registry (Answers.bind hbest
            (Answers.bind hanswers.outcome Answers.pure)), ?_, ?_⟩
          · intro session hsession
            obtain ⟨probe, hprobe, rfl⟩ := Option.map_eq_some_iff.mp hsession
            exact (Option.filter_eq_some_iff.mp hprobe).2
          · rw [hactive, ← hown, Option.map_eq_none_iff]
            cases probed with
            | none => simp
            | some probe => simp [Option.filter_some]

/-! ### The terminal session -/

/-- The session the scan for a terminal session stops at, if it is completed. -/
def RecoverySnapshot.terminalSession (snapshot : RecoverySnapshot) :
    List AgentSessionRecord → Option ActiveRuntimeSessionProbe
  | [] => none
  | record :: older =>
      match snapshot.probe record with
      | .error _ => snapshot.terminalSession older
      | .ok probe =>
          if probe.status = .completed then
            some { state := terminalState record, sessionName := record.sessionName, probe }
          else if sessionStatusCountsAsActiveWorker probe.status then none
          else snapshot.terminalSession older

theorem latestTerminalSession_answers (hshows : snapshot.Shows effects) :
    ∀ sessions : List AgentSessionRecord,
      Answers (latestTerminalSession effects snapshot.config snapshot.activeIssue.identifier
          snapshot.nowMs sessions)
        (.ok (snapshot.terminalSession
          (sessions.filter (sessionOfIssue snapshot.activeIssue.identifier))))
  | [] => Answers.pure
  | record :: older => by
      have hrest := latestTerminalSession_answers hshows older
      rw [latestTerminalSession]
      cases hsession : sessionOfIssue snapshot.activeIssue.identifier record with
      | false =>
          rw [if_neg Bool.false_ne_true, List.filter_cons_of_neg (by simp [hsession])]
          exact hrest
      | true =>
          rw [if_pos rfl, List.filter_cons_of_pos hsession, RecoverySnapshot.terminalSession]
          have hprobe := (probe_answers hshows record).outcome
          cases hresult : snapshot.probe record with
          | error e =>
              rw [hresult] at hprobe
              refine Answers.bind hprobe ?_
              exact hrest
          | ok probe =>
              rw [hresult] at hprobe
              refine Answers.bind hprobe ?_
              dsimp only
              split
              · exact Answers.pure
              · split
                · exact Answers.pure
                · exact hrest

theorem terminalRuntimeSessionForIssue_answers (hshows : snapshot.Shows effects) :
    Answers (terminalRuntimeSessionForIssue effects snapshot.config snapshot.state snapshot.nowMs)
      (.ok (snapshot.terminalSession snapshot.issueSessions)) := by
  unfold terminalRuntimeSessionForIssue
  rw [identifier_state]
  exact Answers.bind hshows.registry (latestTerminalSession_answers hshows _)

theorem terminalSession_of_not_active :
    ∀ sessions : List AgentSessionRecord, (∀ record ∈ sessions, ¬snapshot.IsActive record) →
      match snapshot.terminalSession sessions with
      | none => ∀ record ∈ sessions, ¬snapshot.IsCompleted record
      | some session => ∃ newer completed older, sessions = newer ++ completed :: older
          ∧ (∀ record ∈ newer, ¬snapshot.IsCompleted record) ∧ snapshot.IsCompleted completed
          ∧ session.state = terminalState completed
  | [], _ => by simp [RecoverySnapshot.terminalSession]
  | record :: older, hactive => by
      have hrest := terminalSession_of_not_active older fun other hother =>
        hactive other (List.mem_cons_of_mem _ hother)
      -- a session that is passed over leaves what the older ones give
      have hskip : ¬snapshot.IsCompleted record →
          snapshot.terminalSession (record :: older) = snapshot.terminalSession older →
          match snapshot.terminalSession (record :: older) with
          | none => ∀ other ∈ record :: older, ¬snapshot.IsCompleted other
          | some session => ∃ newer completed rest, record :: older = newer ++ completed :: rest
              ∧ (∀ other ∈ newer, ¬snapshot.IsCompleted other) ∧ snapshot.IsCompleted completed
              ∧ session.state = terminalState completed := by
        intro hnot heq
        rw [heq]
        cases hterminal : snapshot.terminalSession older with
        | none =>
            rw [hterminal] at hrest
            exact List.forall_mem_cons.mpr ⟨hnot, hrest⟩
        | some session =>
            rw [hterminal] at hrest
            obtain ⟨newer, completed, rest, rfl, hnewer, hcompleted, hstate⟩ := hrest
            exact ⟨record :: newer, completed, rest, rfl, List.forall_mem_cons.mpr ⟨hnot, hnewer⟩,
              hcompleted, hstate⟩
      cases hresult : snapshot.probe record with
      | error e =>
          refine hskip ?_ (by rw [RecoverySnapshot.terminalSession, hresult])
          rintro ⟨probe, hprobe, -⟩
          rw [hresult] at hprobe
          cases hprobe
      | ok probe =>
          have hnotActive : ¬sessionStatusCountsAsActiveWorker probe.status = true := fun h =>
            hactive record List.mem_cons_self ((isActive_iff hresult).mpr h)
          by_cases hstatus : probe.status = .completed
          · rw [RecoverySnapshot.terminalSession, hresult]
            dsimp only
            rw [if_pos hstatus]
            exact ⟨[], record, older, rfl, by simp, (isCompleted_iff hresult).mpr hstatus, rfl⟩
          · refine hskip (fun h => hstatus ((isCompleted_iff hresult).mp h)) ?_
            rw [RecoverySnapshot.terminalSession, hresult]
            dsimp only
            rw [if_neg hstatus, if_neg hnotActive]

end

/-! ### The candidate -/

/-- A run that offers at most one more candidate, in an allowed state. -/
def AddsCandidate (run after : PreflightRun) (allowed : RuntimeState → Prop) : Prop :=
  ∀ candidate, after.recoverableStates = run.recoverableStates ++ [candidate] →
    allowed candidate.state

theorem addsCandidate_none {run after : PreflightRun} {allowed : RuntimeState → Prop}
    (h : after.recoverableStates = run.recoverableStates) : AddsCandidate run after allowed := by
  intro candidate hadded
  have hlength := congrArg List.length (h.symm.trans hadded)
  simp at hlength

theorem addsCandidate_retainRecoverable {run : PreflightRun} {state : RuntimeState}
    {issue : TrackerIssue} {reason : String} {allowed : RuntimeState → Prop} (h : allowed state) :
    AddsCandidate run (run.retainRecoverable state issue reason) allowed := by
  intro candidate hadded
  obtain rfl := List.singleton_inj.mp (List.append_cancel_left hadded)
  exact h

theorem preflightByAction_adds (effects : PreflightEffects ω) (config : PreflightConfig)
    (state : RuntimeState) (nowMs : UInt64) (recover : Bool) (run : PreflightRun) :
    Returns (preflightByAction effects config state nowMs recover run)
      fun after => AddsCandidate run after (· = state) := by
  refine Returns.seq fun action => ?_
  cases action with
  | «continue» =>
      refine Returns.seq fun issue => Returns.pure (addsCandidate_none ?_)
      split <;> rfl
  | archiveStale issue trackerState reason =>
      exact Returns.seq fun _ => Returns.seq fun _ => Returns.pure (addsCandidate_none rfl)
  | retryLater issue retry dueInMs =>
      exact Returns.seq fun _ => Returns.pure (addsCandidate_none rfl)
  | stalled issue stall =>
      show Returns (retainStalled effects config state issue stall recover run) _
      cases recover with
      | false => exact Returns.seq fun _ => Returns.pure (addsCandidate_none rfl)
      | true =>
          refine Returns.seq fun read => ?_
          cases read with
          | none => exact Returns.pure (addsCandidate_none rfl)
          | some read =>
              exact Returns.seq fun _ => Returns.pure (addsCandidate_retainRecoverable rfl)
  | block reason => exact Returns.seq fun _ => Returns.pure (addsCandidate_none rfl)

theorem retainByReason_adds (effects : PreflightEffects ω) (config : PreflightConfig)
    (state : RuntimeState) (issue : TrackerIssue) (nowMs : UInt64) (run : PreflightRun) :
    Returns (retainByReason effects config state issue nowMs run)
      fun recovered => ∀ after ∈ recovered, AddsCandidate run after (· = state) := by
  refine Returns.seq fun reason => ?_
  cases reason with
  | none => exact Returns.pure (by simp)
  | some reason =>
      refine Returns.seq fun _ => Returns.pure fun after hafter => ?_
      obtain rfl := Option.some.inj hafter
      exact addsCandidate_retainRecoverable rfl

section
variable {snapshot : RecoverySnapshot} {effects : PreflightEffects ω}

/-- The candidate is the state itself or the state of the terminal session, and
there is no terminal session to take beside an active one. -/
def RecoverySnapshot.MayOffer (snapshot : RecoverySnapshot) (state : RuntimeState) : Prop :=
  state = snapshot.state ∨ ¬snapshot.HasActiveSession ∧
    ∃ session, snapshot.terminalSession snapshot.issueSessions = some session ∧
      state = session.state

theorem retainTerminalSession_adds (hshows : snapshot.Shows effects)
    (hactive : ¬snapshot.HasActiveSession) (run : PreflightRun) :
    Returns (retainTerminalSession effects snapshot.config snapshot.state snapshot.issue
        snapshot.nowMs run)
      fun recovered => ∀ after ∈ recovered, AddsCandidate run after snapshot.MayOffer := by
  refine Returns.bind (terminalRuntimeSessionForIssue_answers hshows).returns ?_
  rintro session rfl
  cases hterminal : snapshot.terminalSession snapshot.issueSessions with
  | none =>
      refine (retainByReason_adds effects snapshot.config snapshot.state snapshot.issue
        snapshot.nowMs run).mono fun recovered hrecovered after hafter candidate hadded => ?_
      exact Or.inl (hrecovered after hafter candidate hadded)
  | some session =>
      refine Returns.seq fun _ => Returns.pure fun after hafter => ?_
      obtain rfl := Option.some.inj hafter
      exact addsCandidate_retainRecoverable (Or.inr ⟨hactive, session, hterminal, rfl⟩)

theorem filter_counts_eq_self {session : Option ActiveRuntimeSessionProbe}
    (h : ∀ found ∈ session, sessionStatusCountsAsActiveWorker found.probe.status = true) :
    session.filter (fun session => sessionStatusCountsAsActiveWorker session.probe.status)
      = session := by
  cases session with
  | none => rfl
  | some found => rw [Option.filter_some, if_pos (h found rfl)]

theorem recoverInProgress_adds (hshows : snapshot.Shows effects) (run : PreflightRun) :
    Returns (recoverInProgress effects snapshot.config snapshot.state snapshot.issue snapshot.nowMs
        run)
      fun recovered => ∀ after ∈ recovered, AddsCandidate run after snapshot.MayOffer := by
  obtain ⟨session, hanswers, hcounts, hnone⟩ := activeRuntimeSessionForIssue_answers hshows
  refine Returns.bind hanswers.returns ?_
  rintro found rfl
  rw [filter_counts_eq_self hcounts]
  cases found with
  | none => exact retainTerminalSession_adds hshows (hnone.mp rfl) run
  | some found =>
      refine Returns.seq fun _ => Returns.pure fun after hafter => ?_
      obtain rfl := Option.some.inj hafter
      exact addsCandidate_none rfl

theorem runtimeStateInProgressIssue_answers (hshows : snapshot.Shows effects) :
    Answers (runtimeStateInProgressIssue effects snapshot.config snapshot.state)
      (.ok (some snapshot.issue)) := by
  unfold runtimeStateInProgressIssue
  rw [snapshot.active]
  dsimp only
  refine Answers.bind hshows.tracker ?_
  rw [Option.filter_some, if_pos (beq_iff_eq.mpr snapshot.inProgress)]
  exact Answers.pure

theorem preflightState_adds (hshows : snapshot.Shows effects) (run : PreflightRun) :
    Returns (preflightState effects snapshot.config snapshot.nowMs true run snapshot.state)
      fun after => AddsCandidate run after snapshot.MayOffer := by
  unfold preflightState
  rw [snapshot.mainLane]
  refine Returns.bind (runtimeStateInProgressIssue_answers hshows).outcome.returns ?_
  rintro read rfl
  refine Returns.bind (recoverInProgress_adds hshows run) fun recovered hrecovered => ?_
  cases recovered with
  | some after => exact Returns.pure (hrecovered after rfl)
  | none =>
      refine (preflightByAction_adds effects snapshot.config snapshot.state snapshot.nowMs true
        run).mono fun after hafter candidate hadded => ?_
      exact Or.inl (hafter candidate hadded)

end

/-- Where the preflight replaces the state by a candidate, it is that of the
latest session of the issue, which is completed. -/
def AdoptsLatest (snapshot : RecoverySnapshot) (run after : PreflightRun) : Prop :=
  AddsCandidate run after fun state => state ≠ snapshot.state →
    ∃ latest older, snapshot.issueSessions = latest :: older ∧ snapshot.IsCompleted latest
      ∧ state = terminalState latest

/-- No session is active, the latest session of the issue is not completed, and
an older one is. -/
structure SupersededCompletion (snapshot : RecoverySnapshot) : Prop where
  idle : ¬snapshot.HasActiveSession
  older : ∃ latest newer completed rest,
    snapshot.issueSessions = latest :: newer ++ completed :: rest
      ∧ (∀ record ∈ latest :: newer, ¬snapshot.IsCompleted record)
      ∧ snapshot.IsCompleted completed ∧ terminalState completed ≠ snapshot.state

theorem adoptsLatest_of_not_superseded {snapshot : RecoverySnapshot}
    (hnot : ¬SupersededCompletion snapshot) {run after : PreflightRun}
    (hadds : AddsCandidate run after snapshot.MayOffer) : AdoptsLatest snapshot run after := by
  intro candidate hadded hreplaced
  obtain hsame | ⟨hidle, session, hterminal, hstate⟩ := hadds candidate hadded
  · exact absurd hsame hreplaced
  · have hscan := terminalSession_of_not_active snapshot.issueSessions fun record hmem hactive =>
      hidle (Or.inl ⟨record, hmem, hactive⟩)
    rw [hterminal] at hscan
    obtain ⟨newer, completed, older, hlist, hnewer, hcompleted, hsession⟩ := hscan
    have hcandidate := hstate.trans hsession
    cases newer with
    | nil => exact ⟨completed, older, hlist, hcompleted, hcandidate⟩
    | cons latest newer =>
        exact absurd ⟨hidle, latest, newer, completed, older, hlist, hnewer, hcompleted,
          fun heq => hreplaced (hcandidate.trans heq)⟩ hnot

/-- An outside that shows the snapshot and records everything. -/
def RecoverySnapshot.effects (snapshot : RecoverySnapshot) : PreflightEffects Unit :=
  steadyEffects (fun _ => .ok (some snapshot.issue)) snapshot.sessions snapshot.pane snapshot.log

theorem shows_effects (snapshot : RecoverySnapshot) : snapshot.Shows snapshot.effects where
  tracker := Answers.ofExcept
  registry := Answers.pure
  pane _ := Answers.ofExcept
  log _ := Answers.ofExcept

theorem terminalSession_append {snapshot : RecoverySnapshot} {completed : AgentSessionRecord}
    (rest : List AgentSessionRecord) (hcompleted : snapshot.IsCompleted completed) :
    ∀ newer : List AgentSessionRecord,
      (∀ record ∈ newer, ¬snapshot.IsCompleted record ∧ ¬snapshot.IsActive record) →
      ∃ session, snapshot.terminalSession (newer ++ completed :: rest) = some session
        ∧ session.state = terminalState completed
  | [], _ => by
      obtain ⟨probe, hprobe, hstatus⟩ := hcompleted
      refine ⟨{ state := terminalState completed, sessionName := completed.sessionName, probe },
        ?_, rfl⟩
      rw [List.nil_append, RecoverySnapshot.terminalSession, hprobe]
      exact if_pos hstatus
  | record :: newer, hnewer => by
      obtain ⟨session, hsession, hstate⟩ := terminalSession_append rest hcompleted newer
        fun other hother => hnewer other (List.mem_cons_of_mem _ hother)
      obtain ⟨hnotCompleted, hnotActive⟩ := hnewer record List.mem_cons_self
      refine ⟨session, ?_, hstate⟩
      rw [List.cons_append, RecoverySnapshot.terminalSession]
      cases hresult : snapshot.probe record with
      | error e => exact hsession
      | ok probe =>
          rw [isCompleted_iff hresult] at hnotCompleted
          rw [isActive_iff hresult] at hnotActive
          dsimp only
          rw [if_neg hnotCompleted, if_neg hnotActive]
          exact hsession

theorem superseded_adopted {snapshot : RecoverySnapshot} (h : SupersededCompletion snapshot) :
    ∃ after, preflightState snapshot.effects snapshot.config snapshot.nowMs true .empty
        snapshot.state () = (.ok after, ()) ∧ ¬AdoptsLatest snapshot .empty after := by
  obtain ⟨latest, newer, completed, rest, hlist, hnewer, hcompleted, hreplaced⟩ := h.older
  have hidle : ∀ record ∈ latest :: newer, ¬snapshot.IsActive record := by
    intro record hmem hactive
    refine h.idle (Or.inl ⟨record, ?_, hactive⟩)
    rw [hlist]
    exact List.mem_append_left _ hmem
  obtain ⟨session, hsession, hstate⟩ := terminalSession_append rest hcompleted (latest :: newer)
    fun record hmem => ⟨hnewer record hmem, hidle record hmem⟩
  rw [← hlist] at hsession
  have hshows := shows_effects snapshot
  obtain ⟨active, hactive, -, hnone⟩ := activeRuntimeSessionForIssue_answers hshows
  obtain rfl := hnone.mpr h.idle
  have hterminal := terminalRuntimeSessionForIssue_answers hshows
  rw [hsession] at hterminal
  have hadopts : Answers (preflightState snapshot.effects snapshot.config snapshot.nowMs true
      .empty snapshot.state) (.ok (PreflightRun.empty.retainRecoverable session.state
        snapshot.issue (terminalSessionReason session))) := by
    unfold preflightState
    rw [snapshot.mainLane]
    have hrecover : Answers (recoverInProgress snapshot.effects snapshot.config snapshot.state
        snapshot.issue snapshot.nowMs .empty) (.ok (some (PreflightRun.empty.retainRecoverable
          session.state snapshot.issue (terminalSessionReason session)))) := by
      refine Answers.bind hactive (Answers.bind hterminal ?_)
      exact Answers.bind Answers.pure Answers.pure
    refine Answers.bind (runtimeStateInProgressIssue_answers hshows).outcome ?_
    refine Answers.bind hrecover ?_
    exact Answers.pure
  obtain ⟨after, hrun⟩ := hadopts.exists_run ()
  refine ⟨_, hrun, fun hlatest => ?_⟩
  obtain ⟨first, older, hfirst, hcompletedFirst, -⟩ :=
    hlatest { state := session.state, issue := snapshot.issue, reason := terminalSessionReason session }
      rfl (hstate ▸ hreplaced)
  obtain ⟨rfl, -⟩ := List.cons.inj (hlist.symm.trans hfirst)
  exact hnewer latest List.mem_cons_self hcompletedFirst

/-- The preflight adopts only the latest session of an issue exactly when no
older completion stands behind sessions that are passed over. -/
theorem adoptsLatest_iff (snapshot : RecoverySnapshot) :
    (∀ (ω : Type) (effects : PreflightEffects ω), snapshot.Shows effects →
      ∀ (run : PreflightRun) (world : ω) (after : PreflightRun) (next : ω),
        preflightState effects snapshot.config snapshot.nowMs true run snapshot.state world
            = (.ok after, next) →
          AdoptsLatest snapshot run after)
      ↔ ¬SupersededCompletion snapshot := by
  constructor
  · intro hall hsuperseded
    obtain ⟨after, hrun, hnot⟩ := superseded_adopted hsuperseded
    exact hnot (hall Unit snapshot.effects (shows_effects snapshot) .empty () after () hrun)
  · intro hnot ω effects hshows run world after next hrun
    exact adoptsLatest_of_not_superseded hnot (preflightState_adds hshows run world after next hrun)

/-! A session completed, and a second one of the same issue failed: the first is
taken up. -/

def finishedSession (sessionName : String) (attempt : UInt32)
    (status : Sessions.SessionStatus) : AgentSessionRecord where
  issueId := some "#7"
  issueIdentifier := some "#7"
  issueTitle := none
  lane := "main"
  runId := none
  thread := none
  sessionSource := some "codex-app-server"
  claimValue := none
  actorRole := none
  actorLabel := none
  gitAuthor := none
  profileId := none
  instanceName := none
  worktree := "/work/7"
  branch := some "issue-7"
  backend := "codex-app-server"
  sessionName := sessionName
  processId := none
  paneTarget := sessionName
  promptArtifactPath := "/work/7/prompt.md"
  logPath := "/work/7/session.log"
  attachCommand := ""
  attempt := attempt
  status := status
  startedAtMs := 0
  updatedAtMs := 0

def failedRework : RecoverySnapshot where
  config := defaultConfig
  nowMs := 1000
  state := { storedState "#7" "main" with
    backendSessionId := some "second"
    lastEvent := some "SessionRunning"
    attemptCount := 2 }
  activeIssue := { id := "#7", identifier := "#7" }
  issue := issueInState "#7" "In Progress"
  sessions := [finishedSession "first" 1 .completed, finishedSession "second" 2 .failed]
  pane := fun _ => .ok ""
  log := fun _ => .ok none
  mainLane := rfl
  active := rfl
  inProgress := rfl

theorem failed_rework_superseded :
    ∃ after, preflightState failedRework.effects failedRework.config failedRework.nowMs true .empty
        failedRework.state () = (.ok after, ())
      ∧ after.recoverableStates.map (fun candidate => candidate.state)
        = [terminalState (finishedSession "first" 1 .completed)]
      ∧ failedRework.issueSessions.head? = some (finishedSession "second" 2 .failed) :=
  ⟨_, rfl, rfl, rfl⟩

end SheaSymphony.Preflight

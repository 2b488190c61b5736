import SheaSymphony.ResumePreflight

/-!
# Where the states of a resume preflight come from

What the preflight retains for a stored state is that state, or one made from a
session of its issue that was found at work or completed. It offers the state itself
only when no retry is waiting, and archives it only when the tracker shows its issue
in another state. A session of the registry adds the state made from it.
-/

namespace SheaSymphony.Preflight

open Interrupted (MayReturn Program Returns)
open Model (TrackerIssue normalizeState)
open SheaSymphony.Runtime (RuntimeState)
open Sessions (AgentSessionRecord)

variable {ω : Type} (effects : PreflightEffects ω) (config : PreflightConfig) (nowMs : UInt64)

/-- The registry can show the record. -/
def Shown (record : AgentSessionRecord) : Prop :=
  ∃ sessions, MayReturn effects.loadSessionRegistry sessions ∧ record ∈ sessions

/-- A session of the issue that a probe can find at work or completed. -/
structure Adoptable (issue : String) (record : AgentSessionRecord) : Prop where
  shown : Shown effects record
  ofIssue : sessionOfIssue issue record = true
  probed : ∃ probe, MayReturn (runtimeSessionProbeFromRecord effects config record nowMs) probe
    ∧ (sessionStatusCountsAsActiveWorker probe.status = true ∨ probe.status = .completed)

/-- A state made from such a session, with the event of a running or of an ended one. -/
def AdoptedFor (issue : String) (state : RuntimeState) : Prop :=
  ∃ record, Adoptable effects config nowMs issue record ∧
    (state = runtimeStateFromSessionRecord record ∨
      state = { runtimeStateFromSessionRecord record with lastEvent := some "SessionTerminal" })

/-- The tracker can show the issue in progress. -/
def ReadInProgress (issue : String) (read : TrackerIssue) : Prop :=
  MayReturn (effects.getIssue issue) (some read)
    ∧ normalizeState config.case read.state = "in progress"

/-- No retry of the state is still waiting. -/
def RetryDue (state : RuntimeState) : Prop := ∀ retry ∈ state.retry, retry.dueInMs nowMs = 0

/-! ## Sessions -/

section
variable {effects config nowMs} {issue : String}

theorem bestActiveSession_adopted :
    ∀ (sessions : List AgentSessionRecord) (best : Option (Nat × ActiveRuntimeSessionProbe)),
      (∀ record ∈ sessions, Shown effects record) →
      (∀ found ∈ best, AdoptedFor effects config nowMs issue found.2.state) →
      Returns (bestActiveSession effects config issue nowMs sessions best) fun best =>
        ∀ found ∈ best, AdoptedFor effects config nowMs issue found.2.state
  | [], best, _, hbest => Returns.pure hbest
  | record :: older, best, hshown, hbest => by
      have hrest := fun best hbest => bestActiveSession_adopted older best
        (fun other hother => hshown other (List.mem_cons_of_mem _ hother)) hbest
      rw [bestActiveSession]
      cases hsession : sessionOfIssue issue record with
      | false =>
          rw [if_neg Bool.false_ne_true]
          exact hrest best hbest
      | true =>
          rw [if_pos rfl]
          refine Returns.bind Returns.mayReturn.outcome fun probed hprobed => ?_
          cases probed with
          | error e => exact hrest best hbest
          | ok probe =>
              dsimp only
              split
              · next hactive =>
                refine hrest _ fun found hfound => ?_
                obtain rfl := Option.some.inj hfound
                exact ⟨record, ⟨hshown record List.mem_cons_self, hsession, probe, hprobed probe rfl,
                  Or.inl (Bool.and_eq_true_iff.mp hactive).1⟩, Or.inl rfl⟩
              · exact hrest best hbest

theorem latestTerminalSession_adopted :
    ∀ sessions : List AgentSessionRecord, (∀ record ∈ sessions, Shown effects record) →
      Returns (latestTerminalSession effects config issue nowMs sessions) fun session =>
        ∀ found ∈ session, AdoptedFor effects config nowMs issue found.state
  | [], _ => Returns.pure (by simp)
  | record :: older, hshown => by
      have hrest := latestTerminalSession_adopted older fun other hother =>
        hshown other (List.mem_cons_of_mem _ hother)
      rw [latestTerminalSession]
      cases hsession : sessionOfIssue issue record with
      | false =>
          rw [if_neg Bool.false_ne_true]
          exact hrest
      | true =>
          rw [if_pos rfl]
          refine Returns.bind Returns.mayReturn.outcome fun probed hprobed => ?_
          cases probed with
          | error e => exact hrest
          | ok probe =>
              dsimp only
              split
              · next hcompleted =>
                refine Returns.pure fun found hfound => ?_
                obtain rfl := Option.some.inj hfound
                exact ⟨record, ⟨hshown record List.mem_cons_self, hsession, probe, hprobed probe rfl,
                  Or.inr hcompleted⟩, Or.inr rfl⟩
              · split
                · exact Returns.pure (by simp)
                · exact hrest

end

/-! ## One state -/

/-- The state is the original or adopted for it. -/
def TakenFor (recover : Bool) (original state : RuntimeState) : Prop :=
  state = original ∨ recover = true ∧
    ∃ issue, original.identifier = some issue ∧ AdoptedFor effects config nowMs issue state

/-- The state may be offered for recovery. -/
def OfferedFor (recover : Bool) (original state : RuntimeState) : Prop :=
  state = original ∧ RetryDue nowMs original ∨ recover = true ∧
    ∃ issue, original.identifier = some issue ∧ AdoptedFor effects config nowMs issue state

/-- What the preflight does with one state. -/
inductive Handled (recover : Bool) (run : PreflightRun) (original : RuntimeState) :
    PreflightRun → Prop where
  | retained : Handled recover run original (run.retain original)
  | active {state : RuntimeState} (hmain : runtimeStateIsMainLane original = true)
      (h : TakenFor effects config nowMs recover original state) :
      Handled recover run original (run.retainActive state)
  | recoverable {state : RuntimeState} {issue : String} {read : TrackerIssue} {reason : String}
      (hmain : runtimeStateIsMainLane original = true)
      (h : OfferedFor effects config nowMs recover original state)
      (hissue : original.identifier = some issue) (hread : ReadInProgress effects config issue read) :
      Handled recover run original (run.retainRecoverable state read reason)
  | archived {issue : String} {read : TrackerIssue}
      (hmain : runtimeStateIsMainLane original = true) (hissue : original.identifier = some issue)
      (hread : MayReturn (effects.getIssue issue) (some read))
      (hgone : normalizeState config.case read.state ≠ "in progress") :
      Handled recover run original (run.archive original)
  | blocked {after : PreflightRun} {reason : String} (h : Handled recover run original after) :
      Handled recover run original (after.block reason)

variable {read : TrackerIssue}

section
variable {effects config nowMs}

theorem activeRuntimeSessionForIssue_taken (original : RuntimeState) :
    Returns (activeRuntimeSessionForIssue effects config original nowMs) fun session =>
      ∀ found ∈ session, TakenFor effects config nowMs true original found.state := by
  unfold activeRuntimeSessionForIssue
  cases hissue : original.identifier with
  | none => exact Returns.pure (by simp)
  | some issue =>
      refine Returns.bind Returns.mayReturn fun sessions hsessions => ?_
      have hshown : ∀ record ∈ sessions.reverse, Shown effects record := fun record hrecord =>
        ⟨sessions, hsessions, List.mem_reverse.mp hrecord⟩
      refine Returns.bind (bestActiveSession_adopted sessions.reverse none hshown (by simp))
        fun best hbest => ?_
      cases best with
      | some best =>
          refine Returns.pure fun found hfound => ?_
          obtain rfl := Option.some.inj hfound
          exact Or.inr ⟨rfl, issue, hissue, hbest best rfl⟩
      | none =>
          refine Returns.seq fun probed => ?_
          cases probed with
          | error e => exact Returns.pure (by simp)
          | ok probe =>
              refine Returns.pure fun found hfound => ?_
              obtain ⟨-, -, rfl⟩ := Option.map_eq_some_iff.mp hfound
              exact Or.inl rfl

theorem terminalRuntimeSessionForIssue_adopted (original : RuntimeState) :
    Returns (terminalRuntimeSessionForIssue effects config original nowMs) fun session =>
      ∀ found ∈ session, ∃ issue, original.identifier = some issue
        ∧ AdoptedFor effects config nowMs issue found.state := by
  unfold terminalRuntimeSessionForIssue
  cases hissue : original.identifier with
  | none => exact Returns.pure (by simp)
  | some issue =>
      refine Returns.bind Returns.mayReturn fun sessions hsessions => ?_
      refine (latestTerminalSession_adopted sessions.reverse fun record hrecord =>
        ⟨sessions, hsessions, List.mem_reverse.mp hrecord⟩).mono fun session hsession found hfound =>
          ⟨issue, rfl, hsession found hfound⟩

theorem runtimeRecoveryReason_due (state : RuntimeState) :
    Returns (runtimeRecoveryReason effects config state nowMs) fun reason =>
      reason.isSome → RetryDue nowMs state := by
  unfold runtimeRecoveryReason
  cases hretry : state.retry with
  | none => exact Returns.any.mono fun _ _ _ retry hmem => by simp [hretry] at hmem
  | some retry =>
      dsimp only
      split
      · exact Returns.pure (by simp)
      · next hdue =>
        refine Returns.pure fun _ other hother => ?_
        obtain rfl := Option.some.inj (hretry.symm.trans hother)
        exact Nat.eq_zero_of_not_pos hdue

theorem runtimeStateInProgressIssue_read (state : RuntimeState) :
    Returns (runtimeStateInProgressIssue effects config state) fun answer => ∀ read ∈ answer,
      ∃ issue, state.identifier = some issue ∧ ReadInProgress effects config issue read := by
  unfold runtimeStateInProgressIssue
  cases hactive : state.activeIssue with
  | none => exact Returns.pure (by simp)
  | some activeIssue =>
      refine Returns.bind Returns.mayReturn fun answer hanswer => Returns.pure fun read hread => ?_
      obtain ⟨rfl, hstate⟩ := Option.filter_eq_some_iff.mp hread
      refine ⟨activeIssue.identifier, ?_, hanswer, beq_iff_eq.mp hstate⟩
      rw [RuntimeState.identifier, hactive, Option.map_some]

variable {issue : String}

section
variable {original : RuntimeState}
  (hmain : runtimeStateIsMainLane original = true) (hissue : original.identifier = some issue)
  (hread : ReadInProgress effects config issue read)
include hmain hissue hread

theorem retainByReason_handled (recover : Bool) (run : PreflightRun) :
    Returns (retainByReason effects config original read nowMs run) fun recovered =>
      ∀ after ∈ recovered, Handled effects config nowMs recover run original after := by
  refine Returns.bind (runtimeRecoveryReason_due original) fun reason hdue => ?_
  cases reason with
  | none => exact Returns.pure (by simp)
  | some reason =>
      refine Returns.seq fun _ => Returns.pure fun after hafter => ?_
      obtain rfl := Option.some.inj hafter
      exact .recoverable hmain (Or.inl ⟨rfl, hdue rfl⟩) hissue hread

theorem retainTerminalSession_handled (run : PreflightRun) :
    Returns (retainTerminalSession effects config original read nowMs run) fun recovered =>
      ∀ after ∈ recovered, Handled effects config nowMs true run original after := by
  refine Returns.bind (terminalRuntimeSessionForIssue_adopted original) fun session hsession => ?_
  cases session with
  | none => exact retainByReason_handled hmain hissue hread true run
  | some session =>
      refine Returns.seq fun _ => Returns.pure fun after hafter => ?_
      obtain rfl := Option.some.inj hafter
      exact .recoverable hmain (Or.inr ⟨rfl, hsession session rfl⟩) hissue hread

theorem recoverInProgress_handled (run : PreflightRun) :
    Returns (recoverInProgress effects config original read nowMs run) fun recovered =>
      ∀ after ∈ recovered, Handled effects config nowMs true run original after := by
  refine Returns.bind (activeRuntimeSessionForIssue_taken original) fun session hsession => ?_
  cases hactive : session.filter fun session =>
      sessionStatusCountsAsActiveWorker session.probe.status with
  | none => exact retainTerminalSession_handled hmain hissue hread run
  | some found =>
      refine Returns.seq fun _ => Returns.pure fun after hafter => ?_
      obtain rfl := Option.some.inj hafter
      exact .active hmain (hsession found (Option.filter_eq_some_iff.mp hactive).1)

end

/-- What the answer of the preflight says of the state it is about. -/
def ActionFits (effects : PreflightEffects ω) (config : PreflightConfig) (state : RuntimeState) :
    ResumePreflightAction → Prop
  | .archiveStale _ _ _ => ∃ issue read, state.identifier = some issue
      ∧ MayReturn (effects.getIssue issue) (some read)
      ∧ normalizeState config.case read.state ≠ "in progress"
  | .stalled _ _ => state.retry = none
  | .continue | .retryLater _ _ _ | .block _ => True

theorem liveRuntimeStateAction_fits (state : RuntimeState)
    (activeIssue : Runtime.RuntimeIssueState) :
    ActionFits effects config state (liveRuntimeStateAction config state activeIssue nowMs) := by
  unfold liveRuntimeStateAction
  cases hretry : state.retry with
  | some retry => dsimp only; split <;> trivial
  | none =>
      dsimp only
      split
      · exact hretry
      · trivial

theorem staleRuntimeStateAction_fits {state : RuntimeState}
    (hissue : state.identifier = some issue)
    (hread : MayReturn (effects.getIssue issue) (some read))
    (hgone : normalizeState config.case read.state ≠ "in progress") :
    Returns (staleRuntimeStateAction effects config state read
      (normalizeState config.case read.state)) (ActionFits effects config state) := by
  have harchive : ∀ identifier trackerState reason, ActionFits effects config state
      (.archiveStale identifier trackerState reason) := fun _ _ _ => ⟨issue, read, hissue, hread, hgone⟩
  unfold staleRuntimeStateAction
  split
  · exact Returns.stop
  · refine Returns.seq fun status => ?_
    cases status with
    | absent => exact Returns.pure (harchive _ _ _)
    | clean path => exact Returns.pure (harchive _ _ _)
    | unknown path reason => exact Returns.pure trivial
    | dirty path =>
        dsimp only
        split
        · exact Returns.pure (harchive _ _ _)
        · exact Returns.pure trivial

theorem runLoopResumePreflight_fits (state : RuntimeState) :
    Returns (runLoopResumePreflight effects config (some state) nowMs)
      (ActionFits effects config state) := by
  unfold runLoopResumePreflight
  cases hactive : state.activeIssue with
  | none => dsimp only; rw [hactive]; exact Returns.pure trivial
  | some activeIssue =>
      have hissue : state.identifier = some activeIssue.identifier := by
        rw [RuntimeState.identifier, hactive, Option.map_some]
      dsimp only
      rw [hactive]
      refine Returns.bind Returns.mayReturn fun answer hanswer => ?_
      cases answer with
      | none => exact Returns.pure trivial
      | some read =>
          dsimp only
          split
          · exact Returns.pure (liveRuntimeStateAction_fits state activeIssue)
          · next hgone => exact staleRuntimeStateAction_fits hissue hanswer hgone

theorem retainStalled_handled (original : RuntimeState) (issueIdentifier : String)
    (stall : Runtime.RuntimeStallState) (recover : Bool) (run : PreflightRun)
    (hmain : runtimeStateIsMainLane original = true) (hretry : original.retry = none) :
    Returns (retainStalled effects config original issueIdentifier stall recover run)
      (Handled effects config nowMs recover run original) := by
  have hdue : RetryDue nowMs original := fun retry hmem => by simp [hretry] at hmem
  cases recover with
  | false =>
      exact Returns.seq fun _ => Returns.pure (.blocked (.active hmain (Or.inl rfl)))
  | true =>
      refine Returns.bind (runtimeStateInProgressIssue_read original) fun answer hanswer => ?_
      cases answer with
      | none => exact Returns.pure .retained
      | some read =>
          obtain ⟨issue, hissue, hread⟩ := hanswer read rfl
          exact Returns.seq fun _ =>
            Returns.pure (.recoverable hmain (Or.inl ⟨rfl, hdue⟩) hissue hread)

theorem preflightByAction_handled (original : RuntimeState) (recover : Bool) (run : PreflightRun)
    (hmain : runtimeStateIsMainLane original = true) :
    Returns (preflightByAction effects config original nowMs recover run)
      (Handled effects config nowMs recover run original) := by
  have hactive : Handled effects config nowMs recover run original (run.retainActive original) :=
    .active hmain (Or.inl rfl)
  refine Returns.bind (runLoopResumePreflight_fits original) fun action hfits => ?_
  cases action with
  | «continue» =>
      refine Returns.seq fun issue => Returns.pure ?_
      split
      · exact hactive
      · exact .retained
  | archiveStale issue trackerState reason =>
      obtain ⟨issue, read, hissue, hread, hgone⟩ := hfits
      exact Returns.seq fun _ => Returns.seq fun _ =>
        Returns.pure (.archived hmain hissue hread hgone)
  | retryLater issue retry dueInMs => exact Returns.seq fun _ => Returns.pure hactive
  | stalled issue stall => exact retainStalled_handled original issue stall recover run hmain hfits
  | block reason => exact Returns.seq fun _ => Returns.pure Handled.retained.blocked

theorem preflightState_handled (recover : Bool) (run : PreflightRun) (original : RuntimeState) :
    Returns (preflightState effects config nowMs recover run original)
      (Handled effects config nowMs recover run original) := by
  unfold preflightState
  cases hmain : runtimeStateIsMainLane original with
  | false => exact Returns.pure .retained
  | true =>
      have haction : Returns (preflightByAction effects config original nowMs recover run)
          (Handled effects config nowMs recover run original) :=
        preflightByAction_handled original recover run hmain
      cases recover with
      | false => exact haction
      | true =>
          refine Returns.bind (runtimeStateInProgressIssue_read original).outcome
            fun answer hanswer => ?_
          match answer with
          | .error e => exact Returns.seq fun _ => Returns.pure .retained
          | .ok none => exact haction
          | .ok (some read) =>
              obtain ⟨issue, hissue, hread⟩ := hanswer (some read) rfl read rfl
              refine Returns.bind (recoverInProgress_handled hmain hissue hread run)
                fun recovered hrecovered => ?_
              cases recovered with
              | none => exact haction
              | some after => exact Returns.pure (hrecovered after rfl)

/-! ## Sessions of the registry -/

variable (effects config) in
/-- What one session of the registry adds to the preflight. -/
inductive Added (run : PreflightRun) : PreflightRun → Prop where
  | unchanged : Added run run
  | active {issue : String} {record : AgentSessionRecord} (hnew : run.mentions issue = false)
      (h : sessionOfIssue issue record = true) :
      Added run (run.retainActive (runtimeStateFromSessionRecord record))
  | recoverable {issue : String} {record : AgentSessionRecord} {read : TrackerIssue}
      {reason : String} (hnew : run.mentions issue = false)
      (h : sessionOfIssue issue record = true) (hread : ReadInProgress effects config issue read) :
      Added run (run.retainRecoverable (runtimeStateFromSessionRecord record) read reason)

theorem recoverRegistryIssueForRestart_read (state : RuntimeState) (issue : String) :
    Returns (recoverRegistryIssueForRestart effects config state issue) fun answer =>
      ∀ read ∈ answer, ReadInProgress effects config issue read := by
  unfold recoverRegistryIssueForRestart
  have hrecover : Returns (recoverRegistryIssue effects config state issue) fun answer =>
      ∀ issue', answer = .ok issue' → ∀ read ∈ issue', ReadInProgress effects config issue read := by
    refine Returns.bind Returns.mayReturn.outcome fun answer hanswer => ?_
    cases answer with
    | error e => exact Returns.seq fun _ => Returns.pure (by simp)
    | ok answer =>
        refine Returns.pure fun issue' hissue' read hread => ?_
        obtain rfl := Except.ok.inj hissue'
        obtain ⟨rfl, hstate⟩ := Option.filter_eq_some_iff.mp hread
        exact ⟨hanswer _ rfl, beq_iff_eq.mp hstate⟩
  refine Returns.bind hrecover fun answer hanswer => ?_
  cases answer with
  | error e => exact Returns.pure (by simp)
  | ok answer => exact Returns.pure (hanswer answer rfl)

theorem restartRegisteredSession_added (record : AgentSessionRecord) (issue : String)
    (probe : Sessions.SessionStatusProbe) (run : PreflightRun) (hnew : run.mentions issue = false)
    (h : sessionOfIssue issue record = true) :
    Returns (restartRegisteredSession effects config record issue probe run)
      (Added effects config run) := by
  unfold restartRegisteredSession
  dsimp only
  split
  · refine Returns.bind (recoverRegistryIssueForRestart_read _ issue) fun answer hanswer => ?_
    cases answer with
    | none => exact Returns.pure .unchanged
    | some read =>
        refine Returns.seq fun termination => ?_
        exact Returns.seq fun _ => Returns.pure (.recoverable hnew h (hanswer read rfl))
  · exact Returns.pure .unchanged

theorem recoverUnmentionedSession_added (record : AgentSessionRecord) (issue : String)
    (run : PreflightRun) (hnew : run.mentions issue = false)
    (h : sessionOfIssue issue record = true) :
    Returns (recoverUnmentionedSession effects config nowMs record issue run)
      (Added effects config run) := by
  refine Returns.seq fun probed => ?_
  cases probed with
  | ok probe =>
      dsimp only
      split
      · refine Returns.seq fun allowed => ?_
        cases allowed with
        | true => exact Returns.seq fun _ => Returns.pure (.active hnew h)
        | false => exact Returns.pure .unchanged
      · exact restartRegisteredSession_added record issue probe run hnew h
  | error e =>
      refine Returns.bind (recoverRegistryIssueForRestart_read _ issue) fun answer hanswer => ?_
      cases answer with
      | none => exact Returns.pure .unchanged
      | some read =>
          exact Returns.seq fun _ => Returns.pure (.recoverable hnew h (hanswer read rfl))

theorem recoverRegisteredSession_added (run : PreflightRun) (record : AgentSessionRecord) :
    Returns (recoverRegisteredSession effects config nowMs run record)
      (Added effects config run) := by
  unfold recoverRegisteredSession
  cases hregistered : registeredMainRuntimeSession record with
  | false => exact Returns.pure .unchanged
  | true =>
      rw [if_pos rfl]
      cases hissue : record.issueIdentifier with
      | none => exact Returns.pure .unchanged
      | some issue =>
          have hsession : sessionOfIssue issue record = true :=
            Bool.and_eq_true_iff.mpr ⟨hregistered, beq_iff_eq.mpr hissue⟩
          dsimp only
          cases hnew : run.mentions issue with
          | true => exact Returns.pure .unchanged
          | false => exact recoverUnmentionedSession_added record issue run hnew hsession

end

end SheaSymphony.Preflight

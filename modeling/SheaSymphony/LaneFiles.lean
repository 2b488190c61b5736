import SheaSymphony.ResumeAccounts
import SheaSymphony.RuntimeStateStore
import SheaSymphony.SharedFile

/-!
# The files the lanes share

The lanes of one process share the runtime state file and the session registry.
Most of their writes read, change and write a file under its lock. The main loop
loads all states, goes through the resume preflight and saves what it retains, and
`reconcile_main_handoff_runtime_state` loads the registry and saves it with the
sessions of an issue completed: neither holds the lock in between.

What one lane wrote for an issue or a session stays until another operation is
about it, in the runs where no lane writes between such a load and its save
(`no_lost_update`).
-/

namespace SheaSymphony.LaneFiles

open Preflight (PreflightConfig PreflightEffects runLoopResumePreflightMany)
open SheaSymphony.Runtime (RuntimeState retainOtherIssues runtimeStateForIssue
  upsertRuntimeStateEntry upsertRuntimeStateEntry_of_none upsertRuntimeStateEntry_of_some)
open Sessions (AgentSessionRecord SessionStatus saveSessionRecordEntry
  updateSessionRecordStatusEntry)

variable {L ω : Type}

/-- The two files. They are read back as they were written. -/
structure Disk (L : Type) where
  states : SharedFile.File L RuntimeState
  sessions : SharedFile.File L AgentSessionRecord

/-- The disk when no lane has a file open. -/
def Disk.closed (states : List RuntimeState) (sessions : List AgentSessionRecord) : Disk L where
  states := .closed states
  sessions := .closed sessions

/-- The file operations of the lanes, each atomic. -/
inductive FileOperation (L ω : Type) where
  | upsertRuntimeState (lane : L) (state : RuntimeState)
  | removeRuntimeStateForIssue (lane : L) (issueIdentifier : String)
  | loadRuntimeStates (lane : L)
  | saveRetainedStates (lane : L) (nowMs : UInt64) (recover : Bool) (world : ω)
  | saveSessionRecord (lane : L) (record : AgentSessionRecord)
  | updateSessionRecordStatus (lane : L) (sessionId : String) (status : SessionStatus)
      (updatedAtMs : UInt64)
  | loadSessionRegistry (lane : L)
  | saveReconciledRegistry (lane : L) (issueRef : String) (nowMs : UInt64)

/-- A main session of the issue that has not ended. -/
def reconcilesSession (issueRef : String) (record : AgentSessionRecord) : Bool :=
  record.lane == "main"
    && (record.issueIdentifier.any fun identifier => Model.issueRefsMatch identifier issueRef)
    && !(record.status == .completed || record.status == .recorded || record.status == .failed)

/-- The registry with the sessions of an issue completed; it is saved when there
was one. -/
def reconcileSessions (issueRef : String) (nowMs : UInt64) (sessions : List AgentSessionRecord) :
    Option (List AgentSessionRecord) :=
  if sessions.any (reconcilesSession issueRef) then
    some (sessions.map fun record =>
      if reconcilesSession issueRef record then
        { record with status := .completed, updatedAtMs := nowMs }
      else record)
  else none

section
variable (effects : PreflightEffects ω) (config : PreflightConfig)

/-- What the main loop saves; nothing when the preflight fails. -/
def retainedStates (nowMs : UInt64) (recover : Bool) (world : ω) (states : List RuntimeState) :
    Option (List RuntimeState) :=
  match (runLoopResumePreflightMany effects config states nowMs recover world).1 with
  | .ok run => some run.retainedStates
  | .error _ => none

namespace FileOperation

def statesAccess : FileOperation L ω → Option (SharedFile.Access L RuntimeState)
  | .upsertRuntimeState _ state =>
      some (.modify fun states => upsertRuntimeStateEntry states state)
  | .removeRuntimeStateForIssue _ issueIdentifier =>
      some (.modify fun states => retainOtherIssues states issueIdentifier)
  | .loadRuntimeStates lane => some (.load lane)
  | .saveRetainedStates lane nowMs recover world =>
      some (.save lane (retainedStates effects config nowMs recover world))
  | _ => none

def sessionsAccess : FileOperation L ω → Option (SharedFile.Access L AgentSessionRecord)
  | .saveSessionRecord _ record => some (.modify fun sessions => saveSessionRecordEntry sessions record)
  | .updateSessionRecordStatus _ sessionId status updatedAtMs =>
      some (.modify fun sessions =>
        updateSessionRecordStatusEntry sessions sessionId status updatedAtMs)
  | .loadSessionRegistry lane => some (.load lane)
  | .saveReconciledRegistry lane issueRef nowMs =>
      some (.save lane (reconcileSessions issueRef nowMs))
  | _ => none

end FileOperation

variable [DecidableEq L]

def Disk.step (disk : Disk L) (operation : FileOperation L ω) : Disk L where
  states := (operation.statesAccess effects config).elim disk.states (SharedFile.step disk.states)
  sessions := operation.sessionsAccess.elim disk.sessions (SharedFile.step disk.sessions)

/-- No lane writes a file while another is between its load and its save. -/
def Guarded (disk : Disk L) (operation : FileOperation L ω) : Prop :=
  (∀ access ∈ operation.statesAccess effects config, SharedFile.Guarded disk.states access) ∧
    ∀ access ∈ operation.sessionsAccess, SharedFile.Guarded disk.sessions access

def stateEntry (issueIdentifier : String) (disk : Disk L) : Option RuntimeState :=
  SharedFile.entry RuntimeState.identifier issueIdentifier disk.states.content

def sessionEntry (sessionName : String) (disk : Disk L) : Option AgentSessionRecord :=
  SharedFile.entry (fun record => some record.sessionName) sessionName disk.sessions.content

/-- The operation is about the issue: it names it, or it saves another state for
it than it loaded. -/
def AboutIssue (issueIdentifier : String) (disk : Disk L) : FileOperation L ω → Prop
  | .upsertRuntimeState _ state => state.identifier = some issueIdentifier
  | .removeRuntimeStateForIssue _ removed => removed = issueIdentifier
  | .saveRetainedStates lane nowMs recover world =>
      SharedFile.Changes RuntimeState.identifier issueIdentifier disk.states
        (.save lane (retainedStates effects config nowMs recover world))
  | _ => False

/-- The operation is about the session. -/
def AboutSession (sessionName : String) (disk : Disk L) : FileOperation L ω → Prop
  | .saveSessionRecord _ record => record.sessionName = sessionName
  | .updateSessionRecordStatus _ sessionId _ _ => sessionId = sessionName
  | .saveReconciledRegistry lane issueRef nowMs =>
      SharedFile.Changes (fun record : AgentSessionRecord => some record.sessionName) sessionName
        disk.sessions (.save lane (reconcileSessions issueRef nowMs))
  | _ => False

end

/-! ## One operation -/

variable {operation : FileOperation L ω} {disk : Disk L} {issueIdentifier : String}
  {sessionName : String}

theorem entry_upsert_other {states : List RuntimeState} {state : RuntimeState}
    (h : state.identifier ≠ some issueIdentifier) :
    SharedFile.entry RuntimeState.identifier issueIdentifier (upsertRuntimeStateEntry states state)
      = SharedFile.entry RuntimeState.identifier issueIdentifier states := by
  cases hid : state.identifier with
  | none =>
      rw [upsertRuntimeStateEntry_of_none hid, SharedFile.entry, SharedFile.entry]
      simp [hid]
  | some other =>
      rw [upsertRuntimeStateEntry_of_some hid, SharedFile.entry, Keyed.find?_upsert, if_neg h]
      rfl

theorem entry_upsert_same {states : List RuntimeState} {state : RuntimeState}
    (h : state.identifier = some issueIdentifier) :
    SharedFile.entry RuntimeState.identifier issueIdentifier (upsertRuntimeStateEntry states state)
      = some state := by
  rw [upsertRuntimeStateEntry_of_some h, SharedFile.entry, Keyed.find?_upsert, if_pos h]

theorem entry_retainOtherIssues {states : List RuntimeState} {removed issueIdentifier : String} :
    SharedFile.entry RuntimeState.identifier issueIdentifier (retainOtherIssues states removed)
      = if removed = issueIdentifier then none
        else SharedFile.entry RuntimeState.identifier issueIdentifier states := by
  rw [SharedFile.entry, retainOtherIssues, List.find?_filter, SharedFile.entry]
  split
  · next h =>
    subst h
    rw [List.find?_eq_none]
    intro state _
    simp
  · next h =>
    congr 1
    funext state
    by_cases hid : state.identifier = some issueIdentifier
    · simp [hid, Ne.symm h]
    · simp [hid]

theorem saveSessionRecordEntry_eq_upsert (sessions : List AgentSessionRecord)
    (record : AgentSessionRecord) :
    saveSessionRecordEntry sessions record
      = Keyed.upsert (fun record => some record.sessionName) sessions record := by
  induction sessions with
  | nil => rfl
  | cons first sessions ih =>
      rw [saveSessionRecordEntry, Keyed.upsert, ih]
      simp only [Option.some.injEq]

theorem entry_saveSessionRecordEntry {sessions : List AgentSessionRecord}
    {record : AgentSessionRecord} :
    SharedFile.entry (fun record => some record.sessionName) sessionName
        (saveSessionRecordEntry sessions record)
      = if record.sessionName = sessionName then some record
        else SharedFile.entry (fun record => some record.sessionName) sessionName sessions := by
  rw [saveSessionRecordEntry_eq_upsert, SharedFile.entry, Keyed.find?_upsert]
  simp only [Option.some.injEq, SharedFile.entry]

theorem entry_updateSessionRecordStatusEntry {sessions : List AgentSessionRecord}
    {sessionId sessionName : String} {status : SessionStatus} {updatedAtMs : UInt64} :
    SharedFile.entry (fun record => some record.sessionName) sessionName
        (updateSessionRecordStatusEntry sessions sessionId status updatedAtMs)
      = if sessionId = sessionName then
          (SharedFile.entry (fun record => some record.sessionName) sessionName sessions).map
            fun record => { record with status, updatedAtMs }
        else SharedFile.entry (fun record => some record.sessionName) sessionName sessions := by
  induction sessions with
  | nil => simp [updateSessionRecordStatusEntry, SharedFile.entry]
  | cons record rest ih =>
      rw [SharedFile.entry] at ih
      rw [updateSessionRecordStatusEntry]
      by_cases hid : record.sessionName = sessionId
      · rw [if_pos hid]
        by_cases hname : sessionId = sessionName
        · simp [SharedFile.entry, hid, hname]
        · have hne : record.sessionName ≠ sessionName := fun h => hname (hid.symm.trans h)
          simp [SharedFile.entry, hne, hname]
      · rw [if_neg hid]
        by_cases hname : record.sessionName = sessionName
        · have hne : sessionId ≠ sessionName := fun h => hid (hname.trans h.symm)
          simp [SharedFile.entry, hname, hne]
        · simp only [SharedFile.entry, Option.some.injEq, List.find?_cons, decide_eq_false hname]
          simpa [SharedFile.entry] using ih

/-! ## Runs -/

section
variable {effects : PreflightEffects ω} {config : PreflightConfig}

theorem aboutIssue_of_changes {access : SharedFile.Access L RuntimeState}
    (haccess : operation.statesAccess effects config = some access)
    (hchanges : SharedFile.Changes RuntimeState.identifier issueIdentifier disk.states access) :
    AboutIssue effects config issueIdentifier disk operation := by
  cases operation with
  | upsertRuntimeState lane state =>
      obtain rfl := Option.some.inj haccess
      by_contra hother
      exact hchanges (entry_upsert_other hother)
  | removeRuntimeStateForIssue lane removed =>
      obtain rfl := Option.some.inj haccess
      by_contra hother
      exact hchanges (entry_retainOtherIssues.trans
        (if_neg (show ¬removed = issueIdentifier from hother)))
  | loadRuntimeStates lane =>
      obtain rfl := Option.some.inj haccess
      exact hchanges.elim
  | saveRetainedStates lane nowMs recover world =>
      obtain rfl := Option.some.inj haccess
      exact hchanges
  | _ => cases haccess

theorem aboutSession_of_changes {access : SharedFile.Access L AgentSessionRecord}
    (haccess : operation.sessionsAccess = some access)
    (hchanges : SharedFile.Changes (fun record : AgentSessionRecord => some record.sessionName)
      sessionName disk.sessions access) :
    AboutSession sessionName disk operation := by
  cases operation with
  | saveSessionRecord lane record =>
      obtain rfl := Option.some.inj haccess
      by_contra hother
      exact hchanges (entry_saveSessionRecordEntry.trans
        (if_neg (show ¬record.sessionName = sessionName from hother)))
  | updateSessionRecordStatus lane sessionId status updatedAtMs =>
      obtain rfl := Option.some.inj haccess
      by_contra hother
      exact hchanges (entry_updateSessionRecordStatusEntry.trans
        (if_neg (show ¬sessionId = sessionName from hother)))
  | loadSessionRegistry lane =>
      obtain rfl := Option.some.inj haccess
      exact hchanges.elim
  | saveReconciledRegistry lane issueRef nowMs =>
      obtain rfl := Option.some.inj haccess
      exact hchanges
  | _ => cases haccess

/-- What the lanes loaded is what the files hold. -/
def Fresh (disk : Disk L) : Prop := SharedFile.Fresh disk.states ∧ SharedFile.Fresh disk.sessions

theorem fresh_diskClosed (states : List RuntimeState) (sessions : List AgentSessionRecord) :
    Fresh (Disk.closed states sessions : Disk L) :=
  ⟨SharedFile.fresh_closed states, SharedFile.fresh_closed sessions⟩

variable [DecidableEq L]

theorem fresh_step (h : Fresh disk) (hguarded : Guarded effects config disk operation) :
    Fresh (disk.step effects config operation) := by
  constructor
  · show SharedFile.Fresh ((operation.statesAccess effects config).elim _ _)
    cases haccess : operation.statesAccess effects config with
    | none => exact h.1
    | some access => exact SharedFile.fresh_step h.1 (hguarded.1 access haccess)
  · show SharedFile.Fresh (operation.sessionsAccess.elim _ _)
    cases haccess : operation.sessionsAccess with
    | none => exact h.2
    | some access => exact SharedFile.fresh_step h.2 (hguarded.2 access haccess)

theorem stateEntry_step (h : Fresh disk)
    (hother : ¬AboutIssue effects config issueIdentifier disk operation) :
    stateEntry issueIdentifier (disk.step effects config operation)
      = stateEntry issueIdentifier disk := by
  show SharedFile.entry RuntimeState.identifier issueIdentifier
    ((operation.statesAccess effects config).elim disk.states
      (SharedFile.step disk.states)).content = _
  cases haccess : operation.statesAccess effects config with
  | none => rfl
  | some access =>
      exact SharedFile.entry_step RuntimeState.identifier h.1 fun hchanges =>
        hother (aboutIssue_of_changes haccess hchanges)

theorem sessionEntry_step (h : Fresh disk) (hother : ¬AboutSession sessionName disk operation) :
    sessionEntry sessionName (disk.step effects config operation)
      = sessionEntry sessionName disk := by
  show SharedFile.entry (fun record : AgentSessionRecord => some record.sessionName) sessionName
    (operation.sessionsAccess.elim disk.sessions (SharedFile.step disk.sessions)).content = _
  cases haccess : operation.sessionsAccess with
  | none => rfl
  | some access =>
      exact SharedFile.entry_step (fun record : AgentSessionRecord => some record.sessionName) h.2
        fun hchanges => hother (aboutSession_of_changes haccess hchanges)

end

/-! ## No lost update -/

section
variable (effects : PreflightEffects ω) (config : PreflightConfig) [DecidableEq L]

/-- No operation of the run is about the issue. -/
def IssueUntouched (issueIdentifier : String) (disk : Disk L)
    (operations : List (FileOperation L ω)) : Prop :=
  Runs.Allowed (Disk.step effects config)
    (fun disk operation => ¬AboutIssue effects config issueIdentifier disk operation) disk operations

def SessionUntouched (sessionName : String) (disk : Disk L)
    (operations : List (FileOperation L ω)) : Prop :=
  Runs.Allowed (Disk.step effects config)
    (fun disk operation => ¬AboutSession sessionName disk operation) disk operations

/-- The disk after the operations. -/
def Disk.run (disk : Disk L) (operations : List (FileOperation L ω)) : Disk L :=
  Runs.run (Disk.step effects config) disk operations

/-- What an operation of the run did to its own issue or session is there at the
end of the run, unless a later one is about the same issue or session. -/
structure NoLostUpdate (disk : Disk L) (operations : List (FileOperation L ω)) : Prop where
  upserted : ∀ front lane state back issueIdentifier,
    operations = front ++ .upsertRuntimeState lane state :: back →
      state.identifier = some issueIdentifier →
      IssueUntouched effects config issueIdentifier
        (disk.run effects config (front ++ [.upsertRuntimeState lane state])) back →
      stateEntry issueIdentifier (disk.run effects config operations) = some state
  removed : ∀ front lane issueIdentifier back,
    operations = front ++ .removeRuntimeStateForIssue lane issueIdentifier :: back →
      IssueUntouched effects config issueIdentifier
        (disk.run effects config (front ++ [.removeRuntimeStateForIssue lane issueIdentifier])) back →
      stateEntry issueIdentifier (disk.run effects config operations) = none
  saved : ∀ front lane record back,
    operations = front ++ .saveSessionRecord lane record :: back →
      SessionUntouched effects config record.sessionName
        (disk.run effects config (front ++ [.saveSessionRecord lane record])) back →
      sessionEntry record.sessionName (disk.run effects config operations) = some record
  updated : ∀ front lane sessionId status updatedAtMs back,
    operations = front ++ .updateSessionRecordStatus lane sessionId status updatedAtMs :: back →
      SessionUntouched effects config sessionId
        (disk.run effects config
          (front ++ [.updateSessionRecordStatus lane sessionId status updatedAtMs])) back →
      sessionEntry sessionId (disk.run effects config operations)
        = (sessionEntry sessionId (disk.run effects config front)).map
            fun record => { record with status, updatedAtMs }

end

section
variable {effects : PreflightEffects ω} {config : PreflightConfig} [DecidableEq L]

theorem split_run {front back : List (FileOperation L ω)}
    (hguarded : Runs.Allowed (Disk.step effects config) (Guarded effects config) disk
      (front ++ operation :: back)) (h : Fresh disk) :
    disk.run effects config (front ++ operation :: back)
        = (disk.run effects config (front ++ [operation])).run effects config back ∧
      Fresh (disk.run effects config (front ++ [operation])) ∧
      Runs.Allowed (Disk.step effects config) (Guarded effects config)
        (disk.run effects config (front ++ [operation])) back := by
  have hsplit : front ++ operation :: back = (front ++ [operation]) ++ back := by simp
  rw [hsplit] at hguarded ⊢
  obtain ⟨hfront, hback⟩ := Runs.Allowed.append (front ++ [operation]) hguarded
  refine ⟨Runs.run_append _ _ _ _, ?_, hback⟩
  exact Runs.Allowed.invariant (P := Fresh) (fun _ _ h hstep => fresh_step h hstep) _ h hfront

theorem stateEntry_run {operations : List (FileOperation L ω)} (h : Fresh disk)
    (hguarded : Runs.Allowed (Disk.step effects config) (Guarded effects config) disk operations)
    (huntouched : IssueUntouched effects config issueIdentifier disk operations) :
    stateEntry issueIdentifier (disk.run effects config operations)
      = stateEntry issueIdentifier disk :=
  Runs.Allowed.constant (P := Fresh) (f := stateEntry issueIdentifier)
    (fun _ _ h hstep => fresh_step h hstep) (fun _ _ h hother => stateEntry_step h hother)
    operations h hguarded huntouched

theorem sessionEntry_run {operations : List (FileOperation L ω)} (h : Fresh disk)
    (hguarded : Runs.Allowed (Disk.step effects config) (Guarded effects config) disk operations)
    (huntouched : SessionUntouched effects config sessionName disk operations) :
    sessionEntry sessionName (disk.run effects config operations)
      = sessionEntry sessionName disk :=
  Runs.Allowed.constant (P := Fresh) (f := sessionEntry sessionName)
    (fun _ _ h hstep => fresh_step h hstep) (fun _ _ h hother => sessionEntry_step h hother)
    operations h hguarded huntouched

theorem run_concat (disk : Disk L) (front : List (FileOperation L ω))
    (operation : FileOperation L ω) :
    disk.run effects config (front ++ [operation])
      = (disk.run effects config front).step effects config operation :=
  Runs.run_concat _ _ _ _

end

/-- In every run in which no lane writes between a load and its save, no update is
lost. -/
theorem no_lost_update [DecidableEq L] (effects : PreflightEffects ω) (config : PreflightConfig)
    (states : List RuntimeState) (sessions : List AgentSessionRecord)
    (operations : List (FileOperation L ω))
    (hguarded : Runs.Allowed (Disk.step effects config) (Guarded effects config)
      (Disk.closed states sessions) operations) :
    NoLostUpdate effects config (Disk.closed states sessions) operations := by
  have hfresh := fresh_diskClosed (L := L) states sessions
  constructor
  · rintro front lane state back issueIdentifier rfl hid huntouched
    obtain ⟨hrun, hfresh', hguarded'⟩ := split_run hguarded hfresh
    rw [hrun, stateEntry_run hfresh' hguarded' huntouched, run_concat]
    exact entry_upsert_same hid
  · rintro front lane issueIdentifier back rfl huntouched
    obtain ⟨hrun, hfresh', hguarded'⟩ := split_run hguarded hfresh
    rw [hrun, stateEntry_run hfresh' hguarded' huntouched, run_concat]
    exact entry_retainOtherIssues.trans (if_pos rfl)
  · rintro front lane record back rfl huntouched
    obtain ⟨hrun, hfresh', hguarded'⟩ := split_run hguarded hfresh
    rw [hrun, sessionEntry_run hfresh' hguarded' huntouched, run_concat]
    exact entry_saveSessionRecordEntry.trans (if_pos rfl)
  · rintro front lane sessionId status updatedAtMs back rfl huntouched
    obtain ⟨hrun, hfresh', hguarded'⟩ := split_run hguarded hfresh
    rw [hrun, sessionEntry_run hfresh' hguarded' huntouched, run_concat]
    exact entry_updateSessionRecordStatusEntry.trans (if_pos rfl)

/-- The main loop saves while the review lane has nothing open. -/
theorem no_lost_update_in_turn :
    NoLostUpdate Preflight.busyTracker Preflight.defaultConfig
      (Disk.closed [Preflight.storedState "#7" "main"] [])
      [.loadRuntimeStates "main", .saveRetainedStates "main" 0 false (),
        .upsertRuntimeState "review" (Preflight.storedState "#8" "review")] := by
  refine no_lost_update _ _ _ _ _ ⟨?_, ?_, ?_, trivial⟩
  · constructor <;> rintro _ ⟨⟩
    exact trivial
  · constructor <;> rintro _ ⟨⟩
    intro other hother
    exact Function.update_of_ne hother _ _
  · constructor <;> rintro _ ⟨⟩
    intro lane
    by_cases hlane : lane = "main"
    · subst hlane
      rfl
    · exact (Function.update_of_ne hlane _ _).trans (Function.update_of_ne hlane _ _)

/-- The review lane stores its state while the main loop is between its load and
its save, which puts back what it loaded. -/
theorem upsert_lost_to_save :
    ¬NoLostUpdate Preflight.busyTracker Preflight.defaultConfig
      (Disk.closed [Preflight.storedState "#7" "main"] [])
      [.loadRuntimeStates "main",
        .upsertRuntimeState "review" (Preflight.storedState "#8" "review"),
        .saveRetainedStates "main" 0 false ()] := by
  intro h
  have hkept := h.upserted [.loadRuntimeStates "main"] "review"
    (Preflight.storedState "#8" "review") [.saveRetainedStates "main" 0 false ()] "#8" rfl rfl
    ⟨?_, trivial⟩
  · have hlost : stateEntry "#8" (Disk.run Preflight.busyTracker Preflight.defaultConfig
        (Disk.closed [Preflight.storedState "#7" "main"] [])
        [.loadRuntimeStates "main",
          .upsertRuntimeState "review" (Preflight.storedState "#8" "review"),
          .saveRetainedStates "main" 0 false ()]) = none := by rfl
    rw [hlost] at hkept
    cases hkept
  · rintro ⟨snapshot, saved, hopened, hsaved, hchanged⟩
    obtain rfl := Option.some.inj hopened
    obtain rfl := Option.some.inj hsaved
    exact hchanged rfl

end SheaSymphony.LaneFiles

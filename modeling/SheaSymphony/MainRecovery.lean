import SheaSymphony.Model
import SheaSymphony.Paths
import SheaSymphony.RuntimeState
import SheaSymphony.SessionRegistry

/-!
# Recovery of a main session

The plan a main worker is recovered by (`lanes/main_loop/session.rs`): the native thread
of a recorded session, a transcript, or the worktree alone. Claude sessions are taken up
inside the ownership tuple only; a session of the app-server is looked up by its name
first, whoever it belongs to (`resumesOnlyOwn_iff`). The registry is a list, and what is
read of files is a field of `RecoveryFiles`.
-/

namespace SheaSymphony.MainLoop

open Model (TrackerIssue)
open SheaSymphony.Runtime (RuntimeState)
open Sessions (AgentSessionRecord)

inductive MainRecoveryMode where
  | nativeThread | transcriptReplay | worktreeOnly
deriving DecidableEq

structure MainRecoveryPlan where
  mode : MainRecoveryMode
  appServerResumeThreadId : Option String
  claudeResumeSessionId : Option String
  promptOverride : Option String
  evidence : String
deriving DecidableEq

/-- The prompts that are made of files. -/
structure RecoveryFiles where
  transcript : TrackerIssue → RuntimeState → Option AgentSessionRecord → Except String (Option String)
  worktreeOnly : TrackerIssue → RuntimeState → Except String String

def isMainLane (record : AgentSessionRecord) : Bool := Text.eqIgnoreAsciiCase record.lane "main"

/-! ## The record that is taken up -/

section
variable (sessions : List AgentSessionRecord) (issue : TrackerIssue) (state : RuntimeState)

def isAppServerSession (record : AgentSessionRecord) : Bool :=
  record.sessionSource == some "codex-app-server"

def isNamedAppServerSession (sessionId : String) (record : AgentSessionRecord) : Bool :=
  record.sessionName == sessionId && isAppServerSession record

def isAppServerSessionOfState (record : AgentSessionRecord) : Bool :=
  isAppServerSession record && isMainLane record && record.issueIdentifier == state.identifier

def codexAppServerSessionRecordForState : Option AgentSessionRecord :=
  if state.backend ≠ "codex" then none
  else
    (state.backendSessionId.bind fun sessionId =>
        sessions.reverse.find? (isNamedAppServerSession sessionId))
      <|> sessions.reverse.find? (isAppServerSessionOfState state)

def codexAppServerResumeThreadForState : Option String :=
  ((codexAppServerSessionRecordForState sessions state).bind AgentSessionRecord.thread).filter
    fun threadId => !Text.isBlank threadId

/-- The ownership tuple of a Claude session. -/
def matchesBoundary (worktree runId : String) (record : AgentSessionRecord) : Bool :=
  record.sessionSource == some "claude-code-stream-json"
    && record.backend == "claude-code"
    && isMainLane record
    && record.issueId == some issue.id
    && record.issueIdentifier == some issue.identifier
    && record.runId == some runId
    && Paths.ofText record.worktree == Paths.ofText worktree
    && !Text.isBlank record.sessionName

def claudeSessionRecordForState : Option AgentSessionRecord :=
  if state.backend ≠ "claude-code" then none
  else
    match state.workspacePath, state.runId.filter fun runId => !Text.isBlank runId with
    | some worktree, some runId =>
        (state.backendSessionId.bind fun sessionId =>
            sessions.reverse.find? fun record =>
              record.sessionName == sessionId && matchesBoundary issue worktree runId record)
          <|> sessions.reverse.find? (matchesBoundary issue worktree runId)
    | _, _ => none

def claudeResumeSessionForState : Option String :=
  (claudeSessionRecordForState sessions issue state).map AgentSessionRecord.sessionName

def mainRecoveryPlan (files : RecoveryFiles) : Except String MainRecoveryPlan :=
  match codexAppServerResumeThreadForState sessions state with
  | some threadId =>
      .ok { mode := .nativeThread
            appServerResumeThreadId := some threadId
            claudeResumeSessionId := none
            promptOverride := none
            evidence := "thread=" ++ threadId }
  | none =>
      match claudeResumeSessionForState sessions issue state with
      | some sessionId =>
          .ok { mode := .nativeThread
                appServerResumeThreadId := none
                claudeResumeSessionId := some sessionId
                promptOverride := none
                evidence := "claude_session=" ++ sessionId }
      | none => do
          match ← files.transcript issue state (codexAppServerSessionRecordForState sessions state) with
          | some prompt =>
              return { mode := .transcriptReplay
                       appServerResumeThreadId := none
                       claudeResumeSessionId := none
                       promptOverride := some prompt
                       evidence := "local_conversation_artifacts=present" }
          | none =>
              let prompt ← files.worktreeOnly issue state
              return { mode := .worktreeOnly
                       appServerResumeThreadId := none
                       claudeResumeSessionId := none
                       promptOverride := some prompt
                       evidence := "local_conversation_artifacts=missing" }

end

/-! ## Whose session is resumed -/

/-- The last record of the registry with the property. -/
def LastWith (p : AgentSessionRecord → Bool) (sessions : List AgentSessionRecord)
    (record : AgentSessionRecord) : Prop :=
  ∃ before after, sessions = before ++ record :: after ∧ p record = true
    ∧ ∀ other ∈ after, p other = false

theorem find?_reverse_eq_some_iff {p : AgentSessionRecord → Bool} {sessions : List AgentSessionRecord}
    {record : AgentSessionRecord} :
    sessions.reverse.find? p = some record ↔ LastWith p sessions record := by
  rw [List.find?_eq_some_iff_append, LastWith]
  constructor
  · rintro ⟨hp, after, before, hreverse, hafter⟩
    refine ⟨before.reverse, after.reverse, ?_, hp, fun other hother => ?_⟩
    · rw [← List.reverse_reverse sessions, hreverse, List.reverse_append, List.reverse_cons,
        List.append_assoc, List.singleton_append]
    · simpa using hafter other (List.mem_reverse.mp hother)
  · rintro ⟨before, after, rfl, hp, hafter⟩
    refine ⟨hp, after.reverse, before.reverse, ?_, fun other hother => ?_⟩
    · rw [List.reverse_append, List.reverse_cons, List.append_assoc, List.singleton_append]
    · simp [hafter other (List.mem_reverse.mp hother)]

section
variable (sessions : List AgentSessionRecord) (issue : TrackerIssue) (state : RuntimeState)
  (files : RecoveryFiles)

/-- A main session of the issue, of the run of the state and in its workspace. -/
structure OwnedBy (record : AgentSessionRecord) : Prop where
  lane : isMainLane record = true
  identifier : record.issueIdentifier = some issue.identifier
  run : ∃ runId, state.runId = some runId ∧ record.runId = some runId
  worktree : ∃ path, state.workspacePath = some path
    ∧ Paths.ofText record.worktree = Paths.ofText path

/-- The plan goes on in the session of the record. -/
def MainRecoveryPlan.Resumes (plan : MainRecoveryPlan) (record : AgentSessionRecord) : Prop :=
  (state.backend = "codex" ∧ plan.appServerResumeThreadId.isSome
      ∧ plan.appServerResumeThreadId = record.thread ∧ plan.claudeResumeSessionId = none)
    ∨ (state.backend = "claude-code" ∧ plan.claudeResumeSessionId = some record.sessionName
      ∧ plan.appServerResumeThreadId = none)

/-- The record a native thread is taken from. -/
def resumedRecord : Option AgentSessionRecord :=
  (codexAppServerSessionRecordForState sessions state)
    <|> claudeSessionRecordForState sessions issue state

/-- A plan resumes an own session, or none at all. -/
structure ResumesOnlyOwn : Prop where
  own : ∀ plan, mainRecoveryPlan sessions issue state files = .ok plan → plan.mode = .nativeThread →
    ∃ record ∈ sessions, resumedRecord sessions issue state = some record
      ∧ plan.Resumes state record ∧ OwnedBy issue state record
  fallsBack : ∀ plan, mainRecoveryPlan sessions issue state files = .ok plan →
    plan.mode ≠ .nativeThread → plan.appServerResumeThreadId = none
      ∧ plan.claudeResumeSessionId = none ∧ plan.promptOverride.isSome

/-- The record the app-server backend looks at: the last one of the name in the state, or
else the last one of the main lane of the active issue. -/
def AppServerTarget (record : AgentSessionRecord) : Prop :=
  (∃ sessionId, state.backendSessionId = some sessionId
      ∧ LastWith (isNamedAppServerSession sessionId) sessions record)
    ∨ ((∀ sessionId, state.backendSessionId = some sessionId →
          ∀ other ∈ sessions, isNamedAppServerSession sessionId other = false)
      ∧ LastWith (isAppServerSessionOfState state) sessions record)

/-- With the codex backend, the record looked at is an own one if it has a thread. -/
def TargetOwned : Prop :=
  state.backend = "codex" → ∀ record threadId, AppServerTarget sessions state record →
    record.thread = some threadId → Text.isBlank threadId = false → OwnedBy issue state record

end

section
variable {sessions : List AgentSessionRecord} {issue : TrackerIssue} {state : RuntimeState}
  {files : RecoveryFiles} {record : AgentSessionRecord}

theorem appServerTarget_iff (hbackend : state.backend = "codex") :
    codexAppServerSessionRecordForState sessions state = some record
      ↔ AppServerTarget sessions state record := by
  rw [codexAppServerSessionRecordForState, if_neg (not_not_intro hbackend), AppServerTarget]
  cases hsession : state.backendSessionId with
  | none => simp [find?_reverse_eq_some_iff]
  | some sessionId =>
      rw [Option.bind_some]
      cases hnamed : sessions.reverse.find? (isNamedAppServerSession sessionId) with
      | none =>
          have hnone : ∀ other ∈ sessions, isNamedAppServerSession sessionId other = false := by
            simpa using hnamed
          have hnot : ¬ LastWith (isNamedAppServerSession sessionId) sessions record := by
            rw [← find?_reverse_eq_some_iff, hnamed]
            nofun
          simpa [hnot, find?_reverse_eq_some_iff] using fun _ => hnone
      | some named =>
          have hhas : ¬ ∀ other ∈ sessions, isNamedAppServerSession sessionId other = false := by
            intro hnone
            have hmem : named ∈ sessions := List.mem_reverse.mp (List.mem_of_find?_eq_some hnamed)
            have htrue := List.find?_some hnamed
            rw [hnone named hmem] at htrue
            cases htrue
          simp [hhas, ← find?_reverse_eq_some_iff, hnamed]

theorem backend_of_codexRecord (h : codexAppServerSessionRecordForState sessions state = some record) :
    state.backend = "codex" := by
  by_contra hbackend
  rw [codexAppServerSessionRecordForState, if_pos hbackend] at h
  cases h

theorem backend_of_claudeRecord (h : claudeSessionRecordForState sessions issue state = some record) :
    state.backend = "claude-code" := by
  by_contra hbackend
  rw [claudeSessionRecordForState, if_pos hbackend] at h
  cases h

theorem mem_of_codexRecord (h : codexAppServerSessionRecordForState sessions state = some record) :
    record ∈ sessions := by
  have hlast : ∀ p, LastWith p sessions record → record ∈ sessions := by
    rintro p ⟨before, after, rfl, -, -⟩
    exact List.mem_append_right _ List.mem_cons_self
  rcases (appServerTarget_iff (backend_of_codexRecord h)).mp h with ⟨_, -, htarget⟩ | ⟨-, htarget⟩
  · exact hlast _ htarget
  · exact hlast _ htarget

theorem owned_of_matchesBoundary {worktree runId : String} (hworktree : state.workspacePath = some worktree)
    (hrun : state.runId = some runId) (h : matchesBoundary issue worktree runId record = true) :
    OwnedBy issue state record := by
  simp only [matchesBoundary, Bool.and_eq_true, beq_iff_eq] at h
  obtain ⟨⟨⟨⟨⟨⟨⟨-, -⟩, hlane⟩, -⟩, hidentifier⟩, hrecordRun⟩, hpath⟩, -⟩ := h
  exact ⟨hlane, hidentifier, ⟨runId, hrun, hrecordRun⟩, ⟨worktree, hworktree, hpath⟩⟩

theorem owned_of_claudeRecord (h : claudeSessionRecordForState sessions issue state = some record) :
    record ∈ sessions ∧ OwnedBy issue state record := by
  rw [claudeSessionRecordForState, if_neg (not_not_intro (backend_of_claudeRecord h))] at h
  split at h
  · next worktree runId hworktree hfilter =>
    obtain ⟨hrun, -⟩ := Option.filter_eq_some_iff.mp hfilter
    rw [Option.orElse_eq_orElse, Option.orElse_eq_or, Option.or_eq_some_iff] at h
    rcases h with hnamed | ⟨-, hany⟩
    · obtain ⟨sessionId, -, hfind⟩ := Option.bind_eq_some_iff.mp hnamed
      have hboth := List.find?_some hfind
      have hmatch : matchesBoundary issue worktree runId record = true :=
        (Bool.and_eq_true _ _ |>.mp hboth).2
      exact ⟨List.mem_reverse.mp (List.mem_of_find?_eq_some hfind),
        owned_of_matchesBoundary hworktree hrun hmatch⟩
    · exact ⟨List.mem_reverse.mp (List.mem_of_find?_eq_some hany),
        owned_of_matchesBoundary hworktree hrun (List.find?_some hany)⟩
  · cases h

theorem codexThread_eq_some_iff {threadId : String} :
    codexAppServerResumeThreadForState sessions state = some threadId
      ↔ ∃ record, codexAppServerSessionRecordForState sessions state = some record
        ∧ record.thread = some threadId ∧ Text.isBlank threadId = false := by
  rw [codexAppServerResumeThreadForState, Option.filter_eq_some_iff, Option.bind_eq_some_iff]
  constructor
  · rintro ⟨⟨record, hrecord, hthread⟩, hvisible⟩
    exact ⟨record, hrecord, hthread, by simpa using hvisible⟩
  · rintro ⟨record, hrecord, hthread, hvisible⟩
    exact ⟨⟨record, hrecord, hthread⟩, by simp [hvisible]⟩

/-- Where a plan comes from. -/
inductive PlanCases (sessions : List AgentSessionRecord) (issue : TrackerIssue) (state : RuntimeState) :
    MainRecoveryPlan → Prop
  | appServer {plan : MainRecoveryPlan} {record : AgentSessionRecord} {threadId : String}
      (hrecord : codexAppServerSessionRecordForState sessions state = some record)
      (hthread : record.thread = some threadId) (hvisible : Text.isBlank threadId = false)
      (hmode : plan.mode = .nativeThread) (hresumes : plan.Resumes state record) :
      PlanCases sessions issue state plan
  | claude {plan : MainRecoveryPlan} {record : AgentSessionRecord}
      (hrecord : claudeSessionRecordForState sessions issue state = some record)
      (hmode : plan.mode = .nativeThread) (hresumes : plan.Resumes state record) :
      PlanCases sessions issue state plan
  | fallback {plan : MainRecoveryPlan} (hmode : plan.mode ≠ .nativeThread)
      (hnone : plan.appServerResumeThreadId = none ∧ plan.claudeResumeSessionId = none
        ∧ plan.promptOverride.isSome) : PlanCases sessions issue state plan

theorem mainRecoveryPlan_cases {plan : MainRecoveryPlan}
    (h : mainRecoveryPlan sessions issue state files = .ok plan) : PlanCases sessions issue state plan := by
  unfold mainRecoveryPlan at h
  split at h
  · next threadId hthread =>
    obtain ⟨record, hrecord, hrecordThread, hvisible⟩ := codexThread_eq_some_iff.mp hthread
    cases h
    exact .appServer hrecord hrecordThread hvisible rfl
      (Or.inl ⟨backend_of_codexRecord hrecord, rfl, hrecordThread.symm, rfl⟩)
  · split at h
    · next sessionId hsession =>
      obtain ⟨record, hrecord, hname⟩ := Option.map_eq_some_iff.mp hsession
      cases h
      exact .claude hrecord rfl
        (Or.inr ⟨backend_of_claudeRecord hrecord, congrArg some hname.symm, rfl⟩)
    · cases htranscript : files.transcript issue state
          (codexAppServerSessionRecordForState sessions state) with
      | error error =>
          rw [htranscript] at h
          cases h
      | ok prompt =>
          rw [htranscript] at h
          cases prompt with
          | some prompt =>
              cases h
              exact .fallback nofun ⟨rfl, rfl, rfl⟩
          | none =>
              cases hworktree : files.worktreeOnly issue state with
              | error error =>
                  simp only [hworktree] at h
                  cases h
              | ok prompt =>
                  simp only [hworktree] at h
                  cases h
                  exact .fallback nofun ⟨rfl, rfl, rfl⟩

/-- A recovery resumes its own session only exactly where the record the app-server
backend looks at is an own one. -/
theorem resumesOnlyOwn_iff (sessions : List AgentSessionRecord) (issue : TrackerIssue)
    (state : RuntimeState) (files : RecoveryFiles) :
    ResumesOnlyOwn sessions issue state files ↔ TargetOwned sessions issue state := by
  constructor
  · intro h hbackend record threadId htarget hthread hvisible
    have hrecord := (appServerTarget_iff hbackend).mpr htarget
    have hplan : mainRecoveryPlan sessions issue state files
        = .ok { mode := .nativeThread, appServerResumeThreadId := some threadId,
                claudeResumeSessionId := none, promptOverride := none,
                evidence := "thread=" ++ threadId } := by
      unfold mainRecoveryPlan
      rw [codexThread_eq_some_iff.mpr ⟨record, hrecord, hthread, hvisible⟩]
    obtain ⟨other, -, hresumed, -, howned⟩ := h.own _ hplan rfl
    rw [resumedRecord, hrecord] at hresumed
    cases hresumed
    exact howned
  · intro h
    refine ⟨fun plan hplan hmode => ?_, fun plan hplan hmode => ?_⟩
    · cases mainRecoveryPlan_cases hplan with
      | @appServer record threadId hrecord hthread hvisible _ hresumes =>
          have hbackend := backend_of_codexRecord hrecord
          refine ⟨record, mem_of_codexRecord hrecord, ?_, hresumes,
            h hbackend record threadId ((appServerTarget_iff hbackend).mp hrecord) hthread hvisible⟩
          rw [resumedRecord, hrecord]
          rfl
      | @claude record hrecord _ hresumes =>
          obtain ⟨hmem, howned⟩ := owned_of_claudeRecord hrecord
          refine ⟨record, hmem, ?_, hresumes, howned⟩
          have hnone : codexAppServerSessionRecordForState sessions state = none := by
            rw [codexAppServerSessionRecordForState, backend_of_claudeRecord hrecord]
            rfl
          rw [resumedRecord, hnone, hrecord]
          rfl
      | fallback hother _ => exact absurd hmode hother
    · cases mainRecoveryPlan_cases hplan with
      | appServer _ _ _ hnative _ => exact absurd hnative hmode
      | claude _ hnative _ => exact absurd hnative hmode
      | fallback _ hnone => exact hnone

end

/-! ## A session of another issue -/

def recoveredState : RuntimeState :=
  { RuntimeState.active { id := "I_29", identifier := "#29" } "codex" with
    workspacePath := some "/work/29"
    backendSessionId := some "t1-u1"
    runId := some "run-29" }

def recoveredIssue : TrackerIssue where
  id := "I_29"
  identifier := "#29"
  title := "Recover"
  description := none
  state := "In Progress"
  priority := none
  blockedBy := []
  projectFields := fun _ => none
  createdAt := none

def strayReviewSession : AgentSessionRecord where
  issueId := some "I_31"
  issueIdentifier := some "#31"
  issueTitle := none
  lane := "review"
  runId := some "run-31"
  thread := some "t1"
  sessionSource := some "codex-app-server"
  claimValue := none
  actorRole := none
  actorLabel := none
  gitAuthor := none
  profileId := none
  instanceName := none
  worktree := "/work/31"
  branch := none
  backend := "codex"
  sessionName := "t1-u1"
  processId := none
  paneTarget := ""
  promptArtifactPath := "/work/31/prompt.md"
  logPath := "/work/31/session.log"
  attachCommand := ""
  attempt := 1
  status := .failed
  startedAtMs := 0
  updatedAtMs := 0

def emptyRecoveryFiles : RecoveryFiles where
  transcript _ _ _ := .ok none
  worktreeOnly _ _ := .ok "# Shea Symphony Main Recovery"

/-- A session that bears the name in the state is resumed, whatever it belongs to. -/
theorem stray_session_resumed :
    recoveredState.identifier = some recoveredIssue.identifier
      ∧ ¬ ResumesOnlyOwn [strayReviewSession] recoveredIssue recoveredState emptyRecoveryFiles := by
  refine ⟨rfl, fun h => ?_⟩
  have hplan : mainRecoveryPlan [strayReviewSession] recoveredIssue recoveredState emptyRecoveryFiles
      = .ok { mode := .nativeThread, appServerResumeThreadId := some "t1",
              claudeResumeSessionId := none, promptOverride := none, evidence := "thread=t1" } := by
    rfl
  obtain ⟨record, hmem, -, -, howned⟩ := h.own _ hplan rfl
  obtain rfl := List.mem_singleton.mp hmem
  have hidentifier := howned.identifier
  exact absurd hidentifier (by decide)

end SheaSymphony.MainLoop

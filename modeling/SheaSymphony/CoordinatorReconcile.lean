import SheaSymphony.Coordinator
import SheaSymphony.Projector

/-!
# Targeted reconciliation

`reconcile_current_execution` of `coordinator/reconcile.rs`: one Describe of
the activation's exact workflow id, validated by `normalize_current_describe`
of `coordinator/start.rs`, one read of the issue's active row
(`local_state/reader.rs`), and one projection. What Temporal and the read-only
connection answer are parameters.
-/

namespace SheaSymphony.Coordinator

open LocalState Fallible

/-! ## Describe evidence -/

inductive CoordinatorTemporalPhase where
  | connect
  | start
  | describe
deriving DecidableEq

inductive CoordinatorFailureKind where
  | inputConfigurationPayload
  | definitiveServerRejection
  | unavailableOrIndeterminate
  | malformedProtocolEvidence
deriving DecidableEq

inductive CoordinatorSdkErrorVariant where
  | invalidConfiguration
  | clientConnect
  | clientConstruction
  | payloadConversion
  | alreadyStarted
  | rpc
  | notFound
  | other
  | evidenceValidation
deriving DecidableEq

/-- Bounded failure evidence; the gRPC code is its number. -/
structure CoordinatorStartFailure where
  phase : CoordinatorTemporalPhase
  kind : CoordinatorFailureKind
  workflowId : WorkflowId
  knownRunId : Option String
  sdkErrorVariant : CoordinatorSdkErrorVariant
  grpcCode : Option Nat
deriving DecidableEq

inductive CoordinatorTemporalStatus where
  | running
  | completed
  | failed
  | canceled
  | terminated
  | continuedAsNew
  | timedOut
  | paused
deriving DecidableEq

def CoordinatorTemporalStatus.isOpen : CoordinatorTemporalStatus → Bool
  | running | paused => true
  | _ => false

structure CoordinatorDescribeEvidence where
  workflowId : String
  runId : String
  temporalStartedAt : Option OffsetDateTime
  status : Option CoordinatorTemporalStatus
deriving DecidableEq

inductive CoordinatorExecutionObservation where
  | open (workflowId : WorkflowId) (runId : String) (temporalStartedAt : OffsetDateTime)
      (status : CoordinatorTemporalStatus)
  | closed (workflowId : WorkflowId) (runId : String) (temporalStartedAt : OffsetDateTime)
      (status : CoordinatorTemporalStatus)
  | describeRequired
deriving DecidableEq

def nonemptyRunId (runId : String) : Option String := if runId = "" then none else some runId

def malformedFailure (phase : CoordinatorTemporalPhase) (workflowId : WorkflowId)
    (knownRunId : Option String) : CoordinatorStartFailure where
  phase := phase
  kind := .malformedProtocolEvidence
  workflowId := workflowId
  knownRunId := knownRunId
  sdkErrorVariant := .evidenceValidation
  grpcCode := none

def normalizeCurrentDescribe (expectedWorkflowId : WorkflowId) (expectedRunId : Option String)
    (described : CoordinatorDescribeEvidence) :
    Except CoordinatorStartFailure CoordinatorExecutionObservation := do
  let validIdentity := described.workflowId == expectedWorkflowId && described.runId != ""
    && expectedRunId.all (· == described.runId)
  let failure := malformedFailure .describe expectedWorkflowId
    (expectedRunId <|> nonemptyRunId described.runId)
  let temporalStartedAt ← Fallible.okOr described.temporalStartedAt failure
  let status ← Fallible.okOr described.status failure
  Fallible.require validIdentity failure
  if status.isOpen then
    return .open expectedWorkflowId described.runId temporalStartedAt status
  else
    return .closed expectedWorkflowId described.runId temporalStartedAt status

/-! ## The active-row reader -/

/-- The readiness diagnostic, as rendered; reconciliation only passes it on. -/
abbrev LocalStateHealthDiagnostic := String

inductive LocalStateReadFailure where
  | busy
  | cannotOpen
  | corruptDatabase
  | malformedWorkflowIndex
  | other
deriving DecidableEq

inductive LocalStateReaderError where
  | notReady (diagnostic : LocalStateHealthDiagnostic)
  | issueRepositoryMismatch
  | readUnavailable (path : String) (failure : LocalStateReadFailure)
deriving DecidableEq

/-- What the readiness check and the read-only connection answer. `cannotOpen`
tells which of the driver's other errors carry the `CannotOpen` code. -/
structure ReaderAnswers where
  openReadyReadOnly : Except LocalStateReaderError Unit
  query : Table → Except SqliteError Unit
  cannotOpen : SqliteError → Bool

def classifyReadError (db : LocalStateDatabase) (answers : ReaderAnswers) (error : SqliteError) :
    LocalStateReaderError :=
  .readUnavailable db.path <|
    match error with
    | .databaseBusy => .busy
    | .databaseCorrupt => .corruptDatabase
    | .unsupportedStorageValue .. => .malformedWorkflowIndex
    | error => if answers.cannotOpen error then .cannotOpen else .other

def findActiveWorkflowForIssue (db : LocalStateDatabase) (answers : ReaderAnswers)
    (repoId : RepoId) (issueRef : IssueRef) (table : Table) :
    Except LocalStateReaderError (Option WorkflowIndexRow) := do
  Fallible.require (issueRef.repoId = repoId) .issueRepositoryMismatch
  answers.openReadyReadOnly
  (answers.query table).mapError (classifyReadError db answers)
  match table.occupant (repoId.databaseKey, issueRef.databaseKey) with
  | none => return none
  | some row => return some (← (workflowIndexRow row).mapError (classifyReadError db answers))

/-! ## Reconciliation -/

inductive CoordinatorReconciliationRequestError where
  | emptyWorkspaceRuntimeId
deriving DecidableEq

structure CoordinatorReconciliationRequest where
  activation : CoordinatorExecutableActivation
  workspaceRuntimeId : WorkspaceRuntimeId
  observedAt : OffsetDateTime
  workspaceRuntimeId_valid : Text.isBlank workspaceRuntimeId = false

def CoordinatorReconciliationRequest.new (activation : CoordinatorExecutableActivation)
    (workspaceRuntimeId : WorkspaceRuntimeId) (observedAt : OffsetDateTime) :
    Except CoordinatorReconciliationRequestError CoordinatorReconciliationRequest :=
  match h : Text.isBlank workspaceRuntimeId with
  | true => .error .emptyWorkspaceRuntimeId
  | false =>
      .ok { activation, workspaceRuntimeId, observedAt, workspaceRuntimeId_valid := h }

inductive CoordinatorReconciliationNoWriteOutcome where
  | temporalNotFound (failure : CoordinatorStartFailure)
  | temporalUnavailable (failure : CoordinatorStartFailure)
  | malformedDescribe (failure : CoordinatorStartFailure)
  | temporalRejected (failure : CoordinatorStartFailure)
  | localBindingUnavailable (failure : LocalStateReaderError)
  | projectionUnavailable (failure : LocalStateError)
  | projectionConflict (localActiveBinding : Option WorkflowIndexRow)
      (outcome : WorkflowLifecycleProjectionOutcome)
deriving DecidableEq

/-- How a reconciliation ends; besides the outcomes of the source, at an
`unreachable!` it reached. -/
inductive CoordinatorReconciliationOutcome where
  | applied (localActiveBinding : Option WorkflowIndexRow) (row : WorkflowIndexRow)
  | alreadyApplied (localActiveBinding : Option WorkflowIndexRow) (row : WorkflowIndexRow)
  | noWrite (outcome : CoordinatorReconciliationNoWriteOutcome)
  | panicked (message : String)
deriving DecidableEq

structure CoordinatorReconciliationResult where
  workflowId : WorkflowId
  outcome : CoordinatorReconciliationOutcome
deriving DecidableEq

def classifyDescribeFailure (failure : CoordinatorStartFailure) :
    CoordinatorReconciliationNoWriteOutcome :=
  match failure.sdkErrorVariant with
  | .notFound => .temporalNotFound failure
  | .evidenceValidation | .payloadConversion => .malformedDescribe failure
  | _ =>
      if failure.kind = .definitiveServerRejection then .temporalRejected failure
      else .temporalUnavailable failure

/-- `close_status`; an error is the message of its `unreachable!`. -/
def closeStatus : CoordinatorTemporalStatus → Except String (Option WorkflowCloseStatus)
  | .completed => .ok (some .completed)
  | .failed => .ok (some .failed)
  | .canceled => .ok (some .cancelled)
  | .terminated => .ok (some .terminated)
  | .timedOut => .ok (some .timedOut)
  | .continuedAsNew => .ok none
  | .running | .paused => .error "open Temporal statuses cannot form a closed observation"

/-- The fields both observations of `lifecycle_observation` take from the
activation. -/
def activationFacts (request : CoordinatorReconciliationRequest) : ActivationFacts :=
  let activation := request.activation
  { workflowId := activation.workflowId
    workspaceRuntimeId := request.workspaceRuntimeId
    repoId := activation.issueRef.repoId
    issueRef := activation.issueRef
    fromState := activation.observed.state.asStr
    currentState := activation.observed.state.asStr
    targetKind := activation.targetKind.asStr
    sourceRef := activation.sourceRef
    sourceTrackerRevision := activation.observed.revision
    operatorActionRef :=
      if activation.sourceKind = .operatorAction then some activation.sourceRef else none }

def lifecycleObservation (request : CoordinatorReconciliationRequest) :
    CoordinatorExecutionObservation → Except String WorkflowLifecycleObservation
  | .open _ runId temporalStartedAt _ =>
      .ok (.describeOpen (activationFacts request) runId temporalStartedAt request.observedAt)
  | .closed _ runId temporalStartedAt status =>
      (closeStatus status).map fun closeStatus =>
        .describeClosed (activationFacts request) runId temporalStartedAt closeStatus none
          request.observedAt
  | .describeRequired => .error "validated current Describe cannot require another Describe"

/-- Everything one reconciliation asks its surroundings. -/
structure ReconcileAnswers where
  describeIssueWorkflow :
    WorkflowId → Option String → Except CoordinatorStartFailure CoordinatorDescribeEvidence
  reader : ReaderAnswers
  sqlite : Sqlite

/-- The outcome a reconciliation makes of a returned projection. -/
def projectionOutcome (localActiveBinding : Option WorkflowIndexRow) :
    Except LocalStateError WorkflowLifecycleProjectionOutcome → CoordinatorReconciliationOutcome
  | .ok (.applied row) => .applied localActiveBinding row
  | .ok (.alreadyApplied row) => .alreadyApplied localActiveBinding row
  | .ok outcome => .noWrite (.projectionConflict localActiveBinding outcome)
  | .error failure => .noWrite (.projectionUnavailable failure)

def reconcileCurrentExecution (rfc : Rfc3339) (db : LocalStateDatabase)
    (answers : ReconcileAnswers) (request : CoordinatorReconciliationRequest) (table : Table) :
    CoordinatorReconciliationResult × Table :=
  let workflowId := request.activation.workflowId
  match answers.describeIssueWorkflow workflowId none with
  | .error failure => (⟨workflowId, .noWrite (classifyDescribeFailure failure)⟩, table)
  | .ok described =>
  match normalizeCurrentDescribe workflowId none described with
  | .error failure => (⟨workflowId, .noWrite (.malformedDescribe failure)⟩, table)
  | .ok execution =>
  match findActiveWorkflowForIssue db answers.reader request.activation.issueRef.repoId
      request.activation.issueRef table with
  | .error failure => (⟨workflowId, .noWrite (.localBindingUnavailable failure)⟩, table)
  | .ok localActiveBinding =>
  match lifecycleObservation request execution with
  | .error message => (⟨workflowId, .panicked message⟩, table)
  | .ok observation =>
      let (projected, table) := project rfc db answers.sqlite observation table
      (⟨workflowId, projectionOutcome localActiveBinding projected⟩, table)

/-! ## What a validated Describe says -/

variable {execution : CoordinatorExecutionObservation}

theorem normalizeCurrentDescribe_eq_ok {workflowId : WorkflowId} {runId : Option String}
    {described : CoordinatorDescribeEvidence}
    (h : normalizeCurrentDescribe workflowId runId described = .ok execution) :
    described.workflowId = workflowId ∧ described.runId ≠ ""
      ∧ (∀ expected, runId = some expected → expected = described.runId)
      ∧ ∃ startedAt status, described.temporalStartedAt = some startedAt
        ∧ described.status = some status
        ∧ execution = if status.isOpen then .open workflowId described.runId startedAt status
            else .closed workflowId described.runId startedAt status := by
  obtain ⟨startedAt, hstart, h⟩ := bind_eq_ok h
  obtain ⟨status, hstatus, h⟩ := bind_eq_ok h
  obtain ⟨_, hidentity, h⟩ := bind_eq_ok h
  rw [require_eq_ok, Bool.and_eq_true, Bool.and_eq_true, beq_iff_eq, bne_iff_ne]
    at hidentity
  obtain ⟨⟨hworkflow, hrun⟩, hexpected⟩ := hidentity
  refine ⟨hworkflow, hrun, ?_, startedAt, status, okOr_eq_ok.mp hstart,
    okOr_eq_ok.mp hstatus, ?_⟩
  · rintro expected rfl
    simpa using hexpected
  · split at h
    · next hopen => rw [if_pos hopen]; exact (Except.ok.inj h).symm
    · next hopen => rw [if_neg hopen]; exact (Except.ok.inj h).symm

theorem lifecycleObservation_facts {request : CoordinatorReconciliationRequest}
    {observation : WorkflowLifecycleObservation}
    (h : lifecycleObservation request execution = .ok observation) :
    observation.facts = activationFacts request := by
  cases execution with
  | «open» => rw [← Except.ok.inj h]; rfl
  | closed =>
      obtain ⟨closeStatus, -, rfl⟩ := map_eq_ok h
      rfl
  | describeRequired => cases h

/-- A closed status is one `close_status` has an answer for. -/
theorem closeStatus_of_not_isOpen {status : CoordinatorTemporalStatus}
    (h : status.isOpen = false) : ∃ answer, closeStatus status = .ok answer := by
  cases status with
  | running | paused => cases h
  | _ => exact ⟨_, rfl⟩

/-- Validated evidence always makes an observation: neither `unreachable!` is
reached. -/
theorem lifecycleObservation_of_normalize {workflowId : WorkflowId} {runId : Option String}
    {described : CoordinatorDescribeEvidence}
    (h : normalizeCurrentDescribe workflowId runId described = .ok execution)
    (request : CoordinatorReconciliationRequest) :
    ∃ observation, lifecycleObservation request execution = .ok observation := by
  obtain ⟨-, -, -, startedAt, status, -, -, rfl⟩ := normalizeCurrentDescribe_eq_ok h
  split
  · exact ⟨_, rfl⟩
  · next hclosed =>
    obtain ⟨answer, hanswer⟩ := closeStatus_of_not_isOpen (Bool.eq_false_iff.mpr hclosed)
    exact ⟨_, by rw [lifecycleObservation, hanswer]; rfl⟩

/-! ## What a reconciliation does -/

/-- The observation a reconciliation makes of the Describe answer it got for its
own workflow id. -/
def Observes (answers : ReconcileAnswers) (request : CoordinatorReconciliationRequest)
    (observation : WorkflowLifecycleObservation) : Prop :=
  ∃ described execution,
    answers.describeIssueWorkflow request.activation.workflowId none = .ok described
      ∧ normalizeCurrentDescribe request.activation.workflowId none described = .ok execution
      ∧ lifecycleObservation request execution = .ok observation

/-- A reconciliation either stops before SQLite is written, or reports one
projection of what it observed. -/
theorem reconcileCurrentExecution_cases (rfc : Rfc3339) (db : LocalStateDatabase)
    (answers : ReconcileAnswers) (request : CoordinatorReconciliationRequest) (table : Table) :
    (∃ outcome, (reconcileCurrentExecution rfc db answers request table).1.outcome
          = .noWrite outcome
        ∧ (∀ binding projected, outcome ≠ .projectionConflict binding projected)
        ∧ (reconcileCurrentExecution rfc db answers request table).2 = table)
      ∨ ∃ binding o, Observes answers request o
        ∧ (reconcileCurrentExecution rfc db answers request table).1.outcome
          = projectionOutcome binding (project rfc db answers.sqlite o table).1
        ∧ (reconcileCurrentExecution rfc db answers request table).2
          = (project rfc db answers.sqlite o table).2 := by
  unfold reconcileCurrentExecution
  dsimp only
  split
  · next failure _ =>
    refine Or.inl ⟨_, rfl, fun binding projected he => ?_, rfl⟩
    unfold classifyDescribeFailure at he
    split at he
    · cases he
    · cases he
    · cases he
    · split at he <;> cases he
  next described hdescribed =>
  split
  · exact Or.inl ⟨_, rfl, fun binding projected he => (by cases he), rfl⟩
  next execution hexecution =>
  split
  · exact Or.inl ⟨_, rfl, fun binding projected he => (by cases he), rfl⟩
  next binding _ =>
  obtain ⟨observation, hobservation⟩ := lifecycleObservation_of_normalize hexecution request
  refine Or.inr ⟨binding, observation,
    ⟨described, execution, hdescribed, hexecution, hobservation⟩, ?_⟩
  rw [hobservation]
  dsimp only
  generalize project rfc db answers.sqlite observation table = projected
  exact ⟨rfl, rfl⟩

theorem Observes.facts {answers : ReconcileAnswers} {request : CoordinatorReconciliationRequest}
    {o : WorkflowLifecycleObservation} (h : Observes answers request o) :
    o.facts = activationFacts request := by
  obtain ⟨described, execution, -, -, hobservation⟩ := h
  exact lifecycleObservation_facts hobservation

end SheaSymphony.Coordinator

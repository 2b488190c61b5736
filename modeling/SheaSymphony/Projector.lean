import SheaSymphony.Database
import SheaSymphony.DateTime

/-!
# The lifecycle projector

`LocalStateProjector::project` of `local_state/projector.rs`, closure by
closure. The source spells the activation facts out on every observation and
passes them as separate arguments; here they are one record, `ActivationFacts`,
with the same fields, so that each function takes the facts it was given. A
transaction body takes the table and returns the outcome with the table it
leaves behind.
-/

namespace SheaSymphony.LocalState

def workflowExecutionStep : String := "workflow_execution"

def workflowClosedStep : String := "workflow_closed"

def maxStartFailureSummaryBytes : Nat := 1024

/-! ## Observations and outcomes -/

/-- How Temporal reports a closed execution. -/
inductive WorkflowCloseStatus where
  | completed
  | failed
  | cancelled
  | terminated
  | timedOut
deriving DecidableEq

inductive DefinitiveStartFailureCode where
  | alreadyExists
  | invalidRequest
  | rejected
deriving DecidableEq

/-- The fields every observation carries. `currentState` is caller context; the
others are the immutable start facts. -/
structure ActivationFacts where
  workflowId : WorkflowId
  workspaceRuntimeId : WorkspaceRuntimeId
  repoId : RepoId
  issueRef : IssueRef
  fromState : String
  currentState : String
  targetKind : String
  sourceRef : String
  sourceTrackerRevision : String
  operatorActionRef : Option String
deriving DecidableEq

inductive WorkflowLifecycleObservation where
  | describeOpen (facts : ActivationFacts) (runId : String)
      (startedAt observedAt : OffsetDateTime)
  | startResponse (facts : ActivationFacts) (runId : Option String) (observedAt : OffsetDateTime)
  | definitiveStartFailure (facts : ActivationFacts) (code : DefinitiveStartFailureCode)
      (summary : String) (observedAt : OffsetDateTime)
  | describeClosed (facts : ActivationFacts) (runId : String) (startedAt : OffsetDateTime)
      (closeStatus : Option WorkflowCloseStatus) (closedAt : Option OffsetDateTime)
      (observedAt : OffsetDateTime)
deriving DecidableEq

def WorkflowLifecycleObservation.facts : WorkflowLifecycleObservation → ActivationFacts
  | describeOpen facts .. => facts
  | startResponse facts .. => facts
  | definitiveStartFailure facts .. => facts
  | describeClosed facts .. => facts

inductive WorkflowLifecycleProjectionOutcome where
  | applied (row : WorkflowIndexRow)
  | alreadyApplied (row : WorkflowIndexRow)
  | staleObservation (row : WorkflowIndexRow)
  | workflowIdentityConflict (row : WorkflowIndexRow)
  | activeProjectionConflict (existingWorkflowId : WorkflowId) (row : WorkflowIndexRow)
  | describeRequired (row : Option WorkflowIndexRow)
  | startFailureNotProjected (code : DefinitiveStartFailureCode) (summary : String)
deriving DecidableEq

/-! ## Validation and small conversions -/

def validateRequired (field value : String) : Except LocalStateError Unit :=
  Fallible.require (!Text.isBlank value) (.projectionInput field)

def validateCommonObservation (facts : ActivationFacts) : Except LocalStateError Unit := do
  validateRequired "workflow_id" facts.workflowId
  validateRequired "workspace_runtime_id" facts.workspaceRuntimeId
  validateRequired "repo_id.host" facts.repoId.host
  validateRequired "repo_id.owner" facts.repoId.owner
  validateRequired "repo_id.repo" facts.repoId.repo
  Fallible.require (facts.issueRef.number != 0) (.projectionInput "issue_ref")
  validateRequired "from_state" facts.fromState
  validateRequired "current_state" facts.currentState
  validateRequired "target_kind" facts.targetKind
  validateRequired "source_ref" facts.sourceRef
  validateRequired "source_tracker_revision" facts.sourceTrackerRevision
  match facts.operatorActionRef with
  | some operatorActionRef => validateRequired "operator_action_ref" operatorActionRef
  | none => .ok ()

/-- `validate_new_row_scope` with its error already mapped by
`local_state_error_to_sqlite`. -/
def validateNewRowScope (facts : ActivationFacts) : Except SqliteError Unit :=
  Fallible.require (facts.issueRef.repoId = facts.repoId)
    (.toSqlConversionFailure "repo_id/issue_ref")

def formatTimestamp (rfc : Rfc3339) (value : OffsetDateTime) : Except LocalStateError String :=
  (rfc.format value.unixNanos).mapError .timestamp

def parsePersistedTimestamp (rfc : Rfc3339) (value : String) : Except SqliteError OffsetDateTime :=
  (rfc.parse value).mapError fun error =>
    .unsupportedStorageValue 12 "started_at" value (some error)

def terminalProjection :
    Option WorkflowCloseStatus → WorkflowIndexStatus × WorkflowTerminalOutcome
  | some .completed => (.completed, .completed)
  | some .failed => (.failed, .failed)
  | some .cancelled => (.failed, .cancelled)
  | some .terminated => (.failed, .terminated)
  | some .timedOut => (.failed, .timedOut)
  | none => (.closedUnknown, .closedUnknown)

def boundedStartFailureSummary (summary : String) : String :=
  if Text.byteLength summary ≤ maxStartFailureSummaryBytes then summary
  else Text.takeBytes (maxStartFailureSummaryBytes - 3) summary ++ "..."

def describedRow (facts : ActivationFacts) (runId startedAt observedAt : String)
    (status : WorkflowIndexStatus) (activeStep : String)
    (terminalOutcome : Option WorkflowTerminalOutcome) : WorkflowIndexRow where
  workflowId := facts.workflowId
  runId := some runId
  workspaceRuntimeId := facts.workspaceRuntimeId
  repoId := facts.repoId.databaseKey
  issueRef := facts.issueRef.databaseKey
  fromState := facts.fromState
  targetKind := facts.targetKind
  currentState := facts.currentState
  activeStep := activeStep
  waitingKind := none
  sourceRef := facts.sourceRef
  sourceTrackerRevision := facts.sourceTrackerRevision
  startedAt := startedAt
  lastProgressAt := none
  status := status
  terminalOutcome := terminalOutcome
  operatorActionRef := facts.operatorActionRef
  freshness := .fresh
  updatedAt := observedAt

def sameImmutableStartFacts (row : WorkflowIndexRow) (facts : ActivationFacts) : Bool :=
  row.workflowId = facts.workflowId
    && row.workspaceRuntimeId = facts.workspaceRuntimeId
    && row.repoId = facts.repoId.databaseKey
    && row.issueRef = facts.issueRef.databaseKey
    && row.fromState = facts.fromState
    && row.targetKind = facts.targetKind
    && row.sourceRef = facts.sourceRef
    && row.sourceTrackerRevision = facts.sourceTrackerRevision
    && row.operatorActionRef = facts.operatorActionRef

/-! ## Statements -/

def loadWorkflow (sqlite : Sqlite) (table : Table) (workflowId : String) :
    Except SqliteError (Option WorkflowIndexRow) := do
  sqlite.execute (.selectWorkflow workflowId) table
  match table.lookup workflowId with
  | none => return none
  | some row => return some (← workflowIndexRow row)

def loadActiveWorkflow (sqlite : Sqlite) (table : Table) (repoId issueRef : String) :
    Except SqliteError (Option WorkflowIndexRow) := do
  sqlite.execute (.selectActiveWorkflow repoId issueRef) table
  match table.occupant (repoId, issueRef) with
  | none => return none
  | some row => return some (← workflowIndexRow row)

def insertWorkflow (sqlite : Sqlite) (table : Table) (row : WorkflowIndexRow) :
    Except SqliteError Table := do
  sqlite.execute (.insertWorkflow row) table
  Fallible.okOr (table.insert row.stored) .constraintViolation

/-- The columns `update_material_projection` sets. -/
def materialColumns (row old : StoredRow) : StoredRow :=
  { old with
    runId := row.runId
    currentState := row.currentState
    activeStep := row.activeStep
    waitingKind := row.waitingKind
    startedAt := row.startedAt
    status := row.status
    terminalOutcome := row.terminalOutcome
    freshness := row.freshness
    updatedAt := row.updatedAt }

def updateMaterialProjection (sqlite : Sqlite) (table : Table) (row : WorkflowIndexRow) :
    Except SqliteError Table := do
  sqlite.execute (.updateMaterialProjection row) table
  Fallible.okOr (table.rewrite row.workflowId (materialColumns row.stored) fun _ => rfl)
    .constraintViolation

/-- What a transaction body returns: the outcome and the table it leaves. -/
abbrev Projected := Except SqliteError (WorkflowLifecycleProjectionOutcome × Table)

def readbackApplied (sqlite : Sqlite) (table : Table) (workflowId : String) : Projected := do
  let row ← Fallible.okOr (← loadWorkflow sqlite table workflowId) .queryReturnedNoRows
  return (.applied row, table)

def insertOpenOrActiveConflict (sqlite : Sqlite) (table : Table) (proposed : WorkflowIndexRow) :
    Projected :=
  match insertWorkflow sqlite table proposed with
  | .ok table => readbackApplied sqlite table proposed.workflowId
  | .error .constraintViolation => do
      match ← loadActiveWorkflow sqlite table proposed.repoId proposed.issueRef with
      | none => .error .constraintViolation
      | some row => return (.activeProjectionConflict row.workflowId row, table)
  | .error error => .error error

/-! ## The four transactions -/

def projectDescribeOpen (rfc : Rfc3339) (sqlite : Sqlite) (facts : ActivationFacts)
    (runId : String) (describedStartedAt : OffsetDateTime) (startedAt observedAt : String)
    (table : Table) : Projected := do
  match ← loadWorkflow sqlite table facts.workflowId with
  | none =>
      validateNewRowScope facts
      insertOpenOrActiveConflict sqlite table
        (describedRow facts runId startedAt observedAt .running workflowExecutionStep none)
  | some row =>
      if !sameImmutableStartFacts row facts then
        return (.workflowIdentityConflict row, table)
      else if row.status ≠ .running then
        return (.staleObservation row, table)
      else if row.runId = some runId then
        if row.startedAt ≠ startedAt then
          return (.staleObservation row, table)
        else
          return (.alreadyApplied row, table)
      else do
        let storedStartedAt ← parsePersistedTimestamp rfc row.startedAt
        if describedStartedAt.unixNanos ≤ storedStartedAt.unixNanos then
          return (.staleObservation row, table)
        else do
          let replacement : WorkflowIndexRow :=
            { row with
              runId := some runId
              currentState := facts.currentState
              activeStep := workflowExecutionStep
              waitingKind := none
              startedAt := startedAt
              status := .running
              terminalOutcome := none
              freshness := .fresh
              updatedAt := observedAt }
          let table ← updateMaterialProjection sqlite table replacement
          readbackApplied sqlite table replacement.workflowId

def projectStartResponse (sqlite : Sqlite) (facts : ActivationFacts) (runId : Option String)
    (table : Table) : Projected := do
  match ← loadWorkflow sqlite table facts.workflowId with
  | none => return (.describeRequired none, table)
  | some row =>
      if !sameImmutableStartFacts row facts then
        return (.workflowIdentityConflict row, table)
      else if runId.isSome && row.runId = runId then
        return (.alreadyApplied row, table)
      else
        return (.describeRequired (some row), table)

def projectDefinitiveStartFailure (sqlite : Sqlite) (facts : ActivationFacts)
    (code : DefinitiveStartFailureCode) (summary : String) (table : Table) : Projected := do
  match ← loadWorkflow sqlite table facts.workflowId with
  | none => return (.startFailureNotProjected code (boundedStartFailureSummary summary), table)
  | some row =>
      if !sameImmutableStartFacts row facts then
        return (.workflowIdentityConflict row, table)
      else
        return (.startFailureNotProjected code (boundedStartFailureSummary summary), table)

/-- The `match row.status` of a close that is about the stored run, or about a
newer one. -/
def projectClose (sqlite : Sqlite) (facts : ActivationFacts) (runId startedAt observedAt : String)
    (status : WorkflowIndexStatus) (terminalOutcome : WorkflowTerminalOutcome)
    (row : WorkflowIndexRow) (table : Table) : Projected :=
  match row.status with
  | .running => do
      let closed : WorkflowIndexRow :=
        { row with
          runId := some runId
          startedAt := startedAt
          currentState := facts.currentState
          activeStep := workflowClosedStep
          waitingKind := none
          status := status
          terminalOutcome := some terminalOutcome
          freshness := .fresh
          updatedAt := observedAt }
      let table ← updateMaterialProjection sqlite table closed
      readbackApplied sqlite table closed.workflowId
  | .closedUnknown => do
      if status = .closedUnknown ∧ row.terminalOutcome = some terminalOutcome then
        return (.alreadyApplied row, table)
      else do
        let refined : WorkflowIndexRow :=
          { row with
            currentState := facts.currentState
            activeStep := workflowClosedStep
            waitingKind := none
            status := status
            terminalOutcome := some terminalOutcome
            freshness := .fresh
            updatedAt := observedAt }
        let table ← updateMaterialProjection sqlite table refined
        readbackApplied sqlite table refined.workflowId
  | stored =>
      if (stored = .completed ∨ stored = .failed) ∧ stored = status
          ∧ row.terminalOutcome = some terminalOutcome then
        return (.alreadyApplied row, table)
      else
        return (.staleObservation row, table)

def projectDescribeClosed (rfc : Rfc3339) (sqlite : Sqlite) (facts : ActivationFacts)
    (runId : String) (describedStartedAt : OffsetDateTime) (startedAt observedAt : String)
    (closeStatus : Option WorkflowCloseStatus) (table : Table) : Projected := do
  let (status, terminalOutcome) := terminalProjection closeStatus
  match ← loadWorkflow sqlite table facts.workflowId with
  | none =>
      validateNewRowScope facts
      let proposed :=
        describedRow facts runId startedAt observedAt status workflowClosedStep
          (some terminalOutcome)
      let table ← insertWorkflow sqlite table proposed
      readbackApplied sqlite table facts.workflowId
  | some row =>
      let sameRun := row.runId = some runId
      if !sameImmutableStartFacts row facts then
        return (.workflowIdentityConflict row, table)
      else if sameRun ∧ row.startedAt ≠ startedAt then
        return (.staleObservation row, table)
      else if sameRun then
        projectClose sqlite facts runId startedAt observedAt status terminalOutcome row table
      else if row.status ≠ .running then
        return (.staleObservation row, table)
      else do
        let storedStartedAt ← parsePersistedTimestamp rfc row.startedAt
        if describedStartedAt.unixNanos ≤ storedStartedAt.unixNanos then
          return (.staleObservation row, table)
        else
          projectClose sqlite facts runId startedAt observedAt status terminalOutcome row table

/-! ## The projector -/

/-- The transaction of an observation that passes validation. -/
def transactionOf (rfc : Rfc3339) (sqlite : Sqlite) (observation : WorkflowLifecycleObservation) :
    Except LocalStateError (Table → Projected) := do
  validateCommonObservation observation.facts
  match observation with
  | .describeOpen facts runId describedStartedAt observedAt =>
      validateRequired "run_id" runId
      let startedAt ← formatTimestamp rfc describedStartedAt
      let observedAt ← formatTimestamp rfc observedAt
      return projectDescribeOpen rfc sqlite facts runId describedStartedAt startedAt observedAt
  | .startResponse facts runId _ =>
      let runId := runId.filter fun value => !Text.isBlank value
      return projectStartResponse sqlite facts runId
  | .definitiveStartFailure facts code summary _ =>
      return projectDefinitiveStartFailure sqlite facts code summary
  | .describeClosed facts runId describedStartedAt closeStatus _ observedAt =>
      validateRequired "run_id" runId
      let startedAt ← formatTimestamp rfc describedStartedAt
      let observedAt ← formatTimestamp rfc observedAt
      return projectDescribeClosed rfc sqlite facts runId describedStartedAt startedAt observedAt
        closeStatus

def project (rfc : Rfc3339) (db : LocalStateDatabase) (sqlite : Sqlite)
    (observation : WorkflowLifecycleObservation) (table : Table) :
    Except LocalStateError WorkflowLifecycleProjectionOutcome × Table :=
  match transactionOf rfc sqlite observation with
  | .error error => (.error error, table)
  | .ok transaction => db.withImmediateTransaction sqlite transaction table

end SheaSymphony.LocalState

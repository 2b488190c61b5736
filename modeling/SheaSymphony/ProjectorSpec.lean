import SheaSymphony.Projector

/-!
# What one projection can do

The projector reads one row, decides, and writes at most one row. The decision
is a pure function of the observation and the stored row (`decision`), and
`project` is that function between a read and its execution (`project_eq`).

From it comes the one inversion lemma the rest of the development rests on:
`project_cases`. A projection either answers `Applied` after one of the five
writes `Material` lists, each with the guards it passed, or it leaves the table
as it found it. No later proof opens the transaction bodies again.
-/

namespace SheaSymphony.LocalState

open Fallible

/-! ## Decisions -/

/-- What an observation calls for, given the row stored for its workflow. -/
inductive Decision where
  | refuse (error : SqliteError)
  | answer (outcome : WorkflowLifecycleProjectionOutcome)
  | insertOpen (row : WorkflowIndexRow)
  | insertClosed (row : WorkflowIndexRow)
  | replace (row : WorkflowIndexRow)

namespace Decision

def perform (sqlite : Sqlite) (table : Table) : Decision → Projected
  | refuse error => .error error
  | answer outcome => .ok (outcome, table)
  | insertOpen row => insertOpenOrActiveConflict sqlite table row
  | insertClosed row => do
      let table ← insertWorkflow sqlite table row
      readbackApplied sqlite table row.workflowId
  | replace row => do
      let table ← updateMaterialProjection sqlite table row
      readbackApplied sqlite table row.workflowId

/-- The row a decision writes. -/
def written : Decision → Option WorkflowIndexRow
  | refuse _ => none
  | answer _ => none
  | insertOpen row => some row
  | insertClosed row => some row
  | replace row => some row

end Decision

/-- Does a description from `described` outrank the stored start? -/
def newerRun (rfc : Rfc3339) (described : OffsetDateTime) (row : WorkflowIndexRow)
    (decision : Decision) : Decision :=
  match parsePersistedTimestamp rfc row.startedAt with
  | .error error => .refuse error
  | .ok stored =>
      if described.unixNanos ≤ stored.unixNanos then .answer (.staleObservation row) else decision

/-- The row an open description of a newer run leaves. -/
def reopened (facts : ActivationFacts) (runId startedAt observedAt : String)
    (row : WorkflowIndexRow) : WorkflowIndexRow :=
  { row with
    runId := some runId
    currentState := facts.currentState
    activeStep := workflowExecutionStep
    waitingKind := none
    startedAt := startedAt
    status := .running
    terminalOutcome := none
    freshness := .fresh
    updatedAt := observedAt }

/-- The row a close of the running row leaves; a late definite close of a
`closed_unknown` row leaves the same columns, its run and start being the
stored ones already. -/
def closedBy (facts : ActivationFacts) (runId startedAt observedAt : String)
    (closeStatus : Option WorkflowCloseStatus) (row : WorkflowIndexRow) : WorkflowIndexRow :=
  { row with
    runId := some runId
    startedAt := startedAt
    currentState := facts.currentState
    activeStep := workflowClosedStep
    waitingKind := none
    status := (terminalProjection closeStatus).1
    terminalOutcome := some (terminalProjection closeStatus).2
    freshness := .fresh
    updatedAt := observedAt }

def decideOpen (rfc : Rfc3339) (facts : ActivationFacts) (runId : String)
    (described : OffsetDateTime) (startedAt observedAt : String) :
    Option WorkflowIndexRow → Decision
  | none =>
      if facts.issueRef.repoId = facts.repoId then
        .insertOpen
          (describedRow facts runId startedAt observedAt .running workflowExecutionStep none)
      else .refuse (.toSqlConversionFailure "repo_id/issue_ref")
  | some row =>
      if sameImmutableStartFacts row facts = false then .answer (.workflowIdentityConflict row)
      else if row.status ≠ .running then .answer (.staleObservation row)
      else if row.runId = some runId then
        if row.startedAt ≠ startedAt then .answer (.staleObservation row)
        else .answer (.alreadyApplied row)
      else newerRun rfc described row (.replace (reopened facts runId startedAt observedAt row))

/-- The close of a row whose run is the described one. -/
def decideClose (facts : ActivationFacts) (runId startedAt observedAt : String)
    (closeStatus : Option WorkflowCloseStatus) (row : WorkflowIndexRow) : Decision :=
  match row.status with
  | .running => .replace (closedBy facts runId startedAt observedAt closeStatus row)
  | .closedUnknown =>
      if (terminalProjection closeStatus).1 = .closedUnknown
          ∧ row.terminalOutcome = some (terminalProjection closeStatus).2 then
        .answer (.alreadyApplied row)
      else .replace (closedBy facts runId startedAt observedAt closeStatus row)
  | stored =>
      if (stored = .completed ∨ stored = .failed) ∧ stored = (terminalProjection closeStatus).1
          ∧ row.terminalOutcome = some (terminalProjection closeStatus).2 then
        .answer (.alreadyApplied row)
      else .answer (.staleObservation row)

def decideClosed (rfc : Rfc3339) (facts : ActivationFacts) (runId : String)
    (described : OffsetDateTime) (startedAt observedAt : String)
    (closeStatus : Option WorkflowCloseStatus) : Option WorkflowIndexRow → Decision
  | none =>
      if facts.issueRef.repoId = facts.repoId then
        .insertClosed
          (describedRow facts runId startedAt observedAt (terminalProjection closeStatus).1
            workflowClosedStep (some (terminalProjection closeStatus).2))
      else .refuse (.toSqlConversionFailure "repo_id/issue_ref")
  | some row =>
      if sameImmutableStartFacts row facts = false then .answer (.workflowIdentityConflict row)
      else if row.runId = some runId then
        if row.startedAt ≠ startedAt then .answer (.staleObservation row)
        else decideClose facts runId startedAt observedAt closeStatus row
      else if row.status ≠ .running then .answer (.staleObservation row)
      else newerRun rfc described row
        (.replace (closedBy facts runId startedAt observedAt closeStatus row))

def decideStartResponse (facts : ActivationFacts) (runId : Option String) :
    Option WorkflowIndexRow → Decision
  | none => .answer (.describeRequired none)
  | some row =>
      if sameImmutableStartFacts row facts = false then .answer (.workflowIdentityConflict row)
      else if runId.isSome && row.runId = runId then .answer (.alreadyApplied row)
      else .answer (.describeRequired (some row))

def decideStartFailure (facts : ActivationFacts) (code : DefinitiveStartFailureCode)
    (summary : String) : Option WorkflowIndexRow → Decision
  | none => .answer (.startFailureNotProjected code (boundedStartFailureSummary summary))
  | some row =>
      if sameImmutableStartFacts row facts = false then .answer (.workflowIdentityConflict row)
      else .answer (.startFailureNotProjected code (boundedStartFailureSummary summary))

/-- The decision an observation stands for, once it passes validation. -/
def decision (rfc : Rfc3339) (observation : WorkflowLifecycleObservation) :
    Except LocalStateError (Option WorkflowIndexRow → Decision) := do
  validateCommonObservation observation.facts
  match observation with
  | .describeOpen facts runId described observedAt =>
      validateRequired "run_id" runId
      let startedAt ← formatTimestamp rfc described
      let observedAt ← formatTimestamp rfc observedAt
      return decideOpen rfc facts runId described startedAt observedAt
  | .startResponse facts runId _ =>
      return decideStartResponse facts (runId.filter fun value => !Text.isBlank value)
  | .definitiveStartFailure facts code summary _ => return decideStartFailure facts code summary
  | .describeClosed facts runId described closeStatus _ observedAt =>
      validateRequired "run_id" runId
      let startedAt ← formatTimestamp rfc described
      let observedAt ← formatTimestamp rfc observedAt
      return decideClosed rfc facts runId described startedAt observedAt closeStatus

/-! ## The transactions execute their decisions -/

/-- Read the workflow's row, decide, perform. -/
def executeDecision (sqlite : Sqlite) (workflowId : String)
    (decide : Option WorkflowIndexRow → Decision) (table : Table) : Projected := do
  let row ← loadWorkflow sqlite table workflowId
  (decide row).perform sqlite table

variable {stored : Option WorkflowIndexRow} {closeStatus : Option WorkflowCloseStatus}

section

variable {rfc : Rfc3339} {sqlite : Sqlite} {facts : ActivationFacts} {table : Table}

@[simp] theorem perform_refuse (error : SqliteError) :
    (Decision.refuse error).perform sqlite table = .error error := rfl

@[simp] theorem perform_answer (outcome : WorkflowLifecycleProjectionOutcome) :
    (Decision.answer outcome).perform sqlite table = .ok (outcome, table) := rfl

@[simp] theorem perform_insertOpen (row : WorkflowIndexRow) :
    (Decision.insertOpen row).perform sqlite table
      = insertOpenOrActiveConflict sqlite table row := rfl

@[simp] theorem perform_insertClosed (row : WorkflowIndexRow) :
    (Decision.insertClosed row).perform sqlite table
      = (insertWorkflow sqlite table row >>= fun t => readbackApplied sqlite t row.workflowId) :=
  rfl

@[simp] theorem perform_replace (row : WorkflowIndexRow) :
    (Decision.replace row).perform sqlite table
      = (updateMaterialProjection sqlite table row >>= fun t =>
          readbackApplied sqlite t row.workflowId) := rfl

variable {row : WorkflowIndexRow}

@[simp] theorem perform_newerRun {described : OffsetDateTime} {d : Decision} :
    (newerRun rfc described row d).perform sqlite table
      = (parsePersistedTimestamp rfc row.startedAt >>= fun stored =>
          if described.unixNanos ≤ stored.unixNanos then
            .ok (.staleObservation row, table)
          else d.perform sqlite table) := by
  unfold newerRun
  cases parsePersistedTimestamp rfc row.startedAt with
  | error e => rfl
  | ok stored =>
      rw [ok_bind]
      simp only []
      split <;> rfl

theorem projectDescribeOpen_eq (runId : String) (described : OffsetDateTime)
    (startedAt observedAt : String) :
    projectDescribeOpen rfc sqlite facts runId described startedAt observedAt
      = executeDecision sqlite facts.workflowId
          (decideOpen rfc facts runId described startedAt observedAt) := by
  funext table
  unfold projectDescribeOpen executeDecision
  cases loadWorkflow sqlite table facts.workflowId with
  | error e => rfl
  | ok row =>
      rw [ok_bind, ok_bind]
      cases row with
      | none =>
          simp only [decideOpen, validateNewRowScope]
          by_cases h : facts.issueRef.repoId = facts.repoId <;> simp [h]
      | some row =>
          simp only [decideOpen]
          cases hfacts : sameImmutableStartFacts row facts with
          | false => rfl
          | true =>
              by_cases hstatus : row.status = .running
              · by_cases hrun : row.runId = some runId
                · by_cases hstart : row.startedAt = startedAt <;> simp [hstatus, hrun, hstart]
                · simp [hstatus, hrun, reopened]
              · simp [hstatus]

theorem projectClose_eq_of_same {runId startedAt observedAt : String}
    (hrun : row.runId = some runId) (hstart : row.startedAt = startedAt) :
    projectClose sqlite facts runId startedAt observedAt (terminalProjection closeStatus).1
        (terminalProjection closeStatus).2 row table
      = (decideClose facts runId startedAt observedAt closeStatus row).perform sqlite table := by
  subst hstart
  unfold projectClose decideClose
  cases hstatus : row.status with
  | running => rfl
  | closedUnknown =>
      dsimp only
      split
      · rfl
      · simp [closedBy, hrun]
  | _ =>
      dsimp only
      split <;> rfl

theorem projectClose_eq_of_running {runId startedAt observedAt : String}
    (hstatus : row.status = .running) :
    projectClose sqlite facts runId startedAt observedAt (terminalProjection closeStatus).1
        (terminalProjection closeStatus).2 row table
      = (Decision.replace (closedBy facts runId startedAt observedAt closeStatus row)).perform
          sqlite table := by
  unfold projectClose
  rw [hstatus]
  rfl

theorem projectDescribeClosed_eq (runId : String) (described : OffsetDateTime)
    (startedAt observedAt : String) (closeStatus : Option WorkflowCloseStatus) :
    projectDescribeClosed rfc sqlite facts runId described startedAt observedAt closeStatus
      = executeDecision sqlite facts.workflowId
          (decideClosed rfc facts runId described startedAt observedAt closeStatus) := by
  funext table
  unfold projectDescribeClosed executeDecision
  cases loadWorkflow sqlite table facts.workflowId with
  | error e => rfl
  | ok row =>
      simp only [ok_bind]
      cases row with
      | none =>
          simp only [decideClosed, validateNewRowScope]
          by_cases h : facts.issueRef.repoId = facts.repoId <;> simp [h, describedRow]
      | some row =>
          simp only [decideClosed]
          cases hfacts : sameImmutableStartFacts row facts with
          | false => rfl
          | true =>
              by_cases hrun : row.runId = some runId
              · by_cases hstart : row.startedAt = startedAt
                · simp [hrun, hstart, projectClose_eq_of_same hrun hstart]
                · simp [hrun, hstart]
              · by_cases hstatus : row.status = .running
                · simp [hrun, hstatus, projectClose_eq_of_running hstatus]
                · simp [hrun, hstatus]

theorem projectStartResponse_eq (runId : Option String) :
    projectStartResponse sqlite facts runId
      = executeDecision sqlite facts.workflowId (decideStartResponse facts runId) := by
  funext table
  unfold projectStartResponse executeDecision
  cases loadWorkflow sqlite table facts.workflowId with
  | error e => rfl
  | ok row =>
      rw [ok_bind, ok_bind]
      cases row with
      | none => rfl
      | some row =>
          simp only [decideStartResponse]
          cases sameImmutableStartFacts row facts with
          | false => rfl
          | true =>
              simp only [Bool.not_true, Bool.false_eq_true, if_false, Bool.true_eq_false]
              split <;> rfl

theorem projectDefinitiveStartFailure_eq (code : DefinitiveStartFailureCode) (summary : String) :
    projectDefinitiveStartFailure sqlite facts code summary
      = executeDecision sqlite facts.workflowId (decideStartFailure facts code summary) := by
  funext table
  unfold projectDefinitiveStartFailure executeDecision
  cases loadWorkflow sqlite table facts.workflowId with
  | error e => rfl
  | ok row =>
      rw [ok_bind, ok_bind]
      cases row with
      | none => rfl
      | some row =>
          simp only [decideStartFailure]
          cases sameImmutableStartFacts row facts <;> rfl

end

theorem transactionOf_eq (rfc : Rfc3339) (sqlite : Sqlite) (o : WorkflowLifecycleObservation) :
    transactionOf rfc sqlite o
      = (decision rfc o).map (executeDecision sqlite o.facts.workflowId) := by
  unfold transactionOf decision
  cases validateCommonObservation o.facts with
  | error e => rfl
  | ok _ =>
      cases o with
      | describeOpen facts runId described observedAt =>
          simp only [ok_bind, projectDescribeOpen_eq]
          cases validateRequired "run_id" runId <;> cases formatTimestamp rfc described <;>
            cases formatTimestamp rfc observedAt <;> rfl
      | startResponse facts runId observedAt =>
          simp only [ok_bind, projectStartResponse_eq]
          rfl
      | definitiveStartFailure facts code summary observedAt =>
          simp only [ok_bind, projectDefinitiveStartFailure_eq]
          rfl
      | describeClosed facts runId described closeStatus closedAt observedAt =>
          simp only [ok_bind, projectDescribeClosed_eq]
          cases validateRequired "run_id" runId <;> cases formatTimestamp rfc described <;>
            cases formatTimestamp rfc observedAt <;> rfl

theorem project_eq (rfc : Rfc3339) (db : LocalStateDatabase) (sqlite : Sqlite)
    (o : WorkflowLifecycleObservation) (table : Table) :
    project rfc db sqlite o table
      = match decision rfc o with
        | .error error => (.error error, table)
        | .ok decide =>
            db.withImmediateTransaction sqlite
              (executeDecision sqlite o.facts.workflowId decide) table := by
  unfold project
  rw [transactionOf_eq]
  cases decision rfc o <;> rfl

/-! ## Inversion -/

/-- A description that passed validation, with the texts its times are written
as. -/
structure Accepted (rfc : Rfc3339) (facts : ActivationFacts) (runId : String)
    (described observed : OffsetDateTime) (startedAt observedAt : String) : Prop where
  facts : validateCommonObservation facts = .ok ()
  runId : Text.isBlank runId = false
  startedAt : rfc.format described.unixNanos = .ok startedAt
  observedAt : rfc.format observed.unixNanos = .ok observedAt

/-- The writes an observation can call for, each with the guards it passed:
what was stored for the workflow, and what is stored instead. -/
inductive Material (rfc : Rfc3339) :
    WorkflowLifecycleObservation → Option WorkflowIndexRow → WorkflowIndexRow → Prop
  | openInsert {facts runId described observed startedAt observedAt}
      (accepted : Accepted rfc facts runId described observed startedAt observedAt)
      (scope : facts.issueRef.repoId = facts.repoId) :
      Material rfc (.describeOpen facts runId described observed) none
        (describedRow facts runId startedAt observedAt .running workflowExecutionStep none)
  | closedInsert {facts runId described observed startedAt observedAt closeStatus closedAt}
      (accepted : Accepted rfc facts runId described observed startedAt observedAt)
      (scope : facts.issueRef.repoId = facts.repoId) :
      Material rfc (.describeClosed facts runId described closeStatus closedAt observed) none
        (describedRow facts runId startedAt observedAt (terminalProjection closeStatus).1
          workflowClosedStep (some (terminalProjection closeStatus).2))
  | reopen {facts runId described observed startedAt observedAt row stored}
      (accepted : Accepted rfc facts runId described observed startedAt observedAt)
      (same : sameImmutableStartFacts row facts = true) (status : row.status = .running)
      (run : row.runId ≠ some runId) (parsed : rfc.parse row.startedAt = .ok stored)
      (newer : stored.unixNanos < described.unixNanos) :
      Material rfc (.describeOpen facts runId described observed) (some row)
        (reopened facts runId startedAt observedAt row)
  | closeSame {facts runId described observed startedAt observedAt closeStatus closedAt row}
      (accepted : Accepted rfc facts runId described observed startedAt observedAt)
      (same : sameImmutableStartFacts row facts = true) (status : row.status = .running)
      (run : row.runId = some runId) (start : row.startedAt = startedAt) :
      Material rfc (.describeClosed facts runId described closeStatus closedAt observed) (some row)
        (closedBy facts runId startedAt observedAt closeStatus row)
  | closeNewer {facts runId described observed startedAt observedAt closeStatus closedAt row stored}
      (accepted : Accepted rfc facts runId described observed startedAt observedAt)
      (same : sameImmutableStartFacts row facts = true) (status : row.status = .running)
      (run : row.runId ≠ some runId) (parsed : rfc.parse row.startedAt = .ok stored)
      (newer : stored.unixNanos < described.unixNanos) :
      Material rfc (.describeClosed facts runId described closeStatus closedAt observed) (some row)
        (closedBy facts runId startedAt observedAt closeStatus row)
  | refined {facts runId described observed startedAt observedAt closeStatus closedAt row}
      (accepted : Accepted rfc facts runId described observed startedAt observedAt)
      (same : sameImmutableStartFacts row facts = true) (status : row.status = .closedUnknown)
      (run : row.runId = some runId) (start : row.startedAt = startedAt)
      (news : ¬ ((terminalProjection closeStatus).1 = .closedUnknown
        ∧ row.terminalOutcome = some (terminalProjection closeStatus).2)) :
      Material rfc (.describeClosed facts runId described closeStatus closedAt observed) (some row)
        (closedBy facts runId startedAt observedAt closeStatus row)

/-- A decision that follows from an observation and the stored row: a refusal,
an answer other than `Applied`, or one of the material writes. -/
def Decision.Justified (rfc : Rfc3339) (o : WorkflowLifecycleObservation)
    (stored : Option WorkflowIndexRow) : Decision → Prop
  | refuse _ => True
  | answer outcome => ∀ row, outcome ≠ .applied row
  | insertOpen row => stored = none ∧ Material rfc o none row ∧ row.status = .running
  | insertClosed row => stored = none ∧ Material rfc o none row
  | replace row => ∃ prev, stored = some prev ∧ Material rfc o (some prev) row

section

variable {rfc : Rfc3339} {o : WorkflowLifecycleObservation} {facts : ActivationFacts}
  {runId startedAt observedAt : String} {described observed : OffsetDateTime}

theorem newerRun_justified {row : WorkflowIndexRow} {d : Decision}
    (h : ∀ start, rfc.parse row.startedAt = .ok start → start.unixNanos < described.unixNanos →
      d.Justified rfc o stored) :
    (newerRun rfc described row d).Justified rfc o stored := by
  unfold newerRun
  cases hparse : parsePersistedTimestamp rfc row.startedAt with
  | error e => trivial
  | ok start =>
      dsimp only
      split
      · intro _ he
        cases he
      · next hlt => exact h start (mapError_eq_ok.mp hparse) (not_le.mp hlt)

theorem decideOpen_justified
    (accepted : Accepted rfc facts runId described observed startedAt observedAt)
    (stored : Option WorkflowIndexRow) :
    (decideOpen rfc facts runId described startedAt observedAt stored).Justified rfc
      (.describeOpen facts runId described observed) stored := by
  cases stored with
  | none =>
      simp only [decideOpen]
      split
      · next hscope => exact And.intro rfl (And.intro (.openInsert accepted hscope) rfl)
      · trivial
  | some row =>
      simp only [decideOpen]
      split
      · intro _ he; cases he
      next hsame =>
      split
      · intro _ he; cases he
      next hstatus =>
      split
      · split <;> (intro _ he; cases he)
      next hrun =>
      exact newerRun_justified fun start hstart hnewer => Exists.intro row (And.intro rfl
        (.reopen accepted (by simpa using hsame) (not_not.mp hstatus) hrun hstart hnewer))

theorem decideClose_justified
    (accepted : Accepted rfc facts runId described observed startedAt observedAt)
    {closedAt : Option OffsetDateTime} {row : WorkflowIndexRow}
    (same : sameImmutableStartFacts row facts = true) (run : row.runId = some runId)
    (start : row.startedAt = startedAt) :
    (decideClose facts runId startedAt observedAt closeStatus row).Justified rfc
      (.describeClosed facts runId described closeStatus closedAt observed) (some row) := by
  unfold decideClose
  split
  · next hstatus =>
    exact Exists.intro row (And.intro rfl (.closeSame accepted same hstatus run start))
  · next hstatus =>
    split
    · intro _ he; cases he
    · next hnews =>
      exact Exists.intro row (And.intro rfl (.refined accepted same hstatus run start hnews))
  · split <;> (intro _ he; cases he)

theorem decideClosed_justified
    (accepted : Accepted rfc facts runId described observed startedAt observedAt)
    (closeStatus : Option WorkflowCloseStatus) (closedAt : Option OffsetDateTime)
    (stored : Option WorkflowIndexRow) :
    (decideClosed rfc facts runId described startedAt observedAt closeStatus stored).Justified rfc
      (.describeClosed facts runId described closeStatus closedAt observed) stored := by
  cases stored with
  | none =>
      simp only [decideClosed]
      split
      · next hscope => exact And.intro rfl (.closedInsert accepted hscope)
      · trivial
  | some row =>
      simp only [decideClosed]
      split
      · intro _ he; cases he
      next hsame =>
      have hsame : sameImmutableStartFacts row facts = true := by simpa using hsame
      split
      · next hrun =>
        split
        · intro _ he; cases he
        next hstart => exact decideClose_justified accepted hsame hrun (not_not.mp hstart)
      next hrun =>
      split
      · intro _ he; cases he
      next hstatus =>
      exact newerRun_justified fun start hstart hnewer => Exists.intro row (And.intro rfl
        (.closeNewer accepted hsame (not_not.mp hstatus) hrun hstart hnewer))

theorem decideStartResponse_justified (run : Option String) (stored : Option WorkflowIndexRow) :
    (decideStartResponse facts run stored).Justified rfc o stored := by
  unfold decideStartResponse
  cases stored with
  | none => intro _ he; cases he
  | some row =>
      dsimp only
      split
      · intro _ he; cases he
      · split <;> (intro _ he; cases he)

theorem decideStartFailure_justified (code : DefinitiveStartFailureCode) (summary : String)
    (stored : Option WorkflowIndexRow) :
    (decideStartFailure facts code summary stored).Justified rfc o stored := by
  unfold decideStartFailure
  cases stored with
  | none => intro _ he; cases he
  | some row =>
      dsimp only
      split <;> (intro _ he; cases he)

theorem validateRequired_eq_ok {field value : String} {u : Unit} :
    validateRequired field value = .ok u ↔ Text.isBlank value = false := by
  simp [validateRequired]

theorem formatTimestamp_eq_ok {value : OffsetDateTime} {text : String} :
    formatTimestamp rfc value = .ok text ↔ rfc.format value.unixNanos = .ok text :=
  mapError_eq_ok

theorem decision_describeOpen
    (accepted : Accepted rfc facts runId described observed startedAt observedAt) :
    decision rfc (.describeOpen facts runId described observed)
      = .ok (decideOpen rfc facts runId described startedAt observedAt) := by
  have hrun : validateRequired "run_id" runId = .ok () := validateRequired_eq_ok.mpr accepted.runId
  simp [decision, WorkflowLifecycleObservation.facts, accepted.facts, hrun,
    formatTimestamp_eq_ok.mpr accepted.startedAt, formatTimestamp_eq_ok.mpr accepted.observedAt]

theorem decision_describeClosed
    (accepted : Accepted rfc facts runId described observed startedAt observedAt)
    (closeStatus : Option WorkflowCloseStatus) (closedAt : Option OffsetDateTime) :
    decision rfc (.describeClosed facts runId described closeStatus closedAt observed)
      = .ok (decideClosed rfc facts runId described startedAt observedAt closeStatus) := by
  have hrun : validateRequired "run_id" runId = .ok () := validateRequired_eq_ok.mpr accepted.runId
  simp [decision, WorkflowLifecycleObservation.facts, accepted.facts, hrun,
    formatTimestamp_eq_ok.mpr accepted.startedAt, formatTimestamp_eq_ok.mpr accepted.observedAt]

theorem accepted_of_bind {α : Type} {next : String → String → Except LocalStateError α} {a : α}
    (h : (do
      validateCommonObservation facts
      validateRequired "run_id" runId
      let startedAt ← formatTimestamp rfc described
      let observedAt ← formatTimestamp rfc observed
      next startedAt observedAt) = .ok a) :
    ∃ startedAt observedAt, Accepted rfc facts runId described observed startedAt observedAt := by
  obtain ⟨_, hfacts, h⟩ := bind_eq_ok h
  obtain ⟨_, hrun, h⟩ := bind_eq_ok h
  obtain ⟨startedAt, hstarted, h⟩ := bind_eq_ok h
  obtain ⟨observedAt, hobserved, -⟩ := bind_eq_ok h
  exact ⟨startedAt, observedAt, hfacts, validateRequired_eq_ok.mp hrun,
    formatTimestamp_eq_ok.mp hstarted, formatTimestamp_eq_ok.mp hobserved⟩

variable {d : Option WorkflowIndexRow → Decision}

theorem accepted_of_decision_describeOpen
    (h : decision rfc (.describeOpen facts runId described observed) = .ok d) :
    ∃ startedAt observedAt, Accepted rfc facts runId described observed startedAt observedAt :=
  accepted_of_bind h

theorem accepted_of_decision_describeClosed {closedAt : Option OffsetDateTime}
    (h : decision rfc (.describeClosed facts runId described closeStatus closedAt observed)
      = .ok d) :
    ∃ startedAt observedAt, Accepted rfc facts runId described observed startedAt observedAt :=
  accepted_of_bind h

theorem decision_justified (h : decision rfc o = .ok d) (stored : Option WorkflowIndexRow) :
    (d stored).Justified rfc o stored := by
  cases o with
  | describeOpen facts runId described observed =>
      obtain ⟨startedAt, observedAt, accepted⟩ := accepted_of_decision_describeOpen h
      obtain rfl := Except.ok.inj ((decision_describeOpen accepted).symm.trans h)
      exact decideOpen_justified accepted stored
  | startResponse facts runId observed =>
      unfold decision at h
      obtain ⟨_, -, h⟩ := bind_eq_ok h
      obtain rfl := Except.ok.inj h
      exact decideStartResponse_justified _ stored
  | definitiveStartFailure facts code summary observed =>
      unfold decision at h
      obtain ⟨_, -, h⟩ := bind_eq_ok h
      obtain rfl := Except.ok.inj h
      exact decideStartFailure_justified code summary stored
  | describeClosed facts runId described closeStatus closedAt observed =>
      obtain ⟨startedAt, observedAt, accepted⟩ := accepted_of_decision_describeClosed h
      obtain rfl :=
        Except.ok.inj ((decision_describeClosed accepted closeStatus closedAt).symm.trans h)
      exact decideClosed_justified accepted closeStatus closedAt stored

end

/-! ## Writes -/

/-- `table'` is `table` with `row` stored for its workflow, where `prev` was
stored before. -/
inductive Write (row : WorkflowIndexRow) (table table' : Table) : Option WorkflowIndexRow → Prop
  | insert (absent : table.lookup row.workflowId = none)
      (done : table.insert row.stored = some table') : Write row table table' none
  | update {prev : WorkflowIndexRow} (present : table.lookup row.workflowId = some prev.stored)
      (frame : materialColumns row.stored prev.stored = row.stored)
      (done : table.rewrite row.workflowId (materialColumns row.stored) (fun _ => rfl)
        = some table') : Write row table table' (some prev)

namespace Write

variable {row : WorkflowIndexRow} {prev : Option WorkflowIndexRow} {table table' : Table}

theorem before (w : Write row table table' prev) :
    table.lookup row.workflowId = prev.map WorkflowIndexRow.stored := by
  cases w with
  | insert absent _ => exact absent
  | update present _ _ => exact present

theorem lookup_self (w : Write row table table' prev) :
    table'.lookup row.workflowId = some row.stored := by
  cases w with
  | insert _ done => exact Store.lookup_insert_self done
  | update present frame done => rw [Store.lookup_rewrite_self done present, frame]

theorem lookup_of_ne (w : Write row table table' prev) {workflowId : String}
    (h : row.workflowId ≠ workflowId) : table'.lookup workflowId = table.lookup workflowId := by
  cases w with
  | insert _ done => exact Store.lookup_insert_of_ne done h
  | update _ _ done => exact Store.lookup_rewrite_of_ne done h

theorem mem_rows (w : Write row table table' prev) {text : StoredRow} (h : text ∈ table'.rows) :
    text = row.stored ∨ text ∈ table.rows := by
  cases w with
  | insert _ done =>
      rw [Store.rows_insert done] at h
      rcases List.mem_append.mp h with hold | hnew
      · exact Or.inr hold
      · exact Or.inl (List.mem_singleton.mp hnew)
  | update present frame done =>
      rw [Store.rows_rewrite done] at h
      obtain ⟨old, hold, rfl⟩ := List.mem_map.mp h
      by_cases hkey : old.workflowId = row.workflowId
      · obtain ⟨hprev, hprevKey⟩ := Store.mem_of_lookup present
        obtain rfl := Store.eq_of_key_eq hold hprev (hkey.trans hprevKey.symm)
        rw [if_pos hkey]
        exact Or.inl frame
      · rw [if_neg hkey]
        exact Or.inr hold

end Write

variable {db : LocalStateDatabase}

section

variable {rfc : Rfc3339} {sqlite : Sqlite} {o : WorkflowLifecycleObservation}
  {table table' : Table} {outcome : WorkflowLifecycleProjectionOutcome}
  {row prev : WorkflowIndexRow} {key : String}

theorem sameImmutableStartFacts_iff {facts : ActivationFacts} :
    sameImmutableStartFacts row facts = true ↔
      row.workflowId = facts.workflowId ∧ row.workspaceRuntimeId = facts.workspaceRuntimeId
        ∧ row.repoId = facts.repoId.databaseKey ∧ row.issueRef = facts.issueRef.databaseKey
        ∧ row.fromState = facts.fromState ∧ row.targetKind = facts.targetKind
        ∧ row.sourceRef = facts.sourceRef
        ∧ row.sourceTrackerRevision = facts.sourceTrackerRevision
        ∧ row.operatorActionRef = facts.operatorActionRef := by
  simp [sameImmutableStartFacts, and_assoc]

theorem Material.workflowId (m : Material rfc o stored row) :
    row.workflowId = o.facts.workflowId := by
  cases m with
  | openInsert | closedInsert => rfl
  | reopen _ same | closeSame _ same | closeNewer _ same | refined _ same =>
      exact (sameImmutableStartFacts_iff.mp same).1

/-- Every update sets all the columns in which its row differs from the stored
one. -/
theorem Material.frame (m : Material rfc o (some prev) row) :
    materialColumns row.stored prev.stored = row.stored := by
  cases m <;> rfl

theorem loadWorkflow_eq_ok (h : loadWorkflow sqlite table key = .ok stored) :
    table.lookup key = stored.map WorkflowIndexRow.stored := by
  unfold loadWorkflow at h
  obtain ⟨_, -, h⟩ := bind_eq_ok h
  cases hl : table.lookup key with
  | none =>
      rw [hl] at h
      obtain rfl := Except.ok.inj h
      rfl
  | some text =>
      rw [hl] at h
      obtain ⟨decoded, hdecoded, h⟩ := bind_eq_ok h
      obtain rfl := Except.ok.inj h
      rw [workflowIndexRow_eq_ok.mp hdecoded, Option.map_some]

theorem insertWorkflow_eq_ok (h : insertWorkflow sqlite table row = .ok table') :
    table.insert row.stored = some table' := by
  obtain ⟨_, -, h⟩ := bind_eq_ok h
  exact okOr_eq_ok.mp h

theorem updateMaterialProjection_eq_ok
    (h : updateMaterialProjection sqlite table row = .ok table') :
    table.rewrite row.workflowId (materialColumns row.stored) (fun _ => rfl) = some table' := by
  obtain ⟨_, -, h⟩ := bind_eq_ok h
  exact okOr_eq_ok.mp h

theorem readbackApplied_eq_ok
    (h : readbackApplied sqlite table key = .ok (outcome, table')) :
    table' = table ∧ ∃ r, outcome = .applied r ∧ table.lookup key = some r.stored := by
  obtain ⟨stored, hload, h⟩ := bind_eq_ok h
  obtain ⟨r, hr, h⟩ := bind_eq_ok h
  obtain ⟨rfl, rfl⟩ := Prod.mk.inj (Except.ok.inj h)
  refine ⟨rfl, r, rfl, ?_⟩
  rw [loadWorkflow_eq_ok hload, okOr_eq_ok.mp hr, Option.map_some]

theorem Write.readback {committed : Table} (w : Write row table table' stored)
    (h : readbackApplied sqlite table' row.workflowId = .ok (outcome, committed)) :
    outcome = .applied row ∧ committed = table' := by
  obtain ⟨rfl, r, rfl, hr⟩ := readbackApplied_eq_ok h
  rw [w.lookup_self] at hr
  rw [stored_injective (Option.some.inj hr)]
  exact ⟨rfl, rfl⟩

theorem insertOpenOrActiveConflict_eq_ok (absent : table.lookup row.workflowId = none)
    (h : insertOpenOrActiveConflict sqlite table row = .ok (outcome, table')) :
    (outcome = .applied row ∧ Write row table table' none)
      ∨ (table' = table ∧ ∃ r, outcome = .activeProjectionConflict r.workflowId r
        ∧ table.occupant (row.repoId, row.issueRef) = some r.stored) := by
  unfold insertOpenOrActiveConflict at h
  split at h
  · next inserted hinsert =>
    have w : Write row table inserted none := .insert absent (insertWorkflow_eq_ok hinsert)
    obtain ⟨rfl, rfl⟩ := w.readback h
    exact Or.inl ⟨rfl, w⟩
  · obtain ⟨active, hactive, h⟩ := bind_eq_ok h
    unfold loadActiveWorkflow at hactive
    obtain ⟨_, -, hactive⟩ := bind_eq_ok hactive
    cases hocc : table.occupant (row.repoId, row.issueRef) with
    | none =>
        rw [hocc] at hactive
        obtain rfl := Except.ok.inj hactive
        cases h
    | some text =>
        rw [hocc] at hactive
        obtain ⟨r, hr, hactive⟩ := bind_eq_ok hactive
        obtain rfl := Except.ok.inj hactive
        obtain ⟨rfl, rfl⟩ := Prod.mk.inj (Except.ok.inj h)
        exact Or.inr ⟨rfl, r, rfl, congrArg some (workflowIndexRow_eq_ok.mp hr)⟩
  · cases h

/-- Performing a justified decision: its write, answered `Applied`, or another
answer and the table as it was. Only an open insert whose issue is taken is
decided and yet not carried out. -/
theorem perform_eq_ok {d : Decision}
    (hlookup : table.lookup o.facts.workflowId = stored.map WorkflowIndexRow.stored)
    (hjust : d.Justified rfc o stored) (h : d.perform sqlite table = .ok (outcome, table')) :
    (∃ r, outcome = .applied r ∧ d.written = some r ∧ Material rfc o stored r
        ∧ Write r table table' stored)
      ∨ ((∀ r, outcome ≠ .applied r) ∧ table' = table
        ∧ (d.written = none ∨ ∃ r, d = .insertOpen r
          ∧ table.occupant (r.repoId, r.issueRef) ≠ none)) := by
  cases d with
  | refuse e => cases h
  | answer other =>
      obtain ⟨rfl, rfl⟩ := Prod.mk.inj (Except.ok.inj h)
      exact Or.inr ⟨hjust, rfl, Or.inl rfl⟩
  | insertOpen r =>
      obtain ⟨rfl, m, -⟩ := hjust
      rw [← m.workflowId] at hlookup
      rcases insertOpenOrActiveConflict_eq_ok hlookup h with ⟨rfl, w⟩ | ⟨rfl, other, rfl, hocc⟩
      · exact Or.inl ⟨r, rfl, rfl, m, w⟩
      · refine Or.inr ⟨fun _ he => (by cases he), rfl, Or.inr ⟨r, rfl, ?_⟩⟩
        rw [hocc]
        exact Option.some_ne_none _
  | insertClosed r =>
      obtain ⟨rfl, m⟩ := hjust
      rw [← m.workflowId] at hlookup
      obtain ⟨inserted, hinsert, h⟩ := bind_eq_ok h
      have w : Write r table inserted none := .insert hlookup (insertWorkflow_eq_ok hinsert)
      obtain ⟨rfl, rfl⟩ := w.readback h
      exact Or.inl ⟨r, rfl, rfl, m, w⟩
  | replace r =>
      obtain ⟨old, rfl, m⟩ := hjust
      rw [← m.workflowId] at hlookup
      obtain ⟨updated, hupdate, h⟩ := bind_eq_ok h
      have w : Write r table updated (some old) :=
        .update hlookup m.frame (updateMaterialProjection_eq_ok hupdate)
      obtain ⟨rfl, rfl⟩ := w.readback h
      exact Or.inl ⟨r, rfl, rfl, m, w⟩

theorem project_eq_ok (h : (project rfc db sqlite o table).1 = .ok outcome) :
    ∃ d stored, decision rfc o = .ok d
      ∧ table.lookup o.facts.workflowId = stored.map WorkflowIndexRow.stored
      ∧ (d stored).perform sqlite table = .ok (outcome, (project rfc db sqlite o table).2) := by
  rw [project_eq] at h ⊢
  cases hd : decision rfc o with
  | error e => rw [hd] at h; cases h
  | ok d =>
      rw [hd] at h
      obtain ⟨stored, hload, hperform⟩ := bind_eq_ok (withImmediateTransaction_eq_ok h)
      exact ⟨d, stored, rfl, loadWorkflow_eq_ok hload, hperform⟩

theorem project_eq_error {error : LocalStateError}
    (h : (project rfc db sqlite o table).1 = .error error) :
    (project rfc db sqlite o table).2 = table := by
  rw [project_eq] at h ⊢
  cases hd : decision rfc o with
  | error e => rfl
  | ok d =>
      rw [hd] at h
      exact withImmediateTransaction_eq_error h

end

theorem project_cases (rfc : Rfc3339) (db : LocalStateDatabase) (sqlite : Sqlite)
    (o : WorkflowLifecycleObservation) (table : Table) :
    (∃ stored row, (project rfc db sqlite o table).1 = .ok (.applied row)
        ∧ Material rfc o stored row ∧ Write row table (project rfc db sqlite o table).2 stored)
      ∨ ((∀ row, (project rfc db sqlite o table).1 ≠ .ok (.applied row))
        ∧ (project rfc db sqlite o table).2 = table) := by
  cases hout : (project rfc db sqlite o table).1 with
  | error e => exact Or.inr ⟨fun _ he => (by cases he), project_eq_error hout⟩
  | ok outcome =>
      obtain ⟨d, stored, hd, hlookup, hperform⟩ := project_eq_ok hout
      rcases perform_eq_ok hlookup (decision_justified hd stored) hperform with
        ⟨row, rfl, -, m, w⟩ | ⟨hne, hsame, -⟩
      · exact Or.inl ⟨stored, row, rfl, m, w⟩
      · exact Or.inr ⟨fun row he => hne row (Except.ok.inj he), hsame⟩

theorem sameImmutableStartFacts_describedRow (facts : ActivationFacts)
    (runId startedAt observedAt : String) (status : WorkflowIndexStatus) (activeStep : String)
    (outcome : Option WorkflowTerminalOutcome) :
    sameImmutableStartFacts
      (describedRow facts runId startedAt observedAt status activeStep outcome) facts = true :=
  sameImmutableStartFacts_iff.mpr ⟨rfl, rfl, rfl, rfl, rfl, rfl, rfl, rfl, rfl⟩

theorem Material.sameFacts {rfc : Rfc3339} {o : WorkflowLifecycleObservation}
    {row : WorkflowIndexRow} (m : Material rfc o stored row) :
    sameImmutableStartFacts row o.facts = true := by
  cases m with
  | openInsert | closedInsert => exact sameImmutableStartFacts_describedRow ..
  | reopen _ same | closeSame _ same | closeNewer _ same | refined _ same => exact same

/-! ## Identity conflicts -/

section

variable {rfc : Rfc3339} {o : WorkflowLifecycleObservation} {row : WorkflowIndexRow}
  {d : Option WorkflowIndexRow → Decision} {facts : ActivationFacts}
  {runId startedAt observedAt : String} {described : OffsetDateTime}

theorem newerRun_ne_conflict {r : WorkflowIndexRow} {decision : Decision}
    (h : decision ≠ .answer (.workflowIdentityConflict r)) :
    newerRun rfc described row decision ≠ .answer (.workflowIdentityConflict r) := by
  unfold newerRun
  split
  · exact nofun
  · split
    · exact nofun
    · exact h

theorem decideClose_ne_conflict {r : WorkflowIndexRow} :
    decideClose facts runId startedAt observedAt closeStatus row
      ≠ .answer (.workflowIdentityConflict r) := by
  unfold decideClose
  split
  · exact nofun
  · split <;> exact nofun
  · split <;> exact nofun

theorem decideOpen_conflict_iff :
    (∃ r, decideOpen rfc facts runId described startedAt observedAt (some row)
        = .answer (.workflowIdentityConflict r))
      ↔ sameImmutableStartFacts row facts = false := by
  cases hsame : sameImmutableStartFacts row facts with
  | false => simp [decideOpen, hsame]
  | true =>
      simp only [decideOpen, hsame, Bool.true_eq_false, if_false, iff_false, not_exists]
      intro r
      split
      · exact nofun
      split
      · split <;> exact nofun
      · refine newerRun_ne_conflict ?_
        exact nofun

theorem decideClosed_conflict_iff :
    (∃ r, decideClosed rfc facts runId described startedAt observedAt closeStatus (some row)
        = .answer (.workflowIdentityConflict r))
      ↔ sameImmutableStartFacts row facts = false := by
  cases hsame : sameImmutableStartFacts row facts with
  | false => simp [decideClosed, hsame]
  | true =>
      simp only [decideClosed, hsame, Bool.true_eq_false, if_false, iff_false, not_exists]
      intro r
      split
      · split
        · exact nofun
        · exact decideClose_ne_conflict
      split
      · exact nofun
      · refine newerRun_ne_conflict ?_
        exact nofun

theorem decideStartResponse_conflict_iff {run : Option String} :
    (∃ r, decideStartResponse facts run (some row) = .answer (.workflowIdentityConflict r))
      ↔ sameImmutableStartFacts row facts = false := by
  cases hsame : sameImmutableStartFacts row facts with
  | false => simp [decideStartResponse, hsame]
  | true =>
      simp only [decideStartResponse, hsame, Bool.true_eq_false, if_false, iff_false, not_exists]
      intro r
      split <;> exact nofun

theorem decideStartFailure_conflict_iff {code : DefinitiveStartFailureCode} {summary : String} :
    (∃ r, decideStartFailure facts code summary (some row) = .answer (.workflowIdentityConflict r))
      ↔ sameImmutableStartFacts row facts = false := by
  cases hsame : sameImmutableStartFacts row facts <;> simp [decideStartFailure, hsame]

theorem decision_conflict_iff (hd : decision rfc o = .ok d) :
    (∃ r, d (some row) = .answer (.workflowIdentityConflict r))
      ↔ sameImmutableStartFacts row o.facts = false := by
  cases o with
  | describeOpen facts runId described observed =>
      obtain ⟨startedAt, observedAt, accepted⟩ := accepted_of_decision_describeOpen hd
      obtain rfl := Except.ok.inj ((decision_describeOpen accepted).symm.trans hd)
      exact decideOpen_conflict_iff
  | startResponse facts runId observed =>
      obtain ⟨_, -, hd⟩ := bind_eq_ok hd
      obtain rfl := Except.ok.inj hd
      exact decideStartResponse_conflict_iff
  | definitiveStartFailure facts code summary observed =>
      obtain ⟨_, -, hd⟩ := bind_eq_ok hd
      obtain rfl := Except.ok.inj hd
      exact decideStartFailure_conflict_iff
  | describeClosed facts runId described closeStatus closedAt observed =>
      obtain ⟨startedAt, observedAt, accepted⟩ := accepted_of_decision_describeClosed hd
      obtain rfl := Except.ok.inj ((decision_describeClosed accepted _ _).symm.trans hd)
      exact decideClosed_conflict_iff

/-- Against a stored row, a projection that returns reports an identity
conflict exactly when the start facts differ. -/
theorem project_conflict_iff {sqlite : Sqlite} {table : Table}
    {outcome : WorkflowLifecycleProjectionOutcome}
    (hstored : table.lookup o.facts.workflowId = some row.stored)
    (h : (project rfc db sqlite o table).1 = .ok outcome) :
    (∃ r, outcome = .workflowIdentityConflict r)
      ↔ sameImmutableStartFacts row o.facts = false := by
  obtain ⟨d, stored, hd, hlookup, hperform⟩ := project_eq_ok h
  rw [hstored] at hlookup
  obtain ⟨row', rfl, hrow⟩ := Option.map_eq_some_iff.mp hlookup.symm
  obtain rfl := stored_injective hrow
  rw [← decision_conflict_iff hd]
  have hjust := decision_justified hd (some row')
  constructor
  · rintro ⟨r, rfl⟩
    refine ⟨r, ?_⟩
    cases hdec : d (some row') with
    | refuse e => rw [hdec] at hperform; cases hperform
    | answer other =>
        rw [hdec] at hperform
        rw [(Prod.mk.inj (Except.ok.inj hperform)).1]
    | insertOpen r' => rw [hdec] at hjust; cases hjust.1
    | insertClosed r' => rw [hdec] at hjust; cases hjust.1
    | replace r' =>
        rw [hdec] at hperform
        obtain ⟨_, -, hread⟩ := bind_eq_ok hperform
        obtain ⟨-, _, he, -⟩ := readbackApplied_eq_ok hread
        cases he
  · rintro ⟨r, hr⟩
    rw [hr] at hperform
    exact ⟨r, ((Prod.mk.inj (Except.ok.inj hperform)).1).symm⟩

end

/-! ## What a healthy engine carries out -/

section

variable {rfc : Rfc3339} {sqlite : Sqlite} {o : WorkflowLifecycleObservation} {table : Table}

theorem loadWorkflow_of_lookup (healthy : sqlite.Healthy) {key : String}
    (h : table.lookup key = stored.map WorkflowIndexRow.stored) :
    loadWorkflow sqlite table key = .ok stored := by
  unfold loadWorkflow
  rw [healthy.execute, ok_bind, h]
  cases stored with
  | none => rfl
  | some row =>
      have hdecode : workflowIndexRow row.stored = .ok row := workflowIndexRow_eq_ok.mpr rfl
      simp [hdecode]

theorem readbackApplied_of_lookup (healthy : sqlite.Healthy) {row : WorkflowIndexRow}
    (h : table.lookup row.workflowId = some row.stored) :
    readbackApplied sqlite table row.workflowId = .ok (.applied row, table) := by
  have hload : loadWorkflow sqlite table row.workflowId = .ok (some row) :=
    loadWorkflow_of_lookup healthy h
  rw [readbackApplied, hload]
  rfl

theorem Material.activeIssue {prev row : WorkflowIndexRow} (m : Material rfc o (some prev) row) :
    activeIssue row.stored = activeIssue prev.stored ∨ activeIssue row.stored = none := by
  have hclosed : ∀ closeStatus : Option WorkflowCloseStatus,
      (terminalProjection closeStatus).1 ∉ activeWorkflowStatuses := by
    rintro (_ | (_ | _ | _ | _ | _)) <;> decide
  cases m with
  | reopen _ _ status =>
      left
      rw [activeIssue_stored, activeIssue_stored, status]
      rfl
  | closeSame | closeNewer | refined =>
      right
      rw [activeIssue_stored]
      exact if_neg (hclosed _)

theorem project_of_performed (healthy : sqlite.Healthy) (db : LocalStateDatabase)
    {d : Option WorkflowIndexRow → Decision} (hd : decision rfc o = .ok d)
    (hstored : table.lookup o.facts.workflowId = stored.map WorkflowIndexRow.stored)
    {outcome : WorkflowLifecycleProjectionOutcome} {table' : Table}
    (hperform : (d stored).perform sqlite table = .ok (outcome, table')) :
    (project rfc db sqlite o table).2 = table' := by
  have hbody : executeDecision sqlite o.facts.workflowId d table = .ok (outcome, table') := by
    rw [executeDecision, loadWorkflow_of_lookup healthy hstored, ok_bind, hperform]
  rw [project_eq, hd]
  dsimp only
  rw [withImmediateTransaction_of_healthy healthy hbody]

theorem insertWorkflow_of_free (healthy : sqlite.Healthy) {row : WorkflowIndexRow}
    (habsent : table.lookup row.workflowId = none)
    (hfree : table.occupant (row.repoId, row.issueRef) = none) :
    ∃ table', insertWorkflow sqlite table row = .ok table' ∧ Write row table table' none := by
  cases hins : table.insert row.stored with
  | none =>
      rcases Store.insert_eq_none.mp hins with ⟨r, hr, hk⟩ | ⟨issue, hissue, r, hr, hslot⟩
      · exact absurd hk (Store.lookup_eq_none.mp habsent r hr)
      · rw [activeIssue_stored] at hissue
        split at hissue
        · obtain rfl := Option.some.inj hissue
          exact absurd hslot (Store.occupant_eq_none.mp hfree r hr)
        · cases hissue
  | some table' =>
      refine ⟨table', ?_, .insert habsent hins⟩
      rw [insertWorkflow, healthy.execute, hins]
      rfl

theorem updateMaterialProjection_of_present (healthy : sqlite.Healthy)
    {prev row : WorkflowIndexRow} (m : Material rfc o (some prev) row)
    (hpresent : table.lookup row.workflowId = some prev.stored) :
    ∃ table', updateMaterialProjection sqlite table row = .ok table'
      ∧ Write row table table' (some prev) := by
  cases hrew : table.rewrite row.workflowId (materialColumns row.stored) fun _ => rfl with
  | none =>
      refine absurd hrew (Store.rewrite_ne_none fun r hr hk => ?_)
      obtain ⟨hmem, hkey⟩ := Store.mem_of_lookup hpresent
      obtain rfl := Store.eq_of_key_eq hr hmem (hk.trans hkey.symm)
      rw [m.frame]
      exact m.activeIssue
  | some table' =>
      refine ⟨table', ?_, .update hpresent m.frame hrew⟩
      rw [updateMaterialProjection, healthy.execute, hrew]
      rfl

/-- On a healthy engine a decided write happens: unless another active row
holds the issue of a new row, the workflow's row becomes the one decided, or
stays when nothing is to be written. -/
theorem lookup_project_of_healthy (healthy : sqlite.Healthy) (db : LocalStateDatabase)
    {d : Option WorkflowIndexRow → Decision} (hd : decision rfc o = .ok d)
    (hstored : table.lookup o.facts.workflowId = stored.map WorkflowIndexRow.stored)
    (free : ∀ row, (d stored).written = some row → stored = none →
      table.occupant (row.repoId, row.issueRef) = none) :
    (project rfc db sqlite o table).2.lookup o.facts.workflowId
      = ((d stored).written.or stored).map WorkflowIndexRow.stored := by
  have hjust := decision_justified hd stored
  cases hdec : d stored with
  | refuse e =>
      -- Nothing is performed, so no outcome can come back.
      have hrefused : (project rfc db sqlite o table).2 = table := by
        cases hout : (project rfc db sqlite o table).1 with
        | error error => exact project_eq_error hout
        | ok outcome =>
            obtain ⟨d', stored', hd', hstored', hperform⟩ := project_eq_ok hout
            obtain rfl := Except.ok.inj (hd.symm.trans hd')
            rw [hstored] at hstored'
            obtain rfl := Option.map_injective (fun _ _ => stored_injective) hstored'
            rw [hdec] at hperform
            cases hperform
      rw [hrefused, hstored]
      simp [Decision.written]
  | answer outcome =>
      have hperform : (d stored).perform sqlite table = .ok (outcome, table) := by rw [hdec]; rfl
      rw [project_of_performed healthy db hd hstored hperform, hstored]
      simp [Decision.written]
  | insertOpen row =>
      rw [hdec] at hjust
      obtain ⟨rfl, m, -⟩ := hjust
      have habsent : table.lookup row.workflowId = none := by
        rw [m.workflowId]
        exact hstored
      obtain ⟨table', hins, w⟩ :=
        insertWorkflow_of_free healthy habsent (free row (by rw [hdec]; rfl) rfl)
      have hperform : (d none).perform sqlite table = .ok (.applied row, table') := by
        rw [hdec, perform_insertOpen, insertOpenOrActiveConflict, hins]
        exact readbackApplied_of_lookup healthy w.lookup_self
      rw [project_of_performed healthy db hd hstored hperform, ← m.workflowId]
      exact w.lookup_self
  | insertClosed row =>
      rw [hdec] at hjust
      obtain ⟨rfl, m⟩ := hjust
      have habsent : table.lookup row.workflowId = none := by
        rw [m.workflowId]
        exact hstored
      obtain ⟨table', hins, w⟩ :=
        insertWorkflow_of_free healthy habsent (free row (by rw [hdec]; rfl) rfl)
      have hperform : (d none).perform sqlite table = .ok (.applied row, table') := by
        rw [hdec, perform_insertClosed, hins, ok_bind]
        exact readbackApplied_of_lookup healthy w.lookup_self
      rw [project_of_performed healthy db hd hstored hperform, ← m.workflowId]
      exact w.lookup_self
  | replace row =>
      rw [hdec] at hjust
      obtain ⟨prev, rfl, m⟩ := hjust
      have hpresent : table.lookup row.workflowId = some prev.stored := by
        rw [m.workflowId]
        exact hstored
      obtain ⟨table', hupdate, w⟩ := updateMaterialProjection_of_present healthy m hpresent
      have hperform : (d (some prev)).perform sqlite table = .ok (.applied row, table') := by
        rw [hdec, perform_replace, hupdate, ok_bind]
        exact readbackApplied_of_lookup healthy w.lookup_self
      rw [project_of_performed healthy db hd hstored hperform, ← m.workflowId]
      exact w.lookup_self

end

end SheaSymphony.LocalState

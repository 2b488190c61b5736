import SheaSymphony.ProjectorSpec
import SheaSymphony.Runs

/-!
# The invariant of the projected table

Whatever is observed, in whatever order, and wherever SQLite fails in between,
the rows the projector leaves are of two kinds: running rows without an
outcome, and closed rows with the status and outcome of one close
classification. `RowInvariant` says so column by column; the five coupled
columns are `status`, `terminal_outcome`, `active_step`, `waiting_kind` and
`freshness`.
-/

namespace SheaSymphony.LocalState

/-- One call of the projector, as a step of the table: the engine's answers
and the observation are the input. -/
def projectStep (rfc : Rfc3339) (db : LocalStateDatabase) (table : Table)
    (input : Sqlite × WorkflowLifecycleObservation) : Table :=
  (project rfc db input.1 input.2 table).2

/-- The tables an empty initialised database can come to hold. -/
abbrev ReachableTable (rfc : Rfc3339) (db : LocalStateDatabase) (table : Table) : Prop :=
  Runs.Reachable (projectStep rfc db) Store.empty table

/-- What every projected row satisfies. -/
structure RowInvariant (row : WorkflowIndexRow) : Prop where
  status : row.status = .running ∨ row.status = .completed ∨ row.status = .failed
    ∨ row.status = .closedUnknown
  running_iff_outcome : row.status = .running ↔ row.terminalOutcome = none
  running_iff_step : row.status = .running ↔ row.activeStep = workflowExecutionStep
  closed : row.status ≠ .running → row.activeStep = workflowClosedStep
    ∧ ∃ closeStatus, row.status = (terminalProjection closeStatus).1
      ∧ row.terminalOutcome = some (terminalProjection closeStatus).2
  runId : row.runId.isSome = true
  waitingKind : row.waitingKind = none
  freshness : row.freshness = .fresh

theorem RowInvariant.of_running {row : WorkflowIndexRow} (status : row.status = .running)
    (outcome : row.terminalOutcome = none) (step : row.activeStep = workflowExecutionStep)
    (runId : row.runId.isSome = true) (waitingKind : row.waitingKind = none)
    (freshness : row.freshness = .fresh) : RowInvariant row where
  status := Or.inl status
  running_iff_outcome := iff_of_true status outcome
  running_iff_step := iff_of_true status step
  closed h := absurd status h
  runId := runId
  waitingKind := waitingKind
  freshness := freshness

theorem terminalProjection_status (closeStatus : Option WorkflowCloseStatus) :
    (terminalProjection closeStatus).1 = .completed ∨ (terminalProjection closeStatus).1 = .failed
      ∨ (terminalProjection closeStatus).1 = .closedUnknown := by
  rcases closeStatus with _ | (_ | _ | _ | _ | _) <;> decide

theorem terminalProjection_ne_running (closeStatus : Option WorkflowCloseStatus) :
    (terminalProjection closeStatus).1 ≠ .running := by
  rcases terminalProjection_status closeStatus with h | h | h <;> rw [h] <;> decide

theorem RowInvariant.of_closed {row : WorkflowIndexRow} (closeStatus : Option WorkflowCloseStatus)
    (status : row.status = (terminalProjection closeStatus).1)
    (outcome : row.terminalOutcome = some (terminalProjection closeStatus).2)
    (step : row.activeStep = workflowClosedStep) (runId : row.runId.isSome = true)
    (waitingKind : row.waitingKind = none) (freshness : row.freshness = .fresh) :
    RowInvariant row := by
  have hne : row.status ≠ .running := by
    rw [status]
    exact terminalProjection_ne_running closeStatus
  refine ⟨?_, iff_of_false hne (by simp [outcome]), iff_of_false hne ?_, ?_, runId, waitingKind,
    freshness⟩
  · rw [status]
    exact Or.inr (terminalProjection_status closeStatus)
  · rw [step]
    decide
  · exact fun _ => ⟨step, closeStatus, status, outcome⟩

theorem Material.rowInvariant {rfc : Rfc3339} {o : WorkflowLifecycleObservation}
    {stored : Option WorkflowIndexRow} {row : WorkflowIndexRow} (m : Material rfc o stored row) :
    RowInvariant row := by
  cases m with
  | openInsert => exact .of_running rfl rfl rfl rfl rfl rfl
  | closedInsert => exact .of_closed _ rfl rfl rfl rfl rfl rfl
  | reopen => exact .of_running rfl rfl rfl rfl rfl rfl
  | closeSame => exact .of_closed _ rfl rfl rfl rfl rfl rfl
  | closeNewer => exact .of_closed _ rfl rfl rfl rfl rfl rfl
  | refined => exact .of_closed _ rfl rfl rfl rfl rfl rfl

/-- The rows of a table decode, and satisfy the row invariant. -/
def RowsInvariant (table : Table) : Prop :=
  ∀ text ∈ table.rows, ∃ row : WorkflowIndexRow, text = row.stored ∧ RowInvariant row

theorem rowsInvariant_step (rfc : Rfc3339) (db : LocalStateDatabase) (table : Table)
    (input : Sqlite × WorkflowLifecycleObservation) (h : RowsInvariant table) :
    RowsInvariant (projectStep rfc db table input) := by
  unfold projectStep
  rcases project_cases rfc db input.1 input.2 table with ⟨stored, row, -, m, w⟩ | ⟨-, hsame⟩
  · intro text htext
    rcases w.mem_rows htext with hnew | hold
    · exact ⟨row, hnew, m.rowInvariant⟩
    · exact h text hold
  · rw [hsame]
    exact h

theorem ReachableTable.rowsInvariant {rfc : Rfc3339} {db : LocalStateDatabase} {table : Table}
    (h : ReachableTable rfc db table) : RowsInvariant table :=
  h.invariant (nofun) (rowsInvariant_step rfc db)

/-- Every table reachable from an empty database has at most one row per
workflow and one active row per issue, and its rows are running rows without
an outcome or closed rows of one close classification. -/
theorem projected_table_invariant (rfc : Rfc3339) (db : LocalStateDatabase)
    (inputs : List (Sqlite × WorkflowLifecycleObservation)) :
    let table : Table := Runs.run (projectStep rfc db) Store.empty inputs
    (∀ repoId issueRef, table.rows.countP (fun r => activeIssue r = some (repoId, issueRef)) ≤ 1)
      ∧ (∀ workflowId, table.rows.countP (fun r => r.workflowId = workflowId) ≤ 1)
      ∧ ∀ text ∈ table.rows, ∃ row : WorkflowIndexRow, text = row.stored ∧ RowInvariant row := by
  intro table
  have hreach : ReachableTable rfc db table := ⟨inputs, rfl⟩
  exact ⟨fun repoId issueRef => table.countP_slot_le_one (repoId, issueRef),
    table.countP_key_le_one, hreach.rowsInvariant⟩

end SheaSymphony.LocalState

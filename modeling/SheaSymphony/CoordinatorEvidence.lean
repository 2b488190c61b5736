import SheaSymphony.CoordinatorReconcile
import SheaSymphony.ProjectorInvariant

/-!
# Reconciliation writes validated evidence only

Requests are reconciled one after another against one table, each with whatever
Temporal, the reader and SQLite answer it. One step never panics, leaves the
table alone when it says so, and else writes the one row its validated Describe
calls for (`reconcile_step`); so every row that a run leaves behind, and that was
not there before it, was written for a Describe answer about its own workflow id
(`reconcile_writes_validated_evidence`).
-/

namespace SheaSymphony.Coordinator

open LocalState

/-- One request with everything its surroundings answer. -/
abbrev ReconcileInput := ReconcileAnswers × CoordinatorReconciliationRequest

def reconcile (rfc : Rfc3339) (db : LocalStateDatabase) (table : Table) (input : ReconcileInput) :
    CoordinatorReconciliationResult × Table :=
  reconcileCurrentExecution rfc db input.1 input.2 table

def reconcileStep (rfc : Rfc3339) (db : LocalStateDatabase) (table : Table)
    (input : ReconcileInput) : Table :=
  (reconcile rfc db table input).2

/-- The step wrote `row`: its Describe answer names the requested workflow id,
passed validation and calls for this row, the only one that changed. -/
def WritesEvidence (rfc : Rfc3339) (input : ReconcileInput) (row : WorkflowIndexRow)
    (table table' : Table) : Prop :=
  ∃ described execution observation stored,
    input.1.describeIssueWorkflow input.2.activation.workflowId none = .ok described
      ∧ normalizeCurrentDescribe input.2.activation.workflowId none described = .ok execution
      ∧ described.workflowId = input.2.activation.workflowId
      ∧ lifecycleObservation input.2 execution = .ok observation
      ∧ row.workflowId = input.2.activation.workflowId
      ∧ Material rfc observation stored row ∧ Write row table table' stored

variable {rfc : Rfc3339} {db : LocalStateDatabase}

theorem projectionOutcome_noWrite {binding : Option WorkflowIndexRow}
    {projected : Except LocalStateError WorkflowLifecycleProjectionOutcome}
    {outcome : CoordinatorReconciliationNoWriteOutcome}
    (h : projectionOutcome binding projected = .noWrite outcome) (row : WorkflowIndexRow) :
    projected ≠ .ok (.applied row) := by
  rintro rfl
  cases h

theorem projectionOutcome_ne_panicked (binding : Option WorkflowIndexRow)
    (projected : Except LocalStateError WorkflowLifecycleProjectionOutcome) (message : String) :
    projectionOutcome binding projected ≠ .panicked message := by
  rcases projected with e | outcome
  · exact nofun
  · cases outcome <;> exact nofun

theorem reconcile_step (rfc : Rfc3339) (db : LocalStateDatabase) (table : Table) (input : ReconcileInput) :
    (∀ message, (reconcile rfc db table input).1.outcome ≠ .panicked message)
      ∧ (∀ outcome, (reconcile rfc db table input).1.outcome = .noWrite outcome →
        (reconcile rfc db table input).2 = table)
      ∧ ((reconcile rfc db table input).2 = table
        ∨ ∃ row, WritesEvidence rfc input row table (reconcile rfc db table input).2) := by
  unfold reconcile
  rcases reconcileCurrentExecution_cases rfc db input.1 input.2 table with
    ⟨stopped, hstopped, -, htable⟩ | ⟨binding, o, hobserves, houtcome, htable⟩
  · rw [hstopped, htable]
    exact ⟨fun message => nofun, fun _ _ => rfl, Or.inl rfl⟩
  · rw [houtcome, htable]
    refine ⟨projectionOutcome_ne_panicked _ _, fun outcome hnoWrite => ?_, ?_⟩
    · rcases project_cases rfc db input.1.sqlite o table with ⟨_, row, happlied, -⟩ | ⟨-, hsame⟩
      · exact absurd happlied (projectionOutcome_noWrite hnoWrite row)
      · exact hsame
    · rcases project_cases rfc db input.1.sqlite o table with ⟨stored, row, -, m, w⟩ | ⟨-, hsame⟩
      · right
        have hfacts := hobserves.facts
        obtain ⟨described, execution, hdescribed, hexecution, hobservation⟩ := hobserves
        have hworkflow : row.workflowId = input.2.activation.workflowId := by
          rw [m.workflowId, hfacts]
          rfl
        exact ⟨row, described, execution, o, stored, hdescribed, hexecution,
          (normalizeCurrentDescribe_eq_ok hexecution).1, hobservation, hworkflow, m, w⟩
      · exact Or.inl hsame

theorem written_of_run (rfc : Rfc3339) (db : LocalStateDatabase) {workflowId : WorkflowId}
    {text : StoredRow} : ∀ (inputs : List ReconcileInput) {table : Table},
    (Runs.run (reconcileStep rfc db) table inputs).lookup workflowId = some text →
      table.lookup workflowId = some text
        ∨ ∃ before input after row, inputs = before ++ input :: after ∧ text = row.stored
          ∧ row.workflowId = workflowId
          ∧ WritesEvidence rfc input row (Runs.run (reconcileStep rfc db) table before)
            (Runs.run (reconcileStep rfc db) table (before ++ [input]))
  | [], _, h => Or.inl h
  | input :: inputs, table, h => by
      rcases written_of_run rfc db inputs h with hthere | ⟨before, later, after, row, rfl, hrow⟩
      · rcases (reconcile_step rfc db table input).2.2 with hsame | ⟨row, hwrites⟩
        · left
          rw [← hthere, reconcileStep, hsame]
        · have hwrites' := hwrites
          obtain ⟨-, -, -, stored, -, -, -, -, -, -, w⟩ := hwrites'
          by_cases hkey : row.workflowId = workflowId
          · right
            have hself := w.lookup_self
            rw [hkey] at hself
            refine ⟨[], input, inputs, row, rfl, ?_, hkey, hwrites⟩
            exact Option.some.inj (hthere.symm.trans hself)
          · left
            rw [← hthere]
            exact (w.lookup_of_ne hkey).symm
      · exact Or.inr ⟨input :: before, later, after, row, rfl, hrow⟩

/-- Over any sequence of requests and answers: no step reaches an
`unreachable!`, a step reported as no write leaves the table as it was, a step
that changes the table writes the row its validated Describe calls for, and so
every row of the final table that is not one of the initial table was written for
a Describe answer about its own workflow id. -/
theorem reconcile_writes_validated_evidence (rfc : Rfc3339) (db : LocalStateDatabase)
    (table : Table) (inputs : List ReconcileInput) :
    (∀ before input after, inputs = before ++ input :: after →
      let current := Runs.run (reconcileStep rfc db) table before
      (∀ message, (reconcile rfc db current input).1.outcome ≠ .panicked message)
        ∧ (∀ outcome, (reconcile rfc db current input).1.outcome = .noWrite outcome →
          (reconcile rfc db current input).2 = current)
        ∧ ((reconcile rfc db current input).2 ≠ current →
          ∃ row, WritesEvidence rfc input row current (reconcile rfc db current input).2))
      ∧ ∀ workflowId text,
        (Runs.run (reconcileStep rfc db) table inputs).lookup workflowId = some text →
          table.lookup workflowId ≠ some text →
            ∃ before input after row, inputs = before ++ input :: after ∧ text = row.stored
              ∧ row.workflowId = workflowId
              ∧ WritesEvidence rfc input row (Runs.run (reconcileStep rfc db) table before)
                (Runs.run (reconcileStep rfc db) table (before ++ [input])) := by
  constructor
  · intro before input after _ current
    obtain ⟨hpanic, hnoWrite, hwrites⟩ := reconcile_step rfc db current input
    exact ⟨hpanic, hnoWrite, fun hchanged => hwrites.resolve_left hchanged⟩
  · intro workflowId text hrow hnew
    exact (written_of_run rfc db inputs hrow).resolve_left hnew

end SheaSymphony.Coordinator

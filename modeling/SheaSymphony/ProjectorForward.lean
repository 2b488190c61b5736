import SheaSymphony.ProjectorInvariant

/-!
# Rows only move forward

The row of a workflow never rewinds. `Forward` relates a row to a later state
of the same row: the start facts stay, the status only advances, and a row that
is completed or failed keeps its status, outcome, run and start. It is a
preorder, so it holds across whole runs; `StepForward` adds what one projection
can do to the run id and its start.
-/

namespace SheaSymphony.LocalState

/-- The immutable start facts of two rows agree. -/
structure SameStartFacts (row row' : WorkflowIndexRow) : Prop where
  workflowId : row'.workflowId = row.workflowId
  workspaceRuntimeId : row'.workspaceRuntimeId = row.workspaceRuntimeId
  repoId : row'.repoId = row.repoId
  issueRef : row'.issueRef = row.issueRef
  fromState : row'.fromState = row.fromState
  targetKind : row'.targetKind = row.targetKind
  sourceRef : row'.sourceRef = row.sourceRef
  sourceTrackerRevision : row'.sourceTrackerRevision = row.sourceTrackerRevision
  operatorActionRef : row'.operatorActionRef = row.operatorActionRef

theorem SameStartFacts.refl (row : WorkflowIndexRow) : SameStartFacts row row :=
  ⟨rfl, rfl, rfl, rfl, rfl, rfl, rfl, rfl, rfl⟩

theorem SameStartFacts.trans {a b c : WorkflowIndexRow} (h : SameStartFacts a b)
    (h' : SameStartFacts b c) : SameStartFacts a c :=
  ⟨h'.1.trans h.1, h'.2.trans h.2, h'.3.trans h.3, h'.4.trans h.4, h'.5.trans h.5,
    h'.6.trans h.6, h'.7.trans h.7, h'.8.trans h.8, h'.9.trans h.9⟩

/-- A running row may close, an unknown close may be classified, and nothing
else moves. -/
inductive StatusMove : WorkflowIndexStatus → WorkflowIndexStatus → Prop
  | stay (s : WorkflowIndexStatus) : StatusMove s s
  | complete : StatusMove .running .completed
  | fail : StatusMove .running .failed
  | close : StatusMove .running .closedUnknown
  | classifyCompleted : StatusMove .closedUnknown .completed
  | classifyFailed : StatusMove .closedUnknown .failed

theorem StatusMove.trans {a b c : WorkflowIndexStatus} (h : StatusMove a b)
    (h' : StatusMove b c) : StatusMove a c := by
  cases h with
  | stay => exact h'
  | complete | fail | classifyCompleted | classifyFailed => cases h'; constructor
  | close => cases h' <;> constructor

/-- A row whose close is classified. -/
def Final (row : WorkflowIndexRow) : Prop := row.status = .completed ∨ row.status = .failed

/-- The lifecycle columns of two rows agree. -/
structure SameLifecycle (row row' : WorkflowIndexRow) : Prop where
  status : row'.status = row.status
  terminalOutcome : row'.terminalOutcome = row.terminalOutcome
  runId : row'.runId = row.runId
  startedAt : row'.startedAt = row.startedAt

theorem SameLifecycle.refl (row : WorkflowIndexRow) : SameLifecycle row row :=
  ⟨rfl, rfl, rfl, rfl⟩

/-- `row'` is a later state of `row`. -/
structure Forward (row row' : WorkflowIndexRow) : Prop where
  facts : SameStartFacts row row'
  status : StatusMove row.status row'.status
  final : Final row → SameLifecycle row row'

theorem Forward.refl (row : WorkflowIndexRow) : Forward row row :=
  ⟨.refl row, .stay _, fun _ => .refl row⟩

theorem Forward.trans {a b c : WorkflowIndexRow} (h : Forward a b) (h' : Forward b c) :
    Forward a c := by
  refine ⟨h.facts.trans h'.facts, h.status.trans h'.status, fun hfinal => ?_⟩
  have hab := h.final hfinal
  have hbc := h'.final (by rw [Final, hab.status]; exact hfinal)
  exact ⟨hbc.1.trans hab.1, hbc.2.trans hab.2, hbc.3.trans hab.3, hbc.4.trans hab.4⟩

/-- The run and start time an observation describes. -/
def WorkflowLifecycleObservation.described :
    WorkflowLifecycleObservation → Option (String × OffsetDateTime)
  | describeOpen _ runId startedAt _ => some (runId, startedAt)
  | describeClosed _ runId startedAt _ _ _ => some (runId, startedAt)
  | startResponse .. => none
  | definitiveStartFailure .. => none

/-- What one projection of `o` can do to a row: move it forward, change its run
only while it is running and only for a described run that started later, and
keep the start time of a run it keeps. -/
structure StepForward (rfc : Rfc3339) (o : WorkflowLifecycleObservation)
    (row row' : WorkflowIndexRow) : Prop where
  forward : Forward row row'
  runChange : row'.runId ≠ row.runId → row.status = .running
    ∧ o.facts.workflowId = row.workflowId
    ∧ ∃ runId described stored, o.described = some (runId, described)
      ∧ row'.runId = some runId ∧ rfc.parse row.startedAt = .ok stored
      ∧ stored.unixNanos < described.unixNanos
  sameRun : row'.runId = row.runId → row'.startedAt = row.startedAt

theorem StepForward.refl (rfc : Rfc3339) (o : WorkflowLifecycleObservation)
    (row : WorkflowIndexRow) : StepForward rfc o row row :=
  ⟨.refl row, fun h => absurd rfl h, fun _ => rfl⟩

theorem statusMove_close (closeStatus : Option WorkflowCloseStatus) :
    StatusMove .running (terminalProjection closeStatus).1 := by
  rcases terminalProjection_status closeStatus with h | h | h <;> rw [h] <;> constructor

theorem statusMove_refined {row : WorkflowIndexRow} {closeStatus : Option WorkflowCloseStatus}
    (inv : RowInvariant row) (status : row.status = .closedUnknown)
    (news : ¬ ((terminalProjection closeStatus).1 = .closedUnknown
      ∧ row.terminalOutcome = some (terminalProjection closeStatus).2)) :
    StatusMove .closedUnknown (terminalProjection closeStatus).1 := by
  rcases terminalProjection_status closeStatus with h | h | h
  · rw [h]; exact .classifyCompleted
  · rw [h]; exact .classifyFailed
  · -- An unknown outcome is all an unknown close can have been stored with.
    obtain ⟨-, stored, hstatus, houtcome⟩ := inv.closed (by rw [status]; decide)
    have hnone : ∀ c : Option WorkflowCloseStatus,
        (terminalProjection c).1 = .closedUnknown → (terminalProjection c).2 = .closedUnknown := by
      rintro (_ | (_ | _ | _ | _ | _)) <;> decide
    refine absurd ⟨h, ?_⟩ news
    rw [houtcome, hnone _ (hstatus.symm.trans status), hnone _ h]

theorem Material.stepForward {rfc : Rfc3339} {o : WorkflowLifecycleObservation}
    {prev row : WorkflowIndexRow} (m : Material rfc o (some prev) row) (inv : RowInvariant prev) :
    StepForward rfc o prev row := by
  have hfinal : ∀ {s : WorkflowIndexStatus}, prev.status = s → s ≠ .completed → s ≠ .failed →
      ¬ Final prev := by
    rintro s rfl hc hf (h | h)
    · exact hc h
    · exact hf h
  cases m with
  | reopen accepted same status run parsed newer =>
      refine ⟨⟨⟨rfl, rfl, rfl, rfl, rfl, rfl, rfl, rfl, rfl⟩, ?_, fun h => ?_⟩, fun _ => ?_,
        fun h => absurd h.symm run⟩
      · rw [status]; exact .stay _
      · exact absurd h (hfinal status (by decide) (by decide))
      · exact ⟨status, (sameImmutableStartFacts_iff.mp same).1.symm, _, _, _, rfl, rfl, parsed,
          newer⟩
  | closeSame accepted same status run start =>
      refine ⟨⟨⟨rfl, rfl, rfl, rfl, rfl, rfl, rfl, rfl, rfl⟩, ?_, fun h => ?_⟩, fun h => ?_,
        fun _ => start.symm⟩
      · rw [status]; exact statusMove_close _
      · exact absurd h (hfinal status (by decide) (by decide))
      · exact absurd run.symm h
  | closeNewer accepted same status run parsed newer =>
      refine ⟨⟨⟨rfl, rfl, rfl, rfl, rfl, rfl, rfl, rfl, rfl⟩, ?_, fun h => ?_⟩, fun _ => ?_,
        fun h => absurd h.symm run⟩
      · rw [status]; exact statusMove_close _
      · exact absurd h (hfinal status (by decide) (by decide))
      · exact ⟨status, (sameImmutableStartFacts_iff.mp same).1.symm, _, _, _, rfl, rfl, parsed,
          newer⟩
  | refined accepted same status run start news =>
      refine ⟨⟨⟨rfl, rfl, rfl, rfl, rfl, rfl, rfl, rfl, rfl⟩, ?_, fun h => ?_⟩, fun h => ?_,
        fun _ => start.symm⟩
      · rw [status]; exact statusMove_refined inv status news
      · exact absurd h (hfinal status (by decide) (by decide))
      · exact absurd run.symm h

theorem projectStep_stepForward {rfc : Rfc3339} {db : LocalStateDatabase} {table : Table}
    (inv : RowsInvariant table) (input : Sqlite × WorkflowLifecycleObservation)
    {workflowId : String} {prev : WorkflowIndexRow}
    (hprev : table.lookup workflowId = some prev.stored) :
    ∃ row, (projectStep rfc db table input).lookup workflowId = some row.stored
      ∧ StepForward rfc input.2 prev row := by
  unfold projectStep
  rcases project_cases rfc db input.1 input.2 table with ⟨stored, row, -, m, w⟩ | ⟨-, hsame⟩
  · by_cases hkey : row.workflowId = workflowId
    · have hstored : stored = some prev := by
        have hbefore := w.before
        rw [hkey, hprev] at hbefore
        obtain ⟨prev', rfl, hprev'⟩ := Option.map_eq_some_iff.mp hbefore.symm
        rw [stored_injective hprev']
      subst hstored
      obtain ⟨prev', hprev', hinv⟩ := inv _ (Store.mem_of_lookup hprev).1
      obtain rfl := stored_injective hprev'
      exact ⟨row, hkey ▸ w.lookup_self, m.stepForward hinv⟩
    · exact ⟨prev, by rw [w.lookup_of_ne hkey, hprev], .refl rfc input.2 prev⟩
  · exact ⟨prev, by rw [hsame, hprev], .refl rfc input.2 prev⟩

/-- From every reachable table on, whatever is observed, the row of a workflow
stays, is a later state of itself at the end, and every single projection on
the way is a step forward. -/
theorem lifecycle_moves_forward {rfc : Rfc3339} {db : LocalStateDatabase} {table : Table}
    (reachable : ReachableTable rfc db table) {workflowId : String} {row : WorkflowIndexRow}
    (hrow : table.lookup workflowId = some row.stored)
    (inputs : List (Sqlite × WorkflowLifecycleObservation)) :
    (∃ last, (Runs.run (projectStep rfc db) table inputs).lookup workflowId = some last.stored
        ∧ Forward row last)
      ∧ ∀ before input after, inputs = before ++ input :: after →
        ∃ prev next,
          (Runs.run (projectStep rfc db) table before).lookup workflowId = some prev.stored
          ∧ (Runs.run (projectStep rfc db) table (before ++ [input])).lookup workflowId
            = some next.stored
          ∧ StepForward rfc input.2 prev next := by
  have hrun : ∀ l : List (Sqlite × WorkflowLifecycleObservation),
      ∃ last, (Runs.run (projectStep rfc db) table l).lookup workflowId = some last.stored
        ∧ Forward row last := by
    intro l
    let R (t t' : Table) : Prop := ∀ a : WorkflowIndexRow, t.lookup workflowId = some a.stored →
      ∃ b : WorkflowIndexRow, t'.lookup workflowId = some b.stored ∧ Forward a b
    have hR : R table (Runs.run (projectStep rfc db) table l) := by
      refine Runs.related_run (fun t a ha => ⟨a, ha, .refl a⟩) (fun hab hbc a ha => ?_)
        (rowsInvariant_step rfc db) (fun t i hinv a ha => ?_) l reachable.rowsInvariant
      · obtain ⟨b, hb, hforward⟩ := hab a ha
        obtain ⟨c, hc, hforward'⟩ := hbc b hb
        exact ⟨c, hc, hforward.trans hforward'⟩
      · obtain ⟨b, hb, hstep⟩ := projectStep_stepForward hinv i ha
        exact ⟨b, hb, hstep.forward⟩
    exact hR row hrow
  refine ⟨hrun inputs, ?_⟩
  rintro before input after rfl
  obtain ⟨prev, hprev, -⟩ := hrun before
  obtain ⟨next, hnext, hstep⟩ :=
    projectStep_stepForward (ReachableTable.rowsInvariant (reachable.run before)) input hprev
  exact ⟨prev, next, hprev, by rw [Runs.run_concat]; exact hnext, hstep⟩

/-! ## A sample workflow -/

def sampleRepo : RepoId := { host := "github.com", owner := "Alive24", repo := "shea-symphony" }

def sampleFacts : ActivationFacts where
  workflowId := "workflow-1"
  workspaceRuntimeId := "runtime-1"
  repoId := sampleRepo
  issueRef := { trackerBackend := .githubProjectV2, repoId := sampleRepo, number := 486 }
  fromState := "todo"
  currentState := "in-progress"
  targetKind := "work"
  sourceRef := "tracker/revision-1"
  sourceTrackerRevision := "revision-1"
  operatorActionRef := none

/-- The row an open description of `run-1`, started in second 1 and observed in
second 2, is stored as. -/
def sampleRunningRow : WorkflowIndexRow :=
  describedRow sampleFacts "run-1" (Rfc3339.epochSecondText 1) (Rfc3339.epochSecondText 2) .running
    workflowExecutionStep none

def sampleOpen : WorkflowLifecycleObservation :=
  .describeOpen sampleFacts "run-1" (Rfc3339.epochSecond 1) (Rfc3339.epochSecond 2)

def sampleClosed : WorkflowLifecycleObservation :=
  .describeClosed sampleFacts "run-1" (Rfc3339.epochSecond 1) (some .completed) none
    (Rfc3339.epochSecond 3)

def sampleDatabase : LocalStateDatabase := { path := "/state/symphony.db" }

theorem lifecycle_moves_forward_sample :
    ∃ last, (Runs.run (projectStep Rfc3339.epochMinute sampleDatabase)
        (projectStep Rfc3339.epochMinute sampleDatabase Store.empty (.willing, sampleOpen))
        [(.willing, sampleClosed), (.willing, sampleOpen)]).lookup "workflow-1"
          = some last.stored
      ∧ Forward sampleRunningRow last :=
  (@lifecycle_moves_forward Rfc3339.epochMinute sampleDatabase _
    ⟨[(.willing, sampleOpen)], rfl⟩ "workflow-1" sampleRunningRow (by decide +kernel) _).1

end SheaSymphony.LocalState

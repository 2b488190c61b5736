import SheaSymphony.CoordinatorIdentity
import SheaSymphony.CoordinatorReconcile
import SheaSymphony.ProjectorFrame

/-!
# What a workflow id pins of the start facts

The id is built from the request and the observed state, the projector compares
start facts. Two executable activations under one id agree on every compared
fact except the tracker backend in the issue key and the source tracker
revision (`activationFacts_of_equal_ids`), which the id grammar leaves out. A
row stored for the first keeps its start facts whatever is projected later
(`startFacts_run`), so the second meets an identity conflict exactly when one
of the two differs.
-/

namespace SheaSymphony.LocalState

theorem SameStartFacts.sameImmutableStartFacts {row row' : WorkflowIndexRow}
    (h : SameStartFacts row row') (facts : ActivationFacts) :
    LocalState.sameImmutableStartFacts row' facts
      = LocalState.sameImmutableStartFacts row facts := by
  rw [Bool.eq_iff_iff, sameImmutableStartFacts_iff, sameImmutableStartFacts_iff, h.workflowId,
    h.workspaceRuntimeId, h.repoId, h.issueRef, h.fromState, h.targetKind, h.sourceRef,
    h.sourceTrackerRevision, h.operatorActionRef]

theorem startFacts_step (rfc : Rfc3339) (db : LocalStateDatabase) {table : Table}
    (input : Sqlite × WorkflowLifecycleObservation) {workflowId : String} {row : WorkflowIndexRow}
    (hrow : table.lookup workflowId = some row.stored) :
    ∃ next, (projectStep rfc db table input).lookup workflowId = some next.stored
      ∧ SameStartFacts row next := by
  unfold projectStep
  rcases project_cases rfc db input.1 input.2 table with ⟨stored, new, -, m, w⟩ | ⟨-, hsame⟩
  · by_cases hkey : new.workflowId = workflowId
    · have hbefore := w.before
      rw [hkey, hrow] at hbefore
      obtain ⟨prev, rfl, hprev⟩ := Option.map_eq_some_iff.mp hbefore.symm
      obtain rfl := stored_injective hprev
      have hself := w.lookup_self
      rw [hkey] at hself
      exact ⟨new, hself, m.keeps.1⟩
    · exact ⟨row, by rw [w.lookup_of_ne hkey, hrow], .refl row⟩
  · exact ⟨row, by rw [hsame, hrow], .refl row⟩

theorem startFacts_run (rfc : Rfc3339) (db : LocalStateDatabase) {workflowId : String}
    (inputs : List (Sqlite × WorkflowLifecycleObservation)) {table : Table}
    {row : WorkflowIndexRow} (hrow : table.lookup workflowId = some row.stored) :
    ∃ last, (Runs.run (projectStep rfc db) table inputs).lookup workflowId = some last.stored
      ∧ SameStartFacts row last := by
  induction inputs generalizing table row with
  | nil => exact ⟨row, hrow, .refl row⟩
  | cons input inputs ih =>
      rw [Runs.run_cons]
      obtain ⟨next, hnext, hstep⟩ := startFacts_step rfc db input hrow
      obtain ⟨last, hlast, hrest⟩ := ih hnext
      exact ⟨last, hlast, hstep.trans hrest⟩

theorem databaseKey_backend_iff {issueRef : IssueRef} {backend : TrackerBackend} :
    issueRef.databaseKey = IssueRef.databaseKey { issueRef with trackerBackend := backend }
      ↔ issueRef.trackerBackend = backend := by
  refine ⟨fun h => ?_, fun h => by rw [← h]⟩
  have htext := congrArg String.toList h
  simp only [IssueRef.databaseKey, String.toList_append, List.append_assoc,
    List.append_left_inj] at htext
  revert htext
  cases issueRef.trackerBackend <;> cases backend <;>
    first | exact fun _ => rfl | exact fun he => absurd he (by decide)

end SheaSymphony.LocalState

namespace SheaSymphony.Coordinator

open LocalState

/-! ## Two activations under one id -/

section

variable {request request' : CoordinatorActivationRequest}
  {observed observed' : ObservedTrackerSnapshot}
  {activation activation' : CoordinatorExecutableActivation}

/-- Equal ids and runtimes leave the second reconciliation the start facts of
the first, up to tracker backend and observed revision. -/
theorem activationFacts_of_equal_ids
    (h : request.evaluate observed = .ok (.executable activation))
    (h' : request'.evaluate observed' = .ok (.executable activation'))
    (hid : activation.workflowId = activation'.workflowId)
    {first second : CoordinatorReconciliationRequest} (hfirst : first.activation = activation)
    (hsecond : second.activation = activation')
    (hruntime : first.workspaceRuntimeId = second.workspaceRuntimeId) :
    activationFacts second =
      { activationFacts first with
        issueRef :=
          { activation.issueRef with trackerBackend := activation'.issueRef.trackerBackend }
        sourceTrackerRevision := observed'.revision } := by
  obtain ⟨-, hbuild, hissue, hobserved, -, hkind, hsource⟩ := evaluate_eq_executable h
  obtain ⟨-, hbuild', hissue', hobserved', -, hkind', hsource'⟩ := evaluate_eq_executable h'
  have htext := (buildWorkflowId_eq_ok hbuild).1
  rw [hid, (buildWorkflowId_eq_ok hbuild').1] at htext
  obtain ⟨hrepo, hnumber, hstate, htarget, -, hkinds, hsources⟩ :=
    workflowIdText_inj (String.ofList_injective htext)
  have hissues : activation'.issueRef
      = { activation.issueRef with trackerBackend := activation'.issueRef.trackerBackend } := by
    rw [hissue, hissue']
    dsimp only
    rw [← hrepo, ← hnumber]
  unfold activationFacts
  rw [hfirst, hsecond]
  dsimp only
  rw [hruntime, hid, hobserved, hobserved', hkind, hkind', hsource, hsource', hkinds, hsources,
    hstate, htarget, ← hissues, hissue, hissue', hrepo]

end

/-! ## Reconciling the second -/

/-- What the projector reported, where the outcome says so. -/
def CoordinatorReconciliationOutcome.reported :
    CoordinatorReconciliationOutcome → Option WorkflowLifecycleProjectionOutcome
  | .applied _ row => some (.applied row)
  | .alreadyApplied _ row => some (.alreadyApplied row)
  | .noWrite (.projectionConflict _ outcome) => some outcome
  | .noWrite _ => none
  | .panicked _ => none

theorem reported_projectionOutcome (binding : Option WorkflowIndexRow)
    (projected : Except LocalStateError WorkflowLifecycleProjectionOutcome) :
    (projectionOutcome binding projected).reported = projected.toOption := by
  rcases projected with e | outcome
  · rfl
  · cases outcome <;> rfl

theorem reconcileCurrentExecution_reported {rfc : Rfc3339} {db : LocalStateDatabase}
    {answers : ReconcileAnswers} {request : CoordinatorReconciliationRequest} {table : Table}
    {outcome : WorkflowLifecycleProjectionOutcome}
    (h : (reconcileCurrentExecution rfc db answers request table).1.outcome.reported
      = some outcome) :
    ∃ o, o.facts = activationFacts request
      ∧ (project rfc db answers.sqlite o table).1 = .ok outcome
      ∧ (reconcileCurrentExecution rfc db answers request table).2
        = (project rfc db answers.sqlite o table).2 := by
  rcases reconcileCurrentExecution_cases rfc db answers request table with
    ⟨stopped, hstopped, hno, -⟩ | ⟨binding, o, hobserves, houtcome, htable⟩
  · rw [hstopped] at h
    cases stopped with
    | projectionConflict binding projected => exact absurd rfl (hno binding projected)
    | _ => cases h
  · rw [houtcome, reported_projectionOutcome] at h
    refine ⟨o, hobserves.facts, ?_, htable⟩
    generalize (project rfc db answers.sqlite o table).1 = projected at h
    cases projected with
    | error e => cases h
    | ok reported => rw [Option.some.inj h]

/-- Under one workflow id and runtime, the facts of two activations differ in
tracker backend and observed revision only; and reconciling the second, any
time after the first was applied, reports an identity conflict exactly when one
of these two does differ. -/
theorem identity_conflict_iff {request request' : CoordinatorActivationRequest}
    {observed observed' : ObservedTrackerSnapshot}
    {activation activation' : CoordinatorExecutableActivation}
    (h : request.evaluate observed = .ok (.executable activation))
    (h' : request'.evaluate observed' = .ok (.executable activation'))
    (hid : activation.workflowId = activation'.workflowId)
    {first second : CoordinatorReconciliationRequest} (hfirst : first.activation = activation)
    (hsecond : second.activation = activation')
    (hruntime : first.workspaceRuntimeId = second.workspaceRuntimeId) :
    activationFacts second =
        { activationFacts first with
          issueRef :=
            { activation.issueRef with trackerBackend := activation'.issueRef.trackerBackend }
          sourceTrackerRevision := observed'.revision }
      ∧ ∀ rfc db answers table binding row,
        (reconcileCurrentExecution rfc db answers first table).1.outcome = .applied binding row →
        ∀ (inputs : List (Sqlite × WorkflowLifecycleObservation)) answers' outcome,
          (reconcileCurrentExecution rfc db answers' second
            (Runs.run (projectStep rfc db)
              (reconcileCurrentExecution rfc db answers first table).2 inputs)).1.outcome.reported
            = some outcome →
          ((∃ conflict, outcome = .workflowIdentityConflict conflict)
            ↔ activation.issueRef.trackerBackend ≠ activation'.issueRef.trackerBackend
              ∨ observed.revision ≠ observed'.revision) := by
  have hfacts := activationFacts_of_equal_ids h h' hid hfirst hsecond hruntime
  refine ⟨hfacts, fun rfc db answers table binding row happlied inputs answers' outcome hout => ?_⟩
  -- The first reconciliation stored a row with its own facts.
  obtain ⟨o, ho, hproject, htable⟩ := reconcileCurrentExecution_reported
    (show _ = some (.applied row) by rw [happlied]; rfl)
  rcases project_cases rfc db answers.sqlite o table with ⟨stored, new, hnew, m, w⟩ | ⟨hne, -⟩
  case inr => exact absurd hproject (hne row)
  have hkey : new.workflowId = activation.workflowId := by
    rw [m.workflowId, ho, ← hfirst]
    rfl
  have hlookup := w.lookup_self
  rw [hkey, ← htable] at hlookup
  have hsame := m.sameFacts
  rw [ho] at hsame
  -- They are still there when the second is reconciled.
  obtain ⟨last, hlast, hkept⟩ := startFacts_run rfc db inputs hlookup
  obtain ⟨o', ho', hproject', -⟩ := reconcileCurrentExecution_reported hout
  have hstored : (Runs.run (projectStep rfc db)
      (reconcileCurrentExecution rfc db answers first table).2 inputs).lookup o'.facts.workflowId
        = some last.stored := by
    rw [ho', hfacts, ← hlast, ← hfirst]
    rfl
  rw [project_conflict_iff hstored hproject', ho', hkept.sameImmutableStartFacts]
  have hobserved := (evaluate_eq_executable h).2.2.2.1
  obtain ⟨hw, hr, hrepo, hissue, hfrom, htarget, hsource, hrevision, hoperator⟩ :=
    sameImmutableStartFacts_iff.mp hsame
  have hagree : sameImmutableStartFacts new (activationFacts second) = true
      ↔ activation.issueRef.trackerBackend = activation'.issueRef.trackerBackend
        ∧ observed.revision = observed'.revision := by
    have hissueRef : (activationFacts first).issueRef = activation.issueRef := by rw [← hfirst]; rfl
    have hrevisions : (activationFacts first).sourceTrackerRevision = observed.revision := by
      rw [← hobserved, ← hfirst]
      rfl
    rw [sameImmutableStartFacts_iff, hfacts]
    simp only [hw, hr, hrepo, hissue, hfrom, htarget, hsource, hrevision, hoperator, hissueRef,
      hrevisions, true_and, and_true, databaseKey_backend_iff]
  rw [← Bool.not_eq_true, hagree, not_and_or]

/-! ## A retry that observed the tracker again -/

/-- The sample snapshot, read again after the tracker item changed. -/
def sampleReobserved : ObservedTrackerSnapshot where
  state := .todo
  revision := "revision-2"
  revision_valid := by decide

def sampleRetry : CoordinatorExecutableActivation :=
  { sampleActivation with observed := sampleReobserved }

/-- The sample request for the same issue of another tracker. -/
def sampleLinearRequest : CoordinatorActivationRequest :=
  { sampleRequest with issueRef := { sampleIssueRef with trackerBackend := .linear } }

def sampleLinearActivation : CoordinatorExecutableActivation :=
  { sampleActivation with issueRef := { sampleIssueRef with trackerBackend := .linear } }

theorem evaluate_sampleRetry :
    sampleRequest.evaluate sampleReobserved = .ok (.executable sampleRetry) := by
  obtain ⟨-, hid, -⟩ := evaluate_eq_executable evaluate_sample
  change (buildWorkflowId sampleRequest .todo .work >>= _) = _
  rw [show buildWorkflowId sampleRequest .todo .work = _ from hid]
  rfl

theorem evaluate_sampleLinear :
    sampleLinearRequest.evaluate sampleSnapshot = .ok (.executable sampleLinearActivation) := by
  obtain ⟨-, hid, -⟩ := evaluate_eq_executable evaluate_sample
  change (buildWorkflowId sampleRequest .todo .work >>= _) = _
  rw [show buildWorkflowId sampleRequest .todo .work = _ from hid]
  rfl

def reconciliationOf (activation : CoordinatorExecutableActivation) :
    CoordinatorReconciliationRequest where
  activation := activation
  workspaceRuntimeId := "runtime-1"
  observedAt := Rfc3339.epochSecond 9
  workspaceRuntimeId_valid := by decide

/-- Temporal shows one open run of any workflow it is asked for. -/
def sampleAnswers : ReconcileAnswers where
  describeIssueWorkflow workflowId _ :=
    .ok
      { workflowId
        runId := "run-1"
        temporalStartedAt := some (Rfc3339.epochSecond 8)
        status := some .running }
  reader :=
    { openReadyReadOnly := .ok ()
      query := fun _ => .ok ()
      cannotOpen := fun _ => false }
  sqlite := .willing

/-- The row the sample activation is stored as. -/
def sampleStartRow : WorkflowIndexRow :=
  describedRow (activationFacts (reconciliationOf sampleActivation)) "run-1"
    (Rfc3339.epochSecondText 8) (Rfc3339.epochSecondText 9) .running workflowExecutionStep none

def sampleReconcile (activation : CoordinatorExecutableActivation) (table : Table) :
    CoordinatorReconciliationResult × Table :=
  reconcileCurrentExecution Rfc3339.epochMinute sampleDatabase sampleAnswers
    (reconciliationOf activation) table

theorem sampleReconcile_first :
    (sampleReconcile sampleActivation Store.empty).1.outcome = .applied none sampleStartRow := by
  decide +kernel

theorem sampleReconcile_retry :
    (sampleReconcile sampleRetry (sampleReconcile sampleActivation Store.empty).2).1.outcome
      = .noWrite (.projectionConflict (some sampleStartRow)
          (.workflowIdentityConflict sampleStartRow)) := by
  decide +kernel

/-- An equal id does not make the start facts equal: both retries below carry
the sample's id, and both meet an identity conflict with its row. -/
theorem equal_ids_conflict :
    sampleRequest.evaluate sampleSnapshot = .ok (.executable sampleActivation)
      ∧ sampleRequest.evaluate sampleReobserved = .ok (.executable sampleRetry)
      ∧ sampleLinearRequest.evaluate sampleSnapshot = .ok (.executable sampleLinearActivation)
      ∧ sampleActivation.workflowId = sampleRetry.workflowId
      ∧ sampleActivation.workflowId = sampleLinearActivation.workflowId
      ∧ (sampleReconcile sampleActivation Store.empty).1.outcome = .applied none sampleStartRow
      ∧ (sampleReconcile sampleRetry (sampleReconcile sampleActivation Store.empty).2).1.outcome
        = .noWrite (.projectionConflict (some sampleStartRow)
            (.workflowIdentityConflict sampleStartRow))
      ∧ (sampleReconcile sampleLinearActivation
            (sampleReconcile sampleActivation Store.empty).2).1.outcome
        = .noWrite (.projectionConflict none (.workflowIdentityConflict sampleStartRow)) :=
  ⟨evaluate_sample, evaluate_sampleRetry, evaluate_sampleLinear, rfl, rfl, sampleReconcile_first,
    sampleReconcile_retry, by decide +kernel⟩

theorem identity_conflict_iff_sample :
    (∃ conflict, WorkflowLifecycleProjectionOutcome.workflowIdentityConflict sampleStartRow
        = .workflowIdentityConflict conflict)
      ↔ sampleActivation.issueRef.trackerBackend ≠ sampleRetry.issueRef.trackerBackend
        ∨ sampleSnapshot.revision ≠ sampleReobserved.revision := by
  have hiff := (identity_conflict_iff evaluate_sample evaluate_sampleRetry rfl
      (show (reconciliationOf sampleActivation).activation = _ from rfl)
      (show (reconciliationOf sampleRetry).activation = _ from rfl) rfl).2
    Rfc3339.epochMinute sampleDatabase sampleAnswers Store.empty none sampleStartRow
    sampleReconcile_first [] sampleAnswers (.workflowIdentityConflict sampleStartRow)
  have hretry := sampleReconcile_retry
  unfold sampleReconcile at hretry
  refine hiff ?_
  rw [Runs.run_nil, hretry]
  rfl

end SheaSymphony.Coordinator

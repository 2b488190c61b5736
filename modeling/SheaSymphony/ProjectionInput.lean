import SheaSymphony.CoordinatorIdentity
import SheaSymphony.CoordinatorReconcile
import SheaSymphony.IdentityKeys

/-!
# Two validators of one observation

The constructors of the coordinator and `normalize_current_describe` check what the
projector checks again: `validate_common_observation`, the run id, `validate_new_row_scope`.
They agree on every fact but the run id, which the one wants non-empty and the other
non-blank (`projection_input_iff`).
-/

namespace SheaSymphony.Coordinator

open LocalState Fallible Text

/-! ## Facts that are never blank -/

theorem validateRequired_eq_ok {field value : String} (h : Text.isBlank value = false) :
    validateRequired field value = .ok () := by
  rw [validateRequired, h]
  rfl

theorem isBlank_asStr_state (state : CoordinatorTrackerState) :
    Text.isBlank state.asStr = false := by
  cases state <;> decide +kernel

theorem isBlank_asStr_target (target : CoordinatorTargetKind) :
    Text.isBlank target.asStr = false := by
  cases target <;> decide

theorem mem_workflowIdText {request : CoordinatorActivationRequest}
    {fromState : CoordinatorTrackerState} {targetKind : CoordinatorTargetKind} {c : Char}
    (h : c ∈ "issue:".toList) : c ∈ workflowIdText request fromState targetKind := by
  unfold workflowIdText
  generalize "issue:".toList = issue, ":pulse:".toList = pulse, "-to-".toList = dash at h ⊢
  simp only [List.mem_append, h, true_or]

theorem isBlank_workflowId {request : CoordinatorActivationRequest}
    {fromState : CoordinatorTrackerState} {targetKind : CoordinatorTargetKind}
    {workflowId : WorkflowId} (h : buildWorkflowId request fromState targetKind = .ok workflowId) :
    Text.isBlank workflowId = false := by
  have hstart : 'i' ∈ "issue:".toList := by decide
  have hvisible : isWhitespace 'i' = false := by decide
  obtain ⟨htext, -⟩ := buildWorkflowId_eq_ok h
  rw [isBlank_eq_false_iff, htext, String.toList_ofList]
  exact ⟨'i', mem_workflowIdText hstart, hvisible⟩

/-! ## The two validators -/

theorem validateCommonObservation_activationFacts {input : CoordinatorActivationRequest}
    {snapshot : ObservedTrackerSnapshot} {request : CoordinatorReconciliationRequest}
    (h : input.evaluate snapshot = .ok (.executable request.activation)) :
    validateCommonObservation (activationFacts request) = .ok () := by
  obtain ⟨-, hid, hissue, hobserved, -, -, hsource⟩ := evaluate_eq_executable h
  obtain ⟨hhost, howner, hrepo, hnumber⟩ := validateIssueRef_eq_ok.mp input.issueRef_valid
  rw [← hissue] at hhost howner hrepo hnumber
  have hsourceRef : isBlank request.activation.sourceRef = false := by
    rw [hsource]
    exact input.sourceRef_valid
  have hrevision : isBlank request.activation.observed.revision = false := by
    rw [hobserved]
    exact snapshot.revision_valid
  have hoperator : ∀ actionRef, (activationFacts request).operatorActionRef = some actionRef →
      isBlank actionRef = false := by
    intro actionRef haction
    dsimp only [activationFacts] at haction
    split at haction
    · rw [← Option.some.inj haction]
      exact hsourceRef
    · cases haction
  have hnumber' : (request.activation.issueRef.number != 0) = true := bne_iff_ne.mpr hnumber
  unfold validateCommonObservation
  rw [validateRequired_eq_ok (show isBlank (activationFacts request).workflowId = false from
      isBlank_workflowId hid),
    validateRequired_eq_ok (show isBlank (activationFacts request).workspaceRuntimeId = false
      from request.workspaceRuntimeId_valid),
    validateRequired_eq_ok (show isBlank (activationFacts request).repoId.host = false
      from hhost),
    validateRequired_eq_ok (show isBlank (activationFacts request).repoId.owner = false
      from howner),
    validateRequired_eq_ok (show isBlank (activationFacts request).repoId.repo = false
      from hrepo),
    show ((activationFacts request).issueRef.number != 0) = true from hnumber',
    validateRequired_eq_ok (show isBlank (activationFacts request).fromState = false
      from isBlank_asStr_state _),
    validateRequired_eq_ok (show isBlank (activationFacts request).currentState = false
      from isBlank_asStr_state _),
    validateRequired_eq_ok (show isBlank (activationFacts request).targetKind = false
      from isBlank_asStr_target _),
    validateRequired_eq_ok (show isBlank (activationFacts request).sourceRef = false
      from hsourceRef),
    validateRequired_eq_ok (show isBlank (activationFacts request).sourceTrackerRevision
      = false from hrevision)]
  simp only [require_true, ok_bind]
  cases haction : (activationFacts request).operatorActionRef with
  | none => rfl
  | some actionRef => exact validateRequired_eq_ok (hoperator actionRef haction)

theorem classify_ne_projectionInput (db : LocalStateDatabase) (error : SqliteError)
    (phase : SqlitePhase) (field : String) :
    db.classify error phase ≠ .projectionInput field := by
  unfold LocalStateDatabase.classify
  split <;> exact nofun

variable {observation : WorkflowLifecycleObservation} {db : LocalStateDatabase} {sqlite : Sqlite}
  {field : String} {rfc : Rfc3339}

theorem classified_ne_projectionInput {α : Type} {phase : SqlitePhase}
    {result : Except SqliteError α} :
    db.classified phase result ≠ .error (.projectionInput field) := by
  cases result with
  | error error =>
      intro h
      exact classify_ne_projectionInput db error phase field (Except.error.inj h)
  | ok a => exact nofun

theorem attemptTransaction_ne_projectionInput {α : Type}
    {operation : Table → Except SqliteError (α × Table)} {table : Table} :
    db.attemptTransaction sqlite operation table ≠ .error (.projectionInput field) := by
  intro h
  unfold LocalStateDatabase.attemptTransaction at h
  obtain h | ⟨_, h⟩ := bind_eq_error h
  · exact classified_ne_projectionInput h
  obtain h | ⟨_, h⟩ := bind_eq_error h
  · exact classified_ne_projectionInput h
  obtain h | ⟨_, h⟩ := bind_eq_error h
  · exact classified_ne_projectionInput h
  obtain h | ⟨_, h⟩ := bind_eq_error h
  · exact classify_ne_projectionInput _ _ _ _ (require_eq_error h)
  obtain h | ⟨_, h⟩ := bind_eq_error h
  · exact classified_ne_projectionInput h
  obtain h | ⟨_, h⟩ := bind_eq_error h
  · exact classified_ne_projectionInput h
  obtain h | ⟨_, h⟩ := bind_eq_error h
  · exact classified_ne_projectionInput h
  cases h

theorem withImmediateTransaction_ne_projectionInput {α : Type}
    {operation : Table → Except SqliteError (α × Table)} {table : Table} :
    (db.withImmediateTransaction sqlite operation table).1 ≠ .error (.projectionInput field) := by
  intro h
  unfold LocalStateDatabase.withImmediateTransaction at h
  cases hattempt : db.attemptTransaction sqlite operation table with
  | ok output =>
      rw [hattempt] at h
      cases h
  | error error =>
      rw [hattempt] at h
      obtain rfl := Except.error.inj h
      exact attemptTransaction_ne_projectionInput hattempt

/-- What a description's facts leave to check is its run id. -/
def describedRun : WorkflowLifecycleObservation → Option String
  | .describeOpen _ runId _ _ | .describeClosed _ runId _ _ _ _ => some runId
  | .startResponse .. | .definitiveStartFailure .. => none

theorem formatTimestamp_ne_projectionInput {value : OffsetDateTime} :
    formatTimestamp rfc value ≠ .error (.projectionInput field) := by
  unfold formatTimestamp
  cases rfc.format value.unixNanos <;> exact nofun

theorem transactionOf_ne_projectionInput
    (hfacts : validateCommonObservation observation.facts = .ok ())
    (hrun : ∀ runId, describedRun observation = some runId → Text.isBlank runId = false) :
    transactionOf rfc sqlite observation ≠ .error (.projectionInput field) := by
  intro h
  unfold transactionOf at h
  rw [hfacts, ok_bind] at h
  cases observation with
  | startResponse | definitiveStartFailure => cases h
  | describeOpen facts runId =>
      dsimp only at h
      rw [validateRequired_eq_ok (hrun runId rfl), ok_bind] at h
      obtain h | ⟨_, h⟩ := bind_eq_error h
      · exact formatTimestamp_ne_projectionInput h
      obtain h | ⟨_, h⟩ := bind_eq_error h
      · exact formatTimestamp_ne_projectionInput h
      cases h
  | describeClosed facts runId =>
      dsimp only at h
      rw [validateRequired_eq_ok (hrun runId rfl), ok_bind] at h
      obtain h | ⟨_, h⟩ := bind_eq_error h
      · exact formatTimestamp_ne_projectionInput h
      obtain h | ⟨_, h⟩ := bind_eq_error h
      · exact formatTimestamp_ne_projectionInput h
      cases h

theorem transactionOf_of_blank {runId : String}
    (hfacts : validateCommonObservation observation.facts = .ok ())
    (hdescribed : describedRun observation = some runId) (hblank : Text.isBlank runId = true) :
    transactionOf rfc sqlite observation = .error (.projectionInput "run_id") := by
  have hrequired : validateRequired "run_id" runId = .error (.projectionInput "run_id") := by
    rw [validateRequired, hblank]
    rfl
  unfold transactionOf
  rw [hfacts, ok_bind]
  cases observation with
  | startResponse | definitiveStartFailure => cases hdescribed
  | describeOpen | describeClosed =>
      obtain rfl := Option.some.inj hdescribed
      dsimp only
      rw [hrequired]
      rfl

/-- The observation passes every input check of the projector. -/
def PassesInputChecks (rfc : Rfc3339) (db : LocalStateDatabase) (sqlite : Sqlite)
    (table : Table) (observation : WorkflowLifecycleObservation) : Prop :=
  validateNewRowScope observation.facts = .ok ()
    ∧ ∀ field, (project rfc db sqlite observation table).1 ≠ .error (.projectionInput field)

theorem passesInputChecks_iff {table : Table} {runId : String}
    (hscope : observation.facts.issueRef.repoId = observation.facts.repoId)
    (hfacts : validateCommonObservation observation.facts = .ok ())
    (hdescribed : describedRun observation = some runId) :
    PassesInputChecks rfc db sqlite table observation ↔ Text.isBlank runId = false := by
  constructor
  · rintro ⟨-, hpasses⟩
    by_contra hblank
    refine hpasses "run_id" ?_
    rw [project, transactionOf_of_blank hfacts hdescribed (Bool.not_eq_false _ ▸ hblank)]
  · intro hvisible
    refine ⟨?_, fun field h => ?_⟩
    · rw [validateNewRowScope, decide_eq_true hscope]
      rfl
    · unfold project at h
      split at h
      · next error herror =>
        obtain rfl := Except.error.inj h
        refine transactionOf_ne_projectionInput hfacts (fun runId' hrun => ?_) herror
        rw [Option.some.inj (hrun.symm.trans hdescribed)]
        exact hvisible
      · exact withImmediateTransaction_ne_projectionInput h

/-! ## Evidence the coordinator accepted -/

theorem describedRun_of_normalize {workflowId : WorkflowId} {knownRunId : Option String}
    {described : CoordinatorDescribeEvidence} {execution : CoordinatorExecutionObservation}
    {request : CoordinatorReconciliationRequest}
    (h : normalizeCurrentDescribe workflowId knownRunId described = .ok execution)
    (hobservation : lifecycleObservation request execution = .ok observation) :
    describedRun observation = some described.runId := by
  obtain ⟨-, -, -, startedAt, status, -, -, rfl⟩ := normalizeCurrentDescribe_eq_ok h
  split at hobservation
  · rw [← Except.ok.inj hobservation]
    rfl
  · obtain ⟨closeStatus, -, rfl⟩ := map_eq_ok hobservation
    rfl

/-- An accepted Describe for an accepted request makes an observation, and the projector
takes it exactly when its run id is not blank. -/
theorem projection_input_iff {input : CoordinatorActivationRequest}
    {snapshot : ObservedTrackerSnapshot} {request : CoordinatorReconciliationRequest}
    (hactivation : input.evaluate snapshot = .ok (.executable request.activation))
    {knownRunId : Option String} {described : CoordinatorDescribeEvidence}
    {execution : CoordinatorExecutionObservation}
    (hdescribed : normalizeCurrentDescribe request.activation.workflowId knownRunId described
      = .ok execution) :
    ∃ observation, lifecycleObservation request execution = .ok observation
      ∧ ∀ rfc db sqlite table, PassesInputChecks rfc db sqlite table observation
        ↔ Text.isBlank described.runId = false := by
  obtain ⟨observation, hobservation⟩ := lifecycleObservation_of_normalize hdescribed request
  have hfacts := lifecycleObservation_facts hobservation
  refine ⟨observation, hobservation, fun rfc db sqlite table => ?_⟩
  refine passesInputChecks_iff ?_ ?_ (describedRun_of_normalize hdescribed hobservation)
  · rw [hfacts]
    rfl
  · rw [hfacts]
    exact validateCommonObservation_activationFacts hactivation

/-! ## A run id of one space -/

def sampleReconciliation : CoordinatorReconciliationRequest where
  activation := sampleActivation
  workspaceRuntimeId := "shea-app"
  observedAt := Rfc3339.epochSecond 9
  workspaceRuntimeId_valid := by decide

theorem evaluate_sampleReconciliation : sampleRequest.evaluate sampleSnapshot
    = .ok (.executable sampleReconciliation.activation) :=
  evaluate_sample

def describedAs (workflowId : WorkflowId) (runId : String) : CoordinatorDescribeEvidence where
  workflowId := workflowId
  runId := runId
  temporalStartedAt := some (Rfc3339.epochSecond 8)
  status := some .running

theorem normalize_describedAs (workflowId : WorkflowId) {runId : String} (h : runId ≠ "") :
    normalizeCurrentDescribe workflowId none (describedAs workflowId runId)
      = .ok (.open workflowId runId (Rfc3339.epochSecond 8) .running) := by
  have hrun : (runId != "") = true := bne_iff_ne.mpr h
  simp [normalizeCurrentDescribe, describedAs, okOr, hrun,
    CoordinatorTemporalStatus.isOpen]

theorem projection_input_iff_sample :
    ∃ execution observation, lifecycleObservation sampleReconciliation execution = .ok observation
      ∧ ∀ rfc db sqlite table, PassesInputChecks rfc db sqlite table observation := by
  have hrun : "run-1" ≠ "" := by decide
  have hvisible : Text.isBlank "run-1" = false := by decide
  have hnormalize := normalize_describedAs sampleReconciliation.activation.workflowId hrun
  obtain ⟨observation, hobservation, hiff⟩ :=
    projection_input_iff evaluate_sampleReconciliation hnormalize
  exact ⟨_, observation, hobservation, fun rfc db sqlite table =>
    (hiff rfc db sqlite table).mpr hvisible⟩

/-- Temporal's evidence with the run id " " is accepted, and the observation made of it is
a projection-input error whatever the database. -/
theorem blank_run_id_refused :
    ∃ execution observation,
      normalizeCurrentDescribe sampleReconciliation.activation.workflowId none
          (describedAs sampleReconciliation.activation.workflowId " ") = .ok execution
      ∧ lifecycleObservation sampleReconciliation execution = .ok observation
      ∧ ∀ rfc db sqlite table, (project rfc db sqlite observation table).1
        = .error (.projectionInput "run_id") := by
  have hrun : " " ≠ "" := by decide
  have hblank : Text.isBlank " " = true := by decide
  have hnormalize := normalize_describedAs sampleReconciliation.activation.workflowId hrun
  have hfacts := validateCommonObservation_activationFacts evaluate_sampleReconciliation
  obtain ⟨observation, hobservation⟩ :=
    lifecycleObservation_of_normalize hnormalize sampleReconciliation
  refine ⟨_, observation, hnormalize, hobservation, fun rfc db sqlite table => ?_⟩
  have hdescribed := describedRun_of_normalize hnormalize hobservation
  rw [← lifecycleObservation_facts hobservation] at hfacts
  rw [project, transactionOf_of_blank hfacts hdescribed hblank]

end SheaSymphony.Coordinator

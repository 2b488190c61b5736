import SheaSymphony.CoordinatorReconcile

/-!
# Start, then describe

`start_executable_activation` of `coordinator/start.rs`: one start of the activation's
workflow id and one Describe of it. The adapter is any state with any answers, and every
request it receives is logged.
-/

namespace SheaSymphony.Coordinator

open LocalState

/-! ## The durable input -/

structure IssueWorkflowInput where
  workflowId : String
  repoId : String
  trackerBackend : String
  issueRef : String
  fromTrackerState : String
  targetKind : String
  sourceKind : String
  sourceRef : String
  sourceTrackerRevision : String
  startedAt : String
  auditReason : String
  operatorActionRef : Option String
  capacityPolicyRef : Option String
deriving DecidableEq

def displayRef (issueRef : IssueRef) : String := "#" ++ toString issueRef.number

/-- The years are those of `validate_episode_time`. -/
def formatRfc3339UtcSeconds (value : OffsetDateTime) : String :=
  String.ofList (Codes.padded 4 value.year.toNat ++ '-' :: Codes.padded 2 value.month
    ++ '-' :: Codes.padded 2 value.day ++ 'T' :: Codes.padded 2 value.hour
    ++ ':' :: Codes.padded 2 value.minute ++ ':' :: Codes.padded 2 value.second ++ ['Z'])

def issueWorkflowInput (activation : CoordinatorExecutableActivation) : IssueWorkflowInput where
  workflowId := activation.workflowId
  repoId := activation.issueRef.repoId.databaseKey
  trackerBackend := activation.issueRef.trackerBackend.asStr
  issueRef := displayRef activation.issueRef
  fromTrackerState := activation.observed.state.asStr
  targetKind := activation.targetKind.asStr
  sourceKind := activation.sourceKind.asStr
  sourceRef := activation.sourceRef
  sourceTrackerRevision := activation.observed.revision
  startedAt := formatRfc3339UtcSeconds activation.episodeTime
  auditReason := activation.auditReason
  operatorActionRef :=
    if activation.sourceKind = .operatorAction then some activation.sourceRef else none
  capacityPolicyRef := none

/-! ## What an adapter answers -/

inductive CoordinatorAdapterStart where
  | accepted (runId : String)
  | alreadyStarted (runId : Option String) (grpcCode : Nat)
  | indeterminate (failure : CoordinatorStartFailure)
deriving DecidableEq

inductive CoordinatorStartEvidence where
  | accepted (runId : String)
  | alreadyStarted (runId : Option String)
  | indeterminate
deriving DecidableEq

def CoordinatorStartEvidence.knownRunId : CoordinatorStartEvidence → Option String
  | accepted runId => some runId
  | alreadyStarted runId => runId
  | indeterminate => none

inductive CoordinatorCall where
  | start (input : IssueWorkflowInput)
  | describe (workflowId : WorkflowId) (runId : Option String)
deriving DecidableEq

/-- An adapter over a state `σ` of its own: Temporal and whoever else talks to it. -/
structure CoordinatorTemporalAdapter (σ : Type) where
  startIssueWorkflow :
    IssueWorkflowInput → σ → Except CoordinatorStartFailure CoordinatorAdapterStart × σ
  describeIssueWorkflow : WorkflowId → Option String → σ →
    Except CoordinatorStartFailure CoordinatorDescribeEvidence × σ

/-- The adapter's state and the requests it has received. -/
structure AdapterLog (σ : Type) where
  state : σ
  calls : List CoordinatorCall

section Adapter

variable {σ : Type} (adapter : CoordinatorTemporalAdapter σ)

def start (input : IssueWorkflowInput) (log : AdapterLog σ) :
    Except CoordinatorStartFailure CoordinatorAdapterStart × AdapterLog σ :=
  let answer := adapter.startIssueWorkflow input log.state
  (answer.1, { state := answer.2, calls := log.calls ++ [.start input] })

def describe (workflowId : WorkflowId) (runId : Option String) (log : AdapterLog σ) :
    Except CoordinatorStartFailure CoordinatorDescribeEvidence × AdapterLog σ :=
  let answer := adapter.describeIssueWorkflow workflowId runId log.state
  (answer.1, { state := answer.2, calls := log.calls ++ [.describe workflowId runId] })

/-! ## Normalization -/

structure NormalizedStart where
  evidence : CoordinatorStartEvidence
  failure : Option CoordinatorStartFailure
  alreadyStartedGrpcCode : Option Nat
  alreadyStartedSdkErrorVariant : Option CoordinatorSdkErrorVariant
deriving DecidableEq

/-- `Code::AlreadyExists`. -/
def alreadyExists : Nat := 6

def normalizeStart (workflowId : WorkflowId) :
    CoordinatorAdapterStart → Except CoordinatorStartFailure NormalizedStart
  | .accepted runId =>
      if runId ≠ "" then
        .ok
          { evidence := .accepted runId
            failure := none
            alreadyStartedGrpcCode := none
            alreadyStartedSdkErrorVariant := none }
      else .error (malformedFailure .start workflowId (nonemptyRunId runId))
  | .alreadyStarted runId grpcCode =>
      if runId ≠ some "" ∧ grpcCode = alreadyExists then
        .ok
          { evidence := .alreadyStarted runId
            failure := none
            alreadyStartedGrpcCode := some grpcCode
            alreadyStartedSdkErrorVariant := some .alreadyStarted }
      else
        .error
          { phase := .start
            kind := .malformedProtocolEvidence
            workflowId := workflowId
            knownRunId := runId.filter (· ≠ "")
            sdkErrorVariant := .evidenceValidation
            grpcCode := some grpcCode }
  | .indeterminate failure =>
      .ok
        { evidence := .indeterminate
          failure := some failure
          alreadyStartedGrpcCode := none
          alreadyStartedSdkErrorVariant := none }

structure CoordinatorStartResult where
  workflowId : WorkflowId
  startEvidence : CoordinatorStartEvidence
  executionObservation : CoordinatorExecutionObservation
  startFailure : Option CoordinatorStartFailure
  alreadyStartedGrpcCode : Option Nat
  alreadyStartedSdkErrorVariant : Option CoordinatorSdkErrorVariant
  describeFailure : Option CoordinatorStartFailure
deriving DecidableEq

/-- What the answer to the one Describe leaves of itself. -/
def observeDescribed (workflowId : WorkflowId) (knownRunId : Option String) :
    Except CoordinatorStartFailure CoordinatorDescribeEvidence →
      CoordinatorExecutionObservation × Option CoordinatorStartFailure
  | .ok evidence =>
      match normalizeCurrentDescribe workflowId knownRunId evidence with
      | .ok observation => (observation, none)
      | .error failure => (.describeRequired, some failure)
  | .error failure => (.describeRequired, some failure)

def startExecutableActivation (activation : CoordinatorExecutableActivation)
    (log : AdapterLog σ) :
    Except CoordinatorStartFailure CoordinatorStartResult × AdapterLog σ :=
  let workflowId := activation.workflowId
  match start adapter (issueWorkflowInput activation) log with
  | (.error failure, log) => (.error failure, log)
  | (.ok adapterStart, log) =>
  match normalizeStart workflowId adapterStart with
  | .error failure => (.error failure, log)
  | .ok normalizedStart =>
      let knownRunId := normalizedStart.evidence.knownRunId
      let (described, log) := describe adapter workflowId knownRunId log
      let (executionObservation, describeFailure) :=
        observeDescribed workflowId knownRunId described
      (.ok
        { workflowId
          startEvidence := normalizedStart.evidence
          executionObservation
          startFailure := normalizedStart.failure
          alreadyStartedGrpcCode := normalizedStart.alreadyStartedGrpcCode
          alreadyStartedSdkErrorVariant := normalizedStart.alreadyStartedSdkErrorVariant
          describeFailure }, log)

end Adapter

/-! ## What a result says -/

def CoordinatorExecutionObservation.runId : CoordinatorExecutionObservation → Option String
  | .open _ runId _ _ | .closed _ runId _ _ => some runId
  | .describeRequired => none

def CoordinatorExecutionObservation.isOpen : CoordinatorExecutionObservation → Bool
  | .open .. => true
  | _ => false

variable {answer : CoordinatorAdapterStart} {normalized : NormalizedStart}
  {workflowId : WorkflowId}

theorem normalizeStart_eq_ok (h : normalizeStart workflowId answer = .ok normalized) :
    (∃ runId, answer = .accepted runId ∧ runId ≠ ""
        ∧ normalized = ⟨.accepted runId, none, none, none⟩)
      ∨ (∃ runId, answer = .alreadyStarted runId alreadyExists ∧ runId ≠ some ""
        ∧ normalized
          = ⟨.alreadyStarted runId, none, some alreadyExists, some .alreadyStarted⟩)
      ∨ (∃ failure, answer = .indeterminate failure
        ∧ normalized = ⟨.indeterminate, some failure, none, none⟩) := by
  cases answer with
  | accepted runId =>
      rw [normalizeStart] at h
      split at h
      · next hrun => exact .inl ⟨runId, rfl, hrun, (Except.ok.inj h).symm⟩
      · cases h
  | alreadyStarted runId grpcCode =>
      rw [normalizeStart] at h
      split at h
      · next hrun =>
        obtain ⟨hrun, rfl⟩ := hrun
        exact .inr (.inl ⟨runId, rfl, hrun, (Except.ok.inj h).symm⟩)
      · cases h
  | indeterminate failure => exact .inr (.inr ⟨failure, rfl, (Except.ok.inj h).symm⟩)

/-- The answer to the Describe was evidence that normalizes. -/
def Accepts (workflowId : WorkflowId) (knownRunId : Option String)
    (described : Except CoordinatorStartFailure CoordinatorDescribeEvidence)
    (evidence : CoordinatorDescribeEvidence) : Prop :=
  described = .ok evidence
    ∧ ∃ observation, normalizeCurrentDescribe workflowId knownRunId evidence = .ok observation

/-- A Describe leaves a failure and no observation, or accepted evidence of the
execution it was pinned to. -/
theorem observeDescribed_cases (workflowId : WorkflowId) (knownRunId : Option String)
    (described : Except CoordinatorStartFailure CoordinatorDescribeEvidence) :
    (∃ failure, observeDescribed workflowId knownRunId described
        = (.describeRequired, some failure)
        ∧ ∀ evidence, ¬ Accepts workflowId knownRunId described evidence)
      ∨ ∃ evidence status startedAt, Accepts workflowId knownRunId described evidence
        ∧ evidence.status = some status
        ∧ (∀ expected, knownRunId = some expected → expected = evidence.runId)
        ∧ observeDescribed workflowId knownRunId described
          = (if status.isOpen then .open workflowId evidence.runId startedAt status
              else .closed workflowId evidence.runId startedAt status, none) := by
  cases described with
  | error failure =>
      exact .inl ⟨failure, rfl, fun evidence h => by cases h.1⟩
  | ok evidence =>
      cases h : normalizeCurrentDescribe workflowId knownRunId evidence with
      | error failure =>
          refine .inl ⟨failure, by rw [observeDescribed, h], fun evidence' haccepts => ?_⟩
          obtain ⟨heq, observation, hok⟩ := haccepts
          rw [← Except.ok.inj heq, h] at hok
          cases hok
      | ok observation =>
          obtain ⟨-, -, hexpected, startedAt, status, -, hstatus, hobservation⟩ :=
            normalizeCurrentDescribe_eq_ok h
          refine .inr ⟨evidence, status, startedAt, ⟨rfl, observation, h⟩, hstatus, hexpected, ?_⟩
          rw [observeDescribed, h, hobservation]

/-- The rules a result keeps towards the two answers it was made of. -/
structure ResultKeeps (workflowId : WorkflowId)
    (started : Except CoordinatorStartFailure CoordinatorAdapterStart)
    (described : Except CoordinatorStartFailure CoordinatorDescribeEvidence)
    (result : CoordinatorStartResult) : Prop where
  workflowId_eq : result.workflowId = workflowId
  describeRequired_iff :
    result.executionObservation = .describeRequired ↔ result.describeFailure.isSome = true
  startFailure_iff : ∀ failure,
    result.startFailure = some failure ↔ started = .ok (.indeterminate failure)
  indeterminate_iff :
    result.startEvidence = .indeterminate ↔ result.startFailure.isSome = true
  runId_eq : ∀ known observed, result.startEvidence.knownRunId = some known →
    result.executionObservation.runId = some observed → observed = known
  duplicate_iff :
    (∃ runId, result.startEvidence = .alreadyStarted runId)
      ↔ result.alreadyStartedGrpcCode.isSome = true
  duplicate_together :
    result.alreadyStartedGrpcCode.isSome = result.alreadyStartedSdkErrorVariant.isSome
  isOpen_iff : result.executionObservation.isOpen = true ↔
    ∃ evidence, Accepts workflowId result.startEvidence.knownRunId described evidence
      ∧ (evidence.status = some .running ∨ evidence.status = some .paused)

/-- The result of a start that normalized and the Describe that followed it. -/
def resultOf (workflowId : WorkflowId) (normalized : NormalizedStart)
    (described : Except CoordinatorStartFailure CoordinatorDescribeEvidence) :
    CoordinatorStartResult where
  workflowId := workflowId
  startEvidence := normalized.evidence
  executionObservation :=
    (observeDescribed workflowId normalized.evidence.knownRunId described).1
  startFailure := normalized.failure
  alreadyStartedGrpcCode := normalized.alreadyStartedGrpcCode
  alreadyStartedSdkErrorVariant := normalized.alreadyStartedSdkErrorVariant
  describeFailure := (observeDescribed workflowId normalized.evidence.knownRunId described).2

section Run

variable {σ : Type} (adapter : CoordinatorTemporalAdapter σ)

/-- An invocation ends in an error behind its start, or in the result of that start and
the one Describe behind it. -/
theorem startExecutableActivation_cases (activation : CoordinatorExecutableActivation)
    (log : AdapterLog σ) :
    let started := start adapter (issueWorkflowInput activation) log
    (∃ failure, startExecutableActivation adapter activation log = (.error failure, started.2))
      ∨ ∃ answer normalized, started.1 = .ok answer
        ∧ normalizeStart activation.workflowId answer = .ok normalized
        ∧ startExecutableActivation adapter activation log
          = (.ok (resultOf activation.workflowId normalized
              (describe adapter activation.workflowId normalized.evidence.knownRunId
                started.2).1),
            (describe adapter activation.workflowId normalized.evidence.knownRunId
              started.2).2) := by
  intro started
  have hstarted : start adapter (issueWorkflowInput activation) log = started := rfl
  clear_value started
  rw [startExecutableActivation, hstarted]
  obtain ⟨answer, after⟩ := started
  cases answer with
  | error failure => exact .inl ⟨failure, rfl⟩
  | ok answer =>
      dsimp only
      cases h : normalizeStart activation.workflowId answer with
      | error failure => exact .inl ⟨failure, rfl⟩
      | ok normalized => exact .inr ⟨answer, normalized, rfl, h, rfl⟩

end Run

theorem resultOf_started (h : normalizeStart workflowId answer = .ok normalized) :
    (∀ failure, normalized.failure = some failure ↔ answer = .indeterminate failure)
      ∧ (normalized.evidence = .indeterminate ↔ normalized.failure.isSome = true)
      ∧ ((∃ runId, normalized.evidence = .alreadyStarted runId)
        ↔ normalized.alreadyStartedGrpcCode.isSome = true)
      ∧ normalized.alreadyStartedGrpcCode.isSome
        = normalized.alreadyStartedSdkErrorVariant.isSome := by
  obtain ⟨runId, rfl, -, rfl⟩ | ⟨runId, rfl, -, rfl⟩ | ⟨failure, rfl, rfl⟩ :=
    normalizeStart_eq_ok h
  · simp
  · simp
  · simp [eq_comm]

theorem isOpen_ite (status : CoordinatorTemporalStatus) (workflowId : WorkflowId)
    (runId : String) (startedAt : OffsetDateTime) :
    (if status.isOpen then CoordinatorExecutionObservation.open workflowId runId startedAt status
      else .closed workflowId runId startedAt status).isOpen = status.isOpen := by
  cases status <;> rfl

theorem runId_ite (status : CoordinatorTemporalStatus) (workflowId : WorkflowId)
    (runId : String) (startedAt : OffsetDateTime) :
    (if status.isOpen then CoordinatorExecutionObservation.open workflowId runId startedAt status
      else .closed workflowId runId startedAt status).runId = some runId := by
  cases status <;> rfl

theorem isOpen_eq_true_iff (status : CoordinatorTemporalStatus) :
    status.isOpen = true ↔ status = .running ∨ status = .paused := by
  cases status <;> decide

theorem observeDescribed_keeps (workflowId : WorkflowId) (knownRunId : Option String)
    (described : Except CoordinatorStartFailure CoordinatorDescribeEvidence) :
    let observed := observeDescribed workflowId knownRunId described
    (observed.1 = .describeRequired ↔ observed.2.isSome = true)
      ∧ (∀ known runId, knownRunId = some known → observed.1.runId = some runId → runId = known)
      ∧ (observed.1.isOpen = true ↔ ∃ evidence, Accepts workflowId knownRunId described evidence
        ∧ (evidence.status = some .running ∨ evidence.status = some .paused)) := by
  obtain ⟨failure, h, hnone⟩ | ⟨evidence, status, startedAt, haccepts, hstatus, hexpected, h⟩ :=
    observeDescribed_cases workflowId knownRunId described
  · rw [h]
    refine ⟨by simp, fun known runId _ hrun => (by cases hrun), nofun, ?_⟩
    rintro ⟨evidence, haccepts, -⟩
    exact absurd haccepts (hnone evidence)
  · rw [h]
    refine ⟨⟨fun hrequired => ?_, nofun⟩, fun known runId hknown hrun => ?_,
      ?_⟩
    · have hrun := (runId_ite status workflowId evidence.runId startedAt).symm.trans
        (congrArg CoordinatorExecutionObservation.runId hrequired)
      cases hrun
    · rw [runId_ite] at hrun
      rw [← Option.some.inj hrun]
      exact (hexpected known hknown).symm
    · rw [isOpen_ite, isOpen_eq_true_iff]
      constructor
      · intro hopen
        refine ⟨evidence, haccepts, ?_⟩
        rwa [hstatus, Option.some.injEq, Option.some.injEq]
      · rintro ⟨evidence', haccepts', hopen⟩
        rw [← Except.ok.inj (haccepts.1.symm.trans haccepts'.1), hstatus, Option.some.injEq,
          Option.some.injEq] at hopen
        exact hopen

theorem resultOf_keeps (h : normalizeStart workflowId answer = .ok normalized)
    (described : Except CoordinatorStartFailure CoordinatorDescribeEvidence) :
    ResultKeeps workflowId (.ok answer) described (resultOf workflowId normalized described) := by
  obtain ⟨hfailure, hindeterminate, hduplicate, htogether⟩ := resultOf_started h
  obtain ⟨hrequired, hrun, hopen⟩ :=
    observeDescribed_keeps workflowId normalized.evidence.knownRunId described
  exact
    { workflowId_eq := rfl
      describeRequired_iff := hrequired
      startFailure_iff := fun failure => by
        rw [Except.ok.injEq]
        exact hfailure failure
      indeterminate_iff := hindeterminate
      runId_eq := hrun
      duplicate_iff := hduplicate
      duplicate_together := htogether
      isOpen_iff := hopen }

/-- An error leaves one start and no Describe; a result leaves one start and one Describe
of the same workflow id, pinned to the run the start is known to have, and keeps the rules
towards their answers. -/
theorem start_then_describe {σ : Type} (adapter : CoordinatorTemporalAdapter σ)
    (activation : CoordinatorExecutableActivation) (log : AdapterLog σ) :
    let input := issueWorkflowInput activation
    let started := start adapter input log
    input.workflowId = activation.workflowId
      ∧ match startExecutableActivation adapter activation log with
        | (.error _, after) => after.calls = log.calls ++ [.start input]
        | (.ok result, after) =>
            let known := result.startEvidence.knownRunId
            after.calls = log.calls ++ [.start input, .describe activation.workflowId known]
              ∧ ResultKeeps activation.workflowId started.1
                (describe adapter activation.workflowId known started.2).1 result := by
  refine ⟨rfl, ?_⟩
  obtain ⟨failure, h⟩ | ⟨answer, normalized, hanswer, hnormalized, h⟩ :=
    startExecutableActivation_cases adapter activation log
  · rw [h]
    rfl
  · rw [h]
    refine ⟨?_, ?_⟩
    · show (log.calls ++ [_]) ++ [_] = _
      rw [List.append_assoc]
      rfl
    · rw [hanswer]
      exact resultOf_keeps hnormalized _

end SheaSymphony.Coordinator

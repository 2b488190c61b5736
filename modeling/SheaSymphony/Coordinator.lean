import SheaSymphony.DateTime
import SheaSymphony.Fallible
import SheaSymphony.Identity
import SheaSymphony.PercentEncoding

/-!
# Coordinator activation

The activation contract of `coordinator/mod.rs`: a validated request, an
observed tracker snapshot, and the evaluation that either stops at a stale
expectation or a static lane or builds an executable activation with its
deterministic workflow id. A request or snapshot carries the checks of its
constructor as fields, so one that the constructor refuses cannot be built.
-/

namespace SheaSymphony.Coordinator

open LocalState

def maxAuditReasonBytes : Nat := 512

def maxWorkflowIdBytes : Nat := 256

inductive CoordinatorTargetKind where
  | work
  | review
  | rework
  | merge
deriving DecidableEq

def CoordinatorTargetKind.asStr : CoordinatorTargetKind → String
  | work => "work"
  | review => "review"
  | rework => "rework"
  | merge => "merge"

inductive CoordinatorTrackerState where
  | backlog
  | todo
  | needToClarify
  | inProgress
  | needHumanInput
  | agentReview
  | humanReview
  | rework
  | merging
  | done
deriving DecidableEq

namespace CoordinatorTrackerState

def asStr : CoordinatorTrackerState → String
  | backlog => "backlog"
  | todo => "todo"
  | needToClarify => "need-to-clarify"
  | inProgress => "in-progress"
  | needHumanInput => "need-human-input"
  | agentReview => "agent-review"
  | humanReview => "human-review"
  | rework => "rework"
  | merging => "merging"
  | done => "done"

/-- The one target an executable state owns. -/
def targetKind : CoordinatorTrackerState → Option CoordinatorTargetKind
  | todo | inProgress => some .work
  | agentReview => some .review
  | rework => some .rework
  | merging => some .merge
  | backlog | needToClarify | needHumanInput | humanReview | done => none

end CoordinatorTrackerState

inductive CoordinatorSourceKind where
  | tracker
  | operatorAction
  | doctor
  | reconciliation
deriving DecidableEq

def CoordinatorSourceKind.asStr : CoordinatorSourceKind → String
  | tracker => "tracker"
  | operatorAction => "operator-action"
  | doctor => "doctor"
  | reconciliation => "reconciliation"

inductive RepositoryComponent where
  | host
  | owner
  | repository
deriving DecidableEq

inductive TrackerRevisionKind where
  | expected
  | observed
deriving DecidableEq

inductive CoordinatorActivationError where
  | emptyRepositoryComponent (component : RepositoryComponent)
  | zeroIssueNumber
  | episodeTimeNotUtc
  | episodeTimeNotSecondPrecision
  | episodeYearOutOfRange (year : Int)
  | emptySourceRef
  | emptyTrackerRevision (kind : TrackerRevisionKind)
  | emptyAuditReason
  | auditReasonTooLong (actualBytes maxBytes : Nat)
  | workflowIdTooLong (actualBytes maxBytes : Nat)
deriving DecidableEq

def validateIssueRef (issueRef : IssueRef) : Except CoordinatorActivationError Unit := do
  Fallible.require (!Text.isBlank issueRef.repoId.host) (.emptyRepositoryComponent .host)
  Fallible.require (!Text.isBlank issueRef.repoId.owner) (.emptyRepositoryComponent .owner)
  Fallible.require (!Text.isBlank issueRef.repoId.repo) (.emptyRepositoryComponent .repository)
  Fallible.require (issueRef.number != 0) .zeroIssueNumber

def validateEpisodeTime (episodeTime : OffsetDateTime) : Except CoordinatorActivationError Unit := do
  Fallible.require (episodeTime.offset == 0) .episodeTimeNotUtc
  Fallible.require (episodeTime.nanosecond == 0) .episodeTimeNotSecondPrecision
  Fallible.require (decide (0 ≤ episodeTime.year ∧ episodeTime.year ≤ 9999))
    (.episodeYearOutOfRange episodeTime.year)

/-- Tracker state and revision a caller has observed. -/
structure ObservedTrackerSnapshot where
  state : CoordinatorTrackerState
  revision : String
  revision_valid : Text.isBlank revision = false
deriving DecidableEq

def ObservedTrackerSnapshot.new (state : CoordinatorTrackerState) (revision : String) :
    Except CoordinatorActivationError ObservedTrackerSnapshot :=
  match h : Text.isBlank revision with
  | true => .error (.emptyTrackerRevision .observed)
  | false => .ok { state, revision, revision_valid := h }

/-- Validated input of one activation evaluation. -/
structure CoordinatorActivationRequest where
  issueRef : IssueRef
  expectedTrackerState : Option CoordinatorTrackerState
  expectedTrackerRevision : Option String
  episodeTime : OffsetDateTime
  sourceKind : CoordinatorSourceKind
  sourceRef : String
  auditReason : String
  issueRef_valid : validateIssueRef issueRef = .ok ()
  episodeTime_valid : validateEpisodeTime episodeTime = .ok ()
  expectedTrackerRevision_valid : expectedTrackerRevision.any Text.isBlank = false
  sourceRef_valid : Text.isBlank sourceRef = false
  auditReason_valid : auditReason ≠ "" ∧ Text.byteLength auditReason ≤ maxAuditReasonBytes

namespace CoordinatorActivationRequest

def new (issueRef : IssueRef) (expectedTrackerState : Option CoordinatorTrackerState)
    (expectedTrackerRevision : Option String) (episodeTime : OffsetDateTime)
    (sourceKind : CoordinatorSourceKind) (sourceRef auditReason : String) :
    Except CoordinatorActivationError CoordinatorActivationRequest :=
  match hissue : validateIssueRef issueRef with
  | .error error => .error error
  | .ok () =>
  match htime : validateEpisodeTime episodeTime with
  | .error error => .error error
  | .ok () =>
  match hrevision : expectedTrackerRevision.any Text.isBlank with
  | true => .error (.emptyTrackerRevision .expected)
  | false =>
  match hsource : Text.isBlank sourceRef with
  | true => .error .emptySourceRef
  | false =>
  let auditReason := Text.trim auditReason
  if hempty : auditReason = "" then .error .emptyAuditReason
  else if hlong : Text.byteLength auditReason > maxAuditReasonBytes then
    .error (.auditReasonTooLong (Text.byteLength auditReason) maxAuditReasonBytes)
  else
    .ok
      { issueRef, expectedTrackerState, expectedTrackerRevision, episodeTime, sourceKind,
        sourceRef, auditReason
        issueRef_valid := hissue
        episodeTime_valid := htime
        expectedTrackerRevision_valid := hrevision
        sourceRef_valid := hsource
        auditReason_valid := ⟨hempty, not_lt.mp hlong⟩ }

end CoordinatorActivationRequest

/-! ## Workflow ids -/

/-- `byte.is_ascii_alphanumeric() || matches!(byte, b'-' | b'.' | b'_' | b'~')`. -/
def isUnreserved (byte : UInt8) : Bool :=
  let n := byte.toNat
  (48 ≤ n && n ≤ 57) || (65 ≤ n && n ≤ 90) || (97 ≤ n && n ≤ 122)
    || n == 45 || n == 46 || n == 95 || n == 126

def encodeComponent (value : String) : List Char := PercentEncoding.encode isUnreserved value

/-- The formatted id, before its length is checked. -/
def workflowIdText (request : CoordinatorActivationRequest) (fromState : CoordinatorTrackerState)
    (targetKind : CoordinatorTargetKind) : List Char :=
  let repo := request.issueRef.repoId
  let episodeTime := request.episodeTime
  "issue:".toList ++ encodeComponent repo.host ++ '/' :: encodeComponent repo.owner
    ++ '/' :: encodeComponent repo.repo ++ ':' :: Codes.decimal request.issueRef.number
    ++ ":pulse:".toList ++ fromState.asStr.toList ++ "-to-".toList ++ targetKind.asStr.toList
    ++ ':' :: Codes.padded 4 episodeTime.year.toNat ++ Codes.padded 2 episodeTime.month
    ++ Codes.padded 2 episodeTime.day ++ 'T' :: Codes.padded 2 episodeTime.hour
    ++ Codes.padded 2 episodeTime.minute ++ Codes.padded 2 episodeTime.second
    ++ 'Z' :: ':' :: request.sourceKind.asStr.toList ++ '-' :: encodeComponent request.sourceRef

def buildWorkflowId (request : CoordinatorActivationRequest) (fromState : CoordinatorTrackerState)
    (targetKind : CoordinatorTargetKind) : Except CoordinatorActivationError WorkflowId :=
  let workflowId := String.ofList (workflowIdText request fromState targetKind)
  if Text.byteLength workflowId > maxWorkflowIdBytes then
    .error (.workflowIdTooLong (Text.byteLength workflowId) maxWorkflowIdBytes)
  else .ok workflowId

/-! ## Evaluation -/

/-- Complete immutable facts for one executable activation. -/
structure CoordinatorExecutableActivation where
  issueRef : IssueRef
  observed : ObservedTrackerSnapshot
  targetKind : CoordinatorTargetKind
  episodeTime : OffsetDateTime
  sourceKind : CoordinatorSourceKind
  sourceRef : String
  auditReason : String
  workflowId : WorkflowId
deriving DecidableEq

inductive CoordinatorActivationDecision where
  | static (issueRef : IssueRef) (observed : ObservedTrackerSnapshot)
  | executable (activation : CoordinatorExecutableActivation)
  | staleExpectation (issueRef : IssueRef)
      (expectedTrackerState : Option CoordinatorTrackerState)
      (expectedTrackerRevision : Option String) (observed : ObservedTrackerSnapshot)
deriving DecidableEq

/-- The optimistic expectations are checked before the state is classified. -/
def CoordinatorActivationRequest.evaluate (request : CoordinatorActivationRequest)
    (observed : ObservedTrackerSnapshot) :
    Except CoordinatorActivationError CoordinatorActivationDecision :=
  if request.expectedTrackerState.any (· ≠ observed.state)
      || request.expectedTrackerRevision.any (· ≠ observed.revision) then
    .ok (.staleExpectation request.issueRef request.expectedTrackerState
      request.expectedTrackerRevision observed)
  else
    match observed.state.targetKind with
    | none => .ok (.static request.issueRef observed)
    | some targetKind => do
        let workflowId ← buildWorkflowId request observed.state targetKind
        return .executable
          { issueRef := request.issueRef
            observed
            targetKind
            episodeTime := request.episodeTime
            sourceKind := request.sourceKind
            sourceRef := request.sourceRef
            auditReason := request.auditReason
            workflowId }

theorem evaluate_eq_executable {request : CoordinatorActivationRequest}
    {observed : ObservedTrackerSnapshot} {activation : CoordinatorExecutableActivation}
    (h : request.evaluate observed = .ok (.executable activation)) :
    observed.state.targetKind = some activation.targetKind
      ∧ buildWorkflowId request observed.state activation.targetKind = .ok activation.workflowId
      ∧ activation.issueRef = request.issueRef ∧ activation.observed = observed
      ∧ activation.episodeTime = request.episodeTime
      ∧ activation.sourceKind = request.sourceKind ∧ activation.sourceRef = request.sourceRef := by
  unfold CoordinatorActivationRequest.evaluate at h
  split at h
  · cases h
  · cases htarget : observed.state.targetKind with
    | none => rw [htarget] at h; cases h
    | some targetKind =>
        rw [htarget] at h
        obtain ⟨workflowId, hid, h⟩ := Fallible.bind_eq_ok h
        obtain rfl := CoordinatorActivationDecision.executable.inj (Except.ok.inj h)
        exact ⟨rfl, hid, rfl, rfl, rfl, rfl, rfl⟩

theorem buildWorkflowId_eq_ok {request : CoordinatorActivationRequest}
    {fromState : CoordinatorTrackerState} {targetKind : CoordinatorTargetKind}
    {workflowId : WorkflowId} (h : buildWorkflowId request fromState targetKind = .ok workflowId) :
    workflowId = String.ofList (workflowIdText request fromState targetKind)
      ∧ Text.byteLength workflowId ≤ maxWorkflowIdBytes := by
  unfold buildWorkflowId at h
  dsimp only at h
  split at h
  · cases h
  · next hlen =>
    obtain rfl := Except.ok.inj h
    exact ⟨rfl, not_lt.mp hlen⟩

end SheaSymphony.Coordinator

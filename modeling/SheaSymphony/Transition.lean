import SheaSymphony.Json
import SheaSymphony.TrackerState

/-!
# Tracker transition requests

The transition part of `symphony/dto.rs`: compact validated values, the request
with its derived retry identity, and both directions of its wire form. A value
carries the checks of its constructor, an evidence list its bound; the retry key
is a bare text, since `for_transition` does not check what it builds.

The wire form is the document serde derives: a transparent newtype is its
content, a record is an object of its fields in order, an absent optional value
or an empty evidence list is left out. Reading goes through the same
constructors.
-/

namespace SheaSymphony.Transition

open Tracker Fallible

def maxCompactTransitionValueBytes : Nat := 256

def maxTransitionEvidenceRefs : Nat := 8

def maxTransitionIdempotencyKeyBytes : Nat := 4096

def transitionIdempotencyKeyVersion : String := "symphony.transition.v1"

inductive TrackerTransitionContractError where
  | emptyValue (field : String)
  | valueTooLong (field : String) (maxBytes : Nat)
  | controlCharacter (field : String)
  | tooManyEvidenceRefs (maxRefs : Nat)
  | unsupportedIdempotencyKeyVersion
deriving DecidableEq

def TrackerTransitionContractError.message : TrackerTransitionContractError → String
  | emptyValue field => field ++ " must not be empty"
  | valueTooLong field maxBytes => field ++ " must not exceed " ++ toString maxBytes ++ " bytes"
  | controlCharacter field => field ++ " must not contain control characters"
  | tooManyEvidenceRefs maxRefs =>
      "evidence_refs supports at most " ++ toString maxRefs ++ " references"
  | unsupportedIdempotencyKeyVersion =>
      "idempotency_key must use the " ++ transitionIdempotencyKeyVersion ++ " format"

inductive TrackerTransitionRequestError where
  | stateResolution (error : TrackerStateResolutionError)
  | contract (error : TrackerTransitionContractError)
deriving DecidableEq

/-! ## Compact values -/

/-- Small validated string of the transition contract. -/
structure CompactTransitionValue where
  asStr : String
  notBlank : Text.isBlank asStr = false
  bounded : Text.byteLength asStr ≤ maxCompactTransitionValueBytes
  noControl : asStr.toList.any Text.isControl = false

namespace CompactTransitionValue

@[ext] theorem ext {v w : CompactTransitionValue} (h : v.asStr = w.asStr) : v = w := by
  cases v
  cases w
  cases h
  rfl

instance : DecidableEq CompactTransitionValue := fun v w =>
  decidable_of_iff (v.asStr = w.asStr) ⟨ext, congrArg asStr⟩

def new (field value : String) : Except TrackerTransitionContractError CompactTransitionValue :=
  match hblank : Text.isBlank value with
  | true => .error (.emptyValue field)
  | false =>
  if hlong : Text.byteLength value > maxCompactTransitionValueBytes then
    .error (.valueTooLong field maxCompactTransitionValueBytes)
  else
  match hcontrol : value.toList.any Text.isControl with
  | true => .error (.controlCharacter field)
  | false =>
    .ok { asStr := value, notBlank := hblank, bounded := not_lt.mp hlong, noControl := hcontrol }

theorem asStr_of_new {field value : String} {v : CompactTransitionValue}
    (h : new field value = .ok v) : v.asStr = value := by
  unfold new at h
  split at h
  · cases h
  split at h
  · cases h
  split at h
  · cases h
  · rw [← Except.ok.inj h]

theorem new_asStr (field : String) (v : CompactTransitionValue) : new field v.asStr = .ok v := by
  unfold new
  split
  · next hblank => rw [v.notBlank] at hblank; cases hblank
  rw [dif_neg (not_lt.mpr v.bounded)]
  split
  · next hcontrol => rw [v.noControl] at hcontrol; cases hcontrol
  · rfl

end CompactTransitionValue

/-! ## Typed values -/

abbrev TrackerTransitionWorkflowId := CompactTransitionValue

def TrackerTransitionWorkflowId.new (value : String) :
    Except TrackerTransitionContractError TrackerTransitionWorkflowId :=
  CompactTransitionValue.new "workflow_id" value

abbrev TrackerState := CompactTransitionValue

def TrackerState.new (value : String) : Except TrackerTransitionContractError TrackerState :=
  CompactTransitionValue.new "tracker state" value

abbrev TrackerTransitionKind := CompactTransitionValue

def TrackerTransitionKind.new (value : String) :
    Except TrackerTransitionContractError TrackerTransitionKind :=
  CompactTransitionValue.new "transition_kind" value

abbrev TrackerTransitionRequester := CompactTransitionValue

def TrackerTransitionRequester.new (value : String) :
    Except TrackerTransitionContractError TrackerTransitionRequester :=
  CompactTransitionValue.new "requester" value

/-- Fully qualified tracker identity of an issue. -/
structure TrackerTransitionIssueRef where
  trackerKind : CompactTransitionValue
  repository : CompactTransitionValue
  issue : CompactTransitionValue
deriving DecidableEq

def TrackerTransitionIssueRef.new (trackerKind repository issue : String) :
    Except TrackerTransitionContractError TrackerTransitionIssueRef := do
  return {
    trackerKind := ← CompactTransitionValue.new "issue_ref.tracker_kind" trackerKind
    repository := ← CompactTransitionValue.new "issue_ref.repository" repository
    issue := ← CompactTransitionValue.new "issue_ref.issue" issue }

structure TrackerTransitionReason where
  code : CompactTransitionValue
  detail : Option CompactTransitionValue
deriving DecidableEq

def TrackerTransitionReason.new (code : String) (detail : Option String) :
    Except TrackerTransitionContractError TrackerTransitionReason := do
  return {
    code := ← CompactTransitionValue.new "reason.code" code
    detail := ← detail.mapM (CompactTransitionValue.new "reason.detail") }

/-- Bounded list of external evidence references. -/
structure TrackerTransitionEvidenceRefs where
  refs : List CompactTransitionValue
  bounded : refs.length ≤ maxTransitionEvidenceRefs
deriving DecidableEq

namespace TrackerTransitionEvidenceRefs

def fromValues (refs : List CompactTransitionValue) :
    Except TrackerTransitionContractError TrackerTransitionEvidenceRefs :=
  if h : refs.length > maxTransitionEvidenceRefs then
    .error (.tooManyEvidenceRefs maxTransitionEvidenceRefs)
  else .ok { refs, bounded := not_lt.mp h }

def new (refs : List String) :
    Except TrackerTransitionContractError TrackerTransitionEvidenceRefs := do
  fromValues (← refs.mapM (CompactTransitionValue.new "evidence reference"))

def isEmpty (evidence : TrackerTransitionEvidenceRefs) : Bool := evidence.refs.isEmpty

/-- `TrackerTransitionEvidenceRefs::default`. -/
def empty : TrackerTransitionEvidenceRefs := { refs := [], bounded := by decide }

theorem fromValues_refs (evidence : TrackerTransitionEvidenceRefs) :
    fromValues evidence.refs = .ok evidence :=
  dif_neg (not_lt.mpr evidence.bounded)

end TrackerTransitionEvidenceRefs

/-! ## Retry identity -/

/-- Versioned retry identity of one intended transition. -/
structure TransitionIdempotencyKey where
  asStr : String
deriving DecidableEq

def appendLengthPrefixedKeyComponent (output component : String) : String :=
  output ++ ":" ++ toString (Text.byteLength component) ++ ":" ++ component

/-- The texts a key is made of, in order. -/
def keyIngredients (workflowId : TrackerTransitionWorkflowId)
    (issueRef : TrackerTransitionIssueRef) (expectedFromState requestedToState : TrackerState)
    (transitionKind : TrackerTransitionKind) (attemptSlot : UInt32) : List String :=
  [workflowId.asStr, issueRef.trackerKind.asStr, issueRef.repository.asStr, issueRef.issue.asStr,
    expectedFromState.asStr, requestedToState.asStr, transitionKind.asStr,
    toString attemptSlot.toNat]

def TransitionIdempotencyKey.forTransition (workflowId : TrackerTransitionWorkflowId)
    (issueRef : TrackerTransitionIssueRef) (expectedFromState requestedToState : TrackerState)
    (transitionKind : TrackerTransitionKind) (attemptSlot : UInt32) : TransitionIdempotencyKey where
  asStr :=
    (keyIngredients workflowId issueRef expectedFromState requestedToState transitionKind
      attemptSlot).foldl appendLengthPrefixedKeyComponent transitionIdempotencyKeyVersion

/-! ## Requests -/

/-- Compact, history-safe intent of a state transition. -/
structure TrackerTransitionRequest where
  workflowId : TrackerTransitionWorkflowId
  runId : Option CompactTransitionValue
  issueRef : TrackerTransitionIssueRef
  expectedFromState : TrackerState
  requestedToState : TrackerState
  transitionKind : TrackerTransitionKind
  requester : TrackerTransitionRequester
  reason : TrackerTransitionReason
  evidenceRefs : TrackerTransitionEvidenceRefs
  attemptSlot : UInt32
  idempotencyKey : TransitionIdempotencyKey
deriving DecidableEq

/-- The transition state a configured input stands for. -/
def resolvedState (case : Text.UnicodeCase) (stateMap : StateMap) (input : String) :
    Except TrackerTransitionRequestError TrackerState := do
  let state ← (resolveConfiguredTrackerState case stateMap input).mapError .stateResolution
  (TrackerState.new state.canonicalKey).mapError .contract

def TrackerTransitionRequest.new (case : Text.UnicodeCase) (stateMap : StateMap)
    (workflowId : String) (runId : Option String) (issueRef : TrackerTransitionIssueRef)
    (expectedFromState requestedToState : String) (transitionKind : TrackerTransitionKind)
    (requester : TrackerTransitionRequester) (reason : TrackerTransitionReason)
    (evidenceRefs : TrackerTransitionEvidenceRefs) (attemptSlot : UInt32) :
    Except TrackerTransitionRequestError TrackerTransitionRequest := do
  let workflowId ← (TrackerTransitionWorkflowId.new workflowId).mapError .contract
  let runId ← (runId.mapM (CompactTransitionValue.new "run_id")).mapError .contract
  let expectedFromState ← resolvedState case stateMap expectedFromState
  let requestedToState ← resolvedState case stateMap requestedToState
  let idempotencyKey := TransitionIdempotencyKey.forTransition workflowId issueRef
    expectedFromState requestedToState transitionKind attemptSlot
  return { workflowId, runId, issueRef, expectedFromState, requestedToState, transitionKind,
           requester, reason, evidenceRefs, attemptSlot, idempotencyKey }

/-! ## Wire form -/

section

open Json

/-- `serde::de::Error::custom` of a contract failure. -/
def customError (error : TrackerTransitionContractError) : DecodeError := .custom error.message

def CompactTransitionValue.serialize (value : CompactTransitionValue) : Json := .str value.asStr

def CompactTransitionValue.deserialize : Decoder CompactTransitionValue := fun document => do
  let value ← decodeString document
  (CompactTransitionValue.new "transition value" value).mapError customError

def TrackerTransitionIssueRef.serialize (issueRef : TrackerTransitionIssueRef) : Json :=
  .obj
    [("tracker_kind", issueRef.trackerKind.serialize),
      ("repository", issueRef.repository.serialize),
      ("issue", issueRef.issue.serialize)]

def TrackerTransitionIssueRef.deserialize : Decoder TrackerTransitionIssueRef := fun document => do
  let fields ← structFields ["tracker_kind", "repository", "issue"] 3 document
  return {
    trackerKind := ← field fields "tracker_kind" CompactTransitionValue.deserialize
    repository := ← field fields "repository" CompactTransitionValue.deserialize
    issue := ← field fields "issue" CompactTransitionValue.deserialize }

def TrackerTransitionReason.serialize (reason : TrackerTransitionReason) : Json :=
  .obj (("code", reason.code.serialize)
    :: present "detail" CompactTransitionValue.serialize reason.detail)

def TrackerTransitionReason.deserialize : Decoder TrackerTransitionReason := fun document => do
  let fields ← structFields ["code", "detail"] 1 document
  return {
    code := ← field fields "code" CompactTransitionValue.deserialize
    detail := ← fieldOr fields "detail" none (decodeOption CompactTransitionValue.deserialize) }

def TrackerTransitionEvidenceRefs.serialize (evidence : TrackerTransitionEvidenceRefs) : Json :=
  .arr (evidence.refs.map CompactTransitionValue.serialize)

def TrackerTransitionEvidenceRefs.deserialize : Decoder TrackerTransitionEvidenceRefs :=
  fun document => do
    let refs ← decodeList CompactTransitionValue.deserialize document
    (TrackerTransitionEvidenceRefs.fromValues refs).mapError customError

def TransitionIdempotencyKey.serialize (key : TransitionIdempotencyKey) : Json := .str key.asStr

/-- A key that is read must carry the version, fit its bound and hold no
control character. -/
def TransitionIdempotencyKey.deserialize : Decoder TransitionIdempotencyKey := fun document => do
  let value ← decodeString document
  let versionPrefix := transitionIdempotencyKeyVersion ++ ":"
  Fallible.require (versionPrefix.toList.isPrefixOf value.toList)
    (customError .unsupportedIdempotencyKeyVersion)
  Fallible.require (Text.byteLength value ≤ maxTransitionIdempotencyKeyBytes)
    (customError (.valueTooLong "idempotency_key" maxTransitionIdempotencyKeyBytes))
  Fallible.require (!value.toList.any Text.isControl)
    (customError (.controlCharacter "idempotency_key"))
  return { asStr := value }

def decodeU32 : Decoder UInt32 := fun document => do
  return UInt32.ofNat (← decodeNat UInt32.size document)

def TrackerTransitionRequest.serialize (request : TrackerTransitionRequest) : Json :=
  .obj
    (("workflow_id", request.workflowId.serialize)
      :: present "run_id" CompactTransitionValue.serialize request.runId
      ++ [("issue_ref", request.issueRef.serialize),
        ("expected_from_state", request.expectedFromState.serialize),
        ("requested_to_state", request.requestedToState.serialize),
        ("transition_kind", request.transitionKind.serialize),
        ("requester", request.requester.serialize),
        ("reason", request.reason.serialize)]
      ++ present "evidence_refs" TrackerTransitionEvidenceRefs.serialize
          (if request.evidenceRefs.isEmpty then none else some request.evidenceRefs)
      ++ [("attempt_slot", .int request.attemptSlot.toNat),
        ("idempotency_key", request.idempotencyKey.serialize)])

def TrackerTransitionRequest.deserialize : Decoder TrackerTransitionRequest := fun document => do
  let fields ← structFields
    ["workflow_id", "run_id", "issue_ref", "expected_from_state", "requested_to_state",
      "transition_kind", "requester", "reason", "evidence_refs", "attempt_slot",
      "idempotency_key"] 11 document
  return {
    workflowId := ← field fields "workflow_id" CompactTransitionValue.deserialize
    runId := ← fieldOr fields "run_id" none (decodeOption CompactTransitionValue.deserialize)
    issueRef := ← field fields "issue_ref" TrackerTransitionIssueRef.deserialize
    expectedFromState := ← field fields "expected_from_state" CompactTransitionValue.deserialize
    requestedToState := ← field fields "requested_to_state" CompactTransitionValue.deserialize
    transitionKind := ← field fields "transition_kind" CompactTransitionValue.deserialize
    requester := ← field fields "requester" CompactTransitionValue.deserialize
    reason := ← field fields "reason" TrackerTransitionReason.deserialize
    evidenceRefs := ← fieldOr fields "evidence_refs" .empty
      TrackerTransitionEvidenceRefs.deserialize
    attemptSlot := ← field fields "attempt_slot" decodeU32
    idempotencyKey := ← field fields "idempotency_key" TransitionIdempotencyKey.deserialize }

end

/-! ## What a constructed request is -/

section

variable {case : Text.UnicodeCase} {stateMap : StateMap}

theorem resolvedState_eq_ok {input : String} {state : TrackerState}
    (h : resolvedState case stateMap input = .ok state) :
    ∃ resolved, resolveConfiguredTrackerState case stateMap input = .ok resolved
      ∧ state.asStr = resolved.canonicalKey := by
  obtain ⟨resolved, hresolve, h⟩ := bind_eq_ok h
  exact ⟨resolved, mapError_eq_ok.mp hresolve,
    CompactTransitionValue.asStr_of_new (mapError_eq_ok.mp h)⟩

theorem TrackerTransitionRequest.new_eq_ok {workflowId : String} {runId : Option String}
    {issueRef : TrackerTransitionIssueRef} {expectedFromState requestedToState : String}
    {transitionKind : TrackerTransitionKind} {requester : TrackerTransitionRequester}
    {reason : TrackerTransitionReason} {evidenceRefs : TrackerTransitionEvidenceRefs}
    {attemptSlot : UInt32} {request : TrackerTransitionRequest}
    (h : TrackerTransitionRequest.new case stateMap workflowId runId issueRef expectedFromState
      requestedToState transitionKind requester reason evidenceRefs attemptSlot = .ok request) :
    resolvedState case stateMap expectedFromState = .ok request.expectedFromState
      ∧ resolvedState case stateMap requestedToState = .ok request.requestedToState
      ∧ request.idempotencyKey = .forTransition request.workflowId request.issueRef
          request.expectedFromState request.requestedToState request.transitionKind
          request.attemptSlot := by
  obtain ⟨_, -, h⟩ := bind_eq_ok h
  obtain ⟨_, -, h⟩ := bind_eq_ok h
  obtain ⟨_, hfrom, h⟩ := bind_eq_ok h
  obtain ⟨_, hto, h⟩ := bind_eq_ok h
  obtain rfl := Except.ok.inj h
  exact ⟨hfrom, hto, rfl⟩

end

end SheaSymphony.Transition

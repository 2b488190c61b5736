import SheaSymphony.Codes
import SheaSymphony.Transition

/-!
# The idempotency key is exact

A key is its version followed by length-prefixed ingredients, so it is read back
ingredient by ingredient whatever characters they hold (`forTransition_inj`).
Two constructed requests share a key exactly when they intend the same
transition of the same issue in the same workflow and slot; the only quotient on
the way is the resolution of state spellings to canonical keys.
-/

namespace SheaSymphony.Transition

open Tracker Codes Fallible

theorem toList_toString (n : Nat) : (toString n).toList = decimal n := Nat.toList_repr

theorem toList_appendLengthPrefixedKeyComponent (output component : String) :
    (appendLengthPrefixedKeyComponent output component).toList
      = output.toList ++ lengthPrefixed ':' component := by
  simp only [appendLengthPrefixedKeyComponent, String.toList_append, toList_toString,
    lengthPrefixed, Text.byteLength, List.append_assoc]
  rfl

theorem toList_foldl_append (ingredients : List String) (output : String) :
    (ingredients.foldl appendLengthPrefixedKeyComponent output).toList
      = output.toList ++ ingredients.flatMap (lengthPrefixed ':') := by
  induction ingredients generalizing output with
  | nil => rw [List.foldl_nil, List.flatMap_nil, List.append_nil]
  | cons component ingredients ih =>
      rw [List.foldl_cons, ih, toList_appendLengthPrefixedKeyComponent, List.flatMap_cons,
        List.append_assoc]

theorem foldl_append_injective (output : String) :
    Function.Injective fun ingredients : List String =>
      ingredients.foldl appendLengthPrefixedKeyComponent output := by
  intro a b h
  have htext := congrArg String.toList h
  dsimp only at htext
  rw [toList_foldl_append, toList_foldl_append] at htext
  have hcolon : SelfDelimiting (lengthPrefixed ':') := selfDelimiting_lengthPrefixed (by decide)
  exact hcolon.flatMap_injective (fun _ => List.cons_ne_nil _ _) (List.append_cancel_left htext)

theorem toString_toNat_injective : Function.Injective fun n : UInt32 => toString n.toNat := by
  intro m n h
  have htext := congrArg String.toList h
  rw [toList_toString, toList_toString] at htext
  exact UInt32.toNat_inj.mp (decimal_injective htext)

theorem forTransition_inj {workflowId workflowId' : TrackerTransitionWorkflowId}
    {issueRef issueRef' : TrackerTransitionIssueRef}
    {fromState fromState' toState toState' : TrackerState}
    {transitionKind transitionKind' : TrackerTransitionKind} {attemptSlot attemptSlot' : UInt32} :
    TransitionIdempotencyKey.forTransition workflowId issueRef fromState toState transitionKind
        attemptSlot
      = .forTransition workflowId' issueRef' fromState' toState' transitionKind' attemptSlot'
    ↔ workflowId = workflowId' ∧ issueRef.trackerKind = issueRef'.trackerKind
      ∧ issueRef.repository = issueRef'.repository ∧ issueRef.issue = issueRef'.issue
      ∧ fromState = fromState' ∧ toState = toState' ∧ transitionKind = transitionKind'
      ∧ attemptSlot = attemptSlot' := by
  constructor
  · intro h
    have hingredients := foldl_append_injective _ (TransitionIdempotencyKey.mk.inj h)
    simp only [keyIngredients, List.cons.injEq, and_true] at hingredients
    obtain ⟨hworkflow, htracker, hrepository, hissue, hfrom, hto, hkind, hslot⟩ := hingredients
    have hext : ∀ {v w : CompactTransitionValue}, v.asStr = w.asStr → v = w :=
      CompactTransitionValue.ext
    exact ⟨hext hworkflow, hext htracker, hext hrepository, hext hissue, hext hfrom, hext hto,
      hext hkind, toString_toNat_injective hslot⟩
  · rintro ⟨rfl, htracker, hrepository, hissue, rfl, rfl, rfl, rfl⟩
    simp only [TransitionIdempotencyKey.forTransition, keyIngredients, htracker, hrepository,
      hissue]

/-- A request the constructor returns for these spellings of its states. -/
def Built (case : Text.UnicodeCase) (stateMap : StateMap)
    (expectedFromState requestedToState : String) (request : TrackerTransitionRequest) : Prop :=
  ∃ workflowId runId issueRef transitionKind requester reason evidenceRefs attemptSlot,
    TrackerTransitionRequest.new case stateMap workflowId runId issueRef expectedFromState
      requestedToState transitionKind requester reason evidenceRefs attemptSlot = .ok request

section

variable {case : Text.UnicodeCase} {stateMap stateMap' : StateMap}
  {fromInput fromInput' toInput toInput' : String} {request request' : TrackerTransitionRequest}

theorem Built.key (h : Built case stateMap fromInput toInput request) :
    request.idempotencyKey = .forTransition request.workflowId request.issueRef
      request.expectedFromState request.requestedToState request.transitionKind
      request.attemptSlot := by
  obtain ⟨_, _, _, _, _, _, _, _, h⟩ := h
  exact (TrackerTransitionRequest.new_eq_ok h).2.2

theorem Built.states (h : Built case stateMap fromInput toInput request) :
    resolvedState case stateMap fromInput = .ok request.expectedFromState
      ∧ resolvedState case stateMap toInput = .ok request.requestedToState := by
  obtain ⟨_, _, _, _, _, _, _, _, h⟩ := h
  obtain ⟨hfrom, hto, -⟩ := TrackerTransitionRequest.new_eq_ok h
  exact ⟨hfrom, hto⟩

theorem resolvedState_congr {input input' : String} {state state' : TrackerState}
    (h : resolvedState case stateMap input = .ok state)
    (h' : resolvedState case stateMap' input' = .ok state')
    (same : (resolveConfiguredTrackerState case stateMap input).map (·.canonicalKey)
      = (resolveConfiguredTrackerState case stateMap' input').map (·.canonicalKey)) :
    state = state' := by
  obtain ⟨resolved, hresolve, hstate⟩ := resolvedState_eq_ok h
  obtain ⟨resolved', hresolve', hstate'⟩ := resolvedState_eq_ok h'
  rw [hresolve, hresolve'] at same
  refine CompactTransitionValue.ext ?_
  rw [hstate, hstate']
  exact Except.ok.inj same

/-- Two constructed requests have one idempotency key exactly when the eight
identity fields agree, and spellings of a state with one canonical key count as
one state. -/
theorem idempotency_key_exact (h : Built case stateMap fromInput toInput request)
    (h' : Built case stateMap' fromInput' toInput' request') :
    (request.idempotencyKey = request'.idempotencyKey ↔
      request.workflowId = request'.workflowId
        ∧ request.issueRef.trackerKind = request'.issueRef.trackerKind
        ∧ request.issueRef.repository = request'.issueRef.repository
        ∧ request.issueRef.issue = request'.issueRef.issue
        ∧ request.expectedFromState = request'.expectedFromState
        ∧ request.requestedToState = request'.requestedToState
        ∧ request.transitionKind = request'.transitionKind
        ∧ request.attemptSlot = request'.attemptSlot)
      ∧ ((resolveConfiguredTrackerState case stateMap fromInput).map (·.canonicalKey)
          = (resolveConfiguredTrackerState case stateMap' fromInput').map (·.canonicalKey) →
        request.expectedFromState = request'.expectedFromState)
      ∧ ((resolveConfiguredTrackerState case stateMap toInput).map (·.canonicalKey)
          = (resolveConfiguredTrackerState case stateMap' toInput').map (·.canonicalKey) →
        request.requestedToState = request'.requestedToState) := by
  refine ⟨?_, resolvedState_congr h.states.1 h'.states.1,
    resolvedState_congr h.states.2 h'.states.2⟩
  rw [h.key, h'.key]
  exact forTransition_inj

end

/-! ## A sample request -/

def sampleStateMap : StateMap where
  backlog := "Backlog"
  todo := "Todo"
  needToClarify := "Need to Clarify"
  inProgress := "In Progress"
  needHumanInput := "Need Human Input"
  agentReview := "Agent Review"
  humanReview := "Human Review"
  rework := "Rework"
  merging := "Merging"
  done := "Done"

/-- The request of the sample workflow for two spellings of its states. -/
def sampleRequest (fromInput toInput : String) :
    Except TrackerTransitionRequestError TrackerTransitionRequest := do
  let issueRef ← (TrackerTransitionIssueRef.new "github_project_v2" "shea/app" "#494").mapError
    .contract
  let kind ← (TrackerTransitionKind.new "handoff").mapError .contract
  let requester ← (TrackerTransitionRequester.new "issue_workflow").mapError .contract
  let reason ← (TrackerTransitionReason.new "done" (some "tests pass")).mapError .contract
  let evidence ← (TrackerTransitionEvidenceRefs.new ["artifact:1"]).mapError .contract
  TrackerTransitionRequest.new .ascii sampleStateMap "workflow:1" (some "run-1") issueRef
    fromInput toInput kind requester reason evidence 0

theorem built_of_sampleRequest {fromInput toInput : String} {request : TrackerTransitionRequest}
    (h : sampleRequest fromInput toInput = .ok request) :
    Built .ascii sampleStateMap fromInput toInput request := by
  obtain ⟨_, -, h⟩ := bind_eq_ok h
  obtain ⟨_, -, h⟩ := bind_eq_ok h
  obtain ⟨_, -, h⟩ := bind_eq_ok h
  obtain ⟨_, -, h⟩ := bind_eq_ok h
  obtain ⟨_, -, h⟩ := bind_eq_ok h
  exact ⟨_, _, _, _, _, _, _, _, h⟩

/-- The key both spellings of the sample lead to. -/
def sampleKey : TransitionIdempotencyKey where
  asStr := "symphony.transition.v1:10:workflow:1:17:github_project_v2:8:shea/app:4:#494:4:todo"
    ++ ":12:agent_review:7:handoff:1:0"

theorem sampleRequest_key :
    (sampleRequest "todo" "AGENT_REVIEW").map (·.idempotencyKey) = .ok sampleKey
      ∧ (sampleRequest "  TODO  " " agent review ").map (·.idempotencyKey) = .ok sampleKey := by
  decide +kernel

theorem idempotency_key_exact_sample :
    ∃ request request', sampleRequest "todo" "AGENT_REVIEW" = .ok request
      ∧ sampleRequest "  TODO  " " agent review " = .ok request'
      ∧ request.idempotencyKey = sampleKey ∧ request'.idempotencyKey = sampleKey
      ∧ request.expectedFromState = request'.expectedFromState
      ∧ request.requestedToState = request'.requestedToState := by
  obtain ⟨hkey, hkey'⟩ := sampleRequest_key
  obtain ⟨request, h, hkey⟩ := Fallible.map_eq_ok hkey
  obtain ⟨request', h', hkey'⟩ := Fallible.map_eq_ok hkey'
  have hexact := idempotency_key_exact (built_of_sampleRequest h) (built_of_sampleRequest h')
  obtain ⟨-, -, -, -, hfrom, hto, -⟩ := hexact.1.mp (hkey.trans hkey'.symm)
  exact ⟨request, request', h, h', hkey, hkey', hfrom, hto⟩

end SheaSymphony.Transition

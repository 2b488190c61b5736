import SheaSymphony.TransitionKey

/-!
# The wire form round-trips

Each decoder undoes its encoder, so a constructed request reads back as itself.
The one decoder that checks more than a constructor did is that of the
idempotency key; that it accepts every derived key is arithmetic over the
ingredients (`byteLength_forTransition_le`) and the absence of control
characters in them.
-/

namespace SheaSymphony.Transition

open Codes Json Fallible

/-! ## Derived keys pass their decoder -/

theorem byteLength_toString_le (n : UInt32) : Text.byteLength (toString n.toNat) ≤ 10 := by
  have hlt : n.toNat < 10 ^ 10 := lt_trans n.toNat_lt (by decide)
  rw [Text.byteLength_eq, toList_toString, utf8Len_decimal]
  exact (Nat.length_toDigits_le_iff (by decide) (by decide)).mpr hlt

section

variable (workflowId : TrackerTransitionWorkflowId) (issueRef : TrackerTransitionIssueRef)
  (fromState toState : TrackerState) (transitionKind : TrackerTransitionKind)
  (attemptSlot : UInt32)

theorem forall_keyIngredients (P : String → Prop) (value : ∀ v : CompactTransitionValue, P v.asStr)
    (slot : ∀ n : UInt32, P (toString n.toNat)) :
    ∀ s ∈ keyIngredients workflowId issueRef fromState toState transitionKind attemptSlot, P s := by
  intro s hs
  simp only [keyIngredients, List.mem_cons, List.not_mem_nil, or_false] at hs
  rcases hs with rfl | rfl | rfl | rfl | rfl | rfl | rfl | rfl
  all_goals first | exact value _ | exact slot _

theorem byteLength_forTransition_le :
    Text.byteLength (TransitionIdempotencyKey.forTransition workflowId issueRef fromState toState
      transitionKind attemptSlot).asStr ≤ maxTransitionIdempotencyKeyBytes := by
  have hcomponent : ∀ s ∈ keyIngredients workflowId issueRef fromState toState transitionKind
      attemptSlot, String.utf8Len (lengthPrefixed ':' s) ≤ 261 := by
    intro s hs
    have hbound : s.utf8ByteSize ≤ 256 :=
      forall_keyIngredients workflowId issueRef fromState toState transitionKind attemptSlot
        (fun s => s.utf8ByteSize ≤ 256) (fun v => v.bounded)
        (fun n => (byteLength_toString_le n).trans (by decide)) s hs
    have hlen : String.utf8Len (lengthPrefixed ':' s) ≤ s.utf8ByteSize + 3 + 2 :=
      utf8Len_lengthPrefixed_le (by decide) (by decide) (by omega)
    omega
  have hwords := utf8Len_flatMap_le hcomponent
  have hversion : String.utf8Len transitionIdempotencyKeyVersion.toList = 22 := by decide
  rw [Text.byteLength_eq, TransitionIdempotencyKey.forTransition, toList_foldl_append,
    String.utf8Len_append, hversion]
  have hcount : (keyIngredients workflowId issueRef fromState toState transitionKind
      attemptSlot).length = 8 := rfl
  rw [hcount] at hwords
  unfold maxTransitionIdempotencyKeyBytes
  omega

theorem isControl_of_isDigit {c : Char} (h : c.isDigit = true) : Text.isControl c = false := by
  simp only [Char.isDigit, Bool.and_eq_true, decide_eq_true_eq, UInt32.le_iff_toNat_le] at h
  have hlow : 48 ≤ c.toNat := h.1
  have hhigh : c.toNat ≤ 57 := h.2
  simp only [Text.isControl, Bool.or_eq_false_iff, Bool.and_eq_false_imp, decide_eq_true_eq,
    decide_eq_false_iff_not]
  omega

theorem noControl_forTransition :
    (TransitionIdempotencyKey.forTransition workflowId issueRef fromState toState transitionKind
      attemptSlot).asStr.toList.any Text.isControl = false := by
  have hdecimal : ∀ n, (decimal n).any Text.isControl = false := fun n =>
    List.any_eq_false.mpr fun c hc => by
      rw [isControl_of_isDigit (isDigit_of_mem_decimal hc)]
      decide
  have hcolon : Text.isControl ':' = false := by decide
  have hingredient : ∀ s ∈ keyIngredients workflowId issueRef fromState toState transitionKind
      attemptSlot, s.toList.any Text.isControl = false :=
    forall_keyIngredients workflowId issueRef fromState toState transitionKind attemptSlot
      (fun s => s.toList.any Text.isControl = false) (fun v => v.noControl)
      (fun n => by rw [toList_toString]; exact hdecimal _)
  rw [TransitionIdempotencyKey.forTransition, toList_foldl_append, List.any_append,
    Bool.or_eq_false_iff]
  refine ⟨by decide, List.any_eq_false.mpr fun c hc => ?_⟩
  obtain ⟨s, hs, hc⟩ := List.mem_flatMap.mp hc
  have hword : (lengthPrefixed ':' s).any Text.isControl = false := by
    simp only [lengthPrefixed, List.any_append, List.any_cons, hcolon, hdecimal,
      hingredient s hs, Bool.or_self]
  exact List.any_eq_false.mp hword c hc

theorem versionPrefix_forTransition :
    (transitionIdempotencyKeyVersion ++ ":").toList.isPrefixOf
      (TransitionIdempotencyKey.forTransition workflowId issueRef fromState toState transitionKind
        attemptSlot).asStr.toList = true := by
  rw [List.isPrefixOf_iff_prefix, TransitionIdempotencyKey.forTransition, toList_foldl_append,
    String.toList_append]
  exact (List.prefix_append_right_inj _).mpr ⟨_, rfl⟩

theorem deserialize_forTransition :
    TransitionIdempotencyKey.deserialize (TransitionIdempotencyKey.forTransition workflowId issueRef
        fromState toState transitionKind attemptSlot).serialize
      = .ok (.forTransition workflowId issueRef fromState toState transitionKind attemptSlot) := by
  have hfront := versionPrefix_forTransition workflowId issueRef fromState toState transitionKind
    attemptSlot
  have hlength := byteLength_forTransition_le workflowId issueRef fromState toState transitionKind
    attemptSlot
  have hcontrol := noControl_forTransition workflowId issueRef fromState toState transitionKind
    attemptSlot
  generalize TransitionIdempotencyKey.forTransition workflowId issueRef fromState toState
    transitionKind attemptSlot = key at hfront hlength hcontrol
  simp only [TransitionIdempotencyKey.deserialize, TransitionIdempotencyKey.serialize,
    decodeString_str, ok_bind, hfront, hcontrol, hlength, decide_true, Bool.not_false,
    require_true, pure_eq]

end

/-! ## Decoders undo encoders -/

@[simp] theorem CompactTransitionValue.deserialize_serialize (value : CompactTransitionValue) :
    deserialize value.serialize = .ok value := by
  rw [deserialize, serialize, decodeString_str, ok_bind, new_asStr]
  rfl

@[simp] theorem decodeOption_serialize (value : CompactTransitionValue) :
    decodeOption CompactTransitionValue.deserialize value.serialize = .ok (some value) := by
  change (CompactTransitionValue.deserialize value.serialize >>= fun v => .ok (some v)) = _
  rw [CompactTransitionValue.deserialize_serialize]
  rfl

@[simp] theorem TrackerTransitionIssueRef.deserialize_serialize
    (issueRef : TrackerTransitionIssueRef) :
    deserialize issueRef.serialize = .ok issueRef := by
  rw [deserialize, serialize, structFields_obj (by simp), ok_bind]
  simp [field, List.lookup_cons]

@[simp] theorem TrackerTransitionReason.deserialize_serialize (reason : TrackerTransitionReason) :
    deserialize reason.serialize = .ok reason := by
  obtain ⟨code, _ | detail⟩ := reason <;>
    rw [deserialize, serialize, structFields_obj (by simp [present]), ok_bind] <;>
    simp [field, fieldOr, present, List.lookup_cons]

theorem TrackerTransitionEvidenceRefs.eq_empty {evidence : TrackerTransitionEvidenceRefs}
    (h : evidence.isEmpty = true) : evidence = .empty := by
  obtain ⟨refs, _⟩ := evidence
  obtain rfl := List.isEmpty_iff.mp h
  rfl

@[simp] theorem TrackerTransitionEvidenceRefs.deserialize_serialize
    (evidence : TrackerTransitionEvidenceRefs) :
    deserialize evidence.serialize = .ok evidence := by
  rw [deserialize, serialize, decodeList_map CompactTransitionValue.deserialize_serialize,
    ok_bind, fromValues_refs]
  rfl

@[simp] theorem decodeU32_int (n : UInt32) : decodeU32 (.int n.toNat) = .ok n := by
  rw [decodeU32, decodeNat_int n.toNat_lt, ok_bind, UInt32.ofNat_toNat]
  rfl

theorem TrackerTransitionRequest.deserialize_serialize (request : TrackerTransitionRequest)
    (hkey : request.idempotencyKey = .forTransition request.workflowId request.issueRef
      request.expectedFromState request.requestedToState request.transitionKind
      request.attemptSlot) :
    deserialize request.serialize = .ok request := by
  have hdecoded : TransitionIdempotencyKey.deserialize request.idempotencyKey.serialize
      = .ok request.idempotencyKey := by
    rw [hkey]
    exact deserialize_forTransition _ _ _ _ _ _
  clear hkey
  obtain ⟨workflowId, runId, issueRef, fromState, toState, kind, requester, reason, evidence, slot,
    key⟩ := request
  rw [deserialize, serialize, structFields_obj ?names, ok_bind]
  case names => cases runId <;> cases evidence.isEmpty <;> simp [present]
  -- The optional bindings are there or not; the rest is read in order.
  cases hrefs : evidence.isEmpty with
  | true =>
      obtain rfl := TrackerTransitionEvidenceRefs.eq_empty hrefs
      cases runId <;> simp [field, fieldOr, present, List.lookup_cons, hdecoded]
  | false => cases runId <;> simp [field, fieldOr, present, List.lookup_cons, hdecoded]

/-- Every constructed request is read back from its wire form as itself. -/
theorem wire_round_trip {case : Text.UnicodeCase} {stateMap : Tracker.StateMap}
    {fromInput toInput : String} {request : TrackerTransitionRequest}
    (h : Built case stateMap fromInput toInput request) :
    TrackerTransitionRequest.deserialize request.serialize = .ok request :=
  request.deserialize_serialize h.key

theorem wire_round_trip_sample :
    ∃ request, sampleRequest "todo" "AGENT_REVIEW" = .ok request
      ∧ TrackerTransitionRequest.deserialize request.serialize = .ok request := by
  obtain ⟨request, h, -⟩ := Fallible.map_eq_ok sampleRequest_key.1
  exact ⟨request, h, wire_round_trip (built_of_sampleRequest h)⟩

end SheaSymphony.Transition

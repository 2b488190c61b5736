import SheaSymphony.Coordinator

/-!
# Workflow ids are uniquely decodable

The id is one line of variable-length pieces. What keeps the pieces apart:
encoded components contain no `/` and no `:`, numerals contain no `:`, the
`from-to-target` label contains no `:`, the time has fixed width, and no source
kind starts with the letter another starts with. Reading the id from the left,
each piece ends where it can be seen to end.
-/

namespace SheaSymphony.Coordinator

open LocalState Codes Fallible

theorem encodeComponent_injective : Function.Injective encodeComponent :=
  PercentEncoding.encode_injective (by decide)

theorem slash_not_mem_encodeComponent (value : String) : '/' ∉ encodeComponent value :=
  PercentEncoding.not_mem_encode (b := 0x2F) (by decide) (by decide) (by decide) value

theorem colon_not_mem_encodeComponent (value : String) : ':' ∉ encodeComponent value :=
  PercentEncoding.not_mem_encode (b := 0x3A) (by decide) (by decide) (by decide) value

/-- The `from-to-target` label of an id. -/
def label (fromState : CoordinatorTrackerState) (targetKind : CoordinatorTargetKind) : List Char :=
  fromState.asStr.toList ++ "-to-".toList ++ targetKind.asStr.toList

theorem colon_not_mem_label (fromState : CoordinatorTrackerState)
    (targetKind : CoordinatorTargetKind) : ':' ∉ label fromState targetKind := by
  cases fromState <;> cases targetKind <;> decide +kernel

theorem asStr_injective : Function.Injective CoordinatorTrackerState.asStr := by
  intro s s' h
  cases s <;> cases s' <;> first | rfl | exact absurd h (by decide)

theorem targetKind_asStr_injective : Function.Injective CoordinatorTargetKind.asStr := by
  intro t t' h
  cases t <;> cases t' <;> first | rfl | exact absurd h (by decide)

theorem label_injective {s s' : CoordinatorTrackerState} {t t' : CoordinatorTargetKind}
    (h : label s t = label s' t') : s = s' ∧ t = t' := by
  have hdash : ∀ t : CoordinatorTargetKind, '-' ∉ t.asStr.toList.reverse := by
    intro t
    cases t <;> decide
  have hrev : ∀ (s : CoordinatorTrackerState) (t : CoordinatorTargetKind), (label s t).reverse
      = t.asStr.toList.reverse ++ '-' :: ("ot-".toList ++ s.asStr.toList.reverse) := by
    intro s t
    rw [label, List.reverse_append, List.reverse_append]
    rfl
  have hr := congrArg List.reverse h
  rw [hrev, hrev] at hr
  obtain ⟨htarget, hrest⟩ := terminated_inj (hdash t) (hdash t') hr
  have hstate := List.reverse_injective (List.append_cancel_left hrest)
  exact ⟨asStr_injective (String.toList_inj.mp hstate),
    targetKind_asStr_injective (String.toList_inj.mp (List.reverse_injective htarget))⟩

theorem sourceKind_append_inj {k k' : CoordinatorSourceKind} {r r' : List Char}
    (h : k.asStr.toList ++ r = k'.asStr.toList ++ r') : k = k' ∧ r = r' := by
  have hkind : k = k' := by
    have hhead := congrArg List.head? h
    cases k <;> cases k' <;> first | rfl | exact absurd hhead (by simp [CoordinatorSourceKind.asStr])
  subst hkind
  exact ⟨rfl, List.append_cancel_left h⟩

theorem validateEpisodeTime_eq_ok {t : OffsetDateTime} (h : validateEpisodeTime t = .ok ()) :
    t.offset = 0 ∧ t.nanosecond = 0 ∧ 0 ≤ t.year ∧ t.year ≤ 9999 := by
  obtain ⟨_, hoffset, h⟩ := bind_eq_ok h
  obtain ⟨_, hnanos, h⟩ := bind_eq_ok h
  refine ⟨?_, ?_, ?_⟩
  · simpa using require_eq_ok.mp hoffset
  · simpa using require_eq_ok.mp hnanos
  · simpa using require_eq_ok.mp h

/-- The fixed-width time of an id. -/
def timeText (t : OffsetDateTime) : List Char :=
  padded 4 t.year.toNat ++ padded 2 t.month ++ padded 2 t.day ++ 'T' :: padded 2 t.hour
    ++ padded 2 t.minute ++ padded 2 t.second

theorem daysInMonth_le (year : Int) (month : Nat) : daysInMonth year month ≤ 31 := by
  unfold daysInMonth
  split
  · split <;> omega
  all_goals omega

theorem timeText_append_inj {t t' : OffsetDateTime} (ht : validateEpisodeTime t = .ok ())
    (ht' : validateEpisodeTime t' = .ok ()) {r r' : List Char}
    (h : timeText t ++ r = timeText t' ++ r') : t = t' ∧ r = r' := by
  obtain ⟨hoffset, hnanos, hyear, hyear9⟩ := validateEpisodeTime_eq_ok ht
  obtain ⟨hoffset', hnanos', hyear', hyear9'⟩ := validateEpisodeTime_eq_ok ht'
  have hday := daysInMonth_le t.year t.month
  have hday' := daysInMonth_le t'.year t'.month
  obtain ⟨hm, hm12⟩ := t.month_valid
  obtain ⟨hm', hm12'⟩ := t'.month_valid
  obtain ⟨hd, hd31⟩ := t.day_valid
  obtain ⟨hd', hd31'⟩ := t'.day_valid
  obtain ⟨hh, hmin, hsec, -⟩ := t.time_valid
  obtain ⟨hh', hmin', hsec', -⟩ := t'.time_valid
  simp only [timeText, List.append_assoc, List.cons_append] at h
  obtain ⟨h1, h⟩ := padded_append_inj (by decide) (by omega) (by omega) h
  obtain ⟨h2, h⟩ := padded_append_inj (by decide) (by omega) (by omega) h
  obtain ⟨h3, h⟩ := padded_append_inj (by decide) (by omega) (by omega) h
  obtain ⟨h4, h⟩ := padded_append_inj (by decide) (by omega) (by omega) (List.tail_eq_of_cons_eq h)
  obtain ⟨h5, h⟩ := padded_append_inj (by decide) (by omega) (by omega) h
  obtain ⟨h6, h⟩ := padded_append_inj (by decide) (by omega) (by omega) h
  refine ⟨?_, h⟩
  have hy : t.year = t'.year := by omega
  cases t
  cases t'
  simp only [OffsetDateTime.mk.injEq]
  exact ⟨hy, h2, h3, h4, h5, h6, hnanos.trans hnanos'.symm, hoffset.trans hoffset'.symm⟩

theorem workflowIdText_inj {r r' : CoordinatorActivationRequest} {s s' : CoordinatorTrackerState}
    {t t' : CoordinatorTargetKind} (h : workflowIdText r s t = workflowIdText r' s' t') :
    r.issueRef.repoId = r'.issueRef.repoId ∧ r.issueRef.number = r'.issueRef.number
      ∧ s = s' ∧ t = t' ∧ r.episodeTime = r'.episodeTime ∧ r.sourceKind = r'.sourceKind
      ∧ r.sourceRef = r'.sourceRef := by
  have hshape : ∀ (r : CoordinatorActivationRequest) (s t), workflowIdText r s t
      = "issue:".toList ++ (encodeComponent r.issueRef.repoId.host ++ '/' ::
        (encodeComponent r.issueRef.repoId.owner ++ '/' ::
        (encodeComponent r.issueRef.repoId.repo ++ ':' :: (decimal r.issueRef.number ++
        ':' :: ("pulse:".toList ++ (label s t ++ ':' :: (timeText r.episodeTime ++
        ('Z' :: ':' :: (r.sourceKind.asStr.toList ++ '-' ::
          encodeComponent r.sourceRef))))))))) := by
    intro r s t
    have hpulse : ":pulse:".toList = ':' :: "pulse:".toList := by decide
    unfold workflowIdText label timeText
    rw [hpulse]
    generalize "issue:".toList = issue, "pulse:".toList = pulse, "-to-".toList = dash
    simp only [List.append_assoc, List.cons_append]
  rw [hshape, hshape] at h
  obtain ⟨hhost, h⟩ := terminated_inj (slash_not_mem_encodeComponent _)
    (slash_not_mem_encodeComponent _) (List.append_cancel_left h)
  obtain ⟨howner, h⟩ := terminated_inj (slash_not_mem_encodeComponent _)
    (slash_not_mem_encodeComponent _) h
  obtain ⟨hrepo, h⟩ := terminated_inj (colon_not_mem_encodeComponent _)
    (colon_not_mem_encodeComponent _) h
  obtain ⟨hnumber, h⟩ := terminated_inj (not_mem_decimal (by decide)) (not_mem_decimal (by decide)) h
  obtain ⟨hlabel, h⟩ := terminated_inj (colon_not_mem_label _ _) (colon_not_mem_label _ _)
    (List.append_cancel_left h)
  obtain ⟨htime, h⟩ := timeText_append_inj r.episodeTime_valid r'.episodeTime_valid h
  obtain ⟨hkind, h⟩ := sourceKind_append_inj (List.tail_eq_of_cons_eq (List.tail_eq_of_cons_eq h))
  have hsource := encodeComponent_injective (List.tail_eq_of_cons_eq h)
  obtain ⟨hs, ht⟩ := label_injective hlabel
  refine ⟨?_, decimal_injective hnumber, hs, ht, htime, hkind, hsource⟩
  have hhost := encodeComponent_injective hhost
  have howner := encodeComponent_injective howner
  have hrepo := encodeComponent_injective hrepo
  generalize r.issueRef.repoId = a at hhost howner hrepo ⊢
  generalize r'.issueRef.repoId = b at hhost howner hrepo ⊢
  cases a
  cases b
  simp_all

/-- Two executable activations under one workflow id agree on every identity
field, and the id fits its bound. -/
theorem workflow_id_decodable {request request' : CoordinatorActivationRequest}
    {observed observed' : ObservedTrackerSnapshot}
    {activation activation' : CoordinatorExecutableActivation}
    (h : request.evaluate observed = .ok (.executable activation))
    (h' : request'.evaluate observed' = .ok (.executable activation')) :
    Text.byteLength activation.workflowId ≤ maxWorkflowIdBytes
      ∧ (activation.workflowId = activation'.workflowId →
        request.issueRef.repoId.host = request'.issueRef.repoId.host
          ∧ request.issueRef.repoId.owner = request'.issueRef.repoId.owner
          ∧ request.issueRef.repoId.repo = request'.issueRef.repoId.repo
          ∧ request.issueRef.number = request'.issueRef.number
          ∧ observed.state = observed'.state
          ∧ activation.targetKind = activation'.targetKind
          ∧ request.episodeTime = request'.episodeTime
          ∧ request.sourceKind = request'.sourceKind
          ∧ Text.bytes request.sourceRef = Text.bytes request'.sourceRef) := by
  obtain ⟨-, hid, -⟩ := evaluate_eq_executable h
  obtain ⟨-, hid', -⟩ := evaluate_eq_executable h'
  obtain ⟨htext, hlen⟩ := buildWorkflowId_eq_ok hid
  obtain ⟨htext', -⟩ := buildWorkflowId_eq_ok hid'
  refine ⟨hlen, fun heq => ?_⟩
  rw [htext, htext'] at heq
  obtain ⟨hrepo, hnumber, hstate, htarget, htime, hkind, hsource⟩ :=
    workflowIdText_inj (String.ofList_injective heq)
  rw [hrepo, hsource]
  exact ⟨rfl, rfl, rfl, hnumber, hstate, htarget, htime, hkind, rfl⟩

/-! ## A sample activation -/

def sampleIssueRef : IssueRef where
  trackerBackend := .githubProjectV2
  repoId := { host := "git.io", owner := "shea", repo := "app" }
  number := 5

def sampleRequest : CoordinatorActivationRequest where
  issueRef := sampleIssueRef
  expectedTrackerState := none
  expectedTrackerRevision := none
  episodeTime := Rfc3339.epochSecond 7
  sourceKind := .tracker
  sourceRef := "i:5"
  auditReason := "Activate the observed tracker revision."
  issueRef_valid := by rfl
  episodeTime_valid := by rfl
  expectedTrackerRevision_valid := by rfl
  sourceRef_valid := by decide
  auditReason_valid := by decide

def sampleSnapshot : ObservedTrackerSnapshot where
  state := .todo
  revision := "revision-1"
  revision_valid := by decide

def sampleActivation : CoordinatorExecutableActivation where
  issueRef := sampleIssueRef
  observed := sampleSnapshot
  targetKind := .work
  episodeTime := Rfc3339.epochSecond 7
  sourceKind := .tracker
  sourceRef := "i:5"
  auditReason := "Activate the observed tracker revision."
  workflowId := "issue:git.io/shea/app:5:pulse:todo-to-work:19700101T000007Z:tracker-i%3A5"

theorem evaluate_sample :
    sampleRequest.evaluate sampleSnapshot = .ok (.executable sampleActivation) := by
  have htext : String.ofList (workflowIdText sampleRequest .todo .work)
      = sampleActivation.workflowId := by decide +kernel
  have hlen : ¬ Text.byteLength sampleActivation.workflowId > maxWorkflowIdBytes := by decide +kernel
  have hid : buildWorkflowId sampleRequest .todo .work = .ok sampleActivation.workflowId := by
    rw [buildWorkflowId, htext, if_neg hlen]
  have hexpected : (sampleRequest.expectedTrackerState.any (· ≠ sampleSnapshot.state)
      || sampleRequest.expectedTrackerRevision.any (· ≠ sampleSnapshot.revision)) = false := rfl
  rw [CoordinatorActivationRequest.evaluate, hexpected]
  change (buildWorkflowId sampleRequest .todo .work >>= _) = _
  rw [hid]
  rfl

theorem workflow_id_decodable_sample :
    Text.byteLength sampleActivation.workflowId ≤ maxWorkflowIdBytes :=
  (workflow_id_decodable evaluate_sample evaluate_sample).1

end SheaSymphony.Coordinator

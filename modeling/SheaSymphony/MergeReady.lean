import SheaSymphony.MergeLane

/-!
# What the merge preflight vouches for

Read off the payload, a pull request is safe to merge when it is open, no draft,
on the expected base, with every check finished successfully, mergeable and not
blocked by review. The preflight asks less: a draft flag, a base branch, a check
status or a check conclusion that is missing counts as good, and the `state` of a
status context is not read at all. `GapFree` payloads are those without such a
field, and on these a pull request that is ready to merge is safe to merge.
-/

namespace SheaSymphony.MergeLane

open Json Model

/-! ## Safe payloads -/

def checkEntries (payload : Json) : List Json :=
  ((payload.get "statusCheckRollup").bind Json.asArray).getD []

/-- A status context is in state `SUCCESS`; a check run is completed, with one of
the successful conclusions. -/
def CheckFinished (entry : Json) : Prop :=
  match optionalString (entry.get "state") with
  | some state => Text.toAsciiUppercase state = "SUCCESS"
  | none =>
      (∃ status, optionalString (entry.get "status") = some status
        ∧ Text.toAsciiUppercase status = "COMPLETED")
      ∧ ∃ conclusion, optionalString (entry.get "conclusion") = some conclusion
        ∧ Text.toAsciiUppercase conclusion ∈ successfulConclusions

/-- The payload says that the pull request is open. -/
def PayloadOpen (case : Text.UnicodeCase) (payload : Json) : Prop :=
  ∃ state, optionalString (payload.get "state") = some state ∧ normalizeState case state = "open"

def PayloadMergeable (payload : Json) : Prop :=
  optionalString (payload.get "mergeStateStatus") = some "CLEAN"
    ∨ optionalString (payload.get "mergeStateStatus") = some "HAS_HOOKS"

structure MergeSafe (case : Text.UnicodeCase) (expectedBaseBranch : String) (payload : Json) :
    Prop where
  isOpen : PayloadOpen case payload
  notDraft : (payload.get "isDraft").bind Json.asBool = some false
  base : optionalString (payload.get "baseRefName") = some expectedBaseBranch
  checks : ∀ entry ∈ checkEntries payload, CheckFinished entry
  mergeable : PayloadMergeable payload
  review : blockingReviewDecision (optionalString (payload.get "reviewDecision")) = none

/-! ## What the preflight checks -/

/-- Neither status nor conclusion, where they are given, speaks against the
check. -/
def CheckUncontradicted (entry : Json) : Prop :=
  (∀ status, optionalString (entry.get "status") = some status →
      status = "" ∨ Text.toAsciiUppercase status = "COMPLETED")
    ∧ ∀ conclusion, optionalString (entry.get "conclusion") = some conclusion →
      conclusion = "" ∨ Text.toAsciiUppercase conclusion ∈ successfulConclusions

/-- Nothing the merge lane reads in the payload stops the merge. -/
structure Uncontradicted (case : Text.UnicodeCase) (expectedBaseBranch : String)
    (payload : Json) : Prop where
  isOpen : PayloadOpen case payload
  draft : (payload.get "isDraft").bind Json.asBool ≠ some true
  base : ∀ base, optionalString (payload.get "baseRefName") = some base →
    base = expectedBaseBranch
  checks : ∀ entry ∈ checkEntries payload, CheckUncontradicted entry
  mergeable : PayloadMergeable payload
  review : blockingReviewDecision (optionalString (payload.get "reviewDecision")) = none

/-- The issue is in the merging state and has one pull request. -/
def InMergeLane (case : Text.UnicodeCase) (expectedMergingState : String) (issue : TrackerIssue)
    (linkedPullRequests : List LinkedPullRequest) : Prop :=
  normalizeState case issue.state = normalizeState case expectedMergingState
    ∧ linkedPullRequests.length = 1

/-! ## Gaps -/

/-- A status context has succeeded; a check run names its status and its
conclusion. -/
def CheckGapFree (entry : Json) : Prop :=
  match optionalString (entry.get "state") with
  | some state => Text.toAsciiUppercase state = "SUCCESS"
  | none =>
      (∃ status, optionalString (entry.get "status") = some status ∧ status ≠ "")
      ∧ ∃ conclusion, optionalString (entry.get "conclusion") = some conclusion ∧ conclusion ≠ ""

structure GapFree (payload : Json) : Prop where
  draft : ∃ isDraft, (payload.get "isDraft").bind Json.asBool = some isDraft
  base : ∃ base, optionalString (payload.get "baseRefName") = some base
  checks : ∀ entry ∈ checkEntries payload, CheckGapFree entry

theorem checkFinished_iff {entry : Json} (h : CheckUncontradicted entry) :
    CheckFinished entry ↔ CheckGapFree entry := by
  have hempty : Text.toAsciiUppercase "" = "" := Text.toAsciiUppercase_eq_empty.mpr rfl
  rw [CheckFinished, CheckGapFree]
  cases optionalString (entry.get "state") with
  | some state => exact Iff.rfl
  | none =>
      constructor
      · rintro ⟨⟨status, hstatus, hcompleted⟩, conclusion, hconclusion, hsuccessful⟩
        refine ⟨⟨status, hstatus, ?_⟩, conclusion, hconclusion, ?_⟩
        · rintro rfl
          rw [hempty] at hcompleted
          exact absurd hcompleted (by decide)
        · rintro rfl
          rw [hempty] at hsuccessful
          simp [successfulConclusions] at hsuccessful
      · rintro ⟨⟨status, hstatus, hsome⟩, conclusion, hconclusion, hnamed⟩
        exact ⟨⟨status, hstatus, (h.1 status hstatus).resolve_left hsome⟩,
          conclusion, hconclusion, (h.2 conclusion hconclusion).resolve_left hnamed⟩

variable {case : Text.UnicodeCase} {status : PullRequestMergeStatus}

theorem mergeSafe_iff {expectedBaseBranch : String} {payload : Json}
    (h : Uncontradicted case expectedBaseBranch payload) :
    MergeSafe case expectedBaseBranch payload ↔ GapFree payload := by
  constructor
  · intro hsafe
    exact {
      draft := ⟨false, hsafe.notDraft⟩
      base := ⟨expectedBaseBranch, hsafe.base⟩
      checks := fun entry hentry =>
        (checkFinished_iff (h.checks entry hentry)).mp (hsafe.checks entry hentry) }
  · rintro ⟨⟨isDraft, hdraft⟩, ⟨base, hbase⟩, hchecks⟩
    refine {
      isOpen := h.isOpen
      notDraft := ?_
      base := ?_
      checks := fun entry hentry =>
        (checkFinished_iff (h.checks entry hentry)).mpr (hchecks entry hentry)
      mergeable := h.mergeable
      review := h.review }
    · cases isDraft with
      | true => exact absurd hdraft h.draft
      | false => exact hdraft
    · rw [hbase, h.base base hbase]

/-! ## The decision, read backwards -/

/-- A status that passes every check of the preflight. -/
structure StatusReady (case : Text.UnicodeCase) (expectedBaseBranch : String)
    (status : PullRequestMergeStatus) : Prop where
  isOpen : normalizeState case status.state = "open"
  draft : status.isDraft = false
  base : ∀ base, status.baseRefName = some base → base = expectedBaseBranch
  checks : ∀ check ∈ status.checks, check.isPending = false
  mergeable : status.mergeStateStatus = some "CLEAN" ∨ status.mergeStateStatus = some "HAS_HOOKS"
  review : blockingReviewDecision status.reviewDecision = none

theorem isPending_eq_false {check : PullRequestCheckStatus} :
    check.isPending = false
      ↔ (∀ status, check.status = some status →
          status = "" ∨ Text.toAsciiUppercase status = "COMPLETED")
        ∧ ∀ conclusion, check.conclusion = some conclusion →
          conclusion = "" ∨ Text.toAsciiUppercase conclusion ∈ successfulConclusions := by
  rw [PullRequestCheckStatus.isPending, Bool.or_eq_false_iff, Bool.not_eq_false',
    Bool.not_eq_false']
  refine and_congr ?_ ?_
  · cases check.status <;> simp
  · cases check.conclusion <;> simp

theorem isPending_of_isFailing {check : PullRequestCheckStatus} (h : check.isFailing = true) :
    check.isPending = true := by
  have hdisjoint : ∀ conclusion ∈ failingConclusions, conclusion ∉ "" :: successfulConclusions := by
    decide
  rw [PullRequestCheckStatus.isFailing, Option.any_eq_true] at h
  obtain ⟨conclusion, hconclusion, hfailing⟩ := h
  rw [List.contains_iff_mem] at hfailing
  by_contra hpending
  rw [Bool.not_eq_true, isPending_eq_false] at hpending
  have hpassed := hdisjoint _ hfailing
  rcases hpending.2 conclusion hconclusion with rfl | hsuccessful
  · exact hpassed (by simp)
  · exact hpassed (List.mem_cons_of_mem _ hsuccessful)

theorem firstPendingCheck_eq_none {checks : List PullRequestCheckStatus} :
    firstPendingCheck checks = none ↔ ∀ check ∈ checks, check.isPending = false := by
  simp [firstPendingCheck]

theorem firstFailingCheck_eq_none {checks : List PullRequestCheckStatus}
    (h : ∀ check ∈ checks, check.isPending = false) : firstFailingCheck checks = none := by
  rw [firstFailingCheck, Option.map_eq_none_iff, List.find?_eq_none]
  intro check hcheck hfailing
  have hpending := h check hcheck
  rw [isPending_of_isFailing hfailing] at hpending
  cases hpending

theorem blockingMergeState_eq_none {mergeState : Option String} :
    blockingMergeState mergeState = none
      ↔ mergeState = some "CLEAN" ∨ mergeState = some "HAS_HOOKS" := by
  constructor
  · intro h
    unfold blockingMergeState at h
    split at h <;> simp_all
  · rintro (rfl | rfl) <;> rfl

theorem blockingMergeState_kind {mergeState : Option String} {kind : MergeLaneDecisionKind}
    {targetState : Option String} {reason : String}
    (h : blockingMergeState mergeState = some (kind, targetState, reason)) :
    kind ≠ .readyToMerge := by
  unfold blockingMergeState at h
  split at h <;> cases h <;> decide

theorem StatusReady.decision {issueRef expectedBaseBranch : String}
    (h : StatusReady case expectedBaseBranch status) :
    (statusDecision case issueRef expectedBaseBranch status).kind = .readyToMerge := by
  have hmerged : ¬ ("open" : String) = "merged" := by decide
  have hbase : (status.baseRefName.any fun base => base != expectedBaseBranch) = false := by
    rw [Option.any_eq_false]
    intro base hbase
    simpa using h.base base hbase
  simp only [statusDecision, h.isOpen, if_neg hmerged, ne_eq, not_true_eq_false, if_false, h.draft,
    hbase, Bool.false_eq_true, firstFailingCheck_eq_none h.checks,
    firstPendingCheck_eq_none.mpr h.checks, blockingMergeState_eq_none.mpr h.mergeable, h.review]

theorem statusReady_of_decision {issueRef expectedBaseBranch : String}
    (h : (statusDecision case issueRef expectedBaseBranch status).kind = .readyToMerge) :
    StatusReady case expectedBaseBranch status := by
  simp only [statusDecision] at h
  split at h
  · cases h
  split at h
  · cases h
  rename_i hopen
  split at h
  · cases h
  rename_i hdraft
  split at h
  · cases h
  rename_i hbase
  split at h
  · cases h
  split at h
  · cases h
  rename_i hpending
  split at h
  · rename_i kind targetState reason hblocking
    exact absurd h (blockingMergeState_kind hblocking)
  rename_i hmergeable
  split at h
  · cases h
  rename_i hreview
  rw [Bool.not_eq_true, Option.any_eq_false] at hbase
  exact {
    isOpen := not_not.mp hopen
    draft := Bool.not_eq_true _ ▸ hdraft
    base := fun base hsome => by simpa using hbase base hsome
    checks := firstPendingCheck_eq_none.mp hpending
    mergeable := blockingMergeState_eq_none.mp hmergeable
    review := hreview }

theorem mergeLaneDecision_ready_iff {issue : TrackerIssue}
    {expectedMergingState expectedBaseBranch : String}
    {linkedPullRequests : List LinkedPullRequest} :
    (mergeLaneDecision case issue expectedMergingState expectedBaseBranch linkedPullRequests
        (some status)).kind = .readyToMerge
      ↔ InMergeLane case expectedMergingState issue linkedPullRequests
        ∧ StatusReady case expectedBaseBranch status := by
  unfold mergeLaneDecision InMergeLane
  by_cases hstate : normalizeState case issue.state = normalizeState case expectedMergingState
  · rw [if_neg (not_not.mpr hstate)]
    match linkedPullRequests with
    | [] => simp
    | _ :: _ :: _ => simp
    | [linked] =>
        simp only [List.length_singleton, hstate, true_and]
        exact ⟨statusReady_of_decision, StatusReady.decision⟩
  · rw [if_pos hstate]
    simp [hstate]

/-! ## From the status to the payload -/

theorem checksFromJson_eq (payload : Json) :
    checksFromJson (payload.get "statusCheckRollup")
      = (checkEntries payload).map checkFromJson := by
  rw [checksFromJson, checkEntries]
  cases (payload.get "statusCheckRollup").bind Json.asArray <;> rfl

theorem payloadOpen_iff {payload : Json} :
    normalizeState case (((payload.get "state").bind Json.asStr).getD "UNKNOWN") = "open"
      ↔ PayloadOpen case payload := by
  have hunknown : normalizeState case "UNKNOWN" ≠ "open" := by
    rw [normalizeState, case.toLowercase_ascii _ (by decide)]
    decide
  rw [PayloadOpen, optionalString]
  cases (payload.get "state").bind Json.asStr <;> simp [hunknown]

theorem statusReady_iff {expectedBaseBranch : String} {payload : Json}
    (h : pullRequestStatusFromJson payload = .ok status) :
    StatusReady case expectedBaseBranch status
      ↔ Uncontradicted case expectedBaseBranch payload := by
  obtain ⟨url, -, hstatus⟩ := Fallible.bind_eq_ok h
  obtain rfl := Except.ok.inj hstatus
  have hdraft : ((payload.get "isDraft").bind Json.asBool).getD false = false
      ↔ (payload.get "isDraft").bind Json.asBool ≠ some true := by
    rcases (payload.get "isDraft").bind Json.asBool with _ | _ | _ <;> simp
  have hchecks : (∀ check ∈ checksFromJson (payload.get "statusCheckRollup"),
        check.isPending = false)
      ↔ ∀ entry ∈ checkEntries payload, CheckUncontradicted entry := by
    rw [checksFromJson_eq, List.forall_mem_map]
    exact forall₂_congr fun entry _ => isPending_eq_false
  constructor
  · intro hready
    exact {
      isOpen := payloadOpen_iff.mp hready.isOpen
      draft := hdraft.mp hready.draft
      base := hready.base
      checks := hchecks.mp hready.checks
      mergeable := hready.mergeable
      review := hready.review }
  · intro hpayload
    exact {
      isOpen := payloadOpen_iff.mpr hpayload.isOpen
      draft := hdraft.mpr hpayload.draft
      base := hpayload.base
      checks := hchecks.mpr hpayload.checks
      mergeable := hpayload.mergeable
      review := hpayload.review }

/-! ## Ready and safe -/

/-- A decision to merge is sound exactly when the payload has no gap or something
else stops the merge: the issue, its linked pull requests, or a field that the
lane reads. -/
theorem ready_to_merge_safe_iff {payload : Json} {status : PullRequestMergeStatus}
    (h : pullRequestStatusFromJson payload = .ok status) (case : Text.UnicodeCase)
    (issue : TrackerIssue) (expectedMergingState expectedBaseBranch : String)
    (linkedPullRequests : List LinkedPullRequest) :
    ((mergeLaneDecision case issue expectedMergingState expectedBaseBranch linkedPullRequests
          (some status)).kind = .readyToMerge
        → MergeSafe case expectedBaseBranch payload)
      ↔ (InMergeLane case expectedMergingState issue linkedPullRequests
        → Uncontradicted case expectedBaseBranch payload → GapFree payload) := by
  rw [mergeLaneDecision_ready_iff, statusReady_iff h, and_imp]
  exact forall_congr' fun _ => forall_congr' mergeSafe_iff

/-! ## Sample payloads -/

/-- An open, approved and clean pull request with one check entry. -/
def samplePayload (entry : List (String × Json)) : Json :=
  .obj [("number", .int 60), ("url", .str "pull/60"), ("state", .str "OPEN"),
    ("isDraft", .bool false), ("mergeStateStatus", .str "CLEAN"),
    ("reviewDecision", .str "APPROVED"), ("baseRefName", .str "main"),
    ("headRefName", .str "feature/issue-60"), ("statusCheckRollup", .arr [.obj entry])]

def sampleStatus (check : PullRequestCheckStatus) : PullRequestMergeStatus where
  number := some 60
  url := "pull/60"
  state := "OPEN"
  isDraft := false
  mergeStateStatus := some "CLEAN"
  reviewDecision := some "APPROVED"
  baseRefName := some "main"
  headRefName := some "feature/issue-60"
  checks := [check]

def sampleIssue : TrackerIssue where
  id := "I_60"
  identifier := "#60"
  title := "Merge when ready"
  description := none
  state := "Merging"
  priority := none
  blockedBy := []
  projectFields _ := none
  createdAt := none

def sampleLinked : List LinkedPullRequest := [{ url := some "pull/60" }]

/-- The check run of a green pull request. -/
def sampleCheckRun : List (String × Json) :=
  [("name", .str "cargo test"), ("status", .str "COMPLETED"), ("conclusion", .str "SUCCESS")]

/-- A status context that reports a failure. -/
def sampleStatusContext : List (String × Json) :=
  [("context", .str "ci/build"), ("state", .str "FAILURE")]

theorem ready_to_merge_safe_iff_sample :
    MergeSafe .ascii "main" (samplePayload sampleCheckRun) := by
  have hstatus : pullRequestStatusFromJson (samplePayload sampleCheckRun)
      = .ok (sampleStatus ⟨"cargo test", some "COMPLETED", some "SUCCESS"⟩) := by rfl
  refine (ready_to_merge_safe_iff hstatus .ascii sampleIssue "Merging" "main"
    sampleLinked).mpr ?_ ?_
  · intro _ _
    refine ⟨⟨false, rfl⟩, ⟨"main", rfl⟩, fun entry hentry => ?_⟩
    obtain rfl : entry = .obj sampleCheckRun := List.mem_singleton.mp hentry
    exact ⟨⟨"COMPLETED", rfl, by decide⟩, "SUCCESS", rfl, by decide⟩
  · decide

/-- A failed status context does not keep a pull request from being merged. -/
theorem failed_status_context_ready :
    ¬ ∀ (case : Text.UnicodeCase) (payload : Json) (status : PullRequestMergeStatus)
        (issue : TrackerIssue) (expectedMergingState expectedBaseBranch : String)
        (linkedPullRequests : List LinkedPullRequest),
      pullRequestStatusFromJson payload = .ok status →
      (mergeLaneDecision case issue expectedMergingState expectedBaseBranch linkedPullRequests
        (some status)).kind = .readyToMerge →
      MergeSafe case expectedBaseBranch payload := by
  intro h
  have hsafe := h .ascii (samplePayload sampleStatusContext) (sampleStatus ⟨"ci/build", none, none⟩)
    sampleIssue "Merging" "main" sampleLinked rfl (by decide)
  have hfinished := hsafe.checks (.obj sampleStatusContext) List.mem_cons_self
  have hfailed : Text.toAsciiUppercase "FAILURE" ≠ "SUCCESS" := by decide
  exact hfailed hfinished

end SheaSymphony.MergeLane

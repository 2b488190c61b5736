import SheaSymphony.Model

/-!
# The merge lane

The preflight of `merge_lane.rs`: what it decodes from the status payload of a
pull request, and the decision it takes from the issue, the linked pull requests
and that status. Every decision carries the state the issue is moved to, if any,
and the reason shown to the operator.
-/

namespace SheaSymphony.MergeLane

open Json Model

structure LinkedPullRequest where
  url : Option String

structure PullRequestCheckStatus where
  name : String
  status : Option String
  conclusion : Option String
deriving DecidableEq

structure PullRequestMergeStatus where
  number : Option Nat
  url : String
  state : String
  isDraft : Bool
  mergeStateStatus : Option String
  reviewDecision : Option String
  baseRefName : Option String
  headRefName : Option String
  checks : List PullRequestCheckStatus
deriving DecidableEq

inductive MergeLaneDecisionKind where
  | readyToMerge
  | alreadyMerged
  | wrongIssueState
  | missingPullRequest
  | ambiguousPullRequest
  | pullRequestClosed
  | draftPullRequest
  | baseMismatch
  | reviewNotApproved
  | checksPending
  | checksFailing
  | staleBranch
  | mergeDirty
  | mergeabilityUnknown
deriving DecidableEq

structure MergeLaneDecision where
  kind : MergeLaneDecisionKind
  issueRef : String
  prUrl : Option String
  targetState : Option String
  reason : String
deriving DecidableEq

inductive MergeLaneError where
  | payload (message : String)
deriving DecidableEq

/-! ## The payload -/

def optionalString (value : Option Json) : Option String := value.bind Json.asStr

def checkFromJson (item : Json) : PullRequestCheckStatus where
  name := ((item.get "name" <|> item.get "context").bind Json.asStr).getD "unnamed"
  status := optionalString (item.get "status")
  conclusion := optionalString (item.get "conclusion")

def checksFromJson (value : Option Json) : List PullRequestCheckStatus :=
  ((value.bind Json.asArray).map fun items => items.map checkFromJson).getD []

def pullRequestStatusFromJson (value : Json) : Except MergeLaneError PullRequestMergeStatus := do
  let url ← Fallible.okOr ((value.get "url").bind Json.asStr) (.payload "PR payload missing url")
  return {
    number := (value.get "number").bind Json.asU64
    url := url
    state := ((value.get "state").bind Json.asStr).getD "UNKNOWN"
    isDraft := ((value.get "isDraft").bind Json.asBool).getD false
    mergeStateStatus := optionalString (value.get "mergeStateStatus")
    reviewDecision := optionalString (value.get "reviewDecision")
    baseRefName := optionalString (value.get "baseRefName")
    headRefName := optionalString (value.get "headRefName")
    checks := checksFromJson (value.get "statusCheckRollup") }

/-! ## Checks and review -/

def failingConclusions : List String := ["FAILURE", "TIMED_OUT", "ACTION_REQUIRED", "CANCELLED"]

def successfulConclusions : List String := ["SUCCESS", "NEUTRAL", "SKIPPED"]

def PullRequestCheckStatus.isFailing (check : PullRequestCheckStatus) : Bool :=
  check.conclusion.any fun conclusion =>
    failingConclusions.contains (Text.toAsciiUppercase conclusion)

/-- A missing status counts as completed, a missing conclusion as passed. -/
def PullRequestCheckStatus.isPending (check : PullRequestCheckStatus) : Bool :=
  let status := Text.toAsciiUppercase (check.status.getD "")
  let conclusion := Text.toAsciiUppercase (check.conclusion.getD "")
  let completed := status == "" || status == "COMPLETED"
  let passed := ("" :: successfulConclusions).contains conclusion
  !completed || !passed

def firstFailingCheck (checks : List PullRequestCheckStatus) : Option String :=
  (checks.find? PullRequestCheckStatus.isFailing).map PullRequestCheckStatus.name

def firstPendingCheck (checks : List PullRequestCheckStatus) : Option String :=
  (checks.find? PullRequestCheckStatus.isPending).map PullRequestCheckStatus.name

/-- The state a blocking review moves the issue to, and the reason. -/
def blockingReviewDecision (reviewDecision : Option String) : Option (String × String) :=
  let decision := Text.trim (reviewDecision.getD "")
  if decision == "" || Text.eqIgnoreAsciiCase decision "APPROVED" then none
  else
    let targetState :=
      if Text.eqIgnoreAsciiCase decision "CHANGES_REQUESTED" then "rework" else "need_human_input"
    some (targetState, s!"pull request review decision is `{decision}`")

/-! ## The decision -/

/-- What keeps a merge state from being merged; nothing when it is clean. -/
def blockingMergeState :
    Option String → Option (MergeLaneDecisionKind × Option String × String)
  | some "BEHIND" => some (.staleBranch, none,
      "pull request is behind the base branch; merge lane should safely update the PR branch "
        ++ "and retry later")
  | some "DIRTY" => some (.mergeDirty, none,
      "pull request merge state is `DIRTY`; merge lane should attempt safe local conflict repair "
        ++ "before operator escalation")
  | some "CLEAN" => none
  | some "HAS_HOOKS" => none
  | some "UNKNOWN" => some (.mergeabilityUnknown, none,
      "pull request merge state is `UNKNOWN` after recheck; retry merge preflight later")
  | some other => some (.mergeabilityUnknown, some "need_human_input",
      s!"pull request merge state is `{other}` and needs operator classification")
  | none => some (.mergeabilityUnknown, none,
      "pull request merge state is missing after recheck; retry merge preflight later")

/-- The decision on a pull request whose status is known. -/
def statusDecision (case : Text.UnicodeCase) (issueRef expectedBaseBranch : String)
    (status : PullRequestMergeStatus) : MergeLaneDecision :=
  let decision (kind : MergeLaneDecisionKind) (targetState : Option String) (reason : String) :
      MergeLaneDecision := ⟨kind, issueRef, some status.url, targetState, reason⟩
  let state := status.state
  let base := status.baseRefName.getD ""
  if normalizeState case state = "merged" then
    decision .alreadyMerged (some "done") "pull request is already merged"
  else if normalizeState case state ≠ "open" then
    decision .pullRequestClosed (some "need_human_input") s!"pull request state is `{state}`"
  else if status.isDraft then
    decision .draftPullRequest (some "need_human_input") "pull request is still draft"
  else if status.baseRefName.any fun base => base != expectedBaseBranch then
    decision .baseMismatch (some "need_human_input")
      s!"pull request base is `{base}`, expected `{expectedBaseBranch}`"
  else match firstFailingCheck status.checks with
  | some failing => decision .checksFailing (some "need_human_input")
      s!"check `{failing}` is failing; merge lane needs operator classification before repair"
  | none => match firstPendingCheck status.checks with
  | some pending => decision .checksPending none
      s!"check `{pending}` is still pending; retry merge preflight later"
  | none => match blockingMergeState status.mergeStateStatus with
  | some (kind, targetState, reason) => decision kind targetState reason
  | none => match blockingReviewDecision status.reviewDecision with
  | some (targetState, reason) => decision .reviewNotApproved (some targetState) reason
  | none => decision .readyToMerge (some "done")
      "pull request passed merge preflight with Project Merging approval"

def mergeLaneDecision (case : Text.UnicodeCase) (issue : TrackerIssue)
    (expectedMergingState expectedBaseBranch : String) (linkedPullRequests : List LinkedPullRequest)
    (status : Option PullRequestMergeStatus) : MergeLaneDecision :=
  let state := issue.state
  if normalizeState case state ≠ normalizeState case expectedMergingState then
    { kind := .wrongIssueState
      issueRef := issue.identifier
      prUrl := none
      targetState := none
      reason := s!"issue is in `{state}`, but merge lane only handles `{expectedMergingState}`" }
  else match linkedPullRequests with
  | [] =>
    { kind := .missingPullRequest
      issueRef := issue.identifier
      prUrl := none
      targetState := some "need_human_input"
      reason := "no linked pull request evidence was found" }
  | _ :: _ :: _ =>
    { kind := .ambiguousPullRequest
      issueRef := issue.identifier
      prUrl := none
      targetState := some "need_human_input"
      reason := "multiple linked pull requests were found; operator must choose one" }
  | [linked] =>
    match status with
    | none =>
      { kind := .mergeabilityUnknown
        issueRef := issue.identifier
        prUrl := linked.url
        targetState := some "need_human_input"
        reason := "live pull request preflight did not produce mergeability evidence" }
    | some status => statusDecision case issue.identifier expectedBaseBranch status

end SheaSymphony.MergeLane

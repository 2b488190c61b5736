import SheaSymphony.Model
import SheaSymphony.ReviewReport

/-!
# The review gate

`review/decision.rs`: what a review job decides about its issue. The health
diagnosis of failed backends (`review/gemini_health.rs`) is a parameter, of
which the gate reads the category, the recovery policy and whether recovery is
possible.
-/

namespace SheaSymphony.Review

open Model

inductive ReviewJobState where
  | queued
  | running
  | completed
  | failed
  | timedOut
  | cancelled
deriving DecidableEq

structure ReviewJob where
  backend : String
  state : ReviewJobState
  report : Option AgentReviewReport
  error : Option String

structure GeminiReviewHealthDiagnostic where
  category : String
  recoveryPolicy : String
  reasonCode : String
  operatorStatus : String
  isRecoverable : Bool
deriving DecidableEq

inductive ReviewOutcome where
  | passedToHumanReview
  | passedToMerging
  | needsRework
  | inconclusiveNeedsRework
  | needsHumanInput
  | backendUnavailable
  | stillRunning
  | cancelled
deriving DecidableEq

def ReviewOutcome.isPassed : ReviewOutcome → Bool
  | passedToHumanReview | passedToMerging => true
  | _ => false

structure ReviewGateDecision where
  outcome : ReviewOutcome
  targetState : Option String
  message : String
deriving DecidableEq

inductive ReviewActor where
  | mainImplementationAgent
  | independentReviewAgent
deriving DecidableEq

def mainAgentCompletionDecision : ReviewGateDecision where
  outcome := .stillRunning
  targetState := some "agent_review"
  message :=
    "Main implementation agent completed local work; independent Agent Review is required."

section

variable (health : ReviewJob → Option GeminiReviewHealthDiagnostic)

def mustNotMoveAction : String :=
  "- This issue must not move to `Human Review` until an independent Review Agent records passing review evidence."

def reviewRequiredOperatorActions (job : ReviewJob) : Option (List String) :=
  let error := job.error.getD ""
  match health job with
  | some diagnostic =>
      if diagnostic.isRecoverable then none
      else
        some
          ["- Review backend health: `" ++ diagnostic.category ++ "`.",
            "- Reason: `" ++ diagnostic.reasonCode ++ "`.",
            "- Status: " ++ diagnostic.operatorStatus,
            mustNotMoveAction,
            "- Human intervention is required before automatic review can continue."]
  | none =>
      if job.state = .timedOut then
        some
          ["- Review backend timed out before producing evidence.",
            "- Check review backend auth/configuration and increase `review.timeout_ms` only if the backend is healthy but slow.",
            "- Retry: rerun `review loop` for this issue after fixing the backend."]
      else if job.state ≠ .failed then none
      else if Text.contains error "review backend startup failed"
          || Text.contains error "not found in worker PATH"
          || Text.contains error "permission denied" then
        some
          ["- Fix the Review Agent backend command or worker PATH shown in the error above.",
            "- Prefer an absolute backend command (`review_lane.agy_command`, `review_lane.gemini_command`, or `review_lane.codex_command`), or export a worker PATH that resolves it.",
            mustNotMoveAction,
            "- Retry: rerun `review loop` for this issue after updating the workflow or environment."]
      else if Text.contains error "exited with status" then
        some
          ["- The Review Agent backend started but exited unsuccessfully.",
            "- Inspect stderr/auth/configuration from the error above; do not move to Human Review until a review pass is recorded.",
            mustNotMoveAction,
            "- Retry: rerun `review loop` for this issue after fixing the backend."]
      else none

/-- The decision about a job that completed. -/
def completedReviewDecision (case : Text.UnicodeCase) :
    Option AgentReviewReport → ReviewGateDecision
  | some report =>
      if report.legacyBackendMissingReviewResult then
        { outcome := .backendUnavailable
          targetState := some "agent_review"
          message := "Review backend is unavailable: "
            ++ report.legacyBackendAccessFailureReason.getD
              "legacy review backend did not start with a required Review Result line"
            ++ "; issue remains in Agent Review because no terminal review verdict was produced." }
      else if report.blocksProgress then
        { outcome := .needsRework
          targetState := some "rework"
          message := "Confirmed Agent Review findings require Rework." }
      else if report.isInconclusive case then
        { outcome := .needsHumanInput
          targetState := some "need_human_input"
          message :=
            "Agent Review lacks required context; no implementation Rework is established: "
              ++ (report.inconclusiveReason case).getD
                "review could not complete with durable evidence"
              ++ "." }
      else
        { outcome := .passedToHumanReview
          targetState := some "human_review"
          message := "Independent Agent Review passed with recorded evidence; issue is ready for Human Review." }
  | none =>
      { outcome := .needsHumanInput
        targetState := some "need_human_input"
        message := "Agent review completed without a report." }

/-- The decision about a job that failed or timed out. -/
def failedReviewDecision (job : ReviewJob) : ReviewGateDecision :=
  match health job with
  | some diagnostic =>
      if diagnostic.isRecoverable then
        { outcome := .backendUnavailable
          targetState := some "agent_review"
          message := "Review backend is " ++ diagnostic.category
            ++ "; issue remains in Agent Review for " ++ diagnostic.recoveryPolicy ++ "." }
      else
        { outcome := .needsHumanInput
          targetState := some "need_human_input"
          message := "Review backend is blocked by " ++ diagnostic.category
            ++ "; human input is required." }
  | none =>
      if (reviewRequiredOperatorActions health job).isSome then
        { outcome := .backendUnavailable
          targetState := some "agent_review"
          message := "Agent Review backend is blocked by required operator action; issue remains in Agent Review." }
      else
        { outcome := .needsHumanInput
          targetState := some "need_human_input"
          message := "Agent review failed or timed out; human input is required." }

def reviewGateDecisionForActor (case : Text.UnicodeCase) (job : ReviewJob) (actor : ReviewActor) :
    ReviewGateDecision :=
  if actor = .mainImplementationAgent then mainAgentCompletionDecision
  else
    match job.state with
    | .queued | .running =>
        { outcome := .stillRunning
          targetState := some "agent_review"
          message := "Agent review is still running; issue remains in Agent Review." }
    | .completed => completedReviewDecision case job.report
    | .failed | .timedOut => failedReviewDecision health job
    | .cancelled =>
        { outcome := .cancelled
          targetState := some "agent_review"
          message := "Agent review was cancelled; issue remains in Agent Review." }

def reviewGateDecision (case : Text.UnicodeCase) (job : ReviewJob) : ReviewGateDecision :=
  reviewGateDecisionForActor health case job .independentReviewAgent

def reviewPassTargetState (case : Text.UnicodeCase) (issue : TrackerIssue) : String :=
  if isNativeSubissue issue && !nativeSubissueHumanReviewException case issue then "merging"
  else "human_review"

def reviewGateDecisionForIssue (case : Text.UnicodeCase) (job : ReviewJob) (issue : TrackerIssue) :
    ReviewGateDecision :=
  let decision := reviewGateDecision health case job
  if decision.outcome = .passedToHumanReview ∧ reviewPassTargetState case issue = "merging" then
    { outcome := .passedToMerging
      targetState := some "merging"
      message := "Independent Agent Review passed with recorded evidence; native subissue routes directly to Merging because the parent issue owns final Human Review and UAT." }
  else decision

end

/-- The outcome a pass is routed to. -/
def passOutcome (case : Text.UnicodeCase) (issue : TrackerIssue) : ReviewOutcome :=
  if isNativeSubissue issue && !nativeSubissueHumanReviewException case issue then .passedToMerging
  else .passedToHumanReview

theorem isPassed_passOutcome (case : Text.UnicodeCase) (issue : TrackerIssue) :
    (passOutcome case issue).isPassed = true := by
  unfold passOutcome
  split <;> rfl

theorem outcome_of_completed {health : ReviewJob → Option GeminiReviewHealthDiagnostic}
    {case : Text.UnicodeCase} {job : ReviewJob} {issue : TrackerIssue}
    {report : AgentReviewReport} (state : job.state = .completed)
    (hreport : job.report = some report)
    (legacy : report.legacyBackendMissingReviewResult = false) :
    (reviewGateDecisionForIssue health case job issue).outcome =
      if report.blocksProgress then .needsRework
      else if report.isInconclusive case then .needsHumanInput
      else passOutcome case issue := by
  have hdecision : reviewGateDecision health case job
      = completedReviewDecision case (some report) := by
    simp [reviewGateDecision, reviewGateDecisionForActor, state, hreport]
  unfold reviewGateDecisionForIssue
  rw [hdecision]
  cases hblocks : report.blocksProgress with
  | true => simp [completedReviewDecision, legacy, hblocks]
  | false =>
      cases hinconclusive : report.isInconclusive case with
      | true => simp [completedReviewDecision, legacy, hblocks, hinconclusive]
      | false =>
          simp only [completedReviewDecision, legacy, hblocks, hinconclusive, Bool.false_eq_true,
            if_false, true_and, reviewPassTargetState, passOutcome]
          split <;> rfl

end SheaSymphony.Review

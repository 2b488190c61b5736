import SheaSymphony.ReviewPublication
import SheaSymphony.Truncation

/-!
# Diagnostics of a rework

`rework.rs` hands the logs of a review to the next worker on the workpad, each cut at a byte. The
render returns for those reviews whose logs have a character that begins there
(`diagnostic_returns_iff`). The template engine and the clock are parameters.
-/

namespace SheaSymphony.Review

open Text (CutsAt Truncated)

inductive ReworkDiagnosticKind where
  | reviewFinding | inconclusiveReview | mergeConflict | dirtyPullRequest | validationFailure
  | runtimeFailure | other
deriving DecidableEq

def ReworkDiagnosticKind.debug : ReworkDiagnosticKind → String
  | .reviewFinding => "ReviewFinding"
  | .inconclusiveReview => "InconclusiveReview"
  | .mergeConflict => "MergeConflict"
  | .dirtyPullRequest => "DirtyPullRequest"
  | .validationFailure => "ValidationFailure"
  | .runtimeFailure => "RuntimeFailure"
  | .other => "Other"

structure ReworkFinding where
  findingClass : String
  title : String
  body : String
deriving DecidableEq

structure ReworkDiagnostic where
  issueRef : String
  source : String
  kind : ReworkDiagnosticKind
  summary : String
  nextAction : String
  command : Option String
  stdout : Option String
  stderr : Option String
  prRef : Option String
  reviewArtifactPath : Option String
  reviewLedgerPath : Option String
  changedFiles : List String
  findings : List ReworkFinding
deriving DecidableEq

inductive PromptError where
  | unknownVariable (name : String)
  | parse (error : String)
  | render (error : String)
  | context (error : String)
deriving DecidableEq

def confirmedFindings (report : AgentReviewReport) : List ReworkFinding :=
  (report.findings.filter fun finding => finding.findingClass == .confirmed).map fun finding =>
    { findingClass := "Confirmed", title := finding.title, body := finding.body }

/-- Without a summary of the report the message of the decision stands for it. -/
def reworkDiagnosticFromReview (issue : ReviewedIssue) (job : ReviewRun)
    (decision : ReviewGateDecision) : ReworkDiagnostic where
  issueRef := issue.identifier
  source := "agent_review:" ++ job.backend
  kind := if decision.outcome = .inconclusiveNeedsRework then .inconclusiveReview else .reviewFinding
  summary := (job.report.bind AgentReviewReport.summary).getD decision.message
  nextAction :=
    if decision.outcome = .inconclusiveNeedsRework then
      "Restore the missing PR/workspace/review evidence, rerun required verification, and hand back to Agent Review."
    else
      "Address confirmed review findings, rerun required verification, and hand back to Agent Review."
  command := none
  stdout := job.report.bind AgentReviewReport.stdout
  stderr := job.report.bind AgentReviewReport.stderr
  prRef := issue.linkedPullRequests.findSome? LinkedPullRequest.url
  reviewArtifactPath := job.artifactPath
  reviewLedgerPath := job.ledgerPath
  changedFiles := []
  findings := (job.report.map confirmedFindings).getD []

def logLimit : Nat := 2000

def truncatedMark : String := " [... truncated]"

/-- `None` is a panic. -/
def Rework.truncateLog (content : String) : Option String :=
  Text.truncateBytes logLimit truncatedMark content

def recordSeparator : String := "\x1e"

def fieldSeparator : String := "\x1f"

/-- A log as the template is given it. -/
def truncateOptionalLog : Option String → Option String
  | none => some ""
  | some content => Rework.truncateLog content

section
variable (renderWorkpadTemplate : List (String × String) → Except PromptError String)
  (currentGmtTimestamp : String)

/-- The render panics where one of its logs does. -/
def renderReworkDiagnosticWorkpad (issue : ReviewedIssue) (diagnostic : ReworkDiagnostic) :
    Option (Except PromptError String) := do
  let reviewOrigin := Text.startsWith diagnostic.source "agent_review:"
  let lane := if reviewOrigin then "review" else "main"
  let findings := Text.join recordSeparator (diagnostic.findings.map fun finding =>
    finding.findingClass ++ fieldSeparator ++ finding.title ++ fieldSeparator ++ finding.body)
  let stdout ← truncateOptionalLog diagnostic.stdout
  let stderr ← truncateOptionalLog diagnostic.stderr
  return renderWorkpadTemplate [
    ("review_origin", if reviewOrigin then "true" else "false"),
    ("generated_at", currentGmtTimestamp),
    ("issue_ref", issue.identifier),
    ("issue_title", issue.title),
    ("lane", lane),
    ("actor_role", if reviewOrigin then "review_agent" else "implementation_agent"),
    ("source", diagnostic.source),
    ("input_state", issue.state),
    ("kind", diagnostic.kind.debug),
    ("summary", diagnostic.summary),
    ("next_action", diagnostic.nextAction),
    ("changed_file_count", toString diagnostic.changedFiles.length),
    ("finding_count", toString diagnostic.findings.length),
    ("pr_ref", diagnostic.prRef.getD ""),
    ("review_artifact_path", diagnostic.reviewArtifactPath.getD ""),
    ("review_ledger_path", diagnostic.reviewLedgerPath.getD ""),
    ("changed_files", Text.join recordSeparator diagnostic.changedFiles),
    ("findings", findings),
    ("command", diagnostic.command.getD ""),
    ("stdout", stdout),
    ("stderr", stderr),
    ("record_separator", recordSeparator),
    ("field_separator", fieldSeparator)]

theorem truncateOptionalLog_isSome_iff {log : Option String} :
    (truncateOptionalLog log).isSome = true ↔ ∀ content, log = some content → CutsAt logLimit content := by
  cases log with
  | none => exact iff_of_true rfl nofun
  | some content =>
      have hcuts := Text.truncateBytes_isSome_iff logLimit truncatedMark content
      refine hcuts.trans ⟨fun h other hother => ?_, fun h => h content rfl⟩
      exact Option.some.inj hother ▸ h

theorem renderReworkDiagnosticWorkpad_isSome_iff {issue : ReviewedIssue}
    {diagnostic : ReworkDiagnostic} :
    (renderReworkDiagnosticWorkpad renderWorkpadTemplate currentGmtTimestamp issue
        diagnostic).isSome = true ↔
      (∀ content, diagnostic.stdout = some content → CutsAt logLimit content)
        ∧ ∀ content, diagnostic.stderr = some content → CutsAt logLimit content := by
  rw [← truncateOptionalLog_isSome_iff, ← truncateOptionalLog_isSome_iff,
    renderReworkDiagnosticWorkpad]
  cases truncateOptionalLog diagnostic.stdout with
  | none => simp
  | some stdout =>
      cases truncateOptionalLog diagnostic.stderr with
      | none => simp
      | some stderr => simp

/-- The diagnostic of a review is rendered, and a log is shown as a whole or as a front within the
limit. -/
structure DiagnosticReturns (issue : ReviewedIssue) (job : ReviewRun)
    (decision : ReviewGateDecision) : Prop where
  returns : ∃ workpad, renderReworkDiagnosticWorkpad renderWorkpadTemplate currentGmtTimestamp issue
    (reworkDiagnosticFromReview issue job decision) = some workpad
  logs : ∀ content shown, Rework.truncateLog content = some shown →
    Truncated logLimit truncatedMark content shown

/-- The logs a review leaves. -/
def ReviewLogs (job : ReviewRun) (content : String) : Prop :=
  ∃ report, job.report = some report ∧ (report.stdout = some content ∨ report.stderr = some content)

theorem reviewLogs_iff {issue : ReviewedIssue} {job : ReviewRun} {decision : ReviewGateDecision}
    {content : String} : ReviewLogs job content ↔
      (reworkDiagnosticFromReview issue job decision).stdout = some content
        ∨ (reworkDiagnosticFromReview issue job decision).stderr = some content := by
  show _ ↔ job.report.bind AgentReviewReport.stdout = some content
    ∨ job.report.bind AgentReviewReport.stderr = some content
  rw [Option.bind_eq_some_iff, Option.bind_eq_some_iff, ReviewLogs]
  constructor
  · rintro ⟨report, hreport, hout | herr⟩
    · exact Or.inl ⟨report, hreport, hout⟩
    · exact Or.inr ⟨report, hreport, herr⟩
  · rintro (⟨report, hreport, hout⟩ | ⟨report, hreport, herr⟩)
    · exact ⟨report, hreport, Or.inl hout⟩
    · exact ⟨report, hreport, Or.inr herr⟩

theorem diagnostic_returns_iff (issue : ReviewedIssue) (job : ReviewRun)
    (decision : ReviewGateDecision) :
    DiagnosticReturns renderWorkpadTemplate currentGmtTimestamp issue job decision ↔
      ∀ content, ReviewLogs job content → CutsAt logLimit content := by
  constructor
  · intro h content hlog
    have hboth := (renderReworkDiagnosticWorkpad_isSome_iff renderWorkpadTemplate
      currentGmtTimestamp).mp (Option.isSome_iff_exists.mpr h.returns)
    rcases reviewLogs_iff.mp hlog with hout | herr
    · exact hboth.1 content hout
    · exact hboth.2 content herr
  · intro hcuts
    refine ⟨Option.isSome_iff_exists.mp ((renderReworkDiagnosticWorkpad_isSome_iff
      renderWorkpadTemplate currentGmtTimestamp).mpr ⟨fun content hout => ?_, fun content herr => ?_⟩),
      fun content shown => Text.truncated_of_truncateBytes⟩
    · exact hcuts content (reviewLogs_iff.mpr (Or.inl hout))
    · exact hcuts content (reviewLogs_iff.mpr (Or.inr herr))

end

/-! ## A log that panics -/

/-- A log of rulers, three bytes each. -/
def rulerLog : String := String.ofList (List.replicate 667 '│')

def ruledReport : AgentReviewReport where
  reviewerBackend := "codex"
  findings := []
  summary := none
  stdout := some rulerLog
  stderr := none
  exitStatus := none
  sessionId := none

def ruledRun : ReviewRun where
  backend := "codex"
  state := .completed
  report := some ruledReport
  error := none
  id := "review-7"
  issueRef := "#7"
  artifactPath := none
  ledgerPath := none
  backendSessionId := none

def reworkedIssue : ReviewedIssue where
  id := "I_7"
  identifier := "#7"
  title := "Fix"
  description := none
  state := "Agent Review"
  priority := none
  blockedBy := []
  projectFields := fun _ => none
  createdAt := none
  linkedPullRequests := []

theorem rulerLog_panics : renderReworkDiagnosticWorkpad (fun _ => .ok "") "2026-01-01 00:00:00 GMT"
    reworkedIssue (reworkDiagnosticFromReview reworkedIssue ruledRun
      { outcome := .needsRework, targetState := some "rework", message := "findings" }) = none := by
  rw [← Option.not_isSome_iff_eq_none, renderReworkDiagnosticWorkpad_isSome_iff]
  intro hcuts
  have hruler := hcuts.1 rulerLog rfl
  have hfront : rulerLog = "" ++ String.ofList (List.replicate 667 '│') := (String.empty_append).symm
  rw [hfront] at hruler
  exact Text.not_cutsAt_replicate (by decide) (by decide) (by decide) hruler

end SheaSymphony.Review

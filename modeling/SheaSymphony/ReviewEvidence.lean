import Mathlib.Data.Option.Basic
import SheaSymphony.ReviewPublication

/-!
# The evidence of a review

`render_review_workpad_with_workflow` of `review.rs`: what is posted about a review
that has ended. The values of a run are put into a template, which the repository
may configure; what the template engine makes of it is a function of the values, and
has no result where the engine reports an error and the rendering panics.

Headings of the reviewer's note are demoted and one-line summaries are escaped.
Standard output and standard error are cut at a length and otherwise kept as they
are.
-/

namespace SheaSymphony.Review

open Model

/-! ## Templates -/

/-- What rendering a template with the values gives. -/
abbrev Template := List (String × String) → Option String

inductive TemplatePart where
  | literal (text : String)
  | value (name : String)

def TemplatePart.render (values : List (String × String)) : TemplatePart → Option String
  | literal text => some text
  | value name => values.lookup name

def TemplatePart.name : TemplatePart → Option String
  | literal _ => none
  | value name => some name

def renderParts : List TemplatePart → Template
  | [], _ => some ""
  | part :: parts, values => return (← part.render values) ++ (← renderParts parts values)

theorem renderParts_cons_eq_some {part : TemplatePart} {parts : List TemplatePart}
    {values : List (String × String)} {text : String}
    (h : renderParts (part :: parts) values = some text) :
    ∃ piece rest, part.render values = some piece ∧ renderParts parts values = some rest
      ∧ piece ++ rest = text := by
  rw [renderParts] at h
  obtain ⟨piece, hpiece, h⟩ := Option.bind_eq_some_iff.mp h
  obtain ⟨rest, hrest, h⟩ := Option.bind_eq_some_iff.mp h
  exact ⟨piece, rest, hpiece, hrest, Option.some.inj h⟩

theorem renderParts_infix {part : TemplatePart} {parts : List TemplatePart}
    {values : List (String × String)} {text piece : String} (hpart : part ∈ parts)
    (hpiece : part.render values = some piece) (h : renderParts parts values = some text) :
    ∃ front back, front ++ piece ++ back = text := by
  induction parts generalizing text with
  | nil => cases hpart
  | cons first parts ih =>
      obtain ⟨head, rest, hhead, hrest, rfl⟩ := renderParts_cons_eq_some h
      rcases List.mem_cons.mp hpart with rfl | hpart
      · rw [hpiece] at hhead
        obtain rfl := Option.some.inj hhead
        exact ⟨"", rest, by rw [String.empty_append]⟩
      · obtain ⟨front, back, rfl⟩ := ih hpart hrest
        exact ⟨head ++ front, back, by simp only [String.append_assoc]⟩

theorem renderParts_isSome {parts : List TemplatePart} {values : List (String × String)}
    (h : ∀ part ∈ parts, (part.render values).isSome = true) :
    (renderParts parts values).isSome = true := by
  induction parts with
  | nil => rfl
  | cons part parts ih =>
      obtain ⟨piece, hpiece⟩ := Option.isSome_iff_exists.mp (h part List.mem_cons_self)
      obtain ⟨rest, hrest⟩ := Option.isSome_iff_exists.mp
        (ih fun part hpart => h part (List.mem_cons_of_mem _ hpart))
      rw [renderParts, hpiece, hrest]
      rfl

def agentReviewHeading : String := "## Shea Symphony Agent Review Run"

/-- `template/evidence/agent-review.md`. -/
def agentReviewParts : List TemplatePart :=
  [.literal agentReviewHeading,
    .literal "\n\n- Generated at: `", .value "generated_at",
    .literal "`\n- Issue: ", .value "issue_ref", .literal " ", .value "issue_title",
    .literal "\n- Worker key: `", .value "worker_key",
    .literal "`\n- Reviewer backend: `", .value "reviewer_backend",
    .literal "`\n- Lane: `review`\n- Actor role: `review_agent`\n- Run ID: `", .value "run_id",
    .literal "`\n- Input state: `Agent Review`\n- Job state: `", .value "job_state",
    .literal "`\n- Decision: ", .value "decision",
    .literal "\n- Target state after review routing: `", .value "target_state",
    .literal "`\n- Result: `", .value "result",
    .literal "`\n  ", .value "pr_line",
    .literal "\n  ", .value "artifact_line",
    .literal "\n  ", .value "ledger_line",
    .literal "\n- Evidence summary: ", .value "evidence_summary",
    .literal "\n\n### Review Attempt ", .value "job_id",
    .literal "\n\n", .value "attempt_details",
    .literal "\n\n", .value "operator_action_section",
    .literal "\n", .value "gemini_health_section",
    .literal "\n", .value "usage_limit_section",
    .literal "\n", .value "inconclusive_section",
    .literal "\n\n### Review Response\n\n", .value "agent_review_note",
    .literal "\n\n", .value "findings_section",
    .literal "\n\n", .value "stdout_section",
    .literal "\n", .value "stderr_section",
    .literal "\n", .value "pass_evidence_section"]

def agentReviewTemplate : Template := renderParts agentReviewParts

/-! ## Sections -/

def renderSection (title body : String) : String :=
  if Text.trim body = "" then "" else "### " ++ title ++ "\n\n" ++ Text.trim body ++ "\n\n"

def logBlockLimit : Nat := 2000

def truncateLog (content : String) : String :=
  if Text.byteLength content ≤ logBlockLimit then content
  else Text.takeBytes logBlockLimit content ++ " [... truncated]"

def truncateSummary (summary : String) (limit : Nat) : String :=
  if Text.byteLength summary ≤ limit then summary else Text.takeBytes limit summary ++ "..."

/-- `str::replace` of one character. -/
def replaceChar (c : Char) (replacement s : String) : String :=
  String.ofList (s.toList.flatMap fun d => if d = c then replacement.toList else [d])

def htmlEscapeSummary (summary : String) : String :=
  replaceChar '>' "&gt;" (replaceChar '<' "&lt;" (replaceChar '&' "&amp;" summary))

/-- A text that unfolds below its summary. -/
def renderDetails (summary content : String) : String :=
  "<details>" ++ ("\n<summary>" ++ summary ++ "</summary>\n\n```text" ++ "\n" ++ content ++ "\n"
    ++ "```" ++ "\n\n") ++ "</details>"

def renderLogSection (title : String) (content : Option String) : Option String := do
  let content := Text.trim (← content)
  if content = "" then none
  else some (renderSection title (renderDetails title (truncateLog content)))

def renderAttemptError (error : String) : String :=
  let summary :=
    (((Text.lines error).head?.map Text.trim).filter (· != "")).getD "review backend error"
  renderDetails ("Error: " ++ htmlEscapeSummary (truncateSummary summary 180)) (truncateLog error)

theorem renderSection_renderDetails (title summary content : String) :
    renderSection title (renderDetails summary content)
      = "### " ++ title ++ "\n\n" ++ renderDetails summary content ++ "\n\n" := by
  have htrim : Text.trim (renderDetails summary content) = renderDetails summary content :=
    Text.trim_append_append _ (by decide) (by decide) (by decide) (by decide)
  have hne : renderDetails summary content ≠ "" := by
    intro h
    have hchars := congrArg String.toList h
    rw [renderDetails, String.toList_append, String.toList_append, String.toList_empty,
      List.append_eq_nil_iff, List.append_eq_nil_iff] at hchars
    exact absurd hchars.1.1 (by decide)
  rw [renderSection, htrim, if_neg hne]

theorem renderLogSection_lines (title : String) {content : String}
    (htrim : Text.trim content = content) (hne : content ≠ "")
    (hlength : Text.byteLength content ≤ logBlockLimit) :
    ∃ front back, renderLogSection title (some content)
      = some (front ++ "\n" ++ content ++ "\n" ++ "```" ++ back) := by
  refine ⟨"### " ++ title ++ "\n\n" ++ ("<details>" ++ ("\n<summary>" ++ title
    ++ "</summary>\n\n```text")), "\n\n" ++ "</details>" ++ "\n\n", ?_⟩
  rw [renderLogSection, Option.bind_eq_bind, Option.bind_some, htrim, if_neg hne, truncateLog,
    if_pos hlength, renderSection_renderDetails, renderDetails]
  simp only [String.append_assoc]

/-! ## The reviewer's note -/

def agentReviewNoteLabelHeading (line : String) : Option String :=
  let title := Text.trim
    (if line.toList.getLast? = some ':' then String.ofList line.toList.dropLast else line)
  let front :=
    match Text.splitOnce ':' title with
    | some (front, _) => Text.trim front
    | none => title
  if ["review result", "evidence", "findings", "verification", "checklist review"].contains
      (Text.toAsciiLowercase front) then some title
  else none

/-- A heading of the note stands below those of the evidence. -/
def normalizeNoteLine (line : String) : String :=
  let indent := String.ofList (line.toList.takeWhile Text.isWhitespace)
  let trimmed := line.toList.dropWhile Text.isWhitespace
  let headingLength := (trimmed.takeWhile (· == '#')).length
  if 1 ≤ headingLength ∧ headingLength ≤ 6
      ∧ (trimmed[headingLength]?.any Text.isWhitespace) = true then
    if headingLength < 4 then
      indent ++ "#### " ++ Text.trim (String.ofList (trimmed.drop headingLength))
    else line
  else
    match agentReviewNoteLabelHeading (String.ofList trimmed) with
    | some title => indent ++ "#### " ++ title
    | none => line

def normalizeAgentReviewNoteHeadings (note : String) : String :=
  Text.join "\n" ((Text.lines note).map normalizeNoteLine)

/-! ## What a rendering depends on -/

/-- A health diagnosis with what only its section shows. -/
structure ReviewHealthReport extends GeminiReviewHealthDiagnostic where
  message : String
  retryAfterMs : Option Nat

/-- The diagnosis of failed backends, the clock and the parser of JSON texts, which
reads a value off the front of a text, and the artifacts on disk. -/
structure Renderer where
  case : Text.UnicodeCase
  health : ReviewJob → Option ReviewHealthReport
  generatedAt : String
  readJson : String → Option Json
  readArtifact : String → Option Json

namespace Renderer

variable (renderer : Renderer)

def diagnosis (job : ReviewJob) : Option GeminiReviewHealthDiagnostic :=
  (renderer.health job).map ReviewHealthReport.toGeminiReviewHealthDiagnostic

def extractGeminiJsonEnvelope (stdout : String) : Option Json :=
  (stdout.toList.tails.filter fun tail => tail.head? = some '{').findSome? fun tail =>
    renderer.readJson (String.ofList tail)

def agentReviewNote (report : AgentReviewReport) : Option String :=
  let response := do
    let value ← renderer.extractGeminiJsonEnvelope (← report.stdout)
    let response ← (← value.get "response" <|> value.get "note").asStr
    if Text.trim response = "" then none else some (Text.trim response)
  (response <|> (report.summary.map Text.trim).filter (· != "")).map
    normalizeAgentReviewNoteHeadings

def rejectedReviewDiagnostic (job : ReviewRun) : String :=
  match job.error with
  | none => "- No Agent Review note captured."
  | some error =>
      let text := "No accepted Review verdict. Execution or validation failed: "
        ++ htmlEscapeSummary error
        ++ ".\n\nThe output below, when present, is unaccepted diagnostic evidence and cannot authorize a PASS."
      match do (← (← renderer.readArtifact (← job.artifactPath)).get "structured_output").asStr with
      | none => text
      | some raw =>
          text ++ "\n\n<details>\n<summary>Rejected structured output (unaccepted)</summary>\n\n<pre>"
            ++ htmlEscapeSummary (String.ofList (raw.toList.take 12000))
            ++ "</pre>\n\n</details>"
            ++ if 12000 < raw.toList.length then
                "\n\nExcerpt truncated; the complete result remains in the recorded local artifact."
              else ""

def renderGeminiHealthSection (job : ReviewJob) : String :=
  match renderer.health job with
  | none => ""
  | some diagnostic =>
      renderSection "Review Backend Health" <| Text.join "\n"
        ["- Classification: `" ++ diagnostic.category ++ "`",
          "- Reason: `" ++ diagnostic.reasonCode ++ "`",
          "- Recovery policy: `" ++ diagnostic.recoveryPolicy ++ "`",
          "- Status: " ++ diagnostic.operatorStatus,
          match diagnostic.retryAfterMs with
          | some value => "- Retry-after: `" ++ toString value ++ "ms`"
          | none => "- Retry-after: `not detected`",
          "- Diagnostic: " ++ diagnostic.message]

end Renderer

/-! ## Usage limits -/

structure UsageLimitPause where
  classifier : String
  evidence : String
deriving DecidableEq

/-- A slice that would end inside a character panics. -/
def compactEvidence (text : String) : Option String :=
  let compact := Text.collapseWhitespace text
  if 240 < Text.byteLength compact then
    let slice := Text.takeBytes 240 compact
    if Text.byteLength slice = 240 then some (slice ++ "...") else none
  else some compact

def usageLimitPatterns : List (String × String) :=
  [("usage_limit", "usage limit"), ("rate_limit", "rate limit"), ("rate_limit", "rate limited"),
    ("resource_exhausted", "resource exhausted"), ("quota_exceeded", "quota exceeded"),
    ("quota_exceeded", "insufficient quota")]

def classifyUsageLimitText (text : String) : Option (Option UsageLimitPause) :=
  match usageLimitPatterns.find? fun pattern =>
      Text.contains (Text.toAsciiLowercase text) pattern.2 with
  | none => some none
  | some (classifier, _) => (compactEvidence text).map fun evidence => some { classifier, evidence }

/-- The first of the texts that speaks of a limit; `none` where one of them panics. -/
def firstUsageLimitPause : List String → Option (Option UsageLimitPause)
  | [] => some none
  | text :: texts => do
      match ← classifyUsageLimitText text with
      | some pause => return some pause
      | none => firstUsageLimitPause texts

def reviewUsageLimitPause (job : ReviewJob) : Option (Option UsageLimitPause) :=
  firstUsageLimitPause <| job.error.toList ++
    job.report.elim [] fun report =>
      report.stderr.toList ++ report.stdout.toList ++ report.summary.toList

def shouldRenderUsageLimitDiagnostic (job : ReviewJob) : Bool :=
  job.state != .completed || !job.report.any AgentReviewReport.hasParsedReviewResult

/-! ## The evidence -/

def ReviewJobState.debug : ReviewJobState → String
  | queued => "Queued"
  | running => "Running"
  | completed => "Completed"
  | failed => "Failed"
  | timedOut => "TimedOut"
  | cancelled => "Cancelled"

def ReviewOutcome.debug : ReviewOutcome → String
  | passedToHumanReview => "PassedToHumanReview"
  | passedToMerging => "PassedToMerging"
  | needsRework => "NeedsRework"
  | inconclusiveNeedsRework => "InconclusiveNeedsRework"
  | needsHumanInput => "NeedsHumanInput"
  | backendUnavailable => "BackendUnavailable"
  | stillRunning => "StillRunning"
  | cancelled => "Cancelled"

def ReviewFindingClass.debug : ReviewFindingClass → String
  | confirmed => "Confirmed"
  | plausibleFinding => "Plausible"
  | rejected => "Rejected"
  | needsContext => "NeedsContext"

def renderFinding (finding : ReviewFinding) : String :=
  "- " ++ finding.findingClass.debug ++ ": " ++ finding.title ++ " - " ++ finding.body
    ++ (finding.severity.elim "" fun severity => "\n  - Severity: `" ++ severity ++ "`")
    ++ (finding.file.elim "" fun file => "\n  - Location: `"
      ++ (finding.line.elim file fun number => file ++ ":" ++ toString number) ++ "`")
    ++ finding.evidence.elim "" fun evidence => "\n  - Evidence: " ++ evidence

def renderParsedFindingsSection (report : Option AgentReviewReport) (hasAgentReviewNote : Bool) :
    String :=
  if hasAgentReviewNote then ""
  else
    renderSection "Findings" <|
      match report with
      | none => "- No report captured yet."
      | some report =>
          if report.findings.isEmpty then
            "- No confirmed, plausible, rejected, or needs-context findings."
          else Text.join "\n" (report.findings.map renderFinding)

def reviewWorkerKey (case : Text.UnicodeCase) (identifier backend : String) : String :=
  "review:" ++ Text.trim identifier ++ ":" ++ case.toLowercase (Text.trim backend)

def reviewPrLine (issue : ReviewedIssue) : String :=
  let pr := (issue.linkedPullRequests.findSome? fun pr =>
    match pr.number, pr.url with
    | some number, some url => some ("#" ++ toString number ++ " " ++ url)
    | some number, none => some ("#" ++ toString number)
    | none, some url => some url
    | none, none => none).getD "not recorded"
  "- PR: `" ++ pr ++ "`"

def reviewEvidenceSummary (job : ReviewRun) : String :=
  toString (job.report.elim 0 fun report => report.findings.length) ++ " parsed finding(s); "
    ++ (if job.artifactPath.isSome then "artifact recorded" else "artifact not recorded") ++ "; "
    ++ (if job.ledgerPath.isSome then "ledger recorded" else "ledger not recorded") ++ "; "
    ++ (match job.backendSessionId <|> (job.report.bind fun report => report.sessionId) with
      | some session => "provider session `" ++ session ++ "`"
      | none => "provider session not recorded")
    ++ "."

def attemptDetails (job : ReviewRun) : List String :=
  let details := (job.error.map renderAttemptError).toList ++
    job.report.elim [] fun report =>
      (report.exitStatus.map fun status => "- Exit status: `" ++ status ++ "`").toList
        ++ (report.sessionId.map fun session => "- Backend session id: `" ++ session ++ "`").toList
  if details.isEmpty then ["- No attempt details captured yet."] else details

def passEvidenceSection (outcome : ReviewOutcome) : String :=
  if outcome.isPassed then
    renderSection "Review Pass Evidence" <|
      if outcome = .passedToMerging then
        "- Review pass evidence: `recorded`\nEvidence recorded. Independent Review Agent may move this native subissue directly to Merging; final Human Review and UAT remain owned by the parent issue."
      else
        "- Review pass evidence: `recorded`\nEvidence recorded. Independent Review Agent may move this issue to Human Review; the main implementation agent must not."
  else ""

def usageLimitSection (job : ReviewRun) (pause : Option UsageLimitPause) : String :=
  match pause.filter fun _ => shouldRenderUsageLimitDiagnostic job.toReviewJob with
  | none => ""
  | some pause =>
      renderSection "Usage Limit Diagnostic" <| Text.join "\n"
        ["- Usage-limit classifier: `" ++ pause.classifier ++ "`",
          "- Usage-limit evidence: " ++ pause.evidence,
          "- Review did not pass; unavailable or inconclusive review must not move to Human Review."]

namespace Renderer

variable (renderer : Renderer)

def inconclusiveSection (job : ReviewRun) : String :=
  match job.report.bind (AgentReviewReport.inconclusiveReason renderer.case) with
  | none => ""
  | some reason =>
      renderSection "Inconclusive Review Diagnostic" <| Text.join "\n"
        ["- Reason: " ++ reason,
          "- Automatic Review Agent output did not establish a conclusive pass.",
          "- Missing context alone requires `Need Human Input`; confirmed defects still require `Rework`."]

/-- What the values are called. -/
def valueNames : List String :=
  ["generated_at", "issue_ref", "issue_title", "worker_key", "reviewer_backend", "run_id",
    "job_state", "decision", "target_state", "result", "pr_line", "artifact_line", "ledger_line",
    "boundary_comment_coverage", "rustdoc_coverage", "public_visibility_audit", "evidence_summary",
    "job_id", "attempt_details", "operator_action_section", "gemini_health_section",
    "usage_limit_section", "inconclusive_section", "agent_review_note", "findings_section",
    "stdout_section", "stderr_section", "pass_evidence_section"]

/-- The values of a run, for the usage limit it has run into. -/
def values (issue : ReviewedIssue) (job : ReviewRun) (pause : Option UsageLimitPause) :
    List (String × String) :=
  let decision := reviewGateDecisionForIssue renderer.diagnosis renderer.case job.toReviewJob
    issue.toTrackerIssue
  let operatorActions := reviewRequiredOperatorActions renderer.diagnosis job.toReviewJob
  let note := (job.report.bind renderer.agentReviewNote).getD
    (renderer.rejectedReviewDiagnostic job)
  let log (title : String) (stream : AgentReviewReport → Option String) : String :=
    (job.report.bind fun report => renderLogSection title (stream report)).getD ""
  [("generated_at", renderer.generatedAt),
    ("issue_ref", issue.identifier),
    ("issue_title", issue.title),
    ("worker_key", reviewWorkerKey renderer.case issue.identifier job.backend),
    ("reviewer_backend", job.backend),
    ("run_id", job.id),
    ("job_state", job.state.debug),
    ("decision", decision.message),
    ("target_state", decision.targetState.getD "none"),
    ("result", decision.outcome.debug),
    ("pr_line", reviewPrLine issue),
    ("artifact_line",
      job.artifactPath.elim "- Artifact: `not recorded`" fun path => "- Artifact: `" ++ path ++ "`"),
    ("ledger_line",
      job.ledgerPath.elim "- Review job ledger: `not recorded`" fun path =>
        "- Review job ledger: `" ++ path ++ "`"),
    ("boundary_comment_coverage",
      "not evaluated unless issue scope changes a non-obvious boundary"),
    ("rustdoc_coverage", "not evaluated unless issue scope changes Rust public API"),
    ("public_visibility_audit", "not evaluated unless issue scope changes Rust public API"),
    ("evidence_summary", reviewEvidenceSummary job),
    ("job_id", job.id),
    ("attempt_details", Text.join "\n" (attemptDetails job)),
    ("operator_action_section",
      operatorActions.elim "" fun actions =>
        renderSection "Required Operator Action" (Text.join "\n" actions)),
    ("gemini_health_section", renderer.renderGeminiHealthSection job.toReviewJob),
    ("usage_limit_section", usageLimitSection job pause),
    ("inconclusive_section", renderer.inconclusiveSection job),
    ("agent_review_note", note),
    ("findings_section",
      renderParsedFindingsSection job.report (note != "- No Agent Review note captured.")),
    ("stdout_section", log "Stdout" AgentReviewReport.stdout),
    ("stderr_section", log "Stderr" AgentReviewReport.stderr),
    ("pass_evidence_section", passEvidenceSection decision.outcome)]

/-- `render_review_workpad_with_workflow`; `none` where it panics. -/
def renderReviewWorkpad (template : Template) (issue : ReviewedIssue) (job : ReviewRun) :
    Option String := do
  let pause ← reviewUsageLimitPause job.toReviewJob
  let rendered ← template (renderer.values issue job pause)
  return Text.trimEnd rendered

theorem agentReviewTemplate_isSome (issue : ReviewedIssue) (job : ReviewRun)
    (pause : Option UsageLimitPause) :
    (agentReviewTemplate (renderer.values issue job pause)).isSome = true := by
  have hnames : ∀ part ∈ agentReviewParts, ∀ name ∈ part.name,
      name ∈ (renderer.values issue job pause).map Prod.fst := by
    show ∀ part ∈ agentReviewParts, ∀ name ∈ part.name, name ∈ valueNames
    decide
  refine renderParts_isSome fun part hpart => ?_
  cases part with
  | literal text => rfl
  | value name =>
      obtain ⟨entry, hentry, hname⟩ := List.mem_map.mp (hnames _ hpart name rfl)
      rw [TemplatePart.render, List.lookup_isSome_iff]
      exact ⟨entry, hentry, by rw [hname]; exact beq_self_eq_true name⟩

/-- Rendering with the repository's template fails only where the evidence of a usage limit
is cut within a character. -/
theorem renderReviewWorkpad_isSome {issue : ReviewedIssue} {job : ReviewRun}
    (h : (reviewUsageLimitPause job.toReviewJob).isSome = true) :
    (renderer.renderReviewWorkpad agentReviewTemplate issue job).isSome = true := by
  obtain ⟨pause, hpause⟩ := Option.isSome_iff_exists.mp h
  obtain ⟨rendered, hrendered⟩ := Option.isSome_iff_exists.mp
    (renderer.agentReviewTemplate_isSome issue job pause)
  rw [renderReviewWorkpad, hpause]
  show (do
    let rendered ← agentReviewTemplate (renderer.values issue job pause)
    some (Text.trimEnd rendered)).isSome = true
  rw [hrendered]
  rfl

theorem renderReviewWorkpad_stdout {issue : ReviewedIssue} {job : ReviewRun} {evidence : String}
    {report : AgentReviewReport} {content : String}
    (h : renderer.renderReviewWorkpad agentReviewTemplate issue job = some evidence)
    (hreport : job.report = some report) (hstdout : report.stdout = some content)
    (htrim : Text.trim content = content) (hne : content ≠ "")
    (hlength : Text.byteLength content ≤ logBlockLimit) :
    ∃ front back, front ++ "\n" ++ content ++ "\n" ++ back = evidence := by
  obtain ⟨pause, -, h⟩ := Option.bind_eq_some_iff.mp h
  obtain ⟨rendered, hrendered, h⟩ := Option.bind_eq_some_iff.mp h
  obtain rfl := Option.some.inj h
  have hpart : TemplatePart.value "stdout_section" ∈ agentReviewParts := by
    simp [agentReviewParts]
  obtain ⟨front, back, hlog⟩ := renderLogSection_lines "Stdout" htrim hne hlength
  have hsection : (TemplatePart.value "stdout_section").render (renderer.values issue job pause)
      = some (front ++ "\n" ++ content ++ "\n" ++ "```" ++ back) := by
    have hvalue : (TemplatePart.value "stdout_section").render (renderer.values issue job pause)
        = some ((job.report.bind fun report => renderLogSection "Stdout" report.stdout).getD "") :=
      rfl
    rw [hvalue, hreport, Option.bind_some, hstdout, hlog, Option.getD_some]
  have hparts : renderParts agentReviewParts (renderer.values issue job pause) = some rendered :=
    hrendered
  obtain ⟨before, behind, rfl⟩ := renderParts_infix hpart hsection hparts
  -- Trimming the end stops at the fence behind the log.
  have hfence : ∀ text, Text.trimEnd (text ++ "```") = text ++ "```" := by
    intro text
    have htrimmed : Text.trimEnd "```" = "```" := by decide
    rw [Text.trimEnd_append, htrimmed, if_neg (by decide)]
  refine ⟨before ++ front, "```" ++ Text.trimEnd (back ++ behind), ?_⟩
  have hcut := Text.trimEnd_append_of_trimEnd
    (hfence (before ++ front ++ "\n" ++ content ++ "\n")) (back ++ behind)
  simp only [String.append_assoc] at hcut ⊢
  exact hcut.symm

end Renderer

/-- Nothing is diagnosed, and no artifact or JSON text is there to be read. -/
def plainRenderer : Renderer where
  case := .ascii
  health _ := none
  generatedAt := "2026-01-01 00:00:00 GMT"
  readJson _ := none
  readArtifact _ := none

end SheaSymphony.Review

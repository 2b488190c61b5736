import SheaSymphony.ReviewDecision
import SheaSymphony.ReviewStructured

/-!
# The gate and the structured verdict

An accepted structured review reaches the gate as findings and text, and the
gate judges these again. A pass has no blocking finding, so it stands unless an
inconclusive phrase occurs in its text; a rework has a confirmed finding, which
counts unless it is about acceptance testing by people; a review that needs
context is never a pass.
-/

namespace SheaSymphony.Review

open Json Model

/-- No inconclusive phrase occurs in summary, raw output or standard error. -/
def Conclusive (case : Text.UnicodeCase) (parsed : StructuredReview) (raw stderr : String) : Prop :=
  ∀ phrase ∈ inconclusivePhrases,
    Text.contains (normalizedReviewText case (Text.join "\n" [parsed.summary, raw, stderr])) phrase
      = false

section

variable {report : AgentReviewReport}

theorem legacy_of_structured {backendName displayName : String}
    (hbackend : (backendName, displayName) ∈ structuredBackends)
    (hname : report.reviewerBackend = backendName) :
    report.legacyBackendMissingReviewResult = false := by
  have hnot : ∀ backend ∈ structuredBackends, backend.1 ≠ "gemini-cli" := by decide
  have hbeq : (report.reviewerBackend == "gemini-cli") = false := by
    rw [hname]
    exact beq_false_of_ne (hnot _ hbackend)
  rw [AgentReviewReport.legacyBackendMissingReviewResult, hbeq, Bool.false_and]

theorem blocksProgress_eq_false (h : hasClass .confirmed report.findings = false) :
    report.blocksProgress = false := by
  refine List.any_eq_false.mpr fun finding hfinding hblocks => ?_
  have hclass := List.any_eq_false.mp h finding hfinding
  rw [reviewFindingBlocksProgress, Bool.and_eq_true] at hblocks
  exact hclass hblocks.1

theorem blocksProgress_iff :
    report.blocksProgress = true ↔ ∃ finding ∈ report.findings,
      finding.findingClass = .confirmed ∧ humanOwnedUatFinding finding = false := by
  simp [AgentReviewReport.blocksProgress, reviewFindingBlocksProgress]

theorem isInconclusive_of_needsContext {case : Text.UnicodeCase}
    (h : hasClass .needsContext report.findings = true) : report.isInconclusive case = true := by
  rw [hasClass] at h
  rw [AgentReviewReport.isInconclusive, AgentReviewReport.inconclusiveReason, if_pos h]
  rfl

theorem isInconclusive_iff {case : Text.UnicodeCase} {parsed : StructuredReview}
    {raw stderr : String} (hcontext : hasClass .needsContext report.findings = false)
    (hlegacy : report.legacyBackendMissingReviewResult = false)
    (hsummary : report.summary = some parsed.summary) (hstdout : report.stdout = some raw)
    (hstderr : report.stderr = some stderr) :
    report.isInconclusive case = false ↔ Conclusive case parsed raw stderr := by
  have htext : report.text = Text.join "\n" [parsed.summary, raw, stderr] := by
    rw [AgentReviewReport.text, hsummary, hstdout, hstderr]
    rfl
  rw [hasClass] at hcontext
  rw [AgentReviewReport.isInconclusive, AgentReviewReport.inconclusiveReason, hcontext, hlegacy,
    if_neg Bool.false_ne_true, if_neg Bool.false_ne_true, Option.isSome_eq_false_iff,
    Option.isNone_iff_eq_none, inconclusiveReviewTextReason_eq_none, htext]
  rfl

end

/-- What the gate makes of each verdict of an accepted structured review: a pass
is routed on when its text is conclusive and to a human otherwise; a rework is a
rework exactly when a confirmed finding is not about human-owned UAT; a review
that needs context never passes. -/
theorem review_gate_verdict {reader : Reader} {case : Text.UnicodeCase}
    {raw backendName displayName stderr : String} {sessionId exitStatus : Option String}
    {report : AgentReviewReport} (hbackend : (backendName, displayName) ∈ structuredBackends)
    (h : structuredReport reader raw backendName displayName sessionId stderr exitStatus
      = .ok report) :
    ∃ parsed, parseStructuredReview reader raw = .ok parsed
      ∧ ∀ health job issue, job.state = .completed → job.report = some report →
        let outcome := (reviewGateDecisionForIssue health case job issue).outcome
        (parsed.terminalClassification = .pass →
            (Conclusive case parsed raw stderr → outcome = passOutcome case issue)
              ∧ (¬ Conclusive case parsed raw stderr → outcome = .needsHumanInput))
          ∧ (parsed.terminalClassification = .rework →
            (outcome = .needsRework ↔ ∃ finding ∈ report.findings,
              finding.findingClass = .confirmed ∧ humanOwnedUatFinding finding = false))
          ∧ (parsed.terminalClassification = .needsContext → outcome.isPassed = false) := by
  obtain ⟨parsed, hparsed, hterminal, hname, hsummary, hstdout, hstderr⟩ :=
    structuredReport_eq_ok h
  refine ⟨parsed, hparsed, fun health job issue hstate hreport => ?_⟩
  have hlegacy := legacy_of_structured hbackend hname
  intro outcome
  have houtcome : outcome = if report.blocksProgress then .needsRework
      else if report.isInconclusive case then .needsHumanInput else passOutcome case issue :=
    outcome_of_completed hstate hreport hlegacy
  refine ⟨fun hpass => ?_, fun hrework => ?_, fun hcontext => ?_⟩
  · rw [hpass, checkTerminal, Fallible.require_eq_ok, Bool.not_eq_true', Bool.or_eq_false_iff]
      at hterminal
    have hiff : report.isInconclusive case = false ↔ Conclusive case parsed raw stderr :=
      isInconclusive_iff hterminal.2 hlegacy hsummary hstdout hstderr
    rw [houtcome, blocksProgress_eq_false hterminal.1, if_neg Bool.false_ne_true, ← hiff]
    constructor
    · intro hconclusive
      rw [hconclusive, if_neg Bool.false_ne_true]
    · intro hinconclusive
      rw [if_pos (Bool.eq_true_of_not_eq_false hinconclusive)]
  · rw [houtcome, ← blocksProgress_iff]
    cases report.blocksProgress with
    | true => simp
    | false =>
        cases report.isInconclusive case with
        | true => simp
        | false =>
            simp only [Bool.false_eq_true, if_false, iff_false]
            intro hrework
            have hpassed := isPassed_passOutcome case issue
            rw [hrework] at hpassed
            cases hpassed
  · rw [hcontext, checkTerminal, Fallible.require_eq_ok] at hterminal
    rw [houtcome, isInconclusive_of_needsContext hterminal]
    cases report.blocksProgress <;> rfl

/-! ## Sample reviews -/

/-- A pass whose summary says there is no diff left to question. -/
def samplePass : StructuredReview where
  summary := "No diff is left open."
  terminalClassification := .pass
  findings := []

def samplePassRaw : String :=
  "\x7b\"summary\":\"No diff is left open.\",\"terminal_classification\":\"pass\",\"findings\":[]\x7d"

/-- A rework whose one confirmed finding is that nobody ran the UAT. -/
def sampleRework : StructuredReview where
  summary := "UAT is open."
  terminalClassification := .rework
  findings :=
    [{ findingClass := .confirmed
       severity := "low"
       title := "Missing UAT"
       body := "Not run."
       file := none
       line := none
       evidence := "log" }]

def sampleReworkRaw : String :=
  "[\"UAT is open.\",\"rework\",[[\"confirmed\",\"low\",\"Missing UAT\",\"Not run.\",null,null,\"log\"]]]"

/-- A reader right on the two sample texts. -/
def sampleReader : Reader where
  parse text :=
    if text = samplePassRaw then
      .ok (.obj
        [("summary", .str samplePass.summary), ("terminal_classification", .str "pass"),
          ("findings", .arr [])])
    else if text = sampleReworkRaw then
      .ok (.arr
        [.str sampleRework.summary, .str "rework",
          .arr [.arr [.str "confirmed", .str "low", .str "Missing UAT", .str "Not run.", .null,
            .null, .str "log"]]])
    else .error "unexpected text"
  explain _ := "unexpected document"

def sampleReport (raw summary : String) (findings : List ReviewFinding) : AgentReviewReport where
  reviewerBackend := "claude-code"
  findings := findings
  summary := some summary
  stdout := some raw
  stderr := some ""
  exitStatus := some "0"
  sessionId := none

def sampleFinding : ReviewFinding where
  findingClass := .confirmed
  title := "Missing UAT"
  body := "Not run."
  severity := some "low"
  file := none
  line := none
  evidence := some "log"

def sampleJob (report : AgentReviewReport) : ReviewJob where
  backend := "claude-code"
  state := .completed
  report := some report
  error := none

def sampleIssue : TrackerIssue where
  id := "I_7"
  identifier := "#7"
  title := "Report the gate's verdict"
  description := none
  state := "Agent Review"
  priority := none
  blockedBy := []
  projectFields _ := none
  createdAt := none

theorem samplePass_report :
    parseStructuredReview sampleReader samplePassRaw = .ok samplePass
      ∧ structuredReport sampleReader samplePassRaw "claude-code" "Claude Review" none "" (some "0")
        = .ok (sampleReport samplePassRaw samplePass.summary []) := by
  decide +kernel

theorem sampleRework_report :
    parseStructuredReview sampleReader sampleReworkRaw = .ok sampleRework
      ∧ structuredReport sampleReader sampleReworkRaw "claude-code" "Claude Review" none ""
          (some "0")
        = .ok (sampleReport sampleReworkRaw sampleRework.summary [sampleFinding]) := by
  decide +kernel

theorem sampleReport_not_legacy (raw summary : String) (findings : List ReviewFinding) :
    (sampleReport raw summary findings).legacyBackendMissingReviewResult = false := by
  have hbackend : ("claude-code", "Claude Review") ∈ structuredBackends := List.mem_cons_self
  exact legacy_of_structured hbackend rfl

theorem samplePass_inconclusive :
    (sampleReport samplePassRaw samplePass.summary []).isInconclusive .ascii = true := by
  have hphrase : Text.contains (normalizedReviewText .ascii
      (Text.join "\n" [samplePass.summary, samplePassRaw, ""])) "no diff" = true := by
    rw [Text.contains, normalizedReviewText, Text.toList_collapseWhitespace]
    simp only [Text.UnicodeCase.ascii, Text.toAsciiLowercase, Text.join, String.toList_ofList]
    decide
  have hiff : (sampleReport samplePassRaw samplePass.summary []).isInconclusive .ascii = false
      ↔ Conclusive .ascii samplePass samplePassRaw "" :=
    isInconclusive_iff rfl (sampleReport_not_legacy _ _ _) rfl rfl rfl
  rw [← Bool.not_eq_false, hiff]
  intro hconclusive
  have hfree := hconclusive "no diff" (by simp [inconclusivePhrases, missingEvidencePatterns])
  rw [hphrase] at hfree
  cases hfree

/-- The outcome of a job that completed with a sample report. -/
def sampleOutcome (report : AgentReviewReport) : ReviewOutcome :=
  (reviewGateDecisionForIssue (fun _ => none) .ascii (sampleJob report) sampleIssue).outcome

theorem sampleOutcome_eq (raw summary : String) (findings : List ReviewFinding) :
    sampleOutcome (sampleReport raw summary findings) =
      if (sampleReport raw summary findings).blocksProgress then .needsRework
      else if (sampleReport raw summary findings).isInconclusive .ascii then .needsHumanInput
      else passOutcome .ascii sampleIssue := by
  exact outcome_of_completed rfl rfl (sampleReport_not_legacy _ _ _)

/-- The verdict alone does not decide: an accepted pass goes to a human because
its summary says that no diff is left, and an accepted rework whose only
confirmed finding is missing UAT is no rework. -/
theorem verdict_overruled :
    (parseStructuredReview sampleReader samplePassRaw = .ok samplePass
        ∧ structuredReport sampleReader samplePassRaw "claude-code" "Claude Review" none ""
          (some "0") = .ok (sampleReport samplePassRaw samplePass.summary []))
      ∧ samplePass.terminalClassification = .pass
      ∧ sampleOutcome (sampleReport samplePassRaw samplePass.summary []) = .needsHumanInput
      ∧ (parseStructuredReview sampleReader sampleReworkRaw = .ok sampleRework
        ∧ structuredReport sampleReader sampleReworkRaw "claude-code" "Claude Review" none ""
          (some "0") = .ok (sampleReport sampleReworkRaw sampleRework.summary [sampleFinding]))
      ∧ sampleRework.terminalClassification = .rework
      ∧ sampleOutcome (sampleReport sampleReworkRaw sampleRework.summary [sampleFinding])
        ≠ .needsRework := by
  have hpass : sampleOutcome (sampleReport samplePassRaw samplePass.summary [])
      = .needsHumanInput := by
    rw [sampleOutcome_eq, samplePass_inconclusive]
    rfl
  have hrework : sampleOutcome (sampleReport sampleReworkRaw sampleRework.summary [sampleFinding])
      ≠ .needsRework := by
    have hblocks : (sampleReport sampleReworkRaw sampleRework.summary
        [sampleFinding]).blocksProgress = false := by decide
    rw [sampleOutcome_eq, hblocks, if_neg Bool.false_ne_true]
    split <;> decide
  exact ⟨samplePass_report, rfl, hpass, sampleRework_report, rfl, hrework⟩

theorem review_gate_verdict_sample :
    ∃ parsed, parseStructuredReview sampleReader samplePassRaw = .ok parsed
      ∧ (parsed.terminalClassification = .pass →
        ¬ Conclusive .ascii parsed samplePassRaw "" →
          (reviewGateDecisionForIssue (fun _ => none) .ascii
            (sampleJob (sampleReport samplePassRaw samplePass.summary [])) sampleIssue).outcome
          = .needsHumanInput) := by
  have hbackend : ("claude-code", "Claude Review") ∈ structuredBackends := List.mem_cons_self
  obtain ⟨parsed, hparsed, hverdict⟩ := review_gate_verdict hbackend samplePass_report.2
  have houtcome := hverdict (fun _ => none)
    (sampleJob (sampleReport samplePassRaw samplePass.summary [])) sampleIssue rfl rfl
  exact ⟨parsed, hparsed, fun hpass => (houtcome.1 hpass).2⟩

end SheaSymphony.Review

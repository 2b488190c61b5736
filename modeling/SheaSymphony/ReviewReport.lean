import SheaSymphony.Text

/-!
# Review reports

The backend-neutral report of `review/report.rs` and the judgements routing
takes from it: whether findings block progress, and whether the report is
inconclusive, which is read off the findings and off the text of the report.
-/

namespace SheaSymphony.Review

inductive ReviewFindingClass where
  | confirmed
  | plausibleFinding
  | rejected
  | needsContext
deriving DecidableEq

structure ReviewFinding where
  findingClass : ReviewFindingClass
  title : String
  body : String
  severity : Option String
  file : Option String
  line : Option Nat
  evidence : Option String
deriving DecidableEq

structure AgentReviewReport where
  reviewerBackend : String
  findings : List ReviewFinding
  summary : Option String
  stdout : Option String
  stderr : Option String
  exitStatus : Option String
  sessionId : Option String
deriving DecidableEq

/-! ## Findings -/

/-- The UAT phrases that make a finding one about acceptance testing by people. -/
def missingUatPhrases : List String :=
  ["missing uat", "uat was not run", "uat has not been run", "uat was skipped", "uat not run",
    "live uat"]

def implementationDeliverablePhrases : List String :=
  ["uat harness", "uat fixture", "controlled rehearsal", "rehearsal path", "dogfood workflow",
    "workflow capability", "implemented", "implementing", "implementation deliverable"]

def humanOwnedUatFinding (finding : ReviewFinding) : Bool :=
  let text := Text.toAsciiLowercase (finding.title ++ " " ++ finding.body)
  Text.contains text "uat" && missingUatPhrases.any (Text.contains text)
    && !implementationDeliverablePhrases.any (Text.contains text)

def reviewFindingBlocksProgress (finding : ReviewFinding) : Bool :=
  finding.findingClass == .confirmed && !humanOwnedUatFinding finding

/-! ## Legacy results -/

inductive ParsedReviewResult where
  | pass
  | rework
  | needsContext
deriving DecidableEq

/-- The verdict of the first line that is not blank, emphasis marks aside. -/
def parseReviewResult (output : String) : Option ParsedReviewResult := do
  let line ← ((Text.lines output).map Text.trim).find? fun line => line != ""
  let marks : Char → Bool := fun c => c == '*' || c == '_' || c == '`'
  let normalized := Text.toAsciiLowercase (Text.trimMatches marks line)
  if normalized = "review result: pass" then some .pass
  else if normalized = "review result: rework" then some .rework
  else if ["review result: needs_context", "review result: needs context",
      "review result: need context"].contains normalized then some .needsContext
  else none

namespace AgentReviewReport

def hasParsedReviewResult (report : AgentReviewReport) : Bool :=
  (report.summary.toList ++ report.stdout.toList).any fun text => (parseReviewResult text).isSome

def legacyBackendMissingReviewResult (report : AgentReviewReport) : Bool :=
  report.reviewerBackend == "gemini-cli" && !report.hasParsedReviewResult

/-- Summary, standard output and standard error, as far as they are known. -/
def text (report : AgentReviewReport) : String :=
  Text.join "\n" (report.summary.toList ++ report.stdout.toList ++ report.stderr.toList)

def sandboxAccessPhrases : List String :=
  ["workspace is outside the sandbox", "workspace was outside the sandbox",
    "workspace is outside sandbox", "workspace was outside sandbox",
    "sandbox denied access to the workspace", "sandbox prevented access to the workspace"]

def legacyBackendAccessFailureReason (report : AgentReviewReport) : Option String :=
  if !report.legacyBackendMissingReviewResult then none
  else if sandboxAccessPhrases.any (Text.contains (Text.toAsciiLowercase report.text)) then
    some "review backend sandbox could not access the issue workspace"
  else none

def blocksProgress (report : AgentReviewReport) : Bool :=
  report.findings.any reviewFindingBlocksProgress

end AgentReviewReport

/-! ## Inconclusive reports -/

def missingEvidencePatterns : List String :=
  ["workspace is empty", "empty workspace", "missing workspace", "workspace was missing",
    "missing pr evidence", "pr evidence was missing", "pr evidence is missing",
    "missing pull request evidence", "pull request evidence was missing",
    "pull request evidence is missing", "missing handoff evidence",
    "handoff evidence was missing", "handoff evidence is missing", "missing code changes",
    "code changes were missing", "code changes are missing", "expected code changes were missing",
    "expected code changes are missing", "no code changes", "no diff", "no pull request evidence"]

def unableToReviewPatterns : List String :=
  ["unable to complete", "could not complete", "cannot complete", "could not be completed",
    "unable to inspect", "could not inspect", "cannot inspect", "unable to review",
    "could not review", "cannot review", "inconclusive review", "review is inconclusive",
    "review was inconclusive"]

/-- Lowercased text with single blanks between its words. -/
def normalizedReviewText (case : Text.UnicodeCase) (text : String) : String :=
  Text.collapseWhitespace (case.toLowercase text)

def inconclusiveReviewTextReason (case : Text.UnicodeCase) (text : String) : Option String :=
  let normalized := normalizedReviewText case text
  if normalized = "" then none
  else
    match missingEvidencePatterns.find? (Text.contains normalized) with
    | some pattern => some ("automatic review reported " ++ pattern)
    | none =>
    match unableToReviewPatterns.find? (Text.contains normalized) with
    | some pattern => some ("automatic review output said it was " ++ pattern)
    | none => none

namespace AgentReviewReport

def inconclusiveReason (case : Text.UnicodeCase) (report : AgentReviewReport) : Option String :=
  if report.findings.any fun finding => finding.findingClass == .needsContext then
    some "review produced Needs Context findings"
  else if report.legacyBackendMissingReviewResult then
    some "legacy review backend did not start with a required terminal Review Result line"
  else inconclusiveReviewTextReason case report.text

def isInconclusive (case : Text.UnicodeCase) (report : AgentReviewReport) : Bool :=
  (report.inconclusiveReason case).isSome

end AgentReviewReport

/-- The phrases that make a report inconclusive by its text. -/
def inconclusivePhrases : List String := missingEvidencePatterns ++ unableToReviewPatterns

theorem inconclusiveReviewTextReason_eq_none {case : Text.UnicodeCase} {text : String} :
    inconclusiveReviewTextReason case text = none ↔
      ∀ phrase ∈ inconclusivePhrases,
        Text.contains (normalizedReviewText case text) phrase = false := by
  unfold inconclusiveReviewTextReason inconclusivePhrases
  generalize normalizedReviewText case text = normalized
  simp only [List.mem_append, or_imp, forall_and]
  by_cases hempty : normalized = ""
  · -- No phrase occurs in the empty text, since none is empty.
    subst hempty
    have hnonempty : ∀ phrase ∈ missingEvidencePatterns ++ unableToReviewPatterns, phrase ≠ "" := by
      decide
    simp only [List.mem_append, or_imp, forall_and] at hnonempty
    exact ⟨fun _ => ⟨fun p hp => Text.contains_empty (hnonempty.1 p hp),
      fun p hp => Text.contains_empty (hnonempty.2 p hp)⟩, fun _ => rfl⟩
  rw [if_neg hempty]
  cases hmissing : missingEvidencePatterns.find? (Text.contains normalized) with
  | some pattern =>
      refine ⟨nofun, fun h => absurd (List.find?_some hmissing) ?_⟩
      rw [h.1 pattern (List.mem_of_find?_eq_some hmissing)]
      decide
  | none =>
      have hnone := List.find?_eq_none.mp hmissing
      cases hunable : unableToReviewPatterns.find? (Text.contains normalized) with
      | some pattern =>
          refine ⟨nofun, fun h => absurd (List.find?_some hunable) ?_⟩
          rw [h.2 pattern (List.mem_of_find?_eq_some hunable)]
          decide
      | none =>
          refine ⟨fun _ => ⟨?_, ?_⟩, fun _ => rfl⟩
          · exact fun phrase hphrase => by simpa using hnone phrase hphrase
          · exact fun phrase hphrase => by simpa using List.find?_eq_none.mp hunable phrase hphrase

end SheaSymphony.Review

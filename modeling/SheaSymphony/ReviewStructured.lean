import SheaSymphony.Json
import SheaSymphony.ReviewReport

/-!
# Structured reviews

`structured_report` of `review/structured.rs`, which `review/codex.rs` repeats
under its own names: the reviewer's document is decoded, each finding is
checked, and the verdict must fit the classes of the findings. How the reader
parses text and words a decode error is a parameter.
-/

namespace SheaSymphony.Review

open Json Fallible

inductive StructuredTerminal where
  | pass
  | rework
  | needsContext
deriving DecidableEq

structure StructuredFinding where
  findingClass : ReviewFindingClass
  severity : String
  title : String
  body : String
  file : Option String
  line : Option Nat
  evidence : String
deriving DecidableEq

structure StructuredReview where
  summary : String
  terminalClassification : StructuredTerminal
  findings : List StructuredFinding
deriving DecidableEq

def StructuredTerminal.deserialize : Decoder StructuredTerminal :=
  decodeVariant [("pass", .pass), ("rework", .rework), ("needs_context", .needsContext)]

/-- The classes a document names are the classes of the report. -/
def structuredFindingClass : Decoder ReviewFindingClass :=
  decodeVariant
    [("confirmed", .confirmed), ("plausible", .plausibleFinding), ("rejected", .rejected),
      ("needs_context", .needsContext)]

def StructuredFinding.deserialize : Decoder StructuredFinding := fun document => do
  let fields ← structFields ["class", "severity", "title", "body", "file", "line", "evidence"] 7
    document
  return {
    findingClass := ← field fields "class" structuredFindingClass
    severity := ← field fields "severity" decodeString
    title := ← field fields "title" decodeString
    body := ← field fields "body" decodeString
    file := ← fieldOr fields "file" none (decodeOption decodeString)
    line := ← fieldOr fields "line" none (decodeOption (decodeNat (2 ^ 64)))
    evidence := ← field fields "evidence" decodeString }

def StructuredReview.deserialize : Decoder StructuredReview := fun document => do
  let fields ← structFields ["summary", "terminal_classification", "findings"] 3 document
  return {
    summary := ← field fields "summary" decodeString
    terminalClassification := ← field fields "terminal_classification"
      StructuredTerminal.deserialize
    findings := ← field fields "findings" (decodeList StructuredFinding.deserialize) }

/-- `serde_json::from_str` of a review. -/
def parseStructuredReview (reader : Reader) (raw : String) : Except String StructuredReview := do
  let document ← reader.parse (Text.trim raw)
  (StructuredReview.deserialize document).mapError reader.explain

def severities : List String := ["critical", "high", "medium", "low", "note"]

/-- One finding of the report, if it is complete. -/
def reviewFinding (displayName : String) (finding : StructuredFinding) :
    Except String ReviewFinding := do
  Fallible.require
    (!Text.isBlank finding.title && !Text.isBlank finding.body && !Text.isBlank finding.evidence)
    (displayName ++ " structured finding is missing title, body, or evidence")
  Fallible.require (severities.contains finding.severity)
    (displayName ++ " structured finding has unsupported severity `" ++ finding.severity ++ "`")
  Fallible.require (!finding.file.any Text.isBlank)
    (displayName ++ " structured finding has an empty file")
  Fallible.require (finding.line != some 0)
    (displayName ++ " structured finding line must be one-based")
  Fallible.require (finding.line.isNone || finding.file.any fun file => !Text.isBlank file)
    (displayName ++ " structured finding has a line without a file")
  return {
    findingClass := finding.findingClass
    title := finding.title
    body := finding.body
    severity := some finding.severity
    file := finding.file
    line := finding.line
    evidence := some finding.evidence }

def hasClass (findingClass : ReviewFindingClass) (findings : List ReviewFinding) : Bool :=
  findings.any fun finding => finding.findingClass == findingClass

/-- The verdict fits the classes of the findings. -/
def checkTerminal (displayName : String) (terminal : StructuredTerminal)
    (findings : List ReviewFinding) : Except String Unit :=
  match terminal with
  | .pass =>
      Fallible.require (!(hasClass .confirmed findings || hasClass .needsContext findings))
        (displayName ++ " pass classification conflicts with blocking findings")
  | .rework =>
      Fallible.require (hasClass .confirmed findings)
        (displayName ++ " rework classification has no confirmed finding")
  | .needsContext =>
      Fallible.require (hasClass .needsContext findings)
        (displayName ++ " needs_context classification has no Needs Context finding")

def structuredReport (reader : Reader) (raw backendName displayName : String)
    (sessionId : Option String) (stderr : String) (exitStatus : Option String) :
    Except String AgentReviewReport := do
  let parsed ← (parseStructuredReview reader raw).mapError fun error =>
    displayName ++ " returned malformed structured output: " ++ error
  Fallible.require (!Text.isBlank parsed.summary)
    (displayName ++ " structured output has an empty summary")
  let findings ← parsed.findings.mapM (reviewFinding displayName)
  checkTerminal displayName parsed.terminalClassification findings
  return {
    reviewerBackend := backendName
    findings
    summary := some parsed.summary
    stdout := some raw
    stderr := some stderr
    exitStatus
    sessionId }

/-- The backends that report through `structured_report`, with the names they
pass. -/
def structuredBackends : List (String × String) :=
  [("claude-code", "Claude Review"), ("codex-app-server", "Codex Review"),
    ("agy-cli", "agy Review")]

/-- What an accepted review says: its report keeps its texts, and the classes of
its findings fit its verdict. -/
theorem structuredReport_eq_ok {reader : Reader} {raw backendName displayName stderr : String}
    {sessionId exitStatus : Option String} {report : AgentReviewReport}
    (h : structuredReport reader raw backendName displayName sessionId stderr exitStatus
      = .ok report) :
    ∃ parsed, parseStructuredReview reader raw = .ok parsed
      ∧ checkTerminal displayName parsed.terminalClassification report.findings = .ok ()
      ∧ report.reviewerBackend = backendName ∧ report.summary = some parsed.summary
      ∧ report.stdout = some raw ∧ report.stderr = some stderr := by
  obtain ⟨parsed, hparsed, h⟩ := bind_eq_ok h
  obtain ⟨_, -, h⟩ := bind_eq_ok h
  obtain ⟨findings, -, h⟩ := bind_eq_ok h
  obtain ⟨_, hterminal, h⟩ := bind_eq_ok h
  obtain rfl := Except.ok.inj h
  exact ⟨parsed, mapError_eq_ok.mp hparsed, hterminal, rfl, rfl, rfl, rfl⟩

end SheaSymphony.Review

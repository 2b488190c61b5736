import SheaSymphony.Model

/-!
# The candidate gate

The deterministic part of `quality_gate.rs`: is the text of an issue safe to
evaluate, and does a native dependency still block it?
-/

namespace SheaSymphony.QualityGate

open Model (TrackerIssue)

inductive GateDecisionKind where
  | ready | readyWithAssumptions | needToClarify | tooBroad | blocked | duplicateAlreadyCovered
deriving DecidableEq

structure GateDecision where
  kind : GateDecisionKind
  missing : List String
  assumptions : List String
  notes : List String
deriving DecidableEq

def GateDecision.ready : GateDecision where
  kind := .ready
  missing := []
  assumptions := []
  notes := []

def GateDecision.isDispatchable (decision : GateDecision) : Bool :=
  match decision.kind with
  | .ready | .readyWithAssumptions => true
  | _ => false

def maxCandidateBytes : Nat := 256 * 1024

/-- The Liquid delimiters for output and for tags. -/
def liquidMarkers : List String := ["\x7b\x7b", "\x7d\x7d", "\x7b%", "%\x7d"]

def containsUnresolvedLiquid (value : String) : Bool := liquidMarkers.any (Text.contains value)

def missingTitle (issue : TrackerIssue) : List String :=
  if Text.trim issue.title = "" then ["non-empty issue title"] else []

def missingCandidate (description : String) : List String :=
  if description = "" then ["non-empty executable issue candidate"]
  else
    (if maxCandidateBytes < Text.byteLength description then
      ["candidate body within the " ++ toString maxCandidateBytes ++ "-byte safety limit"] else [])
    ++ (if description.toList.contains '\x00' then ["candidate body without NUL bytes"] else [])
    ++ (if containsUnresolvedLiquid description then
      ["candidate body without unresolved Liquid syntax"] else [])

def evaluateIssue (issue : TrackerIssue) : GateDecision :=
  match missingTitle issue ++ missingCandidate (Text.trim (issue.description.getD "")) with
  | [] => .ready
  | missing =>
      { kind := .needToClarify
        missing
        assumptions := []
        notes :=
          ["Generic deterministic candidate-input safety failed before semantic evaluation."] }

def unresolvedTrackerBlocker (case : Text.UnicodeCase) (issue : TrackerIssue)
    (terminalStates : List String) : Option String :=
  issue.blockedBy.findSome? fun blocker =>
    let resolved := blocker.state.any fun state =>
      terminalStates.contains (Model.normalizeState case state)
    if resolved then none
    else some ((blocker.identifier <|> blocker.id).getD "unknown blocker")

def evaluateIssueWithDependencyPreflight (case : Text.UnicodeCase) (issue : TrackerIssue)
    (terminalStates : List String) : GateDecision :=
  let decision := evaluateIssue issue
  if !decision.isDispatchable then decision
  else match unresolvedTrackerBlocker case issue terminalStates with
    | some blocker =>
        { kind := .blocked
          missing := ["unresolved native blocking dependency: " ++ blocker]
          assumptions := decision.assumptions
          notes := ["Tracker dependency preflight blocked dispatch."] }
    | none => decision

/-! ## The gate of one source -/

def evaluateIssueWithSourceAlignment (issue : TrackerIssue) (repoRoot : String)
    (expectedTargetRepo : Option String) : GateDecision :=
  let decision := evaluateIssue issue
  if decision.isDispatchable then
    { decision with
      notes := decision.notes ++ ["Deterministic repository root: \x60" ++ repoRoot ++ "\x60."]
        ++ expectedTargetRepo.toList.map fun repository =>
          "Configured repository identity: \x60" ++ repository
            ++ "\x60; semantic agreement is template-led." }
  else decision

inductive LlmGateMode where
  | disabled | advisory | required
deriving DecidableEq

def LlmGateMode.parse (value : String) : LlmGateMode :=
  if value = "advisory" then .advisory else if value = "required" then .required else .disabled

/-- A decision of a semantic evaluator is a gate decision. -/
abbrev LlmGateReport := GateDecision

def GateDecisionKind.debug : GateDecisionKind → String
  | .ready => "Ready"
  | .readyWithAssumptions => "ReadyWithAssumptions"
  | .needToClarify => "NeedToClarify"
  | .tooBroad => "TooBroad"
  | .blocked => "Blocked"
  | .duplicateAlreadyCovered => "DuplicateAlreadyCovered"

def advisoryDecision (deterministic : GateDecision) (report : LlmGateReport) : GateDecision :=
  { deterministic with
    notes := deterministic.notes ++ ["Semantic advisory decision: " ++ report.kind.debug]
      ++ report.missing.map ("Semantic finding: " ++ ·) ++ report.notes
    assumptions := deterministic.assumptions ++ report.assumptions.map ("Semantic evaluator: " ++ ·) }

/-- `report` is what the command of the evaluator answers. -/
def evaluateIssueWithLlmGate (deterministic : GateDecision) (mode : LlmGateMode)
    (report : Except String LlmGateReport) : GateDecision :=
  if !deterministic.isDispatchable then
    if mode = .disabled then deterministic
    else
      { deterministic with
        notes := deterministic.notes
          ++ ["Semantic model gate skipped because deterministic safety failed."] }
  else
    match mode, report with
    | .disabled, _ => deterministic
    | .advisory, .ok report => advisoryDecision deterministic report
    | .advisory, .error error =>
        { deterministic with
          notes := deterministic.notes ++ ["Semantic advisory gate unavailable: " ++ error] }
    | .required, .ok report => report
    | .required, .error error =>
        { kind := .needToClarify
          missing := ["required template-led semantic quality result"]
          assumptions := deterministic.assumptions
          notes := ["Required semantic quality gate failed: " ++ error] }

/-- What `evaluate_issue_for_current_source` finds around an issue: its assignees, the
configuration, the template and the evaluator's answer. -/
structure GateSource where
  case : Text.UnicodeCase
  repoRoot : String
  expectedTargetRepo : Option String
  liveGithub : Bool
  template : Except String Unit
  mode : LlmGateMode
  report : TrackerIssue → Except String LlmGateReport
  terminalStates : List String

def liveMissingAssigneeGateBlocker (source : GateSource) (assignees : List String) :
    Option String :=
  if source.liveGithub && assignees.isEmpty then some "live GitHub issue assignee" else none

def evaluateIssueForCurrentSource (source : GateSource) (issue : TrackerIssue)
    (assignees : List String) : Except String GateDecision := do
  source.template
  let deterministic := evaluateIssueWithSourceAlignment issue source.repoRoot
    source.expectedTargetRepo
  match liveMissingAssigneeGateBlocker source assignees with
  | some blocker =>
      return {
        kind := .needToClarify
        missing := [blocker]
        assumptions := deterministic.assumptions
        notes := ["Live GitHub dispatch requires explicit issue ownership."] }
  | none =>
      let decision := evaluateIssueWithLlmGate deterministic source.mode (source.report issue)
      if !decision.isDispatchable then return decision
      else
        let dependencyPreflight :=
          evaluateIssueWithDependencyPreflight source.case issue source.terminalStates
        if dependencyPreflight.isDispatchable then return decision else return dependencyPreflight

variable {issue : TrackerIssue}

theorem isDispatchable_of_dependencyPreflight {case : Text.UnicodeCase}
    {terminalStates : List String}
    (h : (evaluateIssueWithDependencyPreflight case issue terminalStates).isDispatchable = true) :
    (evaluateIssue issue).isDispatchable = true := by
  cases hdecision : (evaluateIssue issue).isDispatchable with
  | true => rfl
  | false =>
      simp only [evaluateIssueWithDependencyPreflight, hdecision, Bool.not_false, if_true] at h
      cases h

theorem isDispatchable_of_currentSource {source : GateSource} {assignees : List String}
    {decision : GateDecision}
    (h : evaluateIssueForCurrentSource source issue assignees = .ok decision)
    (hdispatchable : decision.isDispatchable = true) :
    (evaluateIssue issue).isDispatchable = true := by
  obtain ⟨_, -, h⟩ := Fallible.bind_eq_ok h
  dsimp only at h
  split at h
  · obtain rfl := Except.ok.inj h
    cases hdispatchable
  · split at h
    · next hnot =>
      obtain rfl := Except.ok.inj h
      rw [hdispatchable] at hnot
      cases hnot
    · split at h
      · next hpreflight => exact isDispatchable_of_dependencyPreflight hpreflight
      · next hpreflight =>
        obtain rfl := Except.ok.inj h
        exact absurd hdispatchable hpreflight

theorem description_ne_blank (h : (evaluateIssue issue).isDispatchable = true) :
    Text.trim (issue.description.getD "") ≠ "" := by
  intro hblank
  rw [evaluateIssue, hblank, missingCandidate, if_pos rfl] at h
  cases htitle : missingTitle issue with
  | nil => rw [htitle] at h; cases h
  | cons first rest => rw [htitle] at h; cases h

theorem unresolvedTrackerBlocker_eq_none {case : Text.UnicodeCase} {terminalStates : List String}
    (h : (evaluateIssueWithDependencyPreflight case issue terminalStates).isDispatchable = true) :
    unresolvedTrackerBlocker case issue terminalStates = none := by
  simp only [evaluateIssueWithDependencyPreflight] at h
  split at h
  · next hgate =>
    rw [h] at hgate
    cases hgate
  · split at h
    · cases h
    · next hnone => exact hnone

end SheaSymphony.QualityGate

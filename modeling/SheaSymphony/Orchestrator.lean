import Mathlib.Data.Prod.Lex
import SheaSymphony.Config
import SheaSymphony.QualityGate

/-!
# Dispatch planning

`plan_dispatch` of `orchestrator.rs`: the issues of the tracker, sorted, are
taken one by one and selected or skipped with a reason; an issue whose state is
not active, or is terminal, is passed over. The loop's accumulators are the
fields of `Planning`.
-/

namespace SheaSymphony.Orchestrator

open Config (RuntimeConfig)
open Model (TrackerIssue)
open QualityGate (GateDecision)

structure SkippedIssue where
  issueId : String
  identifier : String
  reason : String
  gate : Option GateDecision
deriving DecidableEq

structure RunningSnapshot where
  issueId : String
  identifier : String
  state : String
  backend : String
deriving DecidableEq

structure PollingSnapshot where
  checking : Bool
  nextPollInMs : Option Nat
  pollIntervalMs : Nat
deriving DecidableEq

structure RuntimeSnapshot where
  planned : List RunningSnapshot
  polling : PollingSnapshot
  skipped : List SkippedIssue

structure DispatchPlan where
  selected : List TrackerIssue
  snapshot : RuntimeSnapshot

def skip (issue : TrackerIssue) (reason : String) : SkippedIssue where
  issueId := issue.id
  identifier := issue.identifier
  reason := reason
  gate := none

/-! ## The order of dispatch -/

def priorityRank (priority : Option Int) : Int :=
  (priority.filter fun value => 1 ≤ value && value ≤ 4).getD 5

def createdSortKey (issue : TrackerIssue) : String := issue.createdAt.getD "9999-12-31T23:59:59Z"

/-- Rank, then creation, then identifier. -/
def dispatchKey (issue : TrackerIssue) : Int ×ₗ String ×ₗ String :=
  toLex (priorityRank issue.priority, toLex (createdSortKey issue, issue.identifier))

def dispatchLe (left right : TrackerIssue) : Bool := decide (dispatchKey left ≤ dispatchKey right)

def sortIssuesForDispatch (issues : List TrackerIssue) : List TrackerIssue :=
  issues.mergeSort dispatchLe

/-! ## The plan -/

/-- A blocker whose state is unknown or not terminal. -/
def isUnresolved (case : Text.UnicodeCase) (terminalStates : List String)
    (blocker : Model.BlockerRef) : Bool :=
  !blocker.state.any fun state => terminalStates.contains (Model.normalizeState case state)

def issueBlockedByNonTerminal (case : Text.UnicodeCase) (issue : TrackerIssue)
    (terminalStates : List String) : Bool :=
  ["todo", "rework"].contains (issue.normalizedState case)
    && issue.blockedBy.any (isUnresolved case terminalStates)

def issueHasRichContract (issue : TrackerIssue) : Bool :=
  issue.description.any fun description => Text.trim description != ""

section

variable (case : Text.UnicodeCase) (config : RuntimeConfig)

/-- Is the issue one the plan decides on? -/
def isPlanned (issue : TrackerIssue) : Bool :=
  (config.activeStateSet case).contains (issue.normalizedState case)
    && !(config.terminalStateSet case).contains (issue.normalizedState case)

/-- Why an issue is skipped for its own sake, before capacity is looked at. -/
def ownSkip (issue : TrackerIssue) : Option SkippedIssue :=
  let terminalStates := config.terminalStateSet case
  if issueBlockedByNonTerminal case issue terminalStates then
    some (skip issue "issue has unresolved tracker dependencies")
  else match Model.nativeSubissueGateBlocker case issue terminalStates with
    | some reason => some (skip issue reason)
    | none =>
        let gate := QualityGate.evaluateIssueWithDependencyPreflight case issue terminalStates
        if issueHasRichContract issue && !gate.isDispatchable then
          some { skip issue "issue quality gate did not pass" with gate := some gate }
        else none

def stateLimit (normalized : String) : Nat :=
  (config.agent.maxConcurrentAgentsByState normalized).getD config.agent.maxConcurrentAgents

structure Planning where
  selected : List TrackerIssue
  skipped : List SkippedIssue
  stateCounts : String → Nat

def Planning.start : Planning where
  selected := []
  skipped := []
  stateCounts _ := 0

/-- The body of the loop. -/
def planIssue (planning : Planning) (issue : TrackerIssue) : Planning :=
  let normalized := issue.normalizedState case
  if !isPlanned case config issue then planning
  else match ownSkip case config issue with
    | some skipped => { planning with skipped := planning.skipped ++ [skipped] }
    | none =>
        if config.agent.maxConcurrentAgents ≤ planning.selected.length then
          { planning with
            skipped := planning.skipped ++ [skip issue "global concurrency limit reached"] }
        else if stateLimit config normalized ≤ planning.stateCounts normalized then
          { planning with
            skipped := planning.skipped ++ [skip issue "state concurrency limit reached"] }
        else
          { planning with
            selected := planning.selected ++ [issue]
            stateCounts := Function.update planning.stateCounts normalized
              (planning.stateCounts normalized + 1) }

def planDispatch (issues : List TrackerIssue) : DispatchPlan :=
  let planning := (sortIssuesForDispatch issues).foldl (planIssue case config) Planning.start
  { selected := planning.selected
    snapshot :=
      { planned := planning.selected.map fun issue =>
          { issueId := issue.id
            identifier := issue.identifier
            state := issue.state
            backend := config.backendKind }
        polling :=
          { checking := false
            nextPollInMs := some config.pollingIntervalMs
            pollIntervalMs := config.pollingIntervalMs }
        skipped := planning.skipped } }

end

end SheaSymphony.Orchestrator

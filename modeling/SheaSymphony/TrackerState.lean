import Mathlib.Data.List.Dedup
import SheaSymphony.Fallible
import SheaSymphony.Text

/-!
# Configured tracker states

`resolve_configured_tracker_state` of `tracker/state.rs`: an input names a state
by its canonical key or by the display value the configuration gives it, up to
surrounding whitespace and case, and must name exactly one.
-/

namespace SheaSymphony.Tracker

/-- Display values of the ten states (`config::StateMap`). -/
structure StateMap where
  backlog : String
  todo : String
  needToClarify : String
  inProgress : String
  needHumanInput : String
  agentReview : String
  humanReview : String
  rework : String
  merging : String
  done : String
deriving DecidableEq

def configuredStateKeys : List String :=
  ["backlog", "todo", "need_to_clarify", "in_progress", "need_human_input", "agent_review",
    "human_review", "rework", "merging", "done"]

def configuredStates (stateMap : StateMap) : List (String × String) :=
  configuredStateKeys.zip
    [stateMap.backlog, stateMap.todo, stateMap.needToClarify, stateMap.inProgress,
      stateMap.needHumanInput, stateMap.agentReview, stateMap.humanReview, stateMap.rework,
      stateMap.merging, stateMap.done]

structure ResolvedTrackerState where
  canonicalKey : String
  displayValue : String
deriving DecidableEq

inductive TrackerStateResolutionError where
  | unknownInput (input : String)
  | ambiguousConfiguration (input : String) (canonicalKeys : List String)
deriving DecidableEq

def normalizeConfiguredStateInput (case : Text.UnicodeCase) (input : String) : String :=
  case.toLowercase (Text.trim input)

/-- Does `input` name the configured state? -/
def namesState (case : Text.UnicodeCase) (input : String) (state : String × String) : Bool :=
  normalizeConfiguredStateInput case input == normalizeConfiguredStateInput case state.1
    || normalizeConfiguredStateInput case input == normalizeConfiguredStateInput case state.2

/-- The keys of an ambiguity are listed once each, in order. -/
def resolveConfiguredTrackerState (case : Text.UnicodeCase) (stateMap : StateMap)
    (input : String) : Except TrackerStateResolutionError ResolvedTrackerState :=
  match (configuredStates stateMap).filter (namesState case input) with
  | [] => .error (.unknownInput input)
  | [(canonicalKey, displayValue)] => .ok { canonicalKey, displayValue }
  | states =>
      .error (.ambiguousConfiguration input
        ((states.map Prod.fst).dedup.mergeSort fun a b => decide (a ≤ b)))

end SheaSymphony.Tracker

import SheaSymphony.Json
import SheaSymphony.TrackerState

/-!
# Runtime configuration

The part of `config.rs` that the lanes and the planner read: the display names
of the states, the active and the terminal states, and the limits on concurrent
agents, with the functions that read them off a workflow's document.
-/

namespace SheaSymphony.Config

open Tracker (StateMap)

structure TrackerConfig where
  stateMap : StateMap
  activeStates : List String
  terminalStates : List String

structure AgentConfig where
  maxConcurrentAgents : Nat
  maxConcurrentAgentsByState : String → Option Nat

structure RuntimeConfig where
  tracker : TrackerConfig
  agent : AgentConfig
  backendKind : String
  pollingIntervalMs : Nat

/-- The names of a state list, normalized, without the empty ones. -/
def normalizedStates (case : Text.UnicodeCase) (states : List String) : List String :=
  (states.map fun state => case.toLowercase (Text.trim state)).filter fun state => state != ""

def RuntimeConfig.activeStateSet (case : Text.UnicodeCase) (config : RuntimeConfig) :
    List String :=
  normalizedStates case config.tracker.activeStates

def RuntimeConfig.terminalStateSet (case : Text.UnicodeCase) (config : RuntimeConfig) :
    List String :=
  normalizedStates case config.tracker.terminalStates

/-! ## Reading the document -/

def getValue (root : Option Json) (key : String) : Option Json := root.bind (Json.get key)

def getString (root : Option Json) (key : String) : Option String :=
  (getValue root key).bind Json.asStr

def valueString (root : Option Json) (key default : String) : String :=
  (getString root key).getD default

def getU64 (root : Option Json) (key : String) : Option Nat := (getValue root key).bind Json.asU64

def getStringVec (root : Option Json) (key : String) : Option (List String) :=
  ((getValue root key).bind Json.asArray).map fun items => items.filterMap Json.asStr

def parseStateMap (value : Option Json) : StateMap where
  backlog := valueString value "backlog" "Backlog"
  todo := valueString value "todo" "Todo"
  needToClarify := valueString value "need_to_clarify" "Need to Clarify"
  inProgress := valueString value "in_progress" "In Progress"
  needHumanInput := valueString value "need_human_input" "Need Human Input"
  agentReview := valueString value "agent_review" "Agent Review"
  humanReview := valueString value "human_review" "Human Review"
  rework := valueString value "rework" "Rework"
  merging := valueString value "merging" "Merging"
  done := valueString value "done" "Done"

def parseTracker (value : Option Json) : TrackerConfig where
  stateMap := parseStateMap (getValue value "state_map")
  activeStates := (getStringVec value "active_states").getD ["Todo", "In Progress", "Rework"]
  terminalStates := (getStringVec value "terminal_states").getD
    ["Closed", "Cancelled", "Canceled", "Duplicate", "Done"]

/-- The entries of an object in the order of their names. -/
def entries : Json → List (String × Json)
  | .obj fields =>
      ((fields.map Prod.fst).dedup.mergeSort fun a b => decide (a ≤ b)).filterMap fun name =>
        ((Json.obj fields).get name).map fun value => (name, value)
  | _ => []

/-- The limit of a state: the last positive one whose name normalizes to it. -/
def parseStateLimits (case : Text.UnicodeCase) (value : Option Json) : String → Option Nat :=
  let limits := (value.elim [] entries).filterMap fun (state, limit) =>
    limit.asU64.bind fun limit =>
      if 0 < limit then some (case.toLowercase (Text.trim state), limit) else none
  fun state => limits.reverse.lookup state

def parseAgent (case : Text.UnicodeCase) (mainLaneConfig : Option Json) : AgentConfig where
  maxConcurrentAgents := (getU64 mainLaneConfig "max_concurrent_agents").getD 10
  maxConcurrentAgentsByState :=
    parseStateLimits case (getValue mainLaneConfig "max_concurrent_agents_by_state")

end SheaSymphony.Config

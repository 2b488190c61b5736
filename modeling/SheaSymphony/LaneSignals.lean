import SheaSymphony.GitHandoff
import SheaSymphony.JsonText
import SheaSymphony.LoopSupervisor
import SheaSymphony.Readiness
import SheaSymphony.Words

/-!
# What the loop prints of a lane

A lane's start and its result leave the engine as a line of `key=value` words or as an event
in JSON (`commands/autopilot/looping.rs`), and the app reads a lane snapshot off either
(`autoloop_events.rs`). The words stand between blanks as they are; the two snapshots agree
exactly on values that are one word and not in quotes (`formats_agree_iff`).
-/

namespace SheaSymphony.LaneSignals

open Text
open App.Supervisor (keyValue parseAutoloopEvent unquote)
open MainHandoff (parseU64 parseUnsigned)
open Autoloop (AutopilotIssueSummary AutopilotLaneLatestResult AutopilotLoopLaneResult)

/-! ## Printing -/

/-- A lane's plan with the field only printing reads. -/
structure PrintedLanePlan extends Autopilot.AutopilotLanePlan where
  targetState : Option String

/-- A lane's result with the fields only printing reads. -/
structure PrintedLaneResult extends AutopilotLoopLaneResult where
  maxConcurrent : UInt64
  recover : Bool
  evidence : List String

def autopilotLaneResultIsNoop (lane : AutopilotLoopLaneResult) : Bool :=
  lane.selectedIssue.isNone && !lane.workUnitCompleted
    && ["running", "skipped", "completed"].contains lane.status

/-- The text of `println!`, up to its line feed. -/
def laneLine (lane status action selected target : String) (maxConcurrent : UInt64)
    (recover : Bool) : String :=
  "autopilot_loop_lane lane=" ++ lane ++ " status=" ++ status ++ " action=" ++ action
    ++ " selected=" ++ selected ++ " target=" ++ target
    ++ " max_concurrent=" ++ toString maxConcurrent.toNat ++ " recover=" ++ toString recover

-- `serde_json` keeps the fields of an object in the order of their names.

def optionalText (value : Option String) : Json := value.elim .null .str

def issueJson (issue : Option AutopilotIssueSummary) : Json :=
  issue.elim .null fun issue => .obj [("identifier", .str issue.identifier)]

def latestResultJson (result : AutopilotLaneLatestResult) : Json :=
  .obj
    [("action", .str result.action), ("issue_ref", optionalText result.issueRef),
      ("status", .str result.status), ("target_state", optionalText result.targetState)]

def autopilotEvent (event : String) (payload : Json) : Json :=
  .obj
    [("event", .str event), ("payload", payload), ("schema_version", .int 1),
      ("source", .str "shea-symphony")]

/-- The event that is printed, if events are enabled. -/
def printAutopilotEvent (enabled : Bool) (event : String) (payload : Json) : List String :=
  if enabled then [(autopilotEvent event payload).render] else []

/-- What the loop says of a lane: that its tick starts, or what it came to. -/
inductive LaneReport where
  | running (lane : String) (lanePlan : Option PrintedLanePlan) (maxConcurrent : UInt64)
      (recover : Bool)
  | result (lane : PrintedLaneResult)

namespace LaneReport

def selectedText (issue : Option AutopilotIssueSummary) : String :=
  (issue.map AutopilotIssueSummary.identifier).getD "none"

/-- `serde_json::to_value` of a result, or the payload of a start. -/
def payload : LaneReport → Json
  | running lane lanePlan maxConcurrent recover =>
      .obj
        [("action", .str "tick_started"), ("lane", .str lane),
          ("max_concurrent", .int maxConcurrent.toNat), ("recover", .bool recover),
          ("selected_issue", issueJson (lanePlan.bind fun plan => plan.selectedIssue)),
          ("status", .str "running"),
          ("target_state", optionalText (lanePlan.bind PrintedLanePlan.targetState))]
  | result lane =>
      .obj
        [("action", .str lane.action), ("completed_work_units", .int lane.completedWorkUnits),
          ("evidence", .arr (lane.evidence.map .str)), ("issue_ref", optionalText lane.issueRef),
          ("lane", .str lane.lane), ("latest_result", latestResultJson lane.latestResult),
          ("max_concurrent", .int lane.maxConcurrent.toNat), ("recover", .bool lane.recover),
          ("selected_issue", issueJson lane.selectedIssue), ("status", .str lane.status),
          ("target_state", optionalText lane.targetState),
          ("work_unit_completed", .bool lane.workUnitCompleted)]

def printAutopilotLaneRunning (lane : String) (lanePlan : Option PrintedLanePlan)
    (maxConcurrent : UInt64) (recover eventJson verbose : Bool) : List String :=
  let selected := selectedText (lanePlan.bind fun plan => plan.selectedIssue)
  (if !eventJson && (verbose || selected != "none") then
    [laneLine lane "running" "tick_started" selected
      ((lanePlan.bind PrintedLanePlan.targetState).getD "none") maxConcurrent recover]
  else [])
    ++ printAutopilotEvent eventJson "autopilot_loop_lane"
      (running lane lanePlan maxConcurrent recover).payload

def printAutopilotLaneResult (lane : PrintedLaneResult) (eventJson verbose : Bool) : List String :=
  (if !eventJson && (verbose || !autopilotLaneResultIsNoop lane.toAutopilotLoopLaneResult) then
    [laneLine lane.lane lane.status lane.action (selectedText lane.selectedIssue)
      (lane.targetState.getD "none") lane.maxConcurrent lane.recover]
  else [])
    ++ printAutopilotEvent eventJson "autopilot_loop_lane" (result lane).payload

def print (report : LaneReport) (eventJson verbose : Bool) : List String :=
  match report with
  | running lane lanePlan maxConcurrent recover =>
      printAutopilotLaneRunning lane lanePlan maxConcurrent recover eventJson verbose
  | result lane => printAutopilotLaneResult lane eventJson verbose

end LaneReport

/-! ## Reading in the app -/

structure LaneSnapshot where
  lane : String
  status : String
  action : Option String
  selected : Option String
  target : Option String
  workUnitCompleted : Option Bool
  completedWorkUnits : Option Nat
  issueRef : Option String
  latestResult : Option String
  maxConcurrent : Option Nat
  runningCount : Option Nat
  queuedCount : Option Nat
  blockedCount : Option Nat
  idleCount : Option Nat
  completedCount : Option Nat
  recover : Option Bool
  updatedAtMs : Option Nat
  latestLine : Option String
deriving DecidableEq

def shown (value : String) : Bool := value != "" && value != "none"

def snakeToCamelList : List Char → List Char
  | '_' :: c :: rest => if c = '_' then snakeToCamelList (c :: rest)
      else c.toUpper :: snakeToCamelList rest
  | ['_'] => []
  | c :: rest => c :: snakeToCamelList rest
  | [] => []

/-- The name of a field as the app's own types write it. -/
def snakeToCamel (value : String) : String := String.ofList (snakeToCamelList value.toList)

def stringJsonField (payload : Json) (key : String) : Option String :=
  (payload.get key).bind Json.asStr <|> (payload.get (snakeToCamel key)).bind Json.asStr

def countJsonField (payload : Json) (key : String) : Option Nat :=
  (payload.get key <|> payload.get (snakeToCamel key)).bind Json.asU64

def optionalJsonField (payload : Json) (key : String) : Option String :=
  (stringJsonField payload key).filter shown

def selectedIssueField (payload : Json) : Option String :=
  optionalJsonField payload "selected"
    <|> ((payload.get "selected_issue" <|> payload.get "selectedIssue").bind fun issue =>
      (issue.get "identifier").bind Json.asStr <|> issue.asStr).filter shown

def latestResultField (payload : Json) : Option String :=
  optionalJsonField payload "latest_result"
    <|> (payload.get "latest_result" <|> payload.get "latestResult").bind fun latest =>
      match latest with
      | .obj _ =>
          some ((stringJsonField latest "status").getD "unknown" ++ ":"
            ++ (optionalJsonField latest "action").getD "event"
            ++ ((optionalJsonField latest "issue_ref").map (":" ++ ·)).getD "")
      | _ => latest.asStr

def parseAutoloopLaneEvent (event : Option Json) (atMs : Nat) : Option LaneSnapshot := do
  let event ← event
  let name ← (event.get "event").bind Json.asStr
  if name != "autopilot_loop_lane" then none
  let payload ← event.get "payload"
  let lane ← stringJsonField payload "lane"
  some
    { lane
      status := (stringJsonField payload "status").getD "unknown"
      action := optionalJsonField payload "action"
      selected := selectedIssueField payload
      target := optionalJsonField payload "target_state" <|> optionalJsonField payload "target"
      workUnitCompleted :=
        (payload.get "work_unit_completed" <|> payload.get "workUnitCompleted").bind Json.asBool
      completedWorkUnits :=
        (payload.get "completed_work_units" <|> payload.get "completedWorkUnits").bind Json.asU64
      issueRef := optionalJsonField payload "issue_ref"
      latestResult := latestResultField payload
      maxConcurrent := (payload.get "max_concurrent" <|> payload.get "maxConcurrent").bind Json.asU64
      runningCount := countJsonField payload "running_count"
      queuedCount := countJsonField payload "queued_count"
      blockedCount := countJsonField payload "blocked_count"
      idleCount := countJsonField payload "idle_count"
      completedCount := countJsonField payload "completed_count"
      recover := (payload.get "recover").bind Json.asBool
      updatedAtMs := some atMs
      latestLine := some event.render }

/-- `parse` of a truth value. -/
def parseBool (value : String) : Option Bool :=
  if value = "true" then some true else if value = "false" then some false else none

def optionalField (line key : String) : Option String := (keyValue line key).filter shown

def countField (line key : String) : Option Nat := (keyValue line key).bind parseU64

def parseAutoloopLane (line : String) (atMs : Nat) : Option LaneSnapshot := do
  if !Text.startsWith line "autopilot_loop_lane " then none
  let lane ← keyValue line "lane"
  some
    { lane
      status := (keyValue line "status").getD "unknown"
      action := optionalField line "action"
      selected := optionalField line "selected"
      target := optionalField line "target"
      workUnitCompleted := (keyValue line "work_unit_completed").bind parseBool
      completedWorkUnits := (keyValue line "completed_work_units").bind parseU64
      issueRef := optionalField line "issue_ref"
      latestResult := optionalField line "latest_result"
      maxConcurrent := (keyValue line "max_concurrent").bind parseU64
      runningCount := countField line "running_count"
      queuedCount := countField line "queued_count"
      blockedCount := countField line "blocked_count"
      idleCount := countField line "idle_count"
      completedCount := countField line "completed_count"
      recover := (keyValue line "recover").bind parseBool
      updatedAtMs := some atMs
      latestLine := some line }

/-- What the reader of a stream makes of one line. The events it makes up for other lines
have other names, so no lane comes of them. -/
def readLane (parse : String → Option Json) (line : String) (atMs : Nat) : Option LaneSnapshot :=
  parseAutoloopLaneEvent (parseAutoloopEvent parse line) atMs <|> parseAutoloopLane line atMs

/-- The lane snapshot of the first line of what was printed. -/
def snapshotOf (parse : String → Option Json) (printed : List String) (atMs : Nat) :
    Option LaneSnapshot :=
  (Text.lines (String.join (printed.map (· ++ "\n")))).head?.bind (readLane parse · atMs)

/-- What the operator sees of a lane, whichever the format. -/
structure LaneView where
  lane : String
  status : String
  action : Option String
  selected : Option String
  target : Option String
  maxConcurrent : Option Nat
  recover : Option Bool
deriving DecidableEq

def LaneSnapshot.view (snapshot : LaneSnapshot) : LaneView where
  lane := snapshot.lane
  status := snapshot.status
  action := snapshot.action
  selected := snapshot.selected
  target := snapshot.target
  maxConcurrent := snapshot.maxConcurrent
  recover := snapshot.recover

/-! ## The values of a report -/

/-- The values a report prints, with `none` for what is missing. -/
structure LaneValues where
  lane : String
  status : String
  action : String
  selected : String
  target : String
  maxConcurrent : UInt64
  recover : Bool
deriving DecidableEq

namespace LaneValues

variable (values : LaneValues)

def texts : List String :=
  [values.lane, values.status, values.action, values.selected, values.target]

def line : String :=
  laneLine values.lane values.status values.action values.selected values.target
    values.maxConcurrent values.recover

def pairs : List (String × String) :=
  [("lane", values.lane), ("status", values.status), ("action", values.action),
    ("selected", values.selected), ("target", values.target),
    ("max_concurrent", toString values.maxConcurrent.toNat), ("recover", toString values.recover)]

/-- What a reader sees that takes every value as it is. -/
def view : LaneView where
  lane := values.lane
  status := values.status
  action := (some values.action).filter shown
  selected := (some values.selected).filter shown
  target := (some values.target).filter shown
  maxConcurrent := some values.maxConcurrent.toNat
  recover := some values.recover

/-- The value is one word, and not a word in quotes. -/
def IsPlain (value : String) : Prop := Compact value ∧ unquote value = value

instance (value : String) : Decidable (IsPlain value) := inferInstanceAs (Decidable (_ ∧ _))

end LaneValues

def LaneReport.values : LaneReport → LaneValues
  | running lane lanePlan maxConcurrent recover =>
      { lane
        status := "running"
        action := "tick_started"
        selected := selectedText (lanePlan.bind fun plan => plan.selectedIssue)
        target := (lanePlan.bind PrintedLanePlan.targetState).getD "none"
        maxConcurrent
        recover }
  | result lane =>
      { lane := lane.lane
        status := lane.status
        action := lane.action
        selected := selectedText lane.selectedIssue
        target := lane.targetState.getD "none"
        maxConcurrent := lane.maxConcurrent
        recover := lane.recover }

/-! ## Reading the words -/

theorem splitOnce_subset {c : Char} {text front back : String}
    (h : Text.splitOnce c text = some (front, back)) : back.toList ⊆ text.toList := by
  rw [splitOnce, List.span_eq_takeWhile_dropWhile] at h
  intro d hd
  split at h
  · cases h
  · next before first after heq =>
    simp only [Option.some.injEq, Prod.mk.injEq] at h
    rw [← h.2, String.toList_ofList] at hd
    have hdrop : text.toList.dropWhile (fun d => d != c) = first :: after := congrArg Prod.snd heq
    exact (List.dropWhile_suffix _).subset (hdrop ▸ List.mem_cons_of_mem first hd)

theorem unquote_subset (value : String) : (unquote value).toList ⊆ value.toList := by
  rw [unquote]
  split
  · next quoted heq =>
    split
    · rw [String.toList_ofList, heq]
      exact fun d hd => List.mem_cons_of_mem _ (List.dropLast_subset _ hd)
    · exact List.Subset.refl _
  · exact List.Subset.refl _

theorem compact_of_keyValue {line key value : String} (h : keyValue line key = some value) :
    Compact value := by
  obtain ⟨token, htoken, hvalue⟩ := List.exists_of_findSome?_eq_some h
  have hword : token ∈ splitWhitespace line :=
    List.mem_of_mem_drop (List.mem_reverse.mp htoken)
  split at hvalue
  · next name text hsplit =>
    split at hvalue
    · rw [← Option.some.inj hvalue]
      exact compact_of_subset (unquote_subset text) (compact_of_subset (splitOnce_subset hsplit)
        (compact_of_mem_splitWhitespace hword))
    · cases hvalue
  · cases hvalue

theorem keyValue_pairs {line command : String} {pairs : List (String × String)}
    (hline : Text.splitWhitespace line
      = command :: pairs.map fun pair => pair.1 ++ String.singleton '=' ++ pair.2)
    (hkeys : ∀ pair ∈ pairs, '=' ∉ pair.1.toList) (key : String) :
    keyValue line key = (pairs.reverse.lookup key).map unquote := by
  rw [keyValue, hline, List.drop_one, List.tail_cons, ← List.map_reverse]
  have hkeys' : ∀ pair ∈ pairs.reverse, '=' ∉ pair.1.toList :=
    fun pair hpair => hkeys pair (List.mem_reverse.mp hpair)
  generalize pairs.reverse = back at hkeys' ⊢
  induction back with
  | nil => rfl
  | cons pair rest ih =>
      obtain ⟨name, text⟩ := pair
      rw [List.map_cons, List.findSome?_cons,
        splitOnce_append text (hkeys' (name, text) List.mem_cons_self), List.lookup_cons]
      by_cases hkey : name = key
      · simp only [hkey, if_true, beq_self_eq_true, Option.map_some]
      · have hne : (key == name) = false := by
          rw [beq_eq_false_iff_ne]
          exact fun h => hkey h.symm
        simp only [hkey, if_false, hne]
        exact ih fun later hlater => hkeys' later (List.mem_cons_of_mem _ hlater)

theorem parseU64_toString (n : UInt64) : parseU64 (toString n.toNat) = some n.toNat := by
  rw [parseU64, MainHandoff.parseUnsigned_toString, if_pos n.toNat_lt]

theorem compact_toString (n : Nat) : Compact (toString n) := by
  intro c hc
  have hdigit : c.isDigit = true := Codes.isDigit_of_mem_decimal (n := n) <| by
    rwa [show (toString n).toList = Codes.decimal n from Nat.toList_repr] at hc
  exact isWhitespace_of_isDigit hdigit

theorem unquote_toString (n : Nat) : unquote (toString n) = toString n := by
  have hquote : '"' ∉ (toString n).toList := by
    rw [show (toString n).toList = Codes.decimal n from Nat.toList_repr]
    exact Codes.not_mem_decimal (by decide)
  rw [unquote]
  split
  · next quoted heq => exact absurd (heq ▸ List.mem_cons_self) hquote
  · rfl

theorem unquote_bool (b : Bool) : unquote (toString b) = toString b := by
  cases b <;> decide

theorem parseBool_toString (b : Bool) : parseBool (toString b) = some b := by
  cases b <;> decide

/-! ## One line -/

theorem snapshotOf_singleton (parse : String → Option Json) (text : String) (atMs : Nat) :
    snapshotOf parse [text] atMs
      = (Text.terminated text).head?.bind (readLane parse · atMs) := by
  rw [snapshotOf, List.map_singleton, String.join_cons, String.join_nil, String.append_empty,
    lines_feed]

variable {value : String} {front : List Char}

theorem splitOn_append_of_not_mem (h : '\n' ∉ front) (back : List Char) :
    (front ++ back).splitOn '\n' = (back.splitOn '\n').modifyHead (front ++ ·) := by
  induction front with
  | nil =>
      rw [List.nil_append]
      cases back.splitOn '\n' <;> rfl
  | cons c front ih =>
      have hc : c ≠ '\n' := fun heq => h (heq ▸ List.mem_cons_self)
      rw [List.cons_append, splitOn_cons_of_ne hc,
        ih fun hmem => h (List.mem_cons_of_mem c hmem)]
      cases back.splitOn '\n' <;> rfl

theorem chompList_front (h : '\r' ∉ front) (back : List Char) :
    ∃ rest, Text.chompList (front ++ back) = front ++ rest := by
  obtain rfl | ⟨init, last, rfl⟩ := List.eq_nil_or_concat' back
  · refine ⟨[], ?_⟩
    rw [List.append_nil, chompList, if_neg fun hlast => h (List.mem_of_getLast? hlast)]
  · rw [chompList, ← List.append_assoc, List.getLast?_concat]
    split
    · exact ⟨init, List.dropLast_concat⟩
    · exact ⟨init ++ [last], List.append_assoc front init [last]⟩

theorem exists_head_terminated {front : String} (back : String) (hfeed : Text.IsLine front)
    (hreturn : '\r' ∉ front.toList) :
    ∃ rest, (Text.terminated (front ++ back)).head? = some (front ++ rest) := by
  rw [terminated_eq_map, String.toList_append, splitOn_append_of_not_mem hfeed]
  cases hsplit : back.toList.splitOn '\n' with
  | nil => exact absurd hsplit (List.splitOn_ne_nil _ _)
  | cons first more =>
      obtain ⟨rest, hrest⟩ := chompList_front hreturn first
      refine ⟨String.ofList rest, ?_⟩
      rw [List.modifyHead_cons, List.map_cons, List.head?_cons, hrest, String.ofList_append,
        String.ofList_toList]

theorem terminated_of_visible {text : String} {c : Char} (hline : Text.IsLine text)
    (htext : text.toList = front ++ [c]) (hc : Text.isWhitespace c = false) : Text.terminated text = [text] := by
  rw [terminated, splitChar_of_isLine hline, List.map_singleton, chomp, htext,
    chompList_concat_of_visible hc, ← htext, String.ofList_toList]

/-! ## The plain line -/

namespace LaneValues

variable (values : LaneValues)

theorem line_eq :
    values.line = Text.join " "
      ("autopilot_loop_lane"
        :: values.pairs.map fun pair => pair.1 ++ String.singleton '=' ++ pair.2) := by
  have hlane : "autopilot_loop_lane lane=" = "autopilot_loop_lane" ++ " " ++ ("lane" ++ "=") := by
    decide
  have hstatus : " status=" = " " ++ ("status" ++ "=") := by decide
  have haction : " action=" = " " ++ ("action" ++ "=") := by decide
  have hselected : " selected=" = " " ++ ("selected" ++ "=") := by decide
  have htarget : " target=" = " " ++ ("target" ++ "=") := by decide
  have hmax : " max_concurrent=" = " " ++ ("max_concurrent" ++ "=") := by decide
  have hrecover : " recover=" = " " ++ ("recover" ++ "=") := by decide
  have hequals : String.singleton '=' = "=" := by decide
  simp only [pairs, List.map_cons, List.map_nil, join_cons _ (List.cons_ne_nil _ _),
    join_singleton]
  unfold line laneLine
  rw [hlane, hstatus, haction, hselected, htarget, hmax, hrecover, hequals]
  simp only [String.append_assoc]

theorem compact_pairs (h : ∀ text ∈ values.texts, Compact text) :
    ∀ pair ∈ values.pairs, Compact pair.1 ∧ pair.1 ≠ "" ∧ Compact pair.2 := by
  simp only [texts, List.forall_mem_cons, List.not_mem_nil, false_implies, implies_true,
    and_true] at h
  obtain ⟨hlane, hstatus, haction, hselected, htarget⟩ := h
  have hrecover : Compact (toString values.recover) := by
    cases values.recover <;> decide
  simp only [pairs, List.forall_mem_cons, List.not_mem_nil, false_implies, implies_true, and_true]
  exact ⟨⟨by decide, by decide, hlane⟩, ⟨by decide, by decide, hstatus⟩,
    ⟨by decide, by decide, haction⟩, ⟨by decide, by decide, hselected⟩,
    ⟨by decide, by decide, htarget⟩, ⟨by decide, by decide, compact_toString _⟩,
    ⟨by decide, by decide, hrecover⟩⟩

theorem splitWhitespace_line (h : ∀ text ∈ values.texts, Compact text) :
    Text.splitWhitespace values.line
      = "autopilot_loop_lane"
        :: values.pairs.map fun pair => pair.1 ++ String.singleton '=' ++ pair.2 := by
  rw [line_eq]
  refine splitWhitespace_join (List.forall_mem_cons.mpr ⟨⟨by decide, by decide⟩, ?_⟩)
  intro word hword
  obtain ⟨pair, hpair, rfl⟩ := List.mem_map.mp hword
  obtain ⟨hkey, hne, hvalue⟩ := values.compact_pairs h pair hpair
  exact ⟨(hkey.append (by decide)).append hvalue, append_ne_empty (append_ne_empty hne)⟩

theorem line_front : ∃ back, values.line = "autopilot_loop_lane " ++ back := by
  have hlane : "autopilot_loop_lane lane=" = "autopilot_loop_lane " ++ "lane=" := by decide
  refine ⟨"lane=" ++ values.lane ++ " status=" ++ values.status ++ " action=" ++ values.action
    ++ " selected=" ++ values.selected ++ " target=" ++ values.target
    ++ " max_concurrent=" ++ toString values.maxConcurrent.toNat ++ " recover="
    ++ toString values.recover, ?_⟩
  unfold line laneLine
  rw [hlane]
  simp only [String.append_assoc]

theorem line_back : ∃ front, values.line.toList = front ++ ['e'] := by
  have hrecover : ∃ front, (toString values.recover).toList = front ++ ['e'] := by
    cases values.recover with
    | false => exact ⟨['f', 'a', 'l', 's'], rfl⟩
    | true => exact ⟨['t', 'r', 'u'], rfl⟩
  obtain ⟨front, hfront⟩ := hrecover
  unfold line laneLine
  rw [String.toList_append, hfront, ← List.append_assoc]
  exact ⟨_, rfl⟩

theorem startsWith_line : Text.startsWith values.line "autopilot_loop_lane " = true := by
  obtain ⟨back, hback⟩ := values.line_front
  rw [hback, startsWith, String.toList_append, List.isPrefixOf_iff_prefix]
  exact List.prefix_append _ _

/-- The values as the reader of words takes them. -/
def unquoted : LaneValues :=
  { values with
    lane := unquote values.lane
    status := unquote values.status
    action := unquote values.action
    selected := unquote values.selected
    target := unquote values.target }

theorem keyValue_line (h : ∀ text ∈ values.texts, Compact text) (key : String) :
    keyValue values.line key = (values.pairs.reverse.lookup key).map unquote := by
  refine keyValue_pairs (values.splitWhitespace_line h) ?_ key
  simp only [pairs, List.forall_mem_cons, List.not_mem_nil, false_implies, implies_true, and_true]
  decide

theorem parseAutoloopLane_line (h : ∀ text ∈ values.texts, Compact text) (atMs : Nat) :
    (parseAutoloopLane values.line atMs).map LaneSnapshot.view = some values.unquoted.view := by
  have hread := values.keyValue_line h
  have hlane : keyValue values.line "lane" = some (unquote values.lane) := hread "lane"
  have hstatus : keyValue values.line "status" = some (unquote values.status) := hread "status"
  have haction : keyValue values.line "action" = some (unquote values.action) := hread "action"
  have hselected : keyValue values.line "selected" = some (unquote values.selected) :=
    hread "selected"
  have htarget : keyValue values.line "target" = some (unquote values.target) := hread "target"
  have hmax : keyValue values.line "max_concurrent" = some (toString values.maxConcurrent.toNat) := by
    rw [← unquote_toString]
    exact hread "max_concurrent"
  have hrecover : keyValue values.line "recover" = some (toString values.recover) := by
    rw [← unquote_bool]
    exact hread "recover"
  simp [parseAutoloopLane, startsWith_line, hlane, LaneSnapshot.view, hstatus, optionalField,
    haction, hselected, htarget, hmax, hrecover, parseBool_toString, view, unquoted]
  exact parseU64_toString values.maxConcurrent

end LaneValues

theorem exists_of_unquote_ne (h : unquote value ≠ value) :
    ∃ quoted, value.toList = '"' :: quoted ∧ quoted ≠ [] := by
  rw [unquote] at h
  split at h
  · next quoted heq =>
    refine ⟨quoted, heq, ?_⟩
    rintro rfl
    exact h (if_neg (by simp))
  · exact absurd rfl h

theorem shown_of_unquote_ne (h : unquote value ≠ value) : shown value = true := by
  obtain ⟨quoted, hvalue, -⟩ := exists_of_unquote_ne h
  have hempty : value ≠ "" := by
    rintro rfl
    cases hvalue
  have hnone : value ≠ "none" := by
    rintro rfl
    cases hvalue
  rw [shown, bne_iff_ne.mpr hempty, bne_iff_ne.mpr hnone, Bool.and_self]

theorem filter_unquote_iff :
    (some (unquote value)).filter shown = (some value).filter shown ↔ unquote value = value := by
  refine ⟨fun h => ?_, fun h => by rw [h]⟩
  by_contra hne
  rw [Option.filter_some_pos (shown_of_unquote_ne hne)] at h
  have hmem : value ∈ (some (unquote value)).filter shown := h
  exact hne (Option.some.inj (Option.mem_filter_iff.mp hmem).1)

theorem LaneValues.view_unquoted_iff (values : LaneValues) :
    values.unquoted.view = values.view ↔ ∀ text ∈ values.texts, unquote text = text := by
  simp only [view, unquoted, LaneView.mk.injEq, filter_unquote_iff, and_true, texts,
    List.forall_mem_cons, List.not_mem_nil, false_implies, implies_true]

/-! ## Compact views -/

/-- Every text of the view is one word. -/
structure LaneView.IsCompact (view : LaneView) : Prop where
  lane : Compact view.lane
  status : Compact view.status
  action : ∀ text ∈ view.action, Compact text
  selected : ∀ text ∈ view.selected, Compact text
  target : ∀ text ∈ view.target, Compact text

theorem compact_of_optionalField {line key text : String} (h : text ∈ optionalField line key) :
    Compact text := compact_of_keyValue (Option.mem_filter_iff.mp h).1

theorem isCompact_of_parseAutoloopLane {line : String} {atMs : Nat} {view : LaneView}
    (h : (parseAutoloopLane line atMs).map LaneSnapshot.view = some view) : view.IsCompact := by
  obtain ⟨snapshot, hsnapshot, rfl⟩ := Option.map_eq_some_iff.mp h
  rw [parseAutoloopLane] at hsnapshot
  split at hsnapshot
  · cases hsnapshot
  · obtain ⟨lane, hlane, hsnapshot⟩ := Option.bind_eq_some_iff.mp hsnapshot
    rw [← Option.some.inj hsnapshot]
    have hstatus : Compact ((keyValue line "status").getD "unknown") := by
      cases hstatus : keyValue line "status" with
      | none => decide
      | some status => exact compact_of_keyValue hstatus
    constructor <;> dsimp only [LaneSnapshot.view]
    case lane => exact compact_of_keyValue hlane
    case status => exact hstatus
    all_goals exact fun text htext => compact_of_optionalField htext

theorem compact_of_filter_shown (h : ∀ text ∈ (some value).filter shown, Compact text) : Compact value := by
  by_cases hshown : shown value = true
  · exact h value (Option.mem_filter_iff.mpr ⟨rfl, hshown⟩)
  · simp only [shown, Bool.and_eq_true, bne_iff_ne, not_and, not_not] at hshown
    by_cases hempty : value = ""
    · rw [hempty]
      decide
    · rw [hshown hempty]
      decide

theorem LaneValues.compact_of_view {values : LaneValues} (h : values.view.IsCompact) :
    ∀ text ∈ values.texts, Compact text := by
  simp only [texts, List.forall_mem_cons, List.not_mem_nil, false_implies, implies_true, and_true]
  exact ⟨h.lane, h.status, compact_of_filter_shown h.action, compact_of_filter_shown h.selected,
    compact_of_filter_shown h.target⟩

/-! ## The event -/

def LaneReport.event (report : LaneReport) : Json :=
  autopilotEvent "autopilot_loop_lane" report.payload

/-- What the reader of events asks of a payload, answered by the values of a report. -/
structure Carries (payload : Json) (values : LaneValues) (issue : Option AutopilotIssueSummary)
    (targetState : Option String) : Prop where
  lane : payload.get "lane" = some (.str values.lane)
  status : payload.get "status" = some (.str values.status)
  action : payload.get "action" = some (.str values.action)
  noSelected : payload.get "selected" = none
  selectedIssue : payload.get "selected_issue" = some (issueJson issue)
  selected : values.selected = LaneReport.selectedText issue
  target_state : payload.get "target_state" = some (optionalText targetState)
  noTargetState : payload.get "targetState" = none
  noTarget : payload.get "target" = none
  target : values.target = targetState.getD "none"
  maxConcurrent : payload.get "max_concurrent" = some (.int values.maxConcurrent.toNat)
  recover : payload.get "recover" = some (.bool values.recover)

section

variable {payload : Json} {values : LaneValues} {issue : Option AutopilotIssueSummary}
  {targetState : Option String}

theorem Carries.selectedIssueField_eq (h : Carries payload values issue targetState) :
    selectedIssueField payload = (some values.selected).filter shown := by
  have hcamel : snakeToCamel "selected" = "selected" := by decide
  rw [selectedIssueField, optionalJsonField, stringJsonField, hcamel, h.noSelected,
    h.selectedIssue, h.selected]
  cases issue with
  | none =>
      have hnone : (some "none").filter shown = none := by decide
      simp [issueJson, Json.get, Json.asStr, LaneReport.selectedText, hnone]
  | some issue => simp [issueJson, Json.get, Json.asStr, LaneReport.selectedText]

theorem Carries.targetField_eq (h : Carries payload values issue targetState) :
    (optionalJsonField payload "target_state" <|> optionalJsonField payload "target")
      = (some values.target).filter shown := by
  have hcamel : snakeToCamel "target_state" = "targetState" := by decide
  have hsame : snakeToCamel "target" = "target" := by decide
  rw [optionalJsonField, optionalJsonField, stringJsonField, stringJsonField, hcamel, hsame,
    h.target_state, h.noTargetState, h.noTarget, h.target]
  cases targetState with
  | none => decide
  | some state => simp [optionalText, Json.asStr]

theorem asU64_toNat (n : UInt64) : (Json.int n.toNat).asU64 = some n.toNat := by
  have hlt : n.toNat < 18446744073709551616 := n.toNat_lt
  generalize n.toNat = value at hlt
  have hcast : (value : Int) < 18446744073709551616 := by omega
  rw [Json.asU64, if_pos ⟨Int.natCast_nonneg value, hcast⟩, Int.toNat_natCast]

theorem Carries.parseAutoloopLaneEvent_eq (h : Carries payload values issue targetState)
    (atMs : Nat) :
    (parseAutoloopLaneEvent (some (autopilotEvent "autopilot_loop_lane" payload)) atMs).map
      LaneSnapshot.view = some values.view := by
  have hevent : ((autopilotEvent "autopilot_loop_lane" payload).get "event").bind Json.asStr
      = some "autopilot_loop_lane" := by
    simp [autopilotEvent, Json.get, Json.asStr, List.lookup_cons]
  have hpayload : (autopilotEvent "autopilot_loop_lane" payload).get "payload" = some payload := by
    simp [autopilotEvent, Json.get, List.lookup_cons]
  have hlane : stringJsonField payload "lane" = some values.lane := by
    rw [stringJsonField, h.lane]
    rfl
  have hstatus : stringJsonField payload "status" = some values.status := by
    rw [stringJsonField, h.status]
    rfl
  have haction : stringJsonField payload "action" = some values.action := by
    rw [stringJsonField, h.action]
    rfl
  have haction : optionalJsonField payload "action" = (some values.action).filter shown := by
    rw [optionalJsonField, haction]
  have htarget := h.targetField_eq
  rw [parseAutoloopLaneEvent]
  simp only [Option.bind_eq_bind, Option.bind_some, hevent, hpayload, hlane, bne_self_eq_false,
    Bool.false_eq_true, if_false, Option.map_some, LaneSnapshot.view, hstatus, haction,
    h.selectedIssueField_eq, htarget, h.maxConcurrent, h.recover]
  have hfirst : ∀ value other : Option Json, value.isSome = true → (value <|> other) = value := by
    rintro (- | value) other h
    · cases h
    · rfl
  rw [hfirst _ _ rfl, Option.bind_some, asU64_toNat]
  rfl

end

namespace LaneReport

def selectedIssue : LaneReport → Option AutopilotIssueSummary
  | running _ lanePlan _ _ => lanePlan.bind fun plan => plan.selectedIssue
  | result lane => lane.selectedIssue

def targetState : LaneReport → Option String
  | running _ lanePlan _ _ => lanePlan.bind PrintedLanePlan.targetState
  | result lane => lane.targetState

theorem payload_carries (report : LaneReport) :
    Carries report.payload report.values report.selectedIssue report.targetState := by
  cases report with
  | running lane lanePlan maxConcurrent recover =>
      constructor <;> simp [payload, values, selectedIssue, targetState, Json.get, List.lookup_cons]
  | result lane =>
      constructor <;> simp [payload, values, selectedIssue, targetState, Json.get, List.lookup_cons]

theorem isLine_optionalText (value : Option String) :
    Text.IsLine (optionalText value).render := by
  cases value with
  | none => exact Json.isLine_render_null
  | some value => exact Json.isLine_render_str value

theorem isLine_issueJson (issue : Option AutopilotIssueSummary) :
    Text.IsLine (issueJson issue).render := by
  cases issue with
  | none => exact Json.isLine_render_null
  | some issue =>
      exact Json.isLine_render_obj <|
        List.forall_mem_singleton.mpr (Json.isLine_render_str issue.identifier)

theorem isLine_latestResultJson (result : AutopilotLaneLatestResult) :
    Text.IsLine (latestResultJson result).render := by
  refine Json.isLine_render_obj ?_
  simp only [List.forall_mem_cons, List.not_mem_nil, false_implies, implies_true, and_true]
  exact ⟨Json.isLine_render_str _, isLine_optionalText _, Json.isLine_render_str _,
    isLine_optionalText _⟩

theorem isLine_payload (report : LaneReport) : Text.IsLine report.payload.render := by
  cases report with
  | running lane lanePlan maxConcurrent recover =>
      refine Json.isLine_render_obj ?_
      simp only [List.forall_mem_cons, List.not_mem_nil, false_implies, implies_true, and_true]
      exact ⟨Json.isLine_render_str _, Json.isLine_render_str _, Json.isLine_render_nat _,
        Json.isLine_render_bool _, isLine_issueJson _, Json.isLine_render_str _,
        isLine_optionalText _⟩
  | result lane =>
      refine Json.isLine_render_obj ?_
      simp only [List.forall_mem_cons, List.not_mem_nil, false_implies, implies_true, and_true]
      exact ⟨Json.isLine_render_str _, Json.isLine_render_nat _, Json.isLine_render_strings _,
        isLine_optionalText _, Json.isLine_render_str _, isLine_latestResultJson _,
        Json.isLine_render_nat _, Json.isLine_render_bool _, isLine_issueJson _,
        Json.isLine_render_str _, isLine_optionalText _, Json.isLine_render_bool _⟩

theorem isLine_event (report : LaneReport) : Text.IsLine report.event.render := by
  refine Json.isLine_render_obj ?_
  simp only [List.forall_mem_cons, List.not_mem_nil, false_implies, implies_true, and_true]
  exact ⟨Json.isLine_render_str _, report.isLine_payload, Json.isLine_render_nat 1,
    Json.isLine_render_str _⟩

theorem terminated_event (report : LaneReport) :
    Text.terminated report.event.render = [report.event.render] := by
  obtain ⟨front, hfront⟩ := Json.render_obj_suffix
    [("event", .str "autopilot_loop_lane"), ("payload", report.payload), ("schema_version", .int 1),
      ("source", .str "shea-symphony")]
  have hlist : report.event.render.toList = front.toList ++ ['\x7d'] := by
    rw [← String.toList_singleton, ← String.toList_append]
    exact congrArg String.toList hfront
  exact terminated_of_visible report.isLine_event hlist (by decide)

theorem print_plain (report : LaneReport) (verbose : Bool) :
    report.print false verbose = [report.values.line] ∨ report.print false verbose = [] := by
  cases report with
  | running lane lanePlan maxConcurrent recover =>
      simp only [print, printAutopilotLaneRunning, printAutopilotEvent, Bool.not_false,
        Bool.true_and, Bool.false_eq_true, if_false, List.append_nil]
      split
      · exact Or.inl rfl
      · exact Or.inr rfl
  | result lane =>
      simp only [print, printAutopilotLaneResult, printAutopilotEvent, Bool.not_false,
        Bool.true_and, Bool.false_eq_true, if_false, List.append_nil]
      split
      · exact Or.inl rfl
      · exact Or.inr rfl

theorem print_json (report : LaneReport) (verbose : Bool) :
    report.print true verbose = [report.event.render] := by
  cases report <;> rfl

/-! ## Agreement -/

section

variable {parse : String → Option Json}

theorem snapshotOf_json (report : LaneReport) (verbose : Bool) (atMs : Nat)
    (hjson : parse report.event.render = some report.event) :
    (snapshotOf parse (report.print true verbose) atMs).map LaneSnapshot.view
      = some report.values.view := by
  have hsource : (report.event.get "source").bind Json.asStr = some "shea-symphony" := by
    simp [event, autopilotEvent, Json.get, Json.asStr]
  have hname : (report.event.get "event").bind Json.asStr = some "autopilot_loop_lane" := by
    simp [event, autopilotEvent, Json.get, Json.asStr, List.lookup_cons]
  have hevent : parseAutoloopEvent parse report.event.render = some report.event := by
    rw [parseAutoloopEvent, hjson, Option.filter_some_pos]
    rw [hsource, hname, beq_self_eq_true, Bool.true_and, Option.isSome_some]
  have hview := report.payload_carries.parseAutoloopLaneEvent_eq atMs
  obtain ⟨snapshot, hsnapshot, hview⟩ := Option.map_eq_some_iff.mp hview
  rw [print_json, snapshotOf_singleton, terminated_event, List.head?_cons, Option.bind_some,
    readLane, hevent, event, hsnapshot, ← hview]
  rfl

theorem readLane_plain {line : String} (atMs : Nat)
    (hplain : ∀ rest, parse ("autopilot_loop_lane " ++ rest) = none)
    (hline : ∃ rest, line = "autopilot_loop_lane " ++ rest) :
    readLane parse line atMs = parseAutoloopLane line atMs := by
  obtain ⟨rest, hline⟩ := hline
  rw [readLane, parseAutoloopEvent, hline, hplain]
  rfl

theorem snapshotOf_plain (values : LaneValues) (atMs : Nat)
    (hplain : ∀ rest, parse ("autopilot_loop_lane " ++ rest) = none) :
    ∃ line, snapshotOf parse [values.line] atMs = parseAutoloopLane line atMs := by
  obtain ⟨back, hback⟩ := values.line_front
  obtain ⟨rest, hrest⟩ := @exists_head_terminated "autopilot_loop_lane " back
    (by simp [Text.IsLine]) (by simp)
  refine ⟨"autopilot_loop_lane " ++ rest, ?_⟩
  rw [snapshotOf_singleton, hback, hrest, Option.bind_some]
  exact readLane_plain atMs hplain ⟨rest, rfl⟩

theorem terminated_line {values : LaneValues} (h : ∀ text ∈ values.texts, Compact text) :
    Text.terminated values.line = [values.line] := by
  have hline : Text.IsLine values.line := by
    rw [values.line_eq]
    refine Json.isLine_join (by simp [Text.IsLine]) (List.forall_mem_cons.mpr ⟨?_, ?_⟩)
    · exact isLine_of_compact (by decide)
    · intro word hword
      obtain ⟨pair, hpair, rfl⟩ := List.mem_map.mp hword
      obtain ⟨hkey, -, hvalue⟩ := values.compact_pairs h pair hpair
      exact isLine_of_compact ((hkey.append (by decide)).append hvalue)
  obtain ⟨front, hfront⟩ := values.line_back
  exact terminated_of_visible hline hfront (by decide)

theorem snapshotOf_plain_of_compact {values : LaneValues} (atMs : Nat)
    (hplain : ∀ rest, parse ("autopilot_loop_lane " ++ rest) = none)
    (h : ∀ text ∈ values.texts, Compact text) :
    (snapshotOf parse [values.line] atMs).map LaneSnapshot.view = some values.unquoted.view := by
  rw [snapshotOf_singleton, terminated_line h, List.head?_cons, Option.bind_some,
    readLane_plain atMs hplain values.line_front]
  exact values.parseAutoloopLane_line h atMs

theorem plain_agrees_iff (values : LaneValues) (atMs : Nat)
    (hplain : ∀ rest, parse ("autopilot_loop_lane " ++ rest) = none) :
    (snapshotOf parse [values.line] atMs).map LaneSnapshot.view = some values.view
      ↔ ∀ text ∈ values.texts, LaneValues.IsPlain text := by
  constructor
  · intro h
    obtain ⟨line, hline⟩ := snapshotOf_plain values atMs hplain
    have hcompact : ∀ text ∈ values.texts, Compact text :=
      LaneValues.compact_of_view (isCompact_of_parseAutoloopLane (hline ▸ h))
    have hview : values.unquoted.view = values.view := Option.some.inj <|
      (snapshotOf_plain_of_compact atMs hplain hcompact).symm.trans h
    have hunquote := values.view_unquoted_iff.mp hview
    exact fun text htext => ⟨hcompact text htext, hunquote text htext⟩
  · intro h
    rw [snapshotOf_plain_of_compact atMs hplain fun text htext => (h text htext).1,
      values.view_unquoted_iff.mpr fun text htext => (h text htext).2]

/-- A parser that knows one document. -/
def parserOf (report : LaneReport) (line : String) : Option Json :=
  if line = report.event.render then some report.event else none

theorem parserOf_event (report : LaneReport) :
    parserOf report report.event.render = some report.event := if_pos rfl

theorem parserOf_plain (report : LaneReport) (rest : String) :
    parserOf report ("autopilot_loop_lane " ++ rest) = none := by
  refine if_neg fun h => ?_
  have hfront : ∃ back, report.event.render.toList = '\x7b' :: back := by
    rw [event, autopilotEvent, Json.render_obj, String.toList_append, String.toList_append]
    exact ⟨_, rfl⟩
  obtain ⟨back, hback⟩ := hfront
  have hlist : ('a' :: ("utopilot_loop_lane ".toList ++ rest.toList)) = '\x7b' :: back := by
    rw [← hback, ← h, String.toList_append]
    rfl
  exact absurd (List.cons.inj hlist).1 (by decide)

/-- **The formats agree on words.** Whatever the loop prints of a lane in both formats, the
app sees the same of it exactly when every value is one word and not in quotes. -/
theorem formats_agree_iff (parse : String → Option Json) (report : LaneReport) (verbose : Bool)
    (plainMs jsonMs : Nat) (hprinted : report.print false verbose ≠ [])
    (hjson : parse report.event.render = some report.event)
    (hplain : ∀ rest, parse ("autopilot_loop_lane " ++ rest) = none) :
    (snapshotOf parse (report.print false verbose) plainMs).map LaneSnapshot.view
        = (snapshotOf parse (report.print true verbose) jsonMs).map LaneSnapshot.view
      ↔ ∀ text ∈ report.values.texts, LaneValues.IsPlain text := by
  rw [(report.print_plain verbose).resolve_right hprinted,
    report.snapshotOf_json verbose jsonMs hjson]
  exact plain_agrees_iff report.values plainMs hplain

/-- A review that is done, in a lane whose next state has this name. -/
def reviewDone (target : String) : LaneReport :=
  .result
    { lane := "review"
      status := "completed"
      action := "review_once"
      workUnitCompleted := true
      completedWorkUnits := 1
      issueRef := some "#7"
      latestResult :=
        { status := "completed"
          action := "review_once"
          issueRef := some "#7"
          targetState := some target }
      selectedIssue := some { identifier := "#7" }
      targetState := some target
      maxConcurrent := 1
      recover := true
      evidence := [] }

theorem formats_agree_merging :
    (snapshotOf (parserOf (reviewDone "Merging")) ((reviewDone "Merging").print false false) 5).map
        LaneSnapshot.view
      = (snapshotOf (parserOf (reviewDone "Merging")) ((reviewDone "Merging").print true false)
          5).map LaneSnapshot.view :=
  (formats_agree_iff (parserOf (reviewDone "Merging")) (reviewDone "Merging") false 5 5 (by simp [
    reviewDone, print, printAutopilotLaneResult, autopilotLaneResultIsNoop])
    (parserOf_event _) (parserOf_plain _)).mpr (by decide)

/-- The plain line tells of the state `Human Review` only its first word. -/
theorem human_review_cut :
    (snapshotOf (parserOf (reviewDone "Human Review")) ((reviewDone "Human Review").print false false)
          5).map LaneSnapshot.view
      ≠ (snapshotOf (parserOf (reviewDone "Human Review"))
          ((reviewDone "Human Review").print true false) 5).map LaneSnapshot.view := by
  have hline : (reviewDone "Human Review").print false false
      = [(reviewDone "Human Review").values.line] := by
    simp [reviewDone, print, printAutopilotLaneResult, autopilotLaneResultIsNoop,
      printAutopilotEvent, values, LaneValues.line]
  rw [hline, snapshotOf_json _ _ _ (parserOf_event _), ne_eq,
    plain_agrees_iff _ _ (parserOf_plain _)]
  decide

end

end LaneReport

end SheaSymphony.LaneSignals

import SheaSymphony.JsonText
import SheaSymphony.LiveHandoff
import SheaSymphony.SessionOutcome

/-!
# The events a run writes down

The artifact of a run is the pretty text of its events (`serde_json::to_string_pretty`).
The text of a stall stands in it exactly where one of the events has it in a text
(`contains_eventsArtifact`): neither the frame nor an escape makes one up. A run that has
stalled says so in its message (`AppServerRun.EndsStalled.message`).
-/

namespace SheaSymphony.Agent

open Json (quote)
open MainHandoff (appServerStall)
open Text (contains contains_append_of_skip contains_append_of_head)

namespace AgentEvent

def optional (value : Option String) : Json := (value.map Json.str).getD .null

def variant : AgentEvent → String
  | sessionStarted .. => "SessionStarted"
  | message .. => "Message"
  | tokenUsage .. => "TokenUsage"
  | completed .. => "Completed"
  | failed .. => "Failed"

def fields : AgentEvent → List (String × Json)
  | sessionStarted backend sessionId => [("backend", .str backend), ("session_id", .str sessionId)]
  | message backend sessionId text =>
      [("backend", .str backend), ("session_id", optional sessionId), ("text", .str text)]
  | tokenUsage backend inputTokens outputTokens totalTokens =>
      [("backend", .str backend), ("input_tokens", .int inputTokens),
        ("output_tokens", .int outputTokens), ("total_tokens", .int totalTokens)]
  | completed backend sessionId summary =>
      [("backend", .str backend), ("session_id", optional sessionId), ("summary", .str summary)]
  | failed backend error => [("backend", .str backend), ("error", .str error)]

/-- The texts among the fields. -/
def texts (event : AgentEvent) : List String := event.fields.filterMap fun field => field.2.asStr

end AgentEvent

def prettyField (field : String × Json) : String :=
  "\n      " ++ (quote field.1 ++ (": " ++ field.2.render))

def prettyEvent (event : AgentEvent) : String :=
  "\n  \x7b\n    " ++ (quote event.variant ++ (": \x7b"
    ++ (Text.join "," (event.fields.map prettyField) ++ "\n    \x7d\n  \x7d")))

def eventsArtifact (events : List AgentEvent) : String :=
  if events.isEmpty then "[]" else "[" ++ (Text.join "," (events.map prettyEvent) ++ "\n]")

/-! ## What stands in it -/

theorem stall_not_in_quote (s : String) :
    contains (quote s) appServerStall = contains s appServerStall :=
  Json.contains_quote (p := 'C') rfl (Text.forall_mem_of_all (by decide)) (by decide) s

theorem stall_past {front : String} (h : 'C' ∉ front.toList) (back : String) :
    contains (front ++ back) appServerStall = contains back appServerStall :=
  contains_append_of_skip (c := 'C') rfl h

theorem stall_before {front back : String} {c : Char} (hback : back.toList.head? = some c)
    (hc : c ∉ appServerStall.toList) (hnone : contains back appServerStall = false) :
    contains (front ++ back) appServerStall = contains front appServerStall := by
  refine Bool.eq_iff_iff.mpr ((contains_append_of_head hback hc).trans (or_iff_left ?_))
  rw [hnone]
  exact Bool.false_ne_true

theorem contains_render_int (n : Nat) :
    contains (Json.render (.int n)) appServerStall = false := by
  refine decide_eq_false fun h => ?_
  have hmem : 'C' ∈ (toString n).toList := h.subset (by decide)
  rw [show (toString n).toList = Codes.decimal n from Nat.toList_repr] at hmem
  exact Codes.not_mem_decimal (by decide) hmem

namespace AgentEvent

variable (event : AgentEvent)

theorem fields_plain : ∀ field ∈ event.fields, 'C' ∉ (quote field.1).toList
    ∧ ((∃ text, field.2 = .str text)
      ∨ field.2.asStr = none ∧ contains field.2.render appServerStall = false) := by
  have hoptional : ∀ value, (∃ text, optional value = .str text)
      ∨ (optional value).asStr = none ∧ contains (optional value).render appServerStall = false := by
    intro value
    cases value with
    | none => exact Or.inr ⟨rfl, by decide⟩
    | some text => exact Or.inl ⟨text, rfl⟩
  cases event with
  | sessionStarted backend sessionId =>
      simp only [fields, List.forall_mem_cons]
      exact ⟨⟨by decide, Or.inl ⟨_, rfl⟩⟩, ⟨by decide, Or.inl ⟨_, rfl⟩⟩, by simp⟩
  | message backend sessionId text =>
      simp only [fields, List.forall_mem_cons]
      exact ⟨⟨by decide, Or.inl ⟨_, rfl⟩⟩, ⟨by decide, hoptional _⟩,
        ⟨by decide, Or.inl ⟨_, rfl⟩⟩, by simp⟩
  | tokenUsage backend inputTokens outputTokens totalTokens =>
      simp only [fields, List.forall_mem_cons]
      exact ⟨⟨by decide, Or.inl ⟨_, rfl⟩⟩, ⟨by decide, Or.inr ⟨rfl, contains_render_int _⟩⟩,
        ⟨by decide, Or.inr ⟨rfl, contains_render_int _⟩⟩,
        ⟨by decide, Or.inr ⟨rfl, contains_render_int _⟩⟩, by simp⟩
  | completed backend sessionId summary =>
      simp only [fields, List.forall_mem_cons]
      exact ⟨⟨by decide, Or.inl ⟨_, rfl⟩⟩, ⟨by decide, hoptional _⟩,
        ⟨by decide, Or.inl ⟨_, rfl⟩⟩, by simp⟩
  | failed backend error =>
      simp only [fields, List.forall_mem_cons]
      exact ⟨⟨by decide, Or.inl ⟨_, rfl⟩⟩, ⟨by decide, Or.inl ⟨_, rfl⟩⟩, by simp⟩

theorem contains_prettyField {field : String × Json} (h : field ∈ event.fields) :
    contains (prettyField field) appServerStall = true
      ↔ ∃ text, field.2.asStr = some text ∧ contains text appServerStall = true := by
  obtain ⟨hname, hvalue⟩ := event.fields_plain field h
  rw [prettyField, stall_past (by decide), stall_past hname, stall_past (by decide)]
  rcases hvalue with ⟨text, htext⟩ | ⟨hnone, hvalue⟩
  · rw [htext, show Json.render (.str text) = quote text from rfl, stall_not_in_quote]
    constructor
    · exact fun h => ⟨text, rfl, h⟩
    · rintro ⟨other, hother, h⟩
      exact Option.some.inj hother ▸ h
  · rw [hnone, hvalue]
    simp

theorem contains_prettyEvent :
    contains (prettyEvent event) appServerStall = true
      ↔ ∃ text ∈ event.texts, contains text appServerStall = true := by
  have hnames : ∀ name ∈ ["SessionStarted", "Message", "TokenUsage", "Completed", "Failed"],
      contains (quote name) appServerStall = false := by decide
  have hvariant := hnames event.variant (by cases event <;> simp [variant])
  have hend : contains "\n    \x7d\n  \x7d" appServerStall = false := by decide
  have hfields : ∀ back : String, contains (quote event.variant ++ (": \x7b" ++ back)) appServerStall
      = contains back appServerStall := by
    intro back
    have hhead : (": \x7b" ++ back).toList.head? = some ':' := by
      rw [String.toList_append]
      rfl
    refine Bool.eq_iff_iff.mpr ((contains_append_of_head hhead (by decide)).trans ?_)
    rw [stall_past (by decide), hvariant]
    simp
  rw [prettyEvent, stall_past (by decide), hfields, stall_before (c := '\n') rfl (by decide) hend,
    Text.contains_join_iff (by decide) (by decide) (Text.forall_mem_of_all (by decide))]
  simp only [texts, List.mem_map, List.mem_filterMap, exists_exists_and_eq_and]
  constructor
  · rintro ⟨field, hfield, hcontains⟩
    obtain ⟨text, htext, h⟩ := (event.contains_prettyField hfield).mp hcontains
    exact ⟨text, ⟨field, hfield, htext⟩, h⟩
  · rintro ⟨text, ⟨field, hfield, htext⟩, h⟩
    exact ⟨field, hfield, (event.contains_prettyField hfield).mpr ⟨text, htext, h⟩⟩

end AgentEvent

/-- The events quote the text of a stall. -/
def Quotes (events : List AgentEvent) : Prop :=
  ∃ event ∈ events, ∃ text ∈ event.texts, contains text appServerStall = true

theorem contains_eventsArtifact (events : List AgentEvent) :
    contains (eventsArtifact events) appServerStall = true ↔ Quotes events := by
  unfold eventsArtifact Quotes
  cases events with
  | nil => simp [show contains "[]" appServerStall = false by decide]
  | cons event events =>
      have hend : contains "\n]" appServerStall = false := by decide
      rw [if_neg (by simp), stall_past (by decide), stall_before (c := '\n') rfl (by decide) hend,
        Text.contains_join_iff (by decide) (by decide) (Text.forall_mem_of_all (by decide))]
      simp only [List.mem_map, exists_exists_and_eq_and, AgentEvent.contains_prettyEvent]

/-! ## A run that stalls -/

/-- The run has reported its turn and has waited in vain for its end. -/
def AppServerRun.EndsStalled (run : AppServerRun) : Prop :=
  ∃ threadId turnId passed steps rest, Opens run threadId turnId passed steps rest
    ∧ run.saveRecord threadId (sessionName threadId turnId) = .ok ()
    ∧ (∀ line ∈ rest, run.GoesOn line) ∧ run.cut = .deadline true

theorem awaitTerminalFrom_stalled {run : AppServerRun} (hcut : run.cut = .deadline true)
    (sessionId : String) : ∀ (lines : List String) (world : AppServerWorld), world.lines = lines →
      (∀ line ∈ lines, run.GoesOn line) →
      awaitTerminalFrom run sessionId lines world
        = (.error appServerStall, world.past run (some sessionId) lines [])
  | [], world, hlines, _ => by
      rw [awaitTerminalFrom, cutError, hcut, world_past_nil run (some sessionId) hlines]
      rfl
  | line :: rest, world, _, hover => by
      obtain ⟨⟨hopen, hpasses⟩, hover⟩ := List.forall_mem_cons.mp hover
      have hkind : (normalizeJsonRpcLine run.json (some sessionId) (Text.trimEnd line)).event
          = run.lineKind line := normalize_event_eq run.json _ _ _
      simp only [awaitTerminalFrom, hkind]
      rw [if_neg (show run.lineKind line ≠ .turnCompleted from hopen),
        if_neg (show ¬ isTerminalOrFailClosedAppServerEvent (run.lineKind line) = true from hpasses),
        awaitTerminalFrom_stalled hcut sessionId rest _ rfl hover,
        past_take_observe]

theorem failure_eq_none {events : List AgentEvent} (h : ¬ Fails events) :
    events.findSome? AgentEvent.failure = none := by
  rw [← any_failure_iff, ← List.isSome_findSome?] at h
  exact Option.not_isSome_iff_eq_none.mp h

theorem AppServerRun.EndsStalled.message {run : AppServerRun} (h : run.EndsStalled)
    (backend : String) : (summarizeEvents backend (appServerRunEvents run)).message = appServerStall := by
  obtain ⟨threadId, turnId, passed, steps, rest, hopens, hsaved, hover, hcut⟩ := h
  have hrun := hopens.run_saved hsaved
  rw [awaitTerminalFrom_stalled hcut _ rest _ rfl hover] at hrun
  have hquiet : ¬ Fails (appServerProtocolRun run).2.events := by
    rw [hrun]
    exact not_fails_opened hopens.passed_open fun line hline => (hover line hline).2
  have hreported : reportedEvents run = (appServerProtocolRun run).2.events
      ++ (if Text.isBlank run.stderr then [] else [.message appServerBackendName none run.stderr])
      ++ [.failed run.backend appServerStall] := by
    rw [reportedEvents, hrun]
  have hfails : ((reportedEvents run).any fun event => event.failure.isSome) = true := by
    rw [any_failure_iff, hreported, fails_append]
    exact Or.inr fails_failed
  have hfirst : (appServerRunEvents run).findSome? AgentEvent.failure = some appServerStall := by
    rw [appServerRunEvents, finishedAppServerEvents_eq, hfails, Bool.not_true, Bool.and_false,
      if_neg Bool.false_ne_true, hreported]
    simp only [List.findSome?_append, failure_eq_none hquiet,
      failure_eq_none (not_fails_of_plain plain_stderr)]
    rfl
  rw [summarizeEvents, hfirst]
  rfl

/-- A run of the codex backend; only one of the app-server has a turn to wait for. -/
inductive CodexRun where
  | appServer (run : AppServerRun)
  | subprocess (events : List AgentEvent)

def CodexRun.events : CodexRun → List AgentEvent
  | appServer run => appServerRunEvents run
  | subprocess events => events

def CodexRun.EndsStalled : CodexRun → Prop
  | appServer run => run.EndsStalled
  | subprocess _ => False

end SheaSymphony.Agent

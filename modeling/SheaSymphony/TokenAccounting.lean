import Mathlib.Algebra.Ring.Parity
import SheaSymphony.AppServer

/-!
# Tokens that are counted

`TokenTotals::from_agent_events` of `model.rs` over the usage that the two backends report. The
sums saturate, so they only grow. The total is the sum of the two or what was reported last,
whichever is larger (`fromAgentEvents_eq`): a smaller report behind a large one takes it back
(`total_lt_iff`).
-/

namespace SheaSymphony.Agent

structure TokenTotals where
  inputTokens : Nat
  outputTokens : Nat
  totalTokens : Nat
  secondsRunning : Nat
deriving DecidableEq

namespace TokenTotals

def default : TokenTotals :=
  { inputTokens := 0, outputTokens := 0, totalTokens := 0, secondsRunning := 0 }

/-- An event of the loop, on the totals so far and the total that was reported last. -/
def count (counted : TokenTotals × Nat) : AgentEvent → TokenTotals × Nat
  | .tokenUsage _ inputTokens outputTokens totalTokens =>
      ({ counted.1 with
          inputTokens := saturatingAdd counted.1.inputTokens inputTokens
          outputTokens := saturatingAdd counted.1.outputTokens outputTokens }, totalTokens)
  | _ => counted

def fromAgentEvents (events : List AgentEvent) : TokenTotals :=
  let (totals, latestReportedTotal) := events.foldl count (default, 0)
  let summedTotal := saturatingAdd totals.inputTokens totals.outputTokens
  { totals with totalTokens := max summedTotal latestReportedTotal }

end TokenTotals

open TokenTotals (fromAgentEvents)

/-! ## Saturating sums -/

def u64Max : Nat := 18446744073709551615

/-- The number, or the largest there is. -/
def saturate (n : Nat) : Nat := min n u64Max

theorem saturatingAdd_eq (a b : Nat) : saturatingAdd a b = saturate (a + b) := rfl

theorem saturate_le (n : Nat) : saturate n ≤ u64Max := Nat.min_le_right _ _

theorem saturate_mono {m n : Nat} (h : m ≤ n) : saturate m ≤ saturate n := by
  simp only [saturate]
  omega

theorem saturate_saturate_add (a b : Nat) : saturate (saturate a + b) = saturate (a + b) := by
  simp only [saturate]
  omega

theorem saturate_add_saturate (a b : Nat) :
    saturate (saturate a + saturate b) = saturate (a + b) := by
  rw [saturate_saturate_add, Nat.add_comm, saturate_saturate_add, Nat.add_comm]

/-! ## What was reported -/

structure Usage where
  input : Nat
  output : Nat
  total : Nat
deriving DecidableEq

def AgentEvent.usage : AgentEvent → Option Usage
  | tokenUsage _ input output total => some { input, output, total }
  | _ => none

def usages (events : List AgentEvent) : List Usage := events.filterMap AgentEvent.usage

def inputSum (events : List AgentEvent) : Nat := ((usages events).map Usage.input).sum

def outputSum (events : List AgentEvent) : Nat := ((usages events).map Usage.output).sum

/-- The total that was reported last, or nothing yet. -/
def latestTotal (events : List AgentEvent) : Nat :=
  ((usages events).getLast?.map Usage.total).getD 0

variable {usage : Usage}

section
variable (events : List AgentEvent) {event : AgentEvent}

theorem usages_append_none (h : event.usage = none) :
    usages (events ++ [event]) = usages events := by
  rw [usages, List.filterMap_append, List.filterMap_cons_none h, List.filterMap_nil,
    List.append_nil]
  rfl

theorem usages_append_some (h : event.usage = some usage) :
    usages (events ++ [event]) = usages events ++ [usage] := by
  rw [usages, List.filterMap_append, List.filterMap_cons_some h, List.filterMap_nil]
  rfl

theorem inputSum_append_some (h : event.usage = some usage) :
    inputSum (events ++ [event]) = inputSum events + usage.input := by
  simp [inputSum, usages_append_some events h]

theorem outputSum_append_some (h : event.usage = some usage) :
    outputSum (events ++ [event]) = outputSum events + usage.output := by
  simp [outputSum, usages_append_some events h]

theorem latestTotal_append_some (h : event.usage = some usage) :
    latestTotal (events ++ [event]) = usage.total := by
  simp [latestTotal, usages_append_some events h]

end

/-! ## The loop -/

/-- The totals the loop has before it sets the sum of the two. -/
def loopTotals (events : List AgentEvent) : TokenTotals where
  inputTokens := saturate (inputSum events)
  outputTokens := saturate (outputSum events)
  totalTokens := 0
  secondsRunning := 0

theorem count_of_none {event : AgentEvent} (counted : TokenTotals × Nat) (h : event.usage = none) :
    TokenTotals.count counted event = counted := by
  cases event with
  | tokenUsage => cases h
  | sessionStarted | message | completed | failed => rfl

theorem count_of_some {event : AgentEvent} (counted : TokenTotals × Nat)
    (h : event.usage = some usage) :
    TokenTotals.count counted event
      = ({ counted.1 with
            inputTokens := saturate (counted.1.inputTokens + usage.input)
            outputTokens := saturate (counted.1.outputTokens + usage.output) }, usage.total) := by
  cases event with
  | tokenUsage =>
      obtain rfl := Option.some.inj h
      rfl
  | sessionStarted | message | completed | failed => cases h

theorem foldl_count (events : List AgentEvent) :
    events.foldl TokenTotals.count (TokenTotals.default, 0)
      = (loopTotals events, latestTotal events) := by
  induction events using List.reverseRecOn with
  | nil => rfl
  | append_singleton events event ih =>
      rw [List.foldl_append, ih, List.foldl_cons, List.foldl_nil]
      cases husage : event.usage with
      | none =>
          rw [count_of_none _ husage, loopTotals, loopTotals, latestTotal, latestTotal, inputSum,
            inputSum, outputSum, outputSum, usages_append_none events husage]
      | some usage =>
          rw [count_of_some _ husage, loopTotals, loopTotals, inputSum_append_some events husage,
            outputSum_append_some events husage, latestTotal_append_some events husage,
            saturate_saturate_add, saturate_saturate_add]

theorem fromAgentEvents_eq (events : List AgentEvent) :
    fromAgentEvents events
      = { inputTokens := saturate (inputSum events)
          outputTokens := saturate (outputSum events)
          totalTokens := max (saturate (inputSum events + outputSum events)) (latestTotal events)
          secondsRunning := 0 } := by
  rw [fromAgentEvents, foldl_count]
  simp only [loopTotals, saturatingAdd_eq, saturate_add_saturate]

/-- A further event takes the total back exactly where it reports usage, and a larger total than
it reports, and than the sums then are, was reported last. -/
theorem total_lt_iff (events : List AgentEvent) (event : AgentEvent) :
    (fromAgentEvents (events ++ [event])).totalTokens < (fromAgentEvents events).totalTokens ↔
      ∃ usage, event.usage = some usage ∧ usage.total < latestTotal events
        ∧ saturate (inputSum (events ++ [event]) + outputSum (events ++ [event]))
          < latestTotal events := by
  simp only [fromAgentEvents_eq]
  cases husage : event.usage with
  | none =>
      simp [inputSum, outputSum, latestTotal, usages_append_none events husage]
  | some usage =>
      have hgrows : saturate (inputSum events + outputSum events)
          ≤ saturate (inputSum (events ++ [event]) + outputSum (events ++ [event])) := by
        apply saturate_mono
        rw [inputSum_append_some events husage, outputSum_append_some events husage]
        omega
      rw [latestTotal_append_some events husage]
      constructor
      · intro h
        exact ⟨usage, rfl, by omega, by omega⟩
      · rintro ⟨_, ⟨rfl⟩, htotal, hsum⟩
        omega

/-! ## Totals of a list of events -/

/-- The totals of a list of events, whatever numbers are in them. -/
structure Accounted (events : List AgentEvent) : Prop where
  sums : (fromAgentEvents events).inputTokens = saturate (inputSum events)
    ∧ (fromAgentEvents events).outputTokens = saturate (outputSum events)
  covers : (fromAgentEvents events).inputTokens ≤ (fromAgentEvents events).totalTokens
    ∧ (fromAgentEvents events).outputTokens ≤ (fromAgentEvents events).totalTokens
    ∧ saturate (inputSum events + outputSum events) ≤ (fromAgentEvents events).totalTokens
  fits : (∀ usage ∈ usages events, usage.total ≤ u64Max) →
    (fromAgentEvents events).totalTokens ≤ u64Max
  grows : ∀ event,
    (fromAgentEvents events).inputTokens ≤ (fromAgentEvents (events ++ [event])).inputTokens
      ∧ (fromAgentEvents events).outputTokens ≤ (fromAgentEvents (events ++ [event])).outputTokens
  drops : ∀ event,
    (fromAgentEvents (events ++ [event])).totalTokens < (fromAgentEvents events).totalTokens ↔
      ∃ usage, event.usage = some usage ∧ usage.total < latestTotal events
        ∧ saturate (inputSum (events ++ [event]) + outputSum (events ++ [event]))
          < latestTotal events

theorem latestTotal_le {events : List AgentEvent}
    (h : ∀ usage ∈ usages events, usage.total ≤ u64Max) : latestTotal events ≤ u64Max := by
  rw [latestTotal]
  cases hlast : (usages events).getLast? with
  | none => exact Nat.zero_le _
  | some usage => exact h usage (List.mem_of_getLast? hlast)

theorem sums_append (events : List AgentEvent) (event : AgentEvent) :
    inputSum events ≤ inputSum (events ++ [event])
      ∧ outputSum events ≤ outputSum (events ++ [event]) := by
  cases husage : event.usage with
  | none =>
      rw [inputSum, inputSum, outputSum, outputSum, usages_append_none events husage]
      exact ⟨Nat.le_refl _, Nat.le_refl _⟩
  | some usage =>
      rw [inputSum_append_some events husage, outputSum_append_some events husage]
      exact ⟨Nat.le_add_right _ _, Nat.le_add_right _ _⟩

theorem accounted (events : List AgentEvent) : Accounted events where
  sums := by
    rw [fromAgentEvents_eq]
    exact ⟨rfl, rfl⟩
  covers := by
    rw [fromAgentEvents_eq]
    have hinput : saturate (inputSum events) ≤ saturate (inputSum events + outputSum events) :=
      saturate_mono (Nat.le_add_right _ _)
    have houtput : saturate (outputSum events) ≤ saturate (inputSum events + outputSum events) :=
      saturate_mono (Nat.le_add_left _ _)
    exact ⟨le_max_of_le_left hinput, le_max_of_le_left houtput, Nat.le_max_left _ _⟩
  fits := by
    intro h
    rw [fromAgentEvents_eq]
    exact Nat.max_le.mpr ⟨saturate_le _, latestTotal_le h⟩
  grows := by
    intro event
    rw [fromAgentEvents_eq, fromAgentEvents_eq]
    obtain ⟨hinput, houtput⟩ := sums_append events event
    exact ⟨saturate_mono hinput, saturate_mono houtput⟩
  drops := total_lt_iff events

/-! ## What the backends report -/

theorem asU64_le {value : Json} {n : Nat} (h : value.asU64 = some n) : n ≤ u64Max := by
  cases value with
  | int i =>
      rw [Json.asU64] at h
      split at h
      · obtain rfl := Option.some.inj h
        rw [u64Max]
        omega
      · cases h
  | null | bool | float | str | arr | obj => cases h

theorem jsonU64Any_le {payload : Json} {keys : List String} {n : Nat}
    (h : jsonU64Any payload keys = some n) : n ≤ u64Max := by
  obtain ⟨key, -, hkey⟩ := List.exists_of_findSome?_eq_some h
  obtain ⟨value, -, hvalue⟩ := Option.bind_eq_some_iff.mp hkey
  exact asU64_le hvalue

theorem jsonU64_le (value : Option Json) : jsonU64 value ≤ u64Max := by
  rw [jsonU64]
  cases hread : value.bind Json.asU64 with
  | none => exact Nat.zero_le _
  | some n =>
      obtain ⟨number, -, hnumber⟩ := Option.bind_eq_some_iff.mp hread
      exact asU64_le hnumber

/-- What a usage report of the app-server says, and what is made of it. The total is the one that
is reported, or else the sum, where that is a number of the same size. -/
structure ServerUsage (payload : Json) (usage : Usage) : Prop where
  input : jsonU64Any ((payload.get "params").getD payload) ["input_tokens", "inputTokens", "input"]
    = some usage.input
  output : jsonU64Any ((payload.get "params").getD payload)
    ["output_tokens", "outputTokens", "output"] = some usage.output
  reported : ∀ total, jsonU64Any ((payload.get "params").getD payload)
    ["total_tokens", "totalTokens", "total"] = some total → usage.total = total
  missing : jsonU64Any ((payload.get "params").getD payload)
      ["total_tokens", "totalTokens", "total"] = none →
    usage.input + usage.output ≤ u64Max → usage.total = usage.input + usage.output
  fits : usage.input ≤ u64Max ∧ usage.output ≤ u64Max

/-- The usage of a message of Claude: a number that is missing is zero, and the sum saturates. -/
structure ClaudeReported (value : Json) (usage : Usage) : Prop where
  fields : ∃ reported, pointer ["message", "usage"] value = some reported
    ∧ usage.input = jsonU64 (reported.get "input_tokens")
    ∧ usage.output = jsonU64 (reported.get "output_tokens")
  total : usage.total = saturate (usage.input + usage.output)
  fits : usage.input ≤ u64Max ∧ usage.output ≤ u64Max ∧ usage.total ≤ u64Max

theorem serverUsage_of_tokenUsageEvent {json : JsonText} {sessionId : Option String}
    {method : String} {payload : Json} {event : AgentEvent}
    (hevent : (tokenUsageEvent json sessionId method payload).agentEvent = some event)
    (husage : event.usage = some usage) : ServerUsage payload usage := by
  unfold tokenUsageEvent at hevent
  dsimp only at hevent
  split at hevent
  · next input output total hinput houtput htotal =>
    obtain rfl := Option.some.inj hevent
    obtain rfl := Option.some.inj husage
    rw [hinput, houtput] at htotal
    refine ⟨hinput, houtput, ?_, ?_, jsonU64Any_le hinput, jsonU64Any_le houtput⟩
    · intro reported hreported
      rw [hreported] at htotal
      exact (Option.some.inj htotal).symm
    · intro hmissing hfits
      rw [hmissing] at htotal
      have hsum : (input + output) % 18446744073709551616 = total := Option.some.inj htotal
      have hlt : input + output < 18446744073709551616 := Nat.lt_succ_of_le hfits
      rw [← hsum, Nat.mod_eq_of_lt hlt]
  · obtain rfl := Option.some.inj hevent
    cases husage

/-- The event tells of no tokens. -/
def Silent (event : CodexAppServerEvent) : Prop :=
  ∀ agent, event.agentEvent = some agent → agent.usage = none

section
variable (json : JsonText) (sessionId : Option String)

theorem silent_malformed (raw message : String) :
    Silent (malformedEvent sessionId raw message) := by
  rintro _ ⟨rfl⟩
  rfl

theorem silent_failed (kind : CodexAppServerEventKind) (method : String) (payload : Json) :
    Silent (failedEvent json sessionId kind method payload) := by
  rintro _ ⟨rfl⟩
  rfl

theorem silent_completed (method : String) (payload : Json) :
    Silent (completedEvent json sessionId method payload) := by
  unfold completedEvent
  dsimp only
  split
  · rintro _ ⟨rfl⟩
    rfl
  · split
    · rintro _ ⟨rfl⟩
      rfl
    · split
      · exact silent_failed json sessionId _ method payload
      · split
        · exact silent_failed json sessionId _ method payload
        · exact silent_malformed sessionId _ _

theorem silent_refusedRequest (kind : CodexAppServerEventKind) (method message : String)
    (payload : Json) : Silent (refusedRequestEvent json sessionId kind method message payload) := by
  rintro _ ⟨rfl⟩
  rfl

theorem silent_notification (method : String) (payload : Json) :
    Silent (notificationEvent json sessionId method payload) := by
  rintro _ ⟨rfl⟩
  rfl

theorem methodEvent_cases (method : String) (payload : Json) :
    methodEvent json sessionId method payload = tokenUsageEvent json sessionId method payload
      ∨ Silent (methodEvent json sessionId method payload) := by
  unfold methodEvent
  split
  · exact .inr (silent_completed json sessionId method payload)
  split
  · exact .inr (silent_failed json sessionId _ method payload)
  split
  · exact .inr (silent_failed json sessionId _ method payload)
  split
  · exact .inl rfl
  split
  · exact .inr (silent_refusedRequest json sessionId _ method _ payload)
  split
  · exact .inr (silent_refusedRequest json sessionId _ method _ payload)
  · exact .inr (silent_notification json sessionId method payload)

theorem serverUsage_of_line {line : String} {event : AgentEvent}
    (hevent : (normalizeJsonRpcLine json sessionId line).agentEvent = some event)
    (husage : event.usage = some usage) :
    ∃ payload, json.parse (Text.trim line) = .ok payload ∧ ServerUsage payload usage := by
  have hsilent : ∀ {read : CodexAppServerEvent}, Silent read → read.agentEvent = some event →
      False := by
    intro read hread h
    rw [hread event h] at husage
    cases husage
  unfold normalizeJsonRpcLine at hevent
  dsimp only at hevent
  split at hevent
  · exact (hsilent (silent_malformed sessionId _ _) hevent).elim
  split at hevent
  · exact (hsilent (silent_malformed sessionId _ _) hevent).elim
  · next payload hparse =>
    split at hevent
    · obtain rfl := Option.some.inj hevent
      cases husage
    · next method _ =>
      rcases methodEvent_cases json sessionId method payload with h | h
      · rw [h] at hevent
        exact ⟨payload, hparse, serverUsage_of_tokenUsageEvent hevent husage⟩
      · exact (hsilent h hevent).elim

end

theorem claudeReported_of_mem {run : ClaudeRun} {state : ClaudeProtocolState} {value : Json}
    {event : AgentEvent} (hevent : event ∈ normalizeClaudeAssistant run state value)
    (husage : event.usage = some usage) : ClaudeReported value usage := by
  rw [normalizeClaudeAssistant, List.mem_append] at hevent
  rcases hevent with hblock | hreport
  · obtain ⟨block, -, hblock⟩ := List.mem_filterMap.mp hblock
    unfold claudeAssistantBlock at hblock
    split at hblock
    · obtain ⟨text, -, rfl⟩ := Option.map_eq_some_iff.mp hblock
      cases husage
    · obtain rfl := Option.some.inj hblock
      cases husage
    · obtain rfl := Option.some.inj hblock
      cases husage
    · cases hblock
  · cases hreported : pointer ["message", "usage"] value with
    | none =>
        rw [hreported] at hreport
        cases hreport
    | some reported =>
        rw [hreported, Option.elim_some, claudeUsage] at hreport
        split at hreport
        · obtain rfl := List.mem_singleton.mp hreport
          obtain rfl := Option.some.inj husage
          exact ⟨⟨reported, hreported, rfl, rfl⟩, rfl, jsonU64_le _, jsonU64_le _, saturate_le _⟩
        · cases hreport

/-- Tokens are counted without a sum that runs over, except that the app-server's own two numbers
are added as they are; and what has been counted is never less later on, except for a total that
was reported. -/
theorem tokens_accounted (json : JsonText) (sessionId : Option String) (run : ClaudeRun)
    (state : ClaudeProtocolState) :
    (∀ line event usage, (normalizeJsonRpcLine json sessionId line).agentEvent = some event →
        event.usage = some usage →
          ∃ payload, json.parse (Text.trim line) = .ok payload ∧ ServerUsage payload usage)
      ∧ (∀ value event usage, event ∈ normalizeClaudeAssistant run state value →
        event.usage = some usage → ClaudeReported value usage)
      ∧ ∀ events, Accounted events :=
  ⟨fun _ _ _ => serverUsage_of_line json sessionId, fun _ _ _ => claudeReported_of_mem, accounted⟩

/-- Two reports of one token each, the second with a smaller total than the first. -/
def largeReport : AgentEvent := .tokenUsage "codex-app-server" 1 1 100

def smallReport : AgentEvent := .tokenUsage "codex-app-server" 1 1 5

theorem smallReport_takes_back :
    ¬ ∀ events event, (fromAgentEvents events).totalTokens
      ≤ (fromAgentEvents (events ++ [event])).totalTokens := by
  intro h
  exact absurd (h [largeReport] smallReport) (by decide)

end SheaSymphony.Agent

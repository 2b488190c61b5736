import SheaSymphony.Config
import SheaSymphony.LaneClaimRoundTrip
import SheaSymphony.Model

/-!
# Claims in the worker pool

`lanes/claim.rs`: the value a lane worker leaves in the claim field when it is
done with an issue, and how the pool reads that field when it looks for work.

The terminal value is the claim rendered with its last state, and behind it the
result as a bare token. The scanner reads that token as a bare one unless it
starts with a quote, so the value is read back exactly for the other results
(`terminal_value_reclaimable_iff`).
-/

namespace SheaSymphony.Lanes

open Config (RuntimeConfig)
open Model (TrackerIssue)

inductive WorkerLane where
  | main | merging
deriving DecidableEq

def WorkerLane.claimField : WorkerLane → String
  | .main => "Main Agent"
  | .merging => "Merging Agent"

def WorkerLane.claimLane : WorkerLane → LaneClaimLane
  | .main => .main
  | .merging => .merge

inductive PoolClaimEligibility where
  | claimable
  | ownedBySelf
  | claimedByOther (owner : String)
  | wrongLaneState (state : String)
  | parentNativeSubissuesIncomplete (reason : String)
deriving DecidableEq

def PoolClaimEligibility.isClaimable : PoolClaimEligibility → Bool
  | .claimable | .ownedBySelf => true
  | _ => false

def projectTextField (issue : TrackerIssue) (name : String) : Option String :=
  (((issue.projectFields name).bind Json.asStr).map Text.trim).filter fun value => value != ""

def terminalLaneClaimValue (claim : LaneClaim) (state : LaneClaimState) (result : String) :
    Except String String :=
  if Text.trim result = "" ∨ result.toList.any Text.isWhitespace then
    .error "terminal lane claim result must be a non-empty compact token"
  else .ok ((claim.withState state).render ++ " result=" ++ result)

/-- The states from which a lane takes issues. -/
def eligibleState (case : Text.UnicodeCase) (issue : TrackerIssue) (lane : WorkerLane)
    (config : RuntimeConfig) : Bool :=
  let normalizedState := issue.normalizedState case
  let stateMap := config.tracker.stateMap
  match lane with
  | .main =>
      normalizedState == Model.normalizeState case stateMap.todo
        || normalizedState == Model.normalizeState case stateMap.rework
        || normalizedState == Model.normalizeState case stateMap.inProgress
  | .merging => normalizedState == Model.normalizeState case stateMap.merging

/-- What the main lane finds in the way of an issue besides its claim. -/
def nativeSubissuesReason (case : Text.UnicodeCase) (issue : TrackerIssue) (lane : WorkerLane)
    (config : RuntimeConfig) : Option String :=
  match lane with
  | .main => Model.nativeSubissueGateBlocker case issue (config.terminalStateSet case)
  | .merging => none

/-- Whose is the issue, by the text of its claim field? -/
def claimOwnership (issue : TrackerIssue) (lane : WorkerLane) (workerId owner : String) :
    PoolClaimEligibility :=
  if owner = workerId then .ownedBySelf
  else match LaneClaim.parse owner with
    | .ok claim =>
        if claim.lane = lane.claimLane ∧ claim.state.isTerminalAuditPointer then .claimable
        else if claim.lane = lane.claimLane ∧ claim.issue = issue.identifier
            ∧ claim.state = .active ∧ claim.worker = some workerId then .ownedBySelf
        else if claim.lane = lane.claimLane then .claimedByOther claim.run
        else .claimedByOther owner
    | .error _ => .claimedByOther owner

def poolClaimEligibility (case : Text.UnicodeCase) (issue : TrackerIssue) (lane : WorkerLane)
    (workerId : String) (config : RuntimeConfig) : PoolClaimEligibility :=
  if !eligibleState case issue lane config then .wrongLaneState issue.state
  else match nativeSubissuesReason case issue lane config with
    | some reason => .parentNativeSubissuesIncomplete reason
    | none =>
        match projectTextField issue lane.claimField with
        | some owner => claimOwnership issue lane workerId owner
        | none => .claimable

/-! ## The token behind a terminal claim -/

theorem terminalLaneClaimValue_eq_ok {claim : LaneClaim} {state : LaneClaimState}
    {result value : String} (h : terminalLaneClaimValue claim state result = .ok value) :
    result ≠ "" ∧ (∀ c ∈ result.toList, Text.isWhitespace c = false)
      ∧ value = (claim.withState state).render ++ " result=" ++ result := by
  rw [terminalLaneClaimValue] at h
  split at h
  · cases h
  · next hcompact =>
    obtain ⟨hblank, hany⟩ := not_or.mp hcompact
    refine ⟨?_, ?_, (Except.ok.inj h).symm⟩
    · rintro rfl
      exact hblank (by decide)
    · simpa using hany

theorem toList_result (result : String) :
    (" result=" ++ result).toList = ' ' :: ("result".toList ++ '=' :: result.toList) := by
  have hkey : " result=".toList = ' ' :: ("result".toList ++ ['=']) := by decide
  rw [String.toList_append, hkey]
  simp

theorem parseClaimTokens_result (result : String) :
    parseClaimTokens (" result=" ++ result).toList = do
      let (token, rest) ← parseClaimToken ("result".toList ++ '=' :: result.toList)
      let tokens ← parseClaimTokens rest
      return token :: tokens := by
  have hr : "result".toList = 'r' :: "esult".toList := by decide
  rw [toList_result, parseClaimTokens_blank, parseClaimTokens_eq, hr, List.cons_append,
    List.dropWhile_cons_of_neg (by decide)]

theorem isClaimKey_result : IsClaimKey "result" := by decide

theorem parseClaimTokens_bare_result {result : String} (hne : result ≠ "")
    (hcompact : ∀ c ∈ result.toList, Text.isWhitespace c = false)
    (hquote : result.toList.head? ≠ some '"') :
    parseClaimTokens (" result=" ++ result).toList = .ok [("result", result)] := by
  have hnil : result.toList ≠ [] := by simpa using hne
  obtain ⟨next, after, htext⟩ := List.exists_cons_of_ne_nil hnil
  have hnext : next ≠ '"' := by
    rintro rfl
    exact hquote (by rw [htext]; rfl)
  have hread := @parseUnquotedClaimValue_append _ [] hcompact rfl
  rw [List.append_nil] at hread
  have hvalue : ∀ start, ∃ next after, result.toList = next :: after
      ∧ parseClaimValue start next after = .ok (result.toList, []) := by
    intro start
    refine ⟨next, after, htext, ?_⟩
    rw [parseClaimValue, if_neg hnext, ← htext, hread]
  rw [parseClaimTokens_result, parseClaimToken_keyed isClaimKey_result hvalue, checkClaimToken,
    if_neg hne]
  rfl

/-- A result behind a quote is never read as the text that was written: what
the quotes enclose is shorter. -/
theorem parseClaimTokens_quoted_result {result : String} {tokens : List (String × String)}
    (hcompact : ∀ c ∈ result.toList, Text.isWhitespace c = false)
    (hquote : result.toList.head? = some '"')
    (h : parseClaimTokens (" result=" ++ result).toList = .ok tokens) :
    ∃ value, value ≠ result ∧ tokens = [("result", value)] := by
  obtain ⟨after, htext⟩ := List.head?_eq_some_iff.mp hquote
  rw [parseClaimTokens_result, htext] at h
  obtain ⟨⟨token, rest⟩, htoken, h⟩ := Fallible.bind_eq_ok h
  obtain ⟨tokens', htokens, h⟩ := Fallible.bind_eq_ok h
  obtain rfl := Except.ok.inj h
  obtain ⟨key, next, after', value, hkey, -, -, hvalue, rfl⟩ := parseClaimToken_eq_ok htoken
  rw [parseClaimKey_append _ _ isClaimKey_result.2] at hkey
  obtain ⟨rfl, hcursor⟩ := Prod.mk.inj (Except.ok.inj hkey)
  obtain ⟨rfl, rfl⟩ := List.cons.inj hcursor
  rw [parseClaimValue, if_pos rfl] at hvalue
  obtain ⟨hend, read, hread, hlength⟩ := parseQuotedClaimValue_eq_ok hvalue
  -- nothing follows the closing quote, for the result has no whitespace
  obtain rfl : rest = [] := by
    cases rest with
    | nil => rfl
    | cons c rest =>
        have hc := hcompact c (by rw [htext, hread]; simp)
        simp [atTokenEnd, hc] at hend
  obtain rfl := Except.ok.inj (parseClaimTokens_nil.symm.trans htokens)
  refine ⟨String.ofList value, ?_, by rw [String.ofList_toList]⟩
  rintro rfl
  rw [String.toList_ofList] at htext
  rw [htext, hread, List.append_nil, List.length_cons] at hlength
  omega

/-! ## Reading a terminal value -/

theorem claimOfTokens_result (claim : LaneClaim) (result : String) :
    claimOfTokens (claim.tokens ++ [("result", result)]) = .ok claim := by
  obtain ⟨lane, actor, worker, source, issue, run, state, thread, registry⟩ := claim
  cases worker <;>
    simp [claimOfTokens, required, claimValue, LaneClaim.tokens, List.lookup_cons, Fallible.okOr]

theorem claimValue_result (tokens : List (String × String)) (result : String) :
    claimValue (tokens ++ [("result", result)]) "result" = some result := by
  simp [claimValue]

theorem parseClaimTokens_terminal {claim : LaneClaim} (h : claim.NoEmptyText) (result : String) :
    parseClaimTokens (claim.render ++ " result=" ++ result).toList = do
      let back ← parseClaimTokens (" result=" ++ result).toList
      return claim.tokens ++ back := by
  have htail : atTokenEnd (" result=" ++ result).toList = true := by
    rw [toList_result]
    rfl
  have hscan := parseClaimTokens_rendered htail (isClaimKey_tokens claim)
  rw [← toList_render, List.cons_append, parseClaimTokens_blank, mapM_tokens h] at hscan
  rw [String.append_assoc, String.toList_append, hscan]
  rfl

theorem isTrimmed_terminal (claim : LaneClaim) {result : String} (hne : result ≠ "")
    (hcompact : ∀ c ∈ result.toList, Text.isWhitespace c = false) :
    Text.IsTrimmed (claim.render ++ " result=" ++ result) := by
  have hrender : ∃ rest, claim.render.toList = 'v' :: rest := by
    have htokens := toList_render claim
    rw [renderedTokens, LaneClaim.tokens] at htokens
    exact ⟨_, List.tail_eq_of_cons_eq htokens⟩
  obtain ⟨rest, hrest⟩ := hrender
  constructor
  · intro c hc
    rw [String.append_assoc, String.toList_append, hrest] at hc
    obtain rfl := Option.some.inj hc
    decide
  · intro c hc
    have hnil : result.toList ≠ [] := by simpa using hne
    rw [String.toList_append, List.getLast?_append_of_ne_nil _ hnil] at hc
    exact hcompact c (List.mem_of_getLast? hc)

theorem projectTextField_of_isTrimmed {issue : TrackerIssue} {name value : String}
    (hfield : issue.projectFields name = some (.str value)) (htrimmed : Text.IsTrimmed value)
    (hne : value ≠ "") : projectTextField issue name = some value := by
  simp [projectTextField, hfield, Json.asStr, Text.trim_of_isTrimmed htrimmed, hne]

theorem claimOwnership_terminal {issue : TrackerIssue} {lane : WorkerLane}
    {workerId owner : String} {claim : LaneClaim} (hparse : LaneClaim.parse owner = .ok claim)
    (hlane : claim.lane = lane.claimLane) (hstate : claim.state.isTerminalAuditPointer = true) :
    claimOwnership issue lane workerId owner = .ownedBySelf
      ∨ claimOwnership issue lane workerId owner = .claimable := by
  rw [claimOwnership]
  split
  · exact Or.inl rfl
  · right
    simp only [hparse]
    rw [if_pos ⟨hlane, hstate⟩]

/-- What a terminal value is for: the scanner reads the claim in its last state
and the result that was given, and the pool takes the issue again; it never holds
the claim for another's or for a malformed one. -/
structure TerminalValueAgrees (claim : LaneClaim) (state : LaneClaimState) (result value : String) :
    Prop where
  parsed : LaneClaim.parse value = .ok (claim.withState state)
  result : ∃ tokens, parseClaimTokens value.toList = .ok tokens
    ∧ claimValue tokens "result" = some result
  reclaimable : ∀ (case : Text.UnicodeCase) (issue : TrackerIssue) (lane : WorkerLane)
    (workerId : String) (config : RuntimeConfig),
    issue.projectFields lane.claimField = some (.str value) → claim.lane = lane.claimLane →
      (eligibleState case issue lane config = true →
        nativeSubissuesReason case issue lane config = none →
          (poolClaimEligibility case issue lane workerId config).isClaimable = true)
      ∧ ∀ owner, poolClaimEligibility case issue lane workerId config ≠ .claimedByOther owner

theorem reclaimable_of_parse {claim : LaneClaim} {value : String}
    (hparse : LaneClaim.parse value = .ok claim) (htrimmed : Text.IsTrimmed value)
    (hstate : claim.state.isTerminalAuditPointer = true) (case : Text.UnicodeCase)
    (issue : TrackerIssue) (lane : WorkerLane) (workerId : String) (config : RuntimeConfig)
    (hfield : issue.projectFields lane.claimField = some (.str value))
    (hlane : claim.lane = lane.claimLane) :
    (eligibleState case issue lane config = true →
        nativeSubissuesReason case issue lane config = none →
          (poolClaimEligibility case issue lane workerId config).isClaimable = true)
      ∧ ∀ owner, poolClaimEligibility case issue lane workerId config ≠ .claimedByOther owner := by
  have hne : value ≠ "" := by
    rintro rfl
    cases hparse
  have htext := projectTextField_of_isTrimmed hfield htrimmed hne
  have howner := @claimOwnership_terminal issue _ workerId _ _ hparse hlane hstate
  constructor
  · intro heligible hopen
    simp only [poolClaimEligibility, heligible, hopen, htext]
    rcases howner with howner | howner <;> simp [howner, PoolClaimEligibility.isClaimable]
  · intro owner
    simp only [poolClaimEligibility, htext]
    split
    · exact nofun
    · split
      · exact nofun
      · rcases howner with howner | howner <;> simp [howner]

/-- A terminal value is read as it was meant exactly when its result does not
start with a quote. -/
theorem terminal_value_reclaimable_iff {text : String} {claim : LaneClaim} {state : LaneClaimState}
    {result value : String} (hparse : LaneClaim.parse text = .ok claim)
    (hstate : state.isTerminalAuditPointer = true)
    (hvalue : terminalLaneClaimValue claim state result = .ok value) :
    TerminalValueAgrees claim state result value ↔ result.toList.head? ≠ some '"' := by
  obtain ⟨hne, hcompact, rfl⟩ := terminalLaneClaimValue_eq_ok hvalue
  have hclaim : claim.NoEmptyText := noEmptyText_of_parse hparse
  have htext : (claim.withState state).NoEmptyText := hclaim
  have hscan := parseClaimTokens_terminal htext result
  constructor
  · rintro ⟨-, ⟨tokens, htokens, hresult⟩, -⟩ hquote
    rw [hscan] at htokens
    obtain ⟨back, hback, htokens⟩ := Fallible.bind_eq_ok htokens
    obtain rfl := Except.ok.inj htokens
    obtain ⟨read, hread, rfl⟩ := parseClaimTokens_quoted_result hcompact hquote hback
    rw [claimValue_result] at hresult
    exact hread (Option.some.inj hresult)
  · intro hquote
    rw [parseClaimTokens_bare_result hne hcompact hquote, Fallible.ok_bind, Fallible.pure_eq]
      at hscan
    have hparsed : LaneClaim.parse ((claim.withState state).render ++ " result=" ++ result)
        = .ok (claim.withState state) := by
      rw [LaneClaim.parse, hscan, Fallible.ok_bind, claimOfTokens_result]
    refine ⟨hparsed, ⟨_, hscan, claimValue_result _ _⟩, ?_⟩
    intro case issue lane workerId config hfield hlane
    have hlane' : (claim.withState state).lane = lane.claimLane := hlane
    exact reclaimable_of_parse hparsed (isTrimmed_terminal _ hne hcompact) hstate case issue lane
      workerId config hfield hlane'

/-- A claim of the main lane while its worker runs. -/
def runningClaim : LaneClaim where
  lane := .main
  actor := .codex
  worker := some "Codex Manual Main"
  source := .manual
  issue := "#244"
  run := "20260516T0415Z-issue244-main-5bdb"
  state := .active
  thread := "unknown"
  registry := "run/20260516T0415Z-issue244-main-5bdb"

theorem terminal_value_merged :
    TerminalValueAgrees runningClaim .done "merged"
      ((runningClaim.withState .done).render ++ " result=" ++ "merged") := by
  have hparse : LaneClaim.parse runningClaim.render = .ok runningClaim :=
    LaneClaim.NoEmptyText.parse_render (by decide)
  have hvalue : terminalLaneClaimValue runningClaim .done "merged"
      = .ok ((runningClaim.withState .done).render ++ " result=" ++ "merged") :=
    if_neg (by decide)
  exact (terminal_value_reclaimable_iff hparse rfl hvalue).mpr (by decide)

/-- The writer accepts a result that opens a quote; its value is malformed. -/
theorem terminal_value_open_quote :
    LaneClaim.parse runningClaim.render = .ok runningClaim
      ∧ terminalLaneClaimValue runningClaim .done "\"merged"
        = .ok ((runningClaim.withState .done).render ++ " result=" ++ "\"merged")
      ∧ LaneClaim.parse ((runningClaim.withState .done).render ++ " result=" ++ "\"merged")
        = .error (.invalidToken "result=\"merged") := by
  have htext : runningClaim.NoEmptyText := by decide
  have hdone : (runningClaim.withState .done).NoEmptyText := htext
  refine ⟨htext.parse_render, if_neg (by decide), ?_⟩
  have htail : parseClaimTokens (" result=" ++ "\"merged").toList
      = .error (.invalidToken "result=\"merged") := by decide
  rw [LaneClaim.parse, parseClaimTokens_terminal hdone, htail]
  rfl

end SheaSymphony.Lanes

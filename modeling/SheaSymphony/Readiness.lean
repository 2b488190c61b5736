import SheaSymphony.Autoloop
import SheaSymphony.Model
import SheaSymphony.RuntimeState
import SheaSymphony.WorkpadEntries

/-!
# Readiness of the autopilot

`commands/autopilot/readiness.rs` sums up the runtime states and the sessions as blockers
and lines of evidence, and reads both again to decide which blockers do not count; the
recovery of `commands/autopilot/looping.rs` reads the same lines. The readiness is right
about what was summed up unless a runtime state has no issue, or a session has a name or a
lane that reads like another session (`readiness_sound_iff`).
-/

namespace SheaSymphony.Autopilot

open Model SheaSymphony.Runtime
open Autoloop (AutopilotIssueSummary)

/-! ## The inputs -/

structure SessionStatusSnapshot where
  sessionId : String
  lane : String
  status : String
  issueIdentifier : Option String
deriving DecidableEq

structure AutopilotLanePlan where
  lane : String
  status : String
  selectedIssue : Option AutopilotIssueSummary
deriving DecidableEq

structure AutopilotDoctorSummary where
  blockers : Nat
  evidence : List String
deriving DecidableEq

structure AutopilotCanonicalCheckout where
  safeForWrite : Bool
  reason : Option String
deriving DecidableEq

/-! ## The summary -/

structure AutopilotActiveIssue where
  lane : String
  identifier : String
  backend : String
  sessionId : Option String
deriving DecidableEq

structure AutopilotRetryRecord where
  lane : String
  issueIdentifier : Option String
  attempt : UInt32
  dueInMs : Nat
  nextRetryAtMs : UInt64
  error : String
deriving DecidableEq

structure AutopilotRuntimeSummary where
  runtimeStateCount : Nat
  sessionCount : Nat
  sessionAttentionCount : Nat
  retryingCount : Nat
  activeIssues : List AutopilotActiveIssue
  retrying : List AutopilotRetryRecord
  blockers : List String
  evidence : List String
deriving DecidableEq

def attentionStatuses : List String :=
  ["waiting_for_approval", "waiting_for_human_input", "waiting_for_trust", "usage_limited",
    "failed", "stale"]

def sessionNeedsAutopilotAttention (session : SessionStatusSnapshot) : Bool :=
  attentionStatuses.contains session.status

def sessionPointsAtTerminalIssue (case : Text.UnicodeCase) (session : SessionStatusSnapshot)
    (issues : List TrackerIssue) : Bool :=
  match session.issueIdentifier with
  | none => false
  | some sessionIssue => issues.any fun issue =>
      issueRefsMatch issue.identifier sessionIssue
        && (["done", "closed"].contains (normalizeState case issue.state)
          || ((issue.projectFields "GitHub Issue State").bind Json.asStr).any fun state =>
            normalizeState case state == "closed")

def attentionSessions (case : Text.UnicodeCase) (sessions : List SessionStatusSnapshot)
    (issues : List TrackerIssue) : List SessionStatusSnapshot :=
  sessions.filter fun session =>
    sessionNeedsAutopilotAttention session && !sessionPointsAtTerminalIssue case session issues

def activeIssue (state : RuntimeState) : Option AutopilotActiveIssue :=
  state.activeIssue.map fun issue =>
    { lane := state.lane.getD "unknown"
      identifier := issue.identifier
      backend := state.backend
      sessionId := state.backendSessionId }

def retryRecord (nowMs : UInt64) (state : RuntimeState) : Option AutopilotRetryRecord :=
  state.retry.map fun retry =>
    { lane := state.lane.getD "unknown"
      issueIdentifier := state.identifier
      attempt := retry.attempt
      dueInMs := retry.dueInMs nowMs
      nextRetryAtMs := retry.nextRetryAtMs
      error := retry.error }

def runtimeEvidence (state : RuntimeState) : Option String :=
  state.activeIssue.map fun issue =>
    "runtime issue=" ++ issue.identifier ++ " lane=" ++ state.lane.getD "unknown" ++ " backend="
      ++ state.backend ++ " session=" ++ state.backendSessionId.getD "none"

def sessionEvidence (session : SessionStatusSnapshot) : String :=
  "session=" ++ session.sessionId ++ " lane=" ++ session.lane ++ " status=" ++ session.status
    ++ " issue=" ++ session.issueIdentifier.getD "unknown"

def AutopilotRuntimeSummary.fromParts (case : Text.UnicodeCase) (nowMs : UInt64)
    (runtimeStates : List RuntimeState) (sessions : List SessionStatusSnapshot)
    (issues : List TrackerIssue) (runtimeLoadError sessionLoadError : Option String) :
    AutopilotRuntimeSummary :=
  let attention := attentionSessions case sessions issues
  let retrying := runtimeStates.filterMap (retryRecord nowMs)
  { runtimeStateCount := runtimeStates.length
    sessionCount := sessions.length
    sessionAttentionCount := attention.length
    retryingCount := retrying.length
    activeIssues := runtimeStates.filterMap activeIssue
    retrying
    blockers :=
      (runtimeLoadError.map ("runtime_state_load_error=" ++ ·)).toList
        ++ (sessionLoadError.map ("session_status_load_error=" ++ ·)).toList
        ++ (if runtimeStates.isEmpty then []
          else ["active_runtime_states=" ++ toString runtimeStates.length])
        ++ (if attention.isEmpty then []
          else ["session_attention=" ++ toString attention.length])
    evidence := runtimeStates.filterMap runtimeEvidence ++ attention.map sessionEvidence }

/-! ## The readiness -/

structure AutopilotReadiness where
  status : String
  reason : String
  blockers : List String
  warnings : List String
deriving DecidableEq

/-- The value of the first token with the key. -/
def evidenceField (line key : String) : Option String :=
  (Text.splitWhitespace line).findSome? fun token => Text.stripPrefix token (key ++ "=")

def autopilotReadinessEvidenceFieldEquals (line key expected : String) : Bool :=
  (evidenceField line key).any (· == expected)

def sessionLines (evidence : List String) : List String :=
  evidence.filter fun line => Text.startsWith line "session="

def mainLaneReady (lane : AutopilotLanePlan) : Bool :=
  lane.lane == "main" && lane.status == "ready" && lane.selectedIssue.isSome

def autopilotMainRuntimeShouldNotBlockReadyMain (lanes : List AutopilotLanePlan)
    (runtime : AutopilotRuntimeSummary) : Bool :=
  !runtime.activeIssues.isEmpty
    && runtime.activeIssues.all (fun issue => Text.eqIgnoreAsciiCase issue.lane "main")
    && lanes.any mainLaneReady

/-- A line of a session that has failed or gone stale on a known issue. -/
def isTerminalHistory (line : String) : Bool :=
  !autopilotReadinessEvidenceFieldEquals line "issue" "unknown"
    && (autopilotReadinessEvidenceFieldEquals line "status" "failed"
      || autopilotReadinessEvidenceFieldEquals line "status" "stale")

def autopilotTerminalSessionHistoryShouldNotBlockReadyMain (lanes : List AutopilotLanePlan)
    (runtime : AutopilotRuntimeSummary) : Bool :=
  if !runtime.activeIssues.isEmpty || !lanes.any mainLaneReady then false
  else
    !(sessionLines runtime.evidence).isEmpty
      && (sessionLines runtime.evidence).all isTerminalHistory

def autopilotEffectiveRuntimeBlockers (lanes : List AutopilotLanePlan)
    (runtime : AutopilotRuntimeSummary) : List String :=
  runtime.blockers.filter fun blocker =>
    !((Text.startsWith blocker "active_runtime_states="
        && autopilotMainRuntimeShouldNotBlockReadyMain lanes runtime)
      || (Text.startsWith blocker "session_attention="
        && autopilotTerminalSessionHistoryShouldNotBlockReadyMain lanes runtime))

def autopilotReadiness (lanes : List AutopilotLanePlan) (doctor : AutopilotDoctorSummary)
    (canonicalCheckout : AutopilotCanonicalCheckout) (runtime : AutopilotRuntimeSummary)
    (integrationGaps : List String) : AutopilotReadiness :=
  let runtimeBlockers := autopilotEffectiveRuntimeBlockers lanes runtime
  let (status, reason) :=
    if 0 < doctor.blockers || !canonicalCheckout.safeForWrite then
      ("blocked_by_doctor_or_canonical_checkout",
        "Doctor blockers or canonical checkout safety must be resolved before write-mode autopilot.")
    else if !runtimeBlockers.isEmpty then
      ("blocked_by_ambiguous_lane_or_runtime_state",
        "Runtime/session state needs operator attention before write-mode autopilot.")
    else if lanes.any fun lane => lane.status == "ready" then
      ("ready", "At least one lane has dispatchable work and no readiness blocker was found.")
    else ("idle_but_healthy", "All lanes are idle and no readiness blocker was found.")
  { status
    reason
    blockers :=
      (if 0 < doctor.blockers then ["doctor_blockers=" ++ toString doctor.blockers] else [])
        ++ (if canonicalCheckout.safeForWrite then []
          else ["canonical_checkout="
            ++ canonicalCheckout.reason.getD "not safe for future write-mode autopilot"])
        ++ runtimeBlockers
    warnings :=
      doctor.evidence.take 5
        ++ (integrationGaps.filter fun gap => !Text.contains gap "canonical_checkout").take 5 }

/-! ## The recovery of the loop -/

structure AutopilotPlanSnapshot where
  lanes : List AutopilotLanePlan
  runtime : AutopilotRuntimeSummary
deriving DecidableEq

def autopilotPlanLane (plan : AutopilotPlanSnapshot) (lane : String) : Option AutopilotLanePlan :=
  plan.lanes.find? fun candidate => candidate.lane == lane

def autopilotLanePlanShouldTick (lanePlan : Option AutopilotLanePlan) : Bool :=
  lanePlan.any fun plan => plan.status == "ready" && plan.selectedIssue.isSome

def autopilotEvidenceFieldEquals (line key expected : String) : Bool :=
  (evidenceField line key).any (· == expected)

def autopilotAttentionSessionsAreTerminalHistoryWithReadyMain (plan : AutopilotPlanSnapshot) :
    Bool :=
  if !plan.runtime.activeIssues.isEmpty
      || !autopilotLanePlanShouldTick (autopilotPlanLane plan "main") then false
  else
    !(sessionLines plan.runtime.evidence).isEmpty
      && (sessionLines plan.runtime.evidence).all fun line =>
        !autopilotEvidenceFieldEquals line "issue" "unknown"
          && (autopilotEvidenceFieldEquals line "status" "failed"
            || autopilotEvidenceFieldEquals line "status" "stale")

/-! ## What the readiness says -/

/-- Everything the readiness is worked out from. -/
structure Inputs where
  case : Text.UnicodeCase
  nowMs : UInt64
  runtimeStates : List RuntimeState
  sessions : List SessionStatusSnapshot
  issues : List TrackerIssue
  runtimeLoadError : Option String
  sessionLoadError : Option String
  lanes : List AutopilotLanePlan
  doctor : AutopilotDoctorSummary
  canonicalCheckout : AutopilotCanonicalCheckout
  integrationGaps : List String

namespace Inputs

variable (inputs : Inputs)

def runtime : AutopilotRuntimeSummary :=
  .fromParts inputs.case inputs.nowMs inputs.runtimeStates inputs.sessions inputs.issues
    inputs.runtimeLoadError inputs.sessionLoadError

def attention : List SessionStatusSnapshot :=
  attentionSessions inputs.case inputs.sessions inputs.issues

def readiness : AutopilotReadiness :=
  autopilotReadiness inputs.lanes inputs.doctor inputs.canonicalCheckout inputs.runtime
    inputs.integrationGaps

def plan : AutopilotPlanSnapshot where
  lanes := inputs.lanes
  runtime := inputs.runtime

/-- The status is one of the two that let the autopilot write. -/
def Healthy : Prop :=
  inputs.readiness.status = "ready" ∨ inputs.readiness.status = "idle_but_healthy"

/-- The doctor and the checkout have nothing against it, and both stores were read. -/
structure Clear : Prop where
  doctor : inputs.doctor.blockers = 0
  checkout : inputs.canonicalCheckout.safeForWrite = true
  runtimeLoaded : inputs.runtimeLoadError = none
  sessionsLoaded : inputs.sessionLoadError = none

end Inputs

def isMainState (state : RuntimeState) : Bool :=
  state.lane.any fun lane => Text.eqIgnoreAsciiCase lane "main"

/-- The session has failed or gone stale on a known issue. -/
def isKnownFailure (session : SessionStatusSnapshot) : Bool :=
  (session.status == "failed" || session.status == "stale") && session.issueIdentifier.isSome

/-! ### Texts -/

theorem startsWith_append {text pattern : String} (rest : String)
    (h : pattern.toList.isPrefixOf text.toList = true) :
    Text.startsWith (text ++ rest) pattern = true := by
  rw [Text.startsWith, String.toList_append, List.isPrefixOf_iff_prefix]
  exact (List.isPrefixOf_iff_prefix.mp h).trans (List.prefix_append _ _)

theorem not_startsWith_append {text pattern : String} (rest : String)
    (h : pattern.toList.isPrefixOf text.toList = false)
    (h' : text.toList.isPrefixOf pattern.toList = false) :
    Text.startsWith (text ++ rest) pattern = false := by
  rw [Text.startsWith, String.toList_append]
  cases hbegins : pattern.toList.isPrefixOf (text.toList ++ rest.toList) with
  | false => rfl
  | true =>
      have hpattern := List.isPrefixOf_iff_prefix.mp hbegins
      rcases List.prefix_or_prefix_of_prefix hpattern (List.prefix_append _ _) with hp | hp
      · rw [List.isPrefixOf_iff_prefix.mpr hp] at h
        cases h
      · rw [List.isPrefixOf_iff_prefix.mpr hp] at h'
        cases h'

theorem startsWith_sessionEvidence (session : SessionStatusSnapshot) :
    Text.startsWith (sessionEvidence session) "session=" = true := by
  simp only [sessionEvidence, String.append_assoc]
  exact startsWith_append _ (by decide)

theorem not_startsWith_runtimeEvidence {state : RuntimeState} {line : String}
    (h : runtimeEvidence state = some line) : Text.startsWith line "session=" = false := by
  rw [runtimeEvidence, Option.map_eq_some_iff] at h
  obtain ⟨issue, -, rfl⟩ := h
  simp only [String.append_assoc]
  exact not_startsWith_append _ (by decide) (by decide)

variable {inputs : Inputs}

theorem sessionLines_evidence (inputs : Inputs) :
    sessionLines inputs.runtime.evidence = inputs.attention.map sessionEvidence := by
  show sessionLines (inputs.runtimeStates.filterMap runtimeEvidence
    ++ inputs.attention.map sessionEvidence) = _
  have hruntime : sessionLines (inputs.runtimeStates.filterMap runtimeEvidence) = [] := by
    refine List.filter_eq_nil_iff.mpr fun line hline => ?_
    obtain ⟨state, -, hstate⟩ := List.mem_filterMap.mp hline
    rw [not_startsWith_runtimeEvidence hstate]
    exact Bool.false_ne_true
  have hsessions : sessionLines (inputs.attention.map sessionEvidence)
      = inputs.attention.map sessionEvidence := by
    refine List.filter_eq_self.mpr fun line hline => ?_
    obtain ⟨session, -, rfl⟩ := List.mem_map.mp hline
    exact startsWith_sessionEvidence session
  rw [sessionLines] at hruntime hsessions ⊢
  rw [List.filter_append, hruntime, hsessions, List.nil_append]

/-! ### What is let through -/

/-- Some runtime state has an issue, those that have one are of the main lane, and the main
lane is ready. -/
structure MainContinues (inputs : Inputs) : Prop where
  active : ∃ state ∈ inputs.runtimeStates, state.activeIssue.isSome = true
  main : ∀ state ∈ inputs.runtimeStates, state.activeIssue.isSome = true → isMainState state = true
  ready : inputs.lanes.any mainLaneReady = true

/-- No runtime state has an issue, every session reads like a failure on a known issue, and
the main lane is ready. -/
structure HistoryContinues (inputs : Inputs) : Prop where
  inactive : ∀ state ∈ inputs.runtimeStates, state.activeIssue = none
  some : inputs.attention ≠ []
  history : ∀ session ∈ inputs.attention, isTerminalHistory (sessionEvidence session) = true
  ready : inputs.lanes.any mainLaneReady = true

theorem isMain_activeIssue {state : RuntimeState} {issue : AutopilotActiveIssue}
    (h : activeIssue state = some issue) :
    Text.eqIgnoreAsciiCase issue.lane "main" = isMainState state := by
  rw [activeIssue, Option.map_eq_some_iff] at h
  obtain ⟨_, -, rfl⟩ := h
  cases hlane : state.lane with
  | none =>
      rw [isMainState, hlane]
      show Text.eqIgnoreAsciiCase "unknown" "main" = false
      decide
  | some lane =>
      rw [isMainState, hlane]
      rfl

theorem activeIssue_isSome (state : RuntimeState) :
    (activeIssue state).isSome = state.activeIssue.isSome := by
  rw [activeIssue, Option.isSome_map]

theorem activeIssues_isEmpty_iff :
    inputs.runtime.activeIssues.isEmpty = true ↔ ∀ state ∈ inputs.runtimeStates,
      state.activeIssue = none := by
  show (inputs.runtimeStates.filterMap activeIssue).isEmpty = true ↔ _
  rw [List.isEmpty_iff, List.filterMap_eq_nil_iff]
  refine forall₂_congr fun state _ => ?_
  rw [activeIssue, Option.map_eq_none_iff]

theorem mainContinues_iff :
    autopilotMainRuntimeShouldNotBlockReadyMain inputs.lanes inputs.runtime = true
      ↔ MainContinues inputs := by
  rw [autopilotMainRuntimeShouldNotBlockReadyMain, Bool.and_eq_true, Bool.and_eq_true,
    Bool.not_eq_true', Bool.eq_false_iff, Ne, activeIssues_isEmpty_iff]
  have hall : inputs.runtime.activeIssues.all (fun issue => Text.eqIgnoreAsciiCase issue.lane "main")
      = true ↔ ∀ state ∈ inputs.runtimeStates, state.activeIssue.isSome = true →
        isMainState state = true := by
    show (inputs.runtimeStates.filterMap activeIssue).all _ = true ↔ _
    rw [List.all_eq_true]
    constructor
    · intro h state hstate hsome
      obtain ⟨issue, hissue⟩ := Option.isSome_iff_exists.mp
        ((activeIssue_isSome state).trans hsome)
      rw [← isMain_activeIssue hissue]
      exact h issue (List.mem_filterMap.mpr ⟨state, hstate, hissue⟩)
    · intro h issue hissue
      obtain ⟨state, hstate, hactive⟩ := List.mem_filterMap.mp hissue
      rw [isMain_activeIssue hactive]
      exact h state hstate ((activeIssue_isSome state).symm.trans (by rw [hactive]; rfl))
  rw [hall]
  constructor
  · rintro ⟨⟨hactive, hmain⟩, hready⟩
    refine { active := ?_, main := hmain, ready := hready }
    simp only [not_forall] at hactive
    obtain ⟨state, hstate, hsome⟩ := hactive
    exact ⟨state, hstate, Option.isSome_iff_ne_none.mpr hsome⟩
  · rintro ⟨⟨state, hstate, hsome⟩, hmain, hready⟩
    refine ⟨⟨fun hnone => ?_, hmain⟩, hready⟩
    rw [hnone state hstate] at hsome
    cases hsome

theorem all_sessionLines_iff :
    (!(sessionLines inputs.runtime.evidence).isEmpty
      && (sessionLines inputs.runtime.evidence).all isTerminalHistory) = true
      ↔ inputs.attention ≠ []
        ∧ ∀ session ∈ inputs.attention, isTerminalHistory (sessionEvidence session) = true := by
  rw [sessionLines_evidence, Bool.and_eq_true, Bool.not_eq_true', Bool.eq_false_iff, Ne,
    List.isEmpty_iff, List.map_eq_nil_iff, List.all_map, List.all_eq_true]
  simp only [Function.comp_apply]

theorem historyContinues_iff :
    autopilotTerminalSessionHistoryShouldNotBlockReadyMain inputs.lanes inputs.runtime = true
      ↔ HistoryContinues inputs := by
  rw [autopilotTerminalSessionHistoryShouldNotBlockReadyMain]
  cases hactive : inputs.runtime.activeIssues.isEmpty with
  | false =>
      rw [Bool.not_false, Bool.true_or, if_pos rfl]
      constructor
      · intro h
        cases h
      · intro h
        rw [activeIssues_isEmpty_iff.mpr h.inactive] at hactive
        cases hactive
  | true =>
      cases hready : inputs.lanes.any mainLaneReady with
      | false =>
          rw [Bool.not_false, Bool.or_true, if_pos rfl]
          constructor
          · intro h
            cases h
          · intro h
            rw [h.ready] at hready
            cases hready
      | true =>
          rw [Bool.not_true, Bool.or_self, if_neg Bool.false_ne_true, all_sessionLines_iff]
          constructor
          · rintro ⟨hsome, hhistory⟩
            exact ⟨activeIssues_isEmpty_iff.mp hactive, hsome, hhistory, hready⟩
          · rintro ⟨-, hsome, hhistory, -⟩
            exact ⟨hsome, hhistory⟩

theorem effective_loadError {prefixText : String} (error : Option String)
    (hactive : ("active_runtime_states=".toList.isPrefixOf prefixText.toList
      || prefixText.toList.isPrefixOf "active_runtime_states=".toList) = false)
    (hsession : ("session_attention=".toList.isPrefixOf prefixText.toList
      || prefixText.toList.isPrefixOf "session_attention=".toList) = false)
    (main history : Bool) :
    ((error.map (prefixText ++ ·)).toList.filter fun blocker =>
      !((Text.startsWith blocker "active_runtime_states=" && main)
        || (Text.startsWith blocker "session_attention=" && history))) = []
      ↔ error = none := by
  rw [Bool.or_eq_false_iff] at hactive hsession
  cases error with
  | none => exact iff_of_true rfl rfl
  | some error =>
      refine iff_of_false ?_ (Option.some_ne_none error)
      rw [Option.map_some, Option.toList_some, List.filter_singleton,
        not_startsWith_append error hactive.1 hactive.2,
        not_startsWith_append error hsession.1 hsession.2]
      exact List.cons_ne_nil _ _

theorem filter_optional {α : Type} {absent : Bool} {item : α} {keep : α → Bool} :
    (if absent then [] else [item]).filter keep = [] ↔ absent = true ∨ keep item = false := by
  cases absent with
  | true => exact iff_of_true rfl (Or.inl rfl)
  | false =>
      rw [if_neg Bool.false_ne_true, List.filter_singleton]
      cases keep item with
      | true => exact iff_of_false (List.cons_ne_nil _ _) (by rintro (h | h) <;> cases h)
      | false => exact iff_of_true rfl (Or.inr rfl)

theorem effectiveBlockers_eq_nil_iff :
    autopilotEffectiveRuntimeBlockers inputs.lanes inputs.runtime = []
      ↔ inputs.runtimeLoadError = none ∧ inputs.sessionLoadError = none
        ∧ (inputs.runtimeStates = [] ∨ MainContinues inputs)
        ∧ (inputs.attention = [] ∨ HistoryContinues inputs) := by
  rw [← mainContinues_iff, ← historyContinues_iff]
  show List.filter _ (_ ++ _ ++ _ ++ _) = [] ↔ _
  rw [List.filter_append, List.filter_append, List.filter_append, List.append_eq_nil_iff,
    List.append_eq_nil_iff, List.append_eq_nil_iff, and_assoc, and_assoc]
  refine and_congr (effective_loadError _ (by decide) (by decide) _ _)
    (and_congr (effective_loadError _ (by decide) (by decide) _ _) (and_congr ?_ ?_))
  · rw [filter_optional, List.isEmpty_iff, startsWith_append _ (by decide),
      not_startsWith_append _ (by decide) (by decide), Bool.true_and, Bool.false_and, Bool.or_false,
      Bool.not_eq_false']
  · rw [filter_optional, List.isEmpty_iff, not_startsWith_append _ (by decide) (by decide),
      startsWith_append _ (by decide), Bool.true_and, Bool.false_and, Bool.false_or,
      Bool.not_eq_false']
    exact Iff.rfl

theorem status_readiness (inputs : Inputs) :
    inputs.readiness.status
      = if 0 < inputs.doctor.blockers || !inputs.canonicalCheckout.safeForWrite then
          "blocked_by_doctor_or_canonical_checkout"
        else if !(autopilotEffectiveRuntimeBlockers inputs.lanes inputs.runtime).isEmpty then
          "blocked_by_ambiguous_lane_or_runtime_state"
        else if inputs.lanes.any fun lane => lane.status == "ready" then "ready"
        else "idle_but_healthy" := by
  rw [Inputs.readiness, autopilotReadiness]
  by_cases hblocked : (decide (0 < inputs.doctor.blockers)
      || !inputs.canonicalCheckout.safeForWrite) = true
  · rw [if_pos hblocked, if_pos hblocked]
  · rw [if_neg hblocked, if_neg hblocked]
    by_cases hruntime :
        (!(autopilotEffectiveRuntimeBlockers inputs.lanes inputs.runtime).isEmpty) = true
    · rw [if_pos hruntime, if_pos hruntime]
    · rw [if_neg hruntime, if_neg hruntime]
      by_cases hready : (inputs.lanes.any fun lane => lane.status == "ready") = true
      · rw [if_pos hready, if_pos hready]
      · rw [if_neg hready, if_neg hready]

theorem healthy_iff :
    inputs.Healthy ↔ inputs.doctor.blockers = 0 ∧ inputs.canonicalCheckout.safeForWrite = true
      ∧ autopilotEffectiveRuntimeBlockers inputs.lanes inputs.runtime = [] := by
  rw [Inputs.Healthy, status_readiness]
  split
  · next hblocked =>
    refine iff_of_false (by decide) ?_
    rintro ⟨hdoctor, hsafe, -⟩
    rw [hdoctor, hsafe] at hblocked
    cases hblocked
  · next hclear =>
    simp only [Bool.or_eq_true, not_or, decide_eq_true_eq, Nat.not_lt, Nat.le_zero_eq,
      Bool.not_eq_true', Bool.not_eq_false] at hclear
    split
    · next hruntime =>
      refine iff_of_false (by decide) ?_
      rintro ⟨-, -, hnone⟩
      rw [hnone] at hruntime
      cases hruntime
    · next hruntime =>
      have hnone : autopilotEffectiveRuntimeBlockers inputs.lanes inputs.runtime = [] := by
        simpa using hruntime
      refine iff_of_true ?_ ⟨hclear.1, hclear.2, hnone⟩
      split
      · exact Or.inl rfl
      · exact Or.inr rfl

/-- The readiness lets the autopilot write exactly when nothing is against it but what it
takes for work of the main lane or for a history of failures. -/
theorem healthy_iff_continues :
    inputs.Healthy ↔ inputs.Clear ∧ (inputs.runtimeStates = [] ∨ MainContinues inputs)
      ∧ (inputs.attention = [] ∨ HistoryContinues inputs) := by
  rw [healthy_iff, effectiveBlockers_eq_nil_iff]
  constructor
  · rintro ⟨hdoctor, hcheckout, hruntime, hsessions, hmain, hhistory⟩
    exact ⟨⟨hdoctor, hcheckout, hruntime, hsessions⟩, hmain, hhistory⟩
  · rintro ⟨⟨hdoctor, hcheckout, hruntime, hsessions⟩, hmain, hhistory⟩
    exact ⟨hdoctor, hcheckout, hruntime, hsessions, hmain, hhistory⟩

/-! ### The recovery -/

theorem loopHistory_eq (inputs : Inputs) :
    autopilotAttentionSessionsAreTerminalHistoryWithReadyMain inputs.plan
      = (inputs.runtime.activeIssues.isEmpty
        && autopilotLanePlanShouldTick (autopilotPlanLane inputs.plan "main")
        && (!(sessionLines inputs.runtime.evidence).isEmpty
          && (sessionLines inputs.runtime.evidence).all isTerminalHistory)) := by
  rw [autopilotAttentionSessionsAreTerminalHistoryWithReadyMain]
  show (if (!inputs.runtime.activeIssues.isEmpty || _) = true then false else _) = _
  cases inputs.runtime.activeIssues.isEmpty with
  | false => rfl
  | true =>
      cases autopilotLanePlanShouldTick (autopilotPlanLane inputs.plan "main") with
      | false => rfl
      | true => rfl

theorem mainLaneReady_of_shouldTick
    (h : autopilotLanePlanShouldTick (autopilotPlanLane inputs.plan "main") = true) :
    inputs.lanes.any mainLaneReady = true := by
  rw [autopilotLanePlanShouldTick, Option.any_eq_true] at h
  obtain ⟨lane, hlane, hready⟩ := h
  rw [autopilotPlanLane] at hlane
  have hname := List.find?_some hlane
  refine List.any_eq_true.mpr ⟨lane, List.mem_of_find?_eq_some hlane, ?_⟩
  rw [mainLaneReady, hname, Bool.true_and]
  exact hready

/-! ## Soundness -/

/-- The claim the readiness makes, and that the recovery of the loop reads the sessions as
the readiness does. -/
structure Sound (inputs : Inputs) : Prop where
  clear : inputs.Healthy → inputs.Clear
  states : inputs.Healthy → ∀ state ∈ inputs.runtimeStates, isMainState state = true
  sessions : inputs.Healthy → ∀ session ∈ inputs.attention, isKnownFailure session = true
  agree : autopilotTerminalSessionHistoryShouldNotBlockReadyMain inputs.lanes inputs.runtime
    = autopilotAttentionSessionsAreTerminalHistoryWithReadyMain inputs.plan

/-- What was summed up says what it was made of: no state without an issue goes along with
those of the main lane, no session reads like a failure on a known issue without being one,
and the main lane that is ready is the first one. -/
structure Legible (inputs : Inputs) : Prop where
  states : inputs.Clear → inputs.attention = [] → MainContinues inputs →
    ∀ state ∈ inputs.runtimeStates, state.activeIssue = none → isMainState state = true
  sessions : inputs.Clear → inputs.runtimeStates = [] → HistoryContinues inputs →
    ∀ session ∈ inputs.attention, isKnownFailure session = true
  lanes : HistoryContinues inputs →
    autopilotLanePlanShouldTick (autopilotPlanLane inputs.plan "main") = true

theorem MainContinues.not_history (h : MainContinues inputs) : ¬ HistoryContinues inputs := by
  intro hhistory
  obtain ⟨state, hstate, hsome⟩ := h.active
  rw [hhistory.inactive state hstate] at hsome
  cases hsome

theorem agree_iff :
    (autopilotTerminalSessionHistoryShouldNotBlockReadyMain inputs.lanes inputs.runtime
        = autopilotAttentionSessionsAreTerminalHistoryWithReadyMain inputs.plan)
      ↔ (HistoryContinues inputs →
        autopilotLanePlanShouldTick (autopilotPlanLane inputs.plan "main") = true) := by
  rw [loopHistory_eq]
  constructor
  · intro hagree hhistory
    rw [historyContinues_iff.mpr hhistory] at hagree
    have hloop := (Bool.and_eq_true_iff.mp hagree.symm).1
    exact (Bool.and_eq_true_iff.mp hloop).2
  · intro htick
    cases hready : autopilotTerminalSessionHistoryShouldNotBlockReadyMain inputs.lanes
        inputs.runtime with
    | true =>
        have hhistory := historyContinues_iff.mp hready
        rw [activeIssues_isEmpty_iff.mpr hhistory.inactive, htick hhistory,
          all_sessionLines_iff.mpr ⟨hhistory.some, hhistory.history⟩]
        rfl
    | false =>
        by_contra hloop
        have hloop := Bool.eq_true_of_not_eq_false (Ne.symm hloop)
        obtain ⟨hfront, hlines⟩ := Bool.and_eq_true_iff.mp hloop
        obtain ⟨hactive, hshould⟩ := Bool.and_eq_true_iff.mp hfront
        obtain ⟨hsome, hall⟩ := all_sessionLines_iff.mp hlines
        have hhistory : HistoryContinues inputs :=
          ⟨activeIssues_isEmpty_iff.mp hactive, hsome, hall, mainLaneReady_of_shouldTick hshould⟩
        rw [historyContinues_iff.mpr hhistory] at hready
        cases hready

/-- The readiness is sound exactly where what it reads says what it was made of. -/
theorem readiness_sound_iff (inputs : Inputs) : Sound inputs ↔ Legible inputs := by
  constructor
  · intro h
    refine { states := ?_, sessions := ?_, lanes := agree_iff.mp h.agree }
    · intro hclear hattention hmain state hstate _
      exact h.states (healthy_iff_continues.mpr ⟨hclear, Or.inr hmain, Or.inl hattention⟩) state
        hstate
    · intro hclear hstates hhistory
      exact h.sessions (healthy_iff_continues.mpr ⟨hclear, Or.inl hstates, Or.inr hhistory⟩)
  · intro h
    refine {
      clear := fun hhealthy => (healthy_iff_continues.mp hhealthy).1
      states := ?_
      sessions := ?_
      agree := agree_iff.mpr h.lanes }
    · intro hhealthy state hstate
      obtain ⟨hclear, hmain, hhistory⟩ := healthy_iff_continues.mp hhealthy
      rcases hmain with hnone | hmain
      · rw [hnone] at hstate
        exact absurd hstate List.not_mem_nil
      · have hattention : inputs.attention = [] := hhistory.resolve_right hmain.not_history
        cases hissue : state.activeIssue with
        | none => exact h.states hclear hattention hmain state hstate hissue
        | some issue => exact hmain.main state hstate (by rw [hissue]; rfl)
    · intro hhealthy session hsession
      obtain ⟨hclear, hmain, hhistory⟩ := healthy_iff_continues.mp hhealthy
      rcases hhistory with hnone | hhistory
      · rw [hnone] at hsession
        exact absurd hsession List.not_mem_nil
      · have hstates : inputs.runtimeStates = [] :=
          hmain.resolve_right fun hmain => hmain.not_history hhistory
        exact h.sessions hclear hstates hhistory session hsession

/-! ## A state without an issue, and a session that reads like another -/

def readyMain : AutopilotLanePlan where
  lane := "main"
  status := "ready"
  selectedIssue := some { identifier := "#2" }

/-- Nothing is against it but the states and the sessions. -/
def idleInputs (runtimeStates : List RuntimeState) (sessions : List SessionStatusSnapshot) :
    Inputs where
  case := .ascii
  nowMs := 0
  runtimeStates
  sessions
  issues := []
  runtimeLoadError := none
  sessionLoadError := none
  lanes := [readyMain]
  doctor := { blockers := 0, evidence := [] }
  canonicalCheckout := { safeForWrite := true, reason := none }
  integrationGaps := []

def mainWorker : RuntimeState :=
  { RuntimeState.active { id := "I_1", identifier := "#1" } "codex" with lane := some "main" }

def reviewLeftover : RuntimeState :=
  { mainWorker with activeIssue := none, lane := some "review" }

def waitingSession : SessionStatusSnapshot where
  sessionId := "s1 status=failed issue=#1"
  lane := "review"
  status := "waiting_for_approval"
  issueIdentifier := none

/-- A worker of the review lane without an issue passes with one of the main lane, and so does
a session that waits for an approval under a name that reads like a failure. -/
theorem readiness_unsound :
    ¬ Sound (idleInputs [mainWorker, reviewLeftover] []) ∧ ¬ Sound (idleInputs [] [waitingSession]) := by
  constructor
  · intro h
    have hmain := h.states (Or.inl (by decide)) reviewLeftover (by decide)
    cases hmain
  · intro h
    have hknown := h.sessions (Or.inl (by decide)) waitingSession (by decide)
    cases hknown

end SheaSymphony.Autopilot

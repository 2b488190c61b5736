import SheaSymphony.Readiness

/-!
# The status of the loop

`autopilot_loop_status_from_plan_with_work_units` of `commands/autopilot/looping.rs` goes over
the lanes of a plan twice: once to count them by status, once to say why something is blocked.
A lane that a recovery will take up is no reason; of the counts only the review recovery takes
its lane back. So the two agree unless the merge recovery takes up a blocked lane, or the review
recovery more than one (`counts_blocked_iff`).
-/

namespace SheaSymphony.Autopilot

open Autoloop (AutopilotIssueSummary AutopilotWorkUnitCounters saturatingAdd wrappingAdd)

/-! ## The plan -/

/-- A lane of the plan with what the loop does about it. -/
structure LoopLanePlan extends AutopilotLanePlan where
  proposedAction : String
  reason : String
deriving DecidableEq

structure AutopilotParkedQueue where
  name : String
  state : String
  count : Nat
  issues : List AutopilotIssueSummary
deriving DecidableEq

/-- `AutopilotPlanSnapshot`, as far as the loop reads it; of the doctor's summary that is the codes
of its blockers. -/
structure LoopPlan where
  workflowPath : String
  lanes : List LoopLanePlan
  parkedQueues : List AutopilotParkedQueue
  readiness : AutopilotReadiness
  blockerCodes : List String
  canonicalCheckout : AutopilotCanonicalCheckout
  runtime : AutopilotRuntimeSummary
deriving DecidableEq

def LoopPlan.toPlan (plan : LoopPlan) : AutopilotPlanSnapshot where
  lanes := plan.lanes.map (·.toAutopilotLanePlan)
  runtime := plan.runtime

def LoopPlan.lane (plan : LoopPlan) (name : String) : Option LoopLanePlan :=
  plan.lanes.find? fun candidate => candidate.lane == name

structure AutopilotLoopSettings where
  write : Bool
  dryRun : Bool
  recover : Bool
  pollIntervalMs : UInt64
  mainMaxConcurrent : Nat
  reviewMaxConcurrent : Nat
  mergeMaxConcurrent : Nat
deriving DecidableEq

/-! ## What a recovery can take up -/

def autopilotReviewRecoveryIssueRef (lane : LoopLanePlan) : Option String :=
  (Text.stripPrefix lane.reason "review_worker_exists:").bind fun workerKey =>
    match Text.splitChar ':' workerKey with
    | kind :: issueRef :: _ :: _ =>
        if kind = "review" ∧ Text.trim issueRef ≠ "" then some (Text.trim issueRef) else none
    | _ => none

def autopilotReviewLanePlanCanRecover (lane : LoopLanePlan) : Bool :=
  lane.status == "blocked" && (autopilotReviewRecoveryIssueRef lane).isSome

def autopilotMergeLanePlanCanRecover (lane : LoopLanePlan) : Bool :=
  lane.selectedIssue.isSome
    && (["ready", "waiting"].contains lane.status
      || ["attempt_safe_conflict_repair", "update_pr_branch", "merge_pull_request",
        "mark_done"].contains lane.proposedAction)

def autopilotActiveRuntimeBlocker (blocker : String) : Bool :=
  Text.startsWith blocker "active_runtime_states="

def autopilotSessionAttentionBlocker (blocker : String) : Bool :=
  Text.startsWith blocker "session_attention="

def autopilotRuntimeActiveIssuesAreLaneLocal (plan : LoopPlan) (laneName : String) : Bool :=
  !plan.runtime.activeIssues.isEmpty
    && plan.runtime.activeIssues.all fun issue => Text.eqIgnoreAsciiCase issue.lane laneName

def autopilotAttentionSessionsAreMainLocal (plan : LoopPlan) : Bool :=
  !(sessionLines plan.runtime.evidence).isEmpty
    && (sessionLines plan.runtime.evidence).all fun line =>
      autopilotEvidenceFieldEquals line "lane" "main"
        && !autopilotEvidenceFieldEquals line "issue" "unknown"

def autopilotAttentionSessionsAreIssueLocalToMerge (plan : LoopPlan) (selectedIssue : String) :
    Bool :=
  !(sessionLines plan.runtime.evidence).isEmpty
    && (sessionLines plan.runtime.evidence).all fun line =>
      (autopilotEvidenceFieldEquals line "lane" "merge"
          || autopilotEvidenceFieldEquals line "lane" "main")
        && autopilotEvidenceFieldEquals line "issue" selectedIssue
        && !autopilotEvidenceFieldEquals line "issue" "unknown"

def autopilotMainRuntimeRecoveryBlocker (plan : LoopPlan) (blocker : String) : Bool :=
  if autopilotActiveRuntimeBlocker blocker then autopilotRuntimeActiveIssuesAreLaneLocal plan "main"
  else
    autopilotSessionAttentionBlocker blocker
      && (autopilotRuntimeActiveIssuesAreLaneLocal plan "main"
        || autopilotAttentionSessionsAreMainLocal plan
        || autopilotAttentionSessionsAreTerminalHistoryWithReadyMain plan.toPlan)

def autopilotMergeRuntimeRecoveryBlocker (plan : LoopPlan) (blocker : String)
    (selectedIssue : AutopilotIssueSummary) : Bool :=
  if autopilotActiveRuntimeBlocker blocker then autopilotRuntimeActiveIssuesAreLaneLocal plan "merge"
  else
    autopilotSessionAttentionBlocker blocker
      && autopilotAttentionSessionsAreIssueLocalToMerge plan selectedIssue.identifier

def autopilotMainParentTopologyCanTick (plan : LoopPlan) : Bool :=
  plan.canonicalCheckout.safeForWrite
    && plan.blockerCodes == ["parent_topology_missing_integration_branch"]
    && plan.readiness.blockers == ["doctor_blockers=1"]
    && autopilotLanePlanShouldTick ((plan.lane "main").map (·.toAutopilotLanePlan))

def isBlockedLane (lane : LoopLanePlan) : Bool := Text.eqIgnoreAsciiCase lane.status "blocked"

def autopilotMainRecoveryBlockerIsLaneLocal (plan : LoopPlan) : Bool :=
  !plan.readiness.blockers.isEmpty
    && plan.readiness.blockers.all (autopilotMainRuntimeRecoveryBlocker plan)
    && plan.lanes.all fun lane => !isBlockedLane lane

def autopilotReviewRecoveryBlockerIsLaneLocal (plan : LoopPlan) : Bool :=
  match plan.lane "review" with
  | none => false
  | some reviewLane =>
      autopilotReviewLanePlanCanRecover reviewLane
        && plan.readiness.blockers.isEmpty
        && plan.lanes.all fun lane => lane.lane == "review" || !isBlockedLane lane

def autopilotMergeRecoveryBlockerIsLaneLocal (plan : LoopPlan) : Bool :=
  match plan.lane "merge" with
  | none => false
  | some mergeLane =>
      match mergeLane.selectedIssue with
      | none => false
      | some selectedIssue =>
          autopilotMergeLanePlanCanRecover mergeLane
            && !(plan.lanes.any fun lane => lane.lane != "merge" && isBlockedLane lane)
            && !plan.readiness.blockers.isEmpty
            && plan.readiness.blockers.all fun blocker =>
              autopilotMergeRuntimeRecoveryBlocker plan blocker selectedIssue

section
variable (plan : LoopPlan) (settings : AutopilotLoopSettings)

def autopilotMainRecoveryCanTick : Bool :=
  settings.write && decide (0 < settings.mainMaxConcurrent)
    && (settings.recover && autopilotMainRecoveryBlockerIsLaneLocal plan
      || autopilotMainParentTopologyCanTick plan)

def autopilotReviewRecoveryCanTick : Bool :=
  settings.write && settings.recover && decide (0 < settings.reviewMaxConcurrent)
    && autopilotReviewRecoveryBlockerIsLaneLocal plan

def autopilotMergeRecoveryCanTick : Bool :=
  settings.write && settings.recover && decide (0 < settings.mergeMaxConcurrent)
    && autopilotMergeRecoveryBlockerIsLaneLocal plan

end

def autopilotReadinessBlockerIsMainRecoverable (plan : LoopPlan) (blocker : String) : Bool :=
  autopilotMainRuntimeRecoveryBlocker plan blocker
    || (blocker == "doctor_blockers=1" && autopilotMainParentTopologyCanTick plan)

def autopilotReadinessBlockerIsMergeRecoverable (plan : LoopPlan) (blocker : String) : Bool :=
  match plan.lane "merge" with
  | none => false
  | some mergeLane =>
      match mergeLane.selectedIssue with
      | none => false
      | some selectedIssue => autopilotMergeRuntimeRecoveryBlocker plan blocker selectedIssue

/-! ## The status -/

structure AutopilotLaneActivity where
  lane : String
  status : String
  action : String
  selectedIssue : Option AutopilotIssueSummary
  reason : String
deriving DecidableEq

structure AutopilotLoopCounts where
  running : Nat
  retrying : Nat
  blocked : Nat
  idle : Nat
deriving DecidableEq

structure AutopilotTransientFailure where
  atMs : UInt64
  attempt : UInt32
  delayMs : UInt64
  error : String
  recoveryPolicy : String
deriving DecidableEq

structure AutopilotLoopProgress where
  workUnitLimit : Option Nat
  completedWorkUnits : AutopilotWorkUnitCounters
deriving DecidableEq

structure AutopilotLoopStatusSnapshot where
  schemaVersion : Nat
  workflowPath : String
  iteration : Nat
  supervisorCycle : Nat
  mode : String
  phase : String
  message : String
  cancellationRequested : Bool
  workUnitLimit : Option Nat
  completedWorkUnits : Nat
  laneWorkUnits : List (String × Nat)
  checking : Bool
  nextPollInMs : Option UInt64
  settings : AutopilotLoopSettings
  laneActivity : List AutopilotLaneActivity
  counts : AutopilotLoopCounts
  selectedIssues : List AutopilotIssueSummary
  activeIssues : List AutopilotActiveIssue
  parkedQueues : List AutopilotParkedQueue
  blockedReasons : List String
  retrying : List AutopilotRetryRecord
  recentTransientFailures : List AutopilotTransientFailure
deriving DecidableEq

def laneActivity (lane : LoopLanePlan) : AutopilotLaneActivity where
  lane := lane.lane
  status := lane.status
  action := lane.proposedAction
  selectedIssue := lane.selectedIssue
  reason := lane.reason

def countLane (counts : AutopilotLoopCounts) (lane : AutopilotLaneActivity) :
    AutopilotLoopCounts :=
  if lane.status = "ready" ∨ lane.status = "waiting" then
    { counts with running := counts.running + 1 }
  else if lane.status = "blocked" then { counts with blocked := counts.blocked + 1 }
  else if lane.status = "idle" then { counts with idle := counts.idle + 1 }
  else if lane.status = "retrying" then
    { counts with retrying := wrappingAdd counts.retrying 1 }
  else counts

def autopilotLoopCounts (activity : List AutopilotLaneActivity) (blockedReasons retrying : Nat) :
    AutopilotLoopCounts :=
  activity.foldl countLane { running := 0, retrying, blocked := blockedReasons, idle := 0 }

def autopilotLoopPhase (counts : AutopilotLoopCounts) (readinessStatus : String) : String :=
  if 0 < counts.retrying then "retrying"
  else if Text.startsWith readinessStatus "blocked" ∨ (0 < counts.blocked ∧ counts.running = 0) then
    "blocked"
  else if 0 < counts.running then "running"
  else "idle"

/-- `saturating_add` on a `u64`. -/
def saturatingAddMs (a b : UInt64) : UInt64 :=
  UInt64.ofNat (min (a.toNat + b.toNat) 18446744073709551615)

def retryRecordsFromTransientFailures (failures : List AutopilotTransientFailure) :
    List AutopilotRetryRecord :=
  (failures.filter fun failure => failure.recoveryPolicy == "retry_with_backoff").map fun failure =>
    { lane := "autopilot"
      issueIdentifier := none
      attempt := failure.attempt
      dueInMs := failure.delayMs.toNat
      nextRetryAtMs := saturatingAddMs failure.atMs failure.delayMs
      error := failure.error }

def phaseMessage (phase : String) : String :=
  if phase = "cancelled" then "cancellation requested; no further lane work will be started"
  else if phase = "blocked" then "blocked state is visible and non-mutating"
  else if phase = "retrying" then "retry/backoff is active; loop remains alive"
  else if phase = "running" then "one or more lanes have useful work ready"
  else if phase = "idle" then "healthy idle; waiting for the next poll"
  else "checking"

section
variable (plan : LoopPlan) (settings : AutopilotLoopSettings)

/-- One of the recoveries has something to do. -/
def recoveryCanTick : Bool :=
  autopilotMainRecoveryCanTick plan settings || autopilotReviewRecoveryCanTick plan settings
    || autopilotMergeRecoveryCanTick plan settings

/-- The blockers of the readiness that no recovery takes up. -/
def effectiveReadinessBlockers : List String :=
  if recoveryCanTick plan settings then
    plan.readiness.blockers.filter fun blocker =>
      !(autopilotMainRecoveryCanTick plan settings
          && autopilotReadinessBlockerIsMainRecoverable plan blocker
        || autopilotMergeRecoveryCanTick plan settings
          && autopilotReadinessBlockerIsMergeRecoverable plan blocker)
  else plan.readiness.blockers

def isReviewRecovered (lane : LoopLanePlan) : Bool :=
  autopilotReviewRecoveryCanTick plan settings && lane.lane == "review"
    && autopilotReviewLanePlanCanRecover lane

def isMergeRecovered (lane : LoopLanePlan) : Bool :=
  autopilotMergeRecoveryCanTick plan settings && lane.lane == "merge"
    && autopilotMergeLanePlanCanRecover lane

def isBlockedReason (lane : LoopLanePlan) : Bool :=
  lane.status == "blocked" && !isReviewRecovered plan settings lane
    && !isMergeRecovered plan settings lane

def blockedReasons : List String :=
  effectiveReadinessBlockers plan settings
    ++ (plan.lanes.filter (isBlockedReason plan settings)).map fun lane =>
      lane.lane ++ ":" ++ lane.reason

/-- The counts, the lane of the review recovery taken back. -/
def effectiveCounts (failures : List AutopilotTransientFailure) : AutopilotLoopCounts :=
  let counted := autopilotLoopCounts (plan.lanes.map laneActivity)
    (effectiveReadinessBlockers plan settings).length
    (saturatingAdd plan.runtime.retryingCount failures.length)
  let counts := if autopilotReviewRecoveryCanTick plan settings then
      { counted with blocked := counted.blocked - 1 }
    else counted
  if recoveryCanTick plan settings ∧ counts.running = 0 then { counts with running := 1 } else counts

def autopilotLoopStatusFromPlanWithWorkUnits (iteration : Nat) (progress : AutopilotLoopProgress)
    (nextPollInMs : Option UInt64) (recentTransientFailures : List AutopilotTransientFailure)
    (cancellationRequested : Bool) : AutopilotLoopStatusSnapshot :=
  let counts := effectiveCounts plan settings recentTransientFailures
  let readinessStatus := if recoveryCanTick plan settings
      ∧ effectiveReadinessBlockers plan settings = [] then "ready"
    else plan.readiness.status
  let phase := if cancellationRequested then "cancelled"
    else autopilotLoopPhase counts readinessStatus
  { schemaVersion := 1
    workflowPath := plan.workflowPath
    iteration
    supervisorCycle := iteration
    mode := if settings.write then "write" else "dry-run"
    phase
    message := phaseMessage phase
    cancellationRequested
    workUnitLimit := progress.workUnitLimit
    completedWorkUnits := progress.completedWorkUnits.total
    laneWorkUnits := progress.completedWorkUnits.lanes
    checking := false
    nextPollInMs
    settings
    laneActivity := plan.lanes.map laneActivity
    counts
    selectedIssues := plan.lanes.filterMap (·.selectedIssue)
    activeIssues := plan.runtime.activeIssues
    parkedQueues := plan.parkedQueues
    blockedReasons := blockedReasons plan settings
    retrying := plan.runtime.retrying ++ retryRecordsFromTransientFailures recentTransientFailures
    recentTransientFailures }

end

/-! ## Counting -/

theorem blocked_countLane (counts : AutopilotLoopCounts) (lane : AutopilotLaneActivity) :
    (countLane counts lane).blocked
      = counts.blocked + if lane.status == "blocked" then 1 else 0 := by
  unfold countLane
  split
  · next h =>
    have hother : (lane.status == "blocked") = false := by
      rcases h with h | h <;> rw [h] <;> decide
    rw [hother]
    rfl
  · split
    · next h => simp [h]
    · next h =>
      have hother : (lane.status == "blocked") = false := beq_eq_false_iff_ne.mpr h
      rw [hother]
      split
      · rfl
      · split <;> rfl

theorem blocked_autopilotLoopCounts (activity : List AutopilotLaneActivity)
    (blockedReasons retrying : Nat) :
    (autopilotLoopCounts activity blockedReasons retrying).blocked
      = blockedReasons + activity.countP fun lane => lane.status == "blocked" := by
  have hfold : ∀ counts : AutopilotLoopCounts, (activity.foldl countLane counts).blocked
      = counts.blocked + activity.countP fun lane => lane.status == "blocked" := by
    induction activity with
    | nil => exact fun counts => rfl
    | cons lane activity ih =>
        intro counts
        rw [List.foldl_cons, ih, blocked_countLane, List.countP_cons]
        omega
  exact hfold _

variable (plan : LoopPlan) (settings : AutopilotLoopSettings)

/-- The blocked lanes of a plan. -/
def blockedLanes : Nat := plan.lanes.countP fun lane => lane.status == "blocked"

/-- The blocked lanes that a recovery takes up. -/
def recoveredLanes : Nat := plan.lanes.countP fun lane => lane.status == "blocked"
  && (isReviewRecovered plan settings lane || isMergeRecovered plan settings lane)

theorem blocked_effectiveCounts (failures : List AutopilotTransientFailure) :
    (effectiveCounts plan settings failures).blocked
      = (effectiveReadinessBlockers plan settings).length + blockedLanes plan
        - if autopilotReviewRecoveryCanTick plan settings then 1 else 0 := by
  have hcounted : (autopilotLoopCounts (plan.lanes.map laneActivity)
        (effectiveReadinessBlockers plan settings).length
        (saturatingAdd plan.runtime.retryingCount failures.length)).blocked
      = (effectiveReadinessBlockers plan settings).length + blockedLanes plan := by
    rw [blocked_autopilotLoopCounts, List.countP_map]
    rfl
  rw [← hcounted]
  simp only [effectiveCounts]
  cases autopilotReviewRecoveryCanTick plan settings with
  | true =>
      simp only [if_true]
      split <;> rfl
  | false =>
      simp only [Bool.false_eq_true, if_false, Nat.sub_zero]
      split <;> rfl

theorem length_blockedReasons : (blockedReasons plan settings).length + recoveredLanes plan settings
    = (effectiveReadinessBlockers plan settings).length + blockedLanes plan := by
  have hsplit : ∀ lanes : List LoopLanePlan,
      (lanes.filter (isBlockedReason plan settings)).length
        + lanes.countP (fun lane => lane.status == "blocked"
          && (isReviewRecovered plan settings lane || isMergeRecovered plan settings lane))
      = lanes.countP fun lane => lane.status == "blocked" := by
    intro lanes
    induction lanes with
    | nil => rfl
    | cons lane lanes ih =>
        rw [List.filter_cons, List.countP_cons, List.countP_cons, ← ih, isBlockedReason]
        cases lane.status == "blocked" <;> cases isReviewRecovered plan settings lane
          <;> cases isMergeRecovered plan settings lane <;> simp <;> omega
  rw [blockedReasons, List.length_append, List.length_map, Nat.add_assoc, recoveredLanes,
    hsplit]
  rfl

/-! ## What ticks -/

theorem not_merge_of_review (h : autopilotReviewRecoveryCanTick plan settings = true) :
    autopilotMergeRecoveryCanTick plan settings = false := by
  have hempty : plan.readiness.blockers = [] := by
    simp only [autopilotReviewRecoveryCanTick, autopilotReviewRecoveryBlockerIsLaneLocal,
      Bool.and_eq_true] at h
    split at h
    · cases h.2
    · exact List.isEmpty_iff.mp ((Bool.and_eq_true _ _ ▸ (Bool.and_eq_true _ _ ▸ h.2).1).2)
  rw [Bool.eq_false_iff]
  intro hmerge
  simp only [autopilotMergeRecoveryCanTick, autopilotMergeRecoveryBlockerIsLaneLocal, hempty,
    Bool.and_eq_true] at hmerge
  split at hmerge
  · cases hmerge.2
  · split at hmerge
    · cases hmerge.2
    · simp at hmerge

theorem recoveredLanes_pos (h : autopilotReviewRecoveryCanTick plan settings = true) :
    0 < recoveredLanes plan settings := by
  have htick := h
  simp only [autopilotReviewRecoveryCanTick, autopilotReviewRecoveryBlockerIsLaneLocal,
    Bool.and_eq_true] at h
  split at h
  · cases h.2
  · next lane hlane =>
    have hrecover : autopilotReviewLanePlanCanRecover lane = true :=
      (Bool.and_eq_true _ _ ▸ (Bool.and_eq_true _ _ ▸ h.2).1).1
    rw [LoopPlan.lane] at hlane
    have hname := List.find?_some hlane
    have hstatus : (lane.status == "blocked") = true := (Bool.and_eq_true _ _ ▸ hrecover).1
    refine List.countP_pos_iff.mpr ⟨lane, List.mem_of_find?_eq_some hlane, ?_⟩
    simp [isReviewRecovered, htick, hrecover, hname, hstatus]

theorem recoveredLanes_of_review (h : autopilotReviewRecoveryCanTick plan settings = true) :
    recoveredLanes plan settings = plan.lanes.countP fun lane =>
      lane.lane == "review" && autopilotReviewLanePlanCanRecover lane := by
  refine List.countP_congr fun lane _ => ?_
  rw [isReviewRecovered, isMergeRecovered, h, not_merge_of_review plan settings h,
    autopilotReviewLanePlanCanRecover]
  cases lane.status == "blocked" <;> cases lane.lane == "review" <;> simp

theorem recoveredLanes_eq_zero_iff (h : autopilotReviewRecoveryCanTick plan settings = false) :
    recoveredLanes plan settings = 0 ↔ (autopilotMergeRecoveryCanTick plan settings = true →
      ∀ lane ∈ plan.lanes, lane.lane = "merge" → autopilotMergeLanePlanCanRecover lane = true →
        lane.status ≠ "blocked") := by
  rw [recoveredLanes, List.countP_eq_zero]
  simp only [isReviewRecovered, isMergeRecovered, h, Bool.false_and, Bool.false_or,
    Bool.and_eq_true, beq_iff_eq, not_and]
  constructor
  · exact fun hnone htick lane hlane hmerge hrecover hblocked =>
      hnone lane hlane hblocked ⟨htick, hmerge⟩ hrecover
  · exact fun hnone lane hlane hblocked hmerge hrecover =>
      hnone hmerge.1 lane hlane hmerge.2 hrecover hblocked

/-- The review recovery has one lane to take up, and the merge recovery none that is blocked. -/
structure RecoversCounted : Prop where
  review : autopilotReviewRecoveryCanTick plan settings = true →
    (plan.lanes.countP fun lane => lane.lane == "review" && autopilotReviewLanePlanCanRecover lane) = 1
  merge : autopilotMergeRecoveryCanTick plan settings = true →
    ∀ lane ∈ plan.lanes, lane.lane = "merge" → autopilotMergeLanePlanCanRecover lane = true →
      lane.status ≠ "blocked"

/-- The count of what is blocked is the number of the reasons exactly where the review recovery
has one lane to take up, and the merge recovery none that is blocked. -/
theorem counts_blocked_iff (iteration : Nat) (progress : AutopilotLoopProgress)
    (nextPollInMs : Option UInt64) (recentTransientFailures : List AutopilotTransientFailure)
    (cancellationRequested : Bool) :
    let status := autopilotLoopStatusFromPlanWithWorkUnits plan settings iteration progress
      nextPollInMs recentTransientFailures cancellationRequested
    status.counts.blocked = status.blockedReasons.length ↔ RecoversCounted plan settings := by
  show (effectiveCounts plan settings recentTransientFailures).blocked
    = (blockedReasons plan settings).length ↔ _
  have hreasons := length_blockedReasons plan settings
  rw [blocked_effectiveCounts]
  cases htick : autopilotReviewRecoveryCanTick plan settings with
  | true =>
      have hpos := recoveredLanes_pos plan settings htick
      rw [recoveredLanes_of_review plan settings htick] at hreasons hpos
      have hmerge := not_merge_of_review plan settings htick
      rw [if_pos rfl]
      constructor
      · exact fun hsame => ⟨fun _ => by omega, fun hother => absurd (hmerge ▸ hother) (by decide)⟩
      · intro hcounted
        have hone := hcounted.review htick
        omega
  | false =>
      have hnone := recoveredLanes_eq_zero_iff plan settings htick
      rw [if_neg (by decide), Nat.sub_zero]
      constructor
      · exact fun hsame => ⟨fun hother => absurd (htick ▸ hother) (by decide), hnone.mp (by omega)⟩
      · intro hcounted
        have hzero := hnone.mpr hcounted.merge
        omega

/-- A merge that is blocked by conflicts and still held by its own worker. -/
def conflictedPlan : LoopPlan where
  workflowPath := "WORKFLOW.md"
  lanes := [{ lane := "merge", status := "blocked", selectedIssue := some { identifier := "#7" },
              proposedAction := "attempt_safe_conflict_repair", reason := "merge_dirty" }]
  parkedQueues := []
  readiness := { status := "blocked_by_ambiguous_lane_or_runtime_state", reason := "",
                 blockers := ["active_runtime_states=1"], warnings := [] }
  blockerCodes := []
  canonicalCheckout := { safeForWrite := true, reason := none }
  runtime :=
    { runtimeStateCount := 1, sessionCount := 0, sessionAttentionCount := 0, retryingCount := 0,
      activeIssues := [{ lane := "merge", identifier := "#7", backend := "codex", sessionId := none }],
      retrying := [], blockers := ["active_runtime_states=1"], evidence := [] }

def recoveringSettings : AutopilotLoopSettings where
  write := true
  dryRun := false
  recover := true
  pollIntervalMs := 1000
  mainMaxConcurrent := 0
  reviewMaxConcurrent := 0
  mergeMaxConcurrent := 1

/-- The merge is taken up again: no reason is given, and one lane is counted as blocked. -/
theorem conflicted_counts :
    let status := autopilotLoopStatusFromPlanWithWorkUnits conflictedPlan recoveringSettings 1
      { workUnitLimit := none, completedWorkUnits := { total := 0, lanes := [] } } none [] false
    status.counts.blocked = 1 ∧ status.blockedReasons = [] := by
  decide

end SheaSymphony.Autopilot

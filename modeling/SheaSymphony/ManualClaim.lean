import SheaSymphony.ClaimRace
import SheaSymphony.PoolSelection

/-!
# Manual claims

The claim an operator makes for a worker (`commands/session/claim.rs`), against what the
pool says of the same issue. The manual path knows the states by their default names and
replaces every claim but an active one of its own lane and issue
(`manual_claim_agrees_iff`).
-/

namespace SheaSymphony.Lanes

open Config (RuntimeConfig)
open Model (TrackerIssue)

inductive AgentSessionLaneArg where
  | main | review | merge
deriving DecidableEq

namespace AgentSessionLaneArg

def label : AgentSessionLaneArg → String
  | main => "main"
  | review => "review"
  | merge => "merge"

def claimField : AgentSessionLaneArg → String
  | main => "Main Agent"
  | review => "Review Agent"
  | merge => "Merging Agent"

def claimLane : AgentSessionLaneArg → LaneClaimLane
  | main => .main
  | review => .review
  | merge => .merge

/-- The lane of the pool, where it has one. -/
def poolLane : AgentSessionLaneArg → Option WorkerLane
  | main => some .main
  | review => none
  | merge => some .merging

end AgentSessionLaneArg

section
variable (case : Text.UnicodeCase) (issue : TrackerIssue) (lane : AgentSessionLaneArg)
  (config : RuntimeConfig)

/-- The states of a lane by their default names. -/
def manualState : Bool :=
  let normalized := issue.normalizedState case
  match lane with
  | .main => ["todo", "in progress", "rework"].contains normalized
  | .review => normalized == "agent review"
  | .merge => normalized == "merging"

def manualSubissuesReason : Option String :=
  match lane with
  | .main => Model.nativeSubissueGateBlocker case issue (config.terminalStateSet case)
  | .review | .merge => none

def validateLaneClaimState : Except String Unit :=
  if manualState case issue lane then
    match manualSubissuesReason case issue lane config with
    | some reason =>
        .error (lane.label ++ " claim cannot claim " ++ issue.identifier ++ "; " ++ reason)
    | none => .ok ()
  else
    .error (lane.label ++ " claim cannot claim " ++ issue.identifier ++ "; " ++ issue.identifier
      ++ " is currently " ++ issue.state)

/-- The claim is an active one of the lane on the issue. -/
def heldInLane (claim : LaneClaim) : Bool :=
  claim.lane == lane.claimLane && claim.issue == issue.identifier && claim.state == .active

/-- A new claim of a worker. -/
def manualClaim (actor : LaneClaimActor) (source : LaneClaimSource) (worker : String)
    (nowMs : UInt64) : LaneClaim :=
  (LaneClaim.active issue.identifier lane.claimLane actor source nowMs).withWorker worker

def laneClaimForManualWorker (actor : LaneClaimActor) (source : LaneClaimSource) (worker : String)
    (existing : Option String) (nowMs : UInt64) : Except String LaneClaim :=
  match existing with
  | none => .ok (manualClaim issue lane actor source worker nowMs)
  | some existing =>
      match LaneClaim.parse existing with
      | .ok claim =>
          if heldInLane issue lane claim then
            if claim.worker = some worker then .ok claim
            else .error (issue.identifier ++ " already has an active " ++ lane.label
              ++ " claim owned by " ++ claim.worker.getD claim.actor.asStr ++ " run=" ++ claim.run)
          else .ok (manualClaim issue lane actor source worker nowMs)
      | .error _ =>
          if Text.trim existing = "" then .ok (manualClaim issue lane actor source worker nowMs)
          else .error (issue.identifier ++ " already has an unparseable " ++ lane.claimField
            ++ " claim: " ++ existing)

/-- The states of a lane by their configured names. -/
def configuredState : Bool :=
  let normalized := issue.normalizedState case
  let stateMap := config.tracker.stateMap
  match lane with
  | .main =>
      normalized == Model.normalizeState case stateMap.todo
        || normalized == Model.normalizeState case stateMap.rework
        || normalized == Model.normalizeState case stateMap.inProgress
  | .review => normalized == Model.normalizeState case stateMap.agentReview
  | .merge => normalized == Model.normalizeState case stateMap.merging

/-! ## Agreement with the pool -/

variable (worker : WorkerId) (actor : LaneClaimActor) (source : LaneClaimSource) (nowMs : UInt64)

/-- The manual path admits a claim that is not the one the field holds. -/
def AdmitsNew : Prop :=
  validateLaneClaimState case issue lane config = .ok ()
    ∧ ∃ claim, laneClaimForManualWorker issue lane actor source worker.id
        (projectTextField issue lane.claimField) nowMs = .ok claim
      ∧ ∀ owner, projectTextField issue lane.claimField = some owner →
        LaneClaim.parse owner ≠ .ok claim

structure ManualAgrees : Prop where
  /-- What is admitted the pool would let the worker take. -/
  pool : AdmitsNew case issue lane config worker actor source nowMs →
    ∀ poolLane, lane.poolLane = some poolLane →
      (poolClaimEligibility case issue poolLane worker.id config).isClaimable = true
  /-- No active claim of another lane or another worker is overwritten. -/
  held : AdmitsNew case issue lane config worker actor source nowMs →
    ∀ owner claim, projectTextField issue lane.claimField = some owner →
      LaneClaim.parse owner = .ok claim → claim.state = .active →
        claim.lane = lane.claimLane ∧ claim.worker = some worker.id
  /-- The states are those of the configuration. -/
  states : manualState case issue lane = configuredState case issue lane config

/-- A claim that may be replaced: a terminal one of the lane, or the text of it is the
worker's own name; in a lane without a pool, any terminal one. Nothing of another lane or
worker is active. -/
structure Replaceable (owner : String) (claim : LaneClaim) : Prop where
  pool : lane.poolLane.isSome = true → owner = worker.id
    ∨ claim.lane = lane.claimLane ∧ claim.state.isTerminalAuditPointer = true
  held : claim.state = .active → claim.lane = lane.claimLane ∧ claim.worker = some worker.id

end

section
variable {case : Text.UnicodeCase} {issue : TrackerIssue} {lane : AgentSessionLaneArg}
  {config : RuntimeConfig} {worker : WorkerId} {actor : LaneClaimActor} {source : LaneClaimSource}
  {nowMs : UInt64}

theorem validateLaneClaimState_eq_ok_iff :
    validateLaneClaimState case issue lane config = .ok ()
      ↔ manualState case issue lane = true ∧ manualSubissuesReason case issue lane config = none := by
  unfold validateLaneClaimState
  cases manualState case issue lane with
  | false => exact iff_of_false nofun fun h => Bool.false_ne_true h.1
  | true =>
      cases manualSubissuesReason case issue lane config with
      | some reason => exact iff_of_false nofun fun h => by cases h.2
      | none => exact iff_of_true rfl ⟨rfl, rfl⟩

theorem heldInLane_iff {claim : LaneClaim} :
    heldInLane issue lane claim = true
      ↔ claim.lane = lane.claimLane ∧ claim.issue = issue.identifier ∧ claim.state = .active := by
  simp only [heldInLane, Bool.and_eq_true, beq_iff_eq, and_assoc]

theorem heldInLane_manualClaim :
    heldInLane issue lane (manualClaim issue lane actor source worker.id nowMs) = true :=
  heldInLane_iff.mpr ⟨rfl, rfl, rfl⟩

theorem trim_projectTextField {name owner : String} (h : projectTextField issue name = some owner) :
    Text.trim owner ≠ "" := by
  obtain ⟨hread, hne⟩ := Option.filter_eq_some_iff.mp h
  obtain ⟨text, -, rfl⟩ := Option.map_eq_some_iff.mp hread
  rw [Text.trim_trim]
  simpa using hne

/-- A new claim is admitted over an empty field, and over a claim that the lane does not
hold on the issue. -/
theorem admitsNew_iff :
    AdmitsNew case issue lane config worker actor source nowMs
      ↔ manualState case issue lane = true ∧ manualSubissuesReason case issue lane config = none
        ∧ ∀ owner, projectTextField issue lane.claimField = some owner →
          ∃ claim, LaneClaim.parse owner = .ok claim ∧ heldInLane issue lane claim = false := by
  unfold AdmitsNew
  rw [validateLaneClaimState_eq_ok_iff, and_assoc]
  refine and_congr_right fun _ => and_congr_right fun _ => ?_
  cases hfield : projectTextField issue lane.claimField with
  | none => exact iff_of_true ⟨_, rfl, nofun⟩ nofun
  | some owner =>
      simp only [laneClaimForManualWorker, Option.some.injEq, forall_eq']
      cases hparse : LaneClaim.parse owner with
      | error error =>
          refine iff_of_false ?_ (by rintro ⟨claim, h, -⟩; cases h)
          rintro ⟨claim, h, -⟩
          rw [if_neg (trim_projectTextField hfield)] at h
          cases h
      | ok held =>
          dsimp only
          cases hheld : heldInLane issue lane held with
          | false =>
              refine iff_of_true ⟨_, rfl, fun h => ?_⟩ ⟨held, rfl, hheld⟩
              rw [Except.ok.inj h, heldInLane_manualClaim] at hheld
              cases hheld
          | true =>
              refine iff_of_false ?_ ?_
              · rintro ⟨claim, h, hother⟩
                rw [if_pos rfl] at h
                split at h
                · exact hother (congrArg Except.ok (Except.ok.inj h))
                · cases h
              · rintro ⟨claim, h, hfree⟩
                rw [Except.ok.inj h, hfree] at hheld
                cases hheld

theorem eligibleState_eq {poolLane : WorkerLane} (h : lane.poolLane = some poolLane) :
    eligibleState case issue poolLane config = configuredState case issue lane config
      ∧ nativeSubissuesReason case issue poolLane config = manualSubissuesReason case issue lane config
      ∧ poolLane.claimField = lane.claimField ∧ poolLane.claimLane = lane.claimLane := by
  cases lane with
  | main =>
      obtain rfl : WorkerLane.main = poolLane := Option.some.inj h
      exact ⟨rfl, rfl, rfl, rfl⟩
  | review => cases h
  | merge =>
      obtain rfl : WorkerLane.merging = poolLane := Option.some.inj h
      exact ⟨rfl, rfl, rfl, rfl⟩

/-- Where the lane does not hold the issue, the pool lets a worker take over a terminal
claim of the lane, and a text that is its own name. -/
theorem claimOwnership_isClaimable_iff {poolLane : WorkerLane} {workerId owner : String}
    {claim : LaneClaim} (hparse : LaneClaim.parse owner = .ok claim)
    (hfree : ¬ (claim.lane = poolLane.claimLane ∧ claim.issue = issue.identifier
      ∧ claim.state = .active)) :
    (claimOwnership issue poolLane workerId owner).isClaimable = true
      ↔ owner = workerId
        ∨ claim.lane = poolLane.claimLane ∧ claim.state.isTerminalAuditPointer = true := by
  by_cases hname : owner = workerId
  · rw [claimOwnership, if_pos hname]
    exact iff_of_true rfl (Or.inl hname)
  by_cases hterminal : claim.lane = poolLane.claimLane ∧ claim.state.isTerminalAuditPointer = true
  · simp only [claimOwnership, if_neg hname, hparse, if_pos hterminal]
    exact iff_of_true rfl (Or.inr hterminal)
  · have hown : ¬ (claim.lane = poolLane.claimLane ∧ claim.issue = issue.identifier
        ∧ claim.state = .active ∧ claim.worker = some workerId) :=
      fun h => hfree ⟨h.1, h.2.1, h.2.2.1⟩
    simp only [claimOwnership, if_neg hname, hparse, if_neg hterminal, if_neg hown]
    refine iff_of_false ?_ fun h => h.elim hname hterminal
    split <;> exact Bool.false_ne_true

end

/-- **When the manual claim and the pool agree**: the issue's state is one of the lane by its
default name exactly when it is by its configured one, and where the issue is open to
the lane, a claim the lane does not hold on it may be replaced. -/
theorem manual_claim_agrees_iff (case : Text.UnicodeCase) (issue : TrackerIssue)
    (lane : AgentSessionLaneArg) (config : RuntimeConfig) (worker : WorkerId)
    (actor : LaneClaimActor) (source : LaneClaimSource) (nowMs : UInt64) :
    ManualAgrees case issue lane config worker actor source nowMs
      ↔ manualState case issue lane = configuredState case issue lane config
        ∧ (manualState case issue lane = true → manualSubissuesReason case issue lane config = none →
          ∀ owner claim, projectTextField issue lane.claimField = some owner →
            LaneClaim.parse owner = .ok claim → heldInLane issue lane claim = false →
              Replaceable lane worker owner claim) := by
  have hfree : ∀ {claim : LaneClaim}, heldInLane issue lane claim = false →
      ¬ (claim.lane = lane.claimLane ∧ claim.issue = issue.identifier ∧ claim.state = .active) :=
    fun h hheld => by cases h.symm.trans (heldInLane_iff.mpr hheld)
  constructor
  · intro h
    refine ⟨h.states, fun hstate hopen owner claim hfield hparse hnot => ?_⟩
    have hadmits : AdmitsNew case issue lane config worker actor source nowMs := by
      refine admitsNew_iff.mpr ⟨hstate, hopen, fun other hother => ?_⟩
      obtain rfl : owner = other := Option.some.inj (hfield.symm.trans hother)
      exact ⟨claim, hparse, hnot⟩
    refine ⟨fun hpool => ?_, h.held hadmits owner claim hfield hparse⟩
    obtain ⟨poolLane, hlane⟩ := Option.isSome_iff_exists.mp hpool
    obtain ⟨-, -, hname, hclaimLane⟩ := @eligibleState_eq case issue lane config poolLane hlane
    obtain ⟨-, -, howner⟩ := isClaimable_iff.mp (h.pool hadmits poolLane hlane)
    have hclaimable := howner owner (by rw [hname]; exact hfield)
    rw [claimOwnership_isClaimable_iff hparse (by rw [hclaimLane]; exact hfree hnot)] at hclaimable
    rwa [hclaimLane] at hclaimable
  · rintro ⟨hstates, hreplace⟩
    refine ⟨fun hadmits poolLane hlane => ?_, fun hadmits owner claim hfield hparse => ?_, hstates⟩
    · obtain ⟨hstate, hopen, hclaims⟩ := admitsNew_iff.mp hadmits
      obtain ⟨heligible, hreason, hname, hclaimLane⟩ :=
        @eligibleState_eq case issue lane config poolLane hlane
      rw [isClaimable_iff, heligible, hreason, hname, ← hstates]
      refine ⟨hstate, hopen, fun owner hfield => ?_⟩
      obtain ⟨claim, hparse, hnot⟩ := hclaims owner hfield
      rw [claimOwnership_isClaimable_iff hparse (by rw [hclaimLane]; exact hfree hnot), hclaimLane]
      exact (hreplace hstate hopen owner claim hfield hparse hnot).pool (by rw [hlane]; rfl)
    · obtain ⟨hstate, hopen, hclaims⟩ := admitsNew_iff.mp hadmits
      obtain ⟨other, hother, hnot⟩ := hclaims owner hfield
      obtain rfl : claim = other := Except.ok.inj (hparse.symm.trans hother)
      exact (hreplace hstate hopen owner claim hfield hparse hnot).held

/-! ## A claim of another lane -/

/-- A running claim of the merge lane, in the field of the main lane. -/
def mergeClaim : LaneClaim where
  lane := .merge
  actor := .codex
  worker := some "beta"
  source := .loop
  issue := "#7"
  run := "20260516T0415Z-issue7-merge-5bdb"
  state := .active
  thread := "unknown"
  registry := "run/20260516T0415Z-issue7-merge-5bdb"

def foreignlyClaimed : TrackerIssue :=
  { todoIssue.toTrackerIssue with projectFields := fun name =>
      if name = "Main Agent" then some (.str mergeClaim.render) else none }

/-- The states of the workflow have other names. -/
def renamedRuntime : RuntimeConfig :=
  { defaultRuntime with
    tracker := { defaultRuntime.tracker with
      stateMap := { defaultRuntime.tracker.stateMap with todo := "Ready", backlog := "Todo" } } }

/-- An operator's claim overwrites the running claim, and takes an issue from the backlog. -/
theorem manual_claim_overwrites :
    ¬ ManualAgrees .ascii foreignlyClaimed .main defaultRuntime alpha .codex .manual 1000
      ∧ ¬ ManualAgrees .ascii todoIssue.toTrackerIssue .main renamedRuntime alpha .codex .manual 1000 := by
  constructor
  · rw [manual_claim_agrees_iff]
    rintro ⟨-, h⟩
    have htexts : mergeClaim.NoEmptyText := by decide
    have hparse : LaneClaim.parse mergeClaim.render = .ok mergeClaim := htexts.parse_render
    have hne : mergeClaim.render ≠ "" := by
      intro hempty
      rw [hempty] at hparse
      cases hparse
    have hfield : projectTextField foreignlyClaimed "Main Agent" = some mergeClaim.render :=
      projectTextField_of_isTrimmed rfl (isTrimmed_render htexts) hne
    have hreplace := h (by decide) (by decide) _ mergeClaim hfield hparse rfl
    cases (hreplace.held rfl).1
  · rw [manual_claim_agrees_iff]
    rintro ⟨h, -⟩
    exact absurd h (by decide)

end SheaSymphony.Lanes

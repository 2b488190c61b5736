import SheaSymphony.MainRetry
import SheaSymphony.ResumeVerdict

/-!
# Attempts that pay for runs

An issue stays in progress while its runs keep failing. The attempt count that is
stored pays for the runs: it covers those that failed and the one that is not over,
and one more while nothing says that its own run has failed. The preflight keeps this
where no session of the registry replaces the stored state, and the selection starts
no run early where the dispatch plan has no free slot for an issue whose retry waits.
-/

namespace SheaSymphony.MainLoop

open Lanes (poolClaimEligibility selectPoolWorkerIssues)
open Model (TrackerIssue)
open Preflight (Adoptable AdoptedFor OfferedFor PreflightRun RetryDue RuntimeRecoveryCandidate
  TakenFor TracksInProgress Unstored Verdict identifier_of_forIssue
  identifier_of_sessionOfIssue runtimeStateFromSessionRecord sessionOfIssue)
open SheaSymphony.Runtime (RuntimeState recordRuntimeRetry runtimeStateForIssue)

variable {ω : Type}

/-! ## What is promised, and when -/

structure WithinBudget (config : MainLaneConfig) (lane : RetryLane) : Prop where
  attempts : lane.attempts.Pairwise (· ≤ ·)
  starts : ∀ start ∈ lane.starts, ∀ retry ∈ start.retry, retry.nextRetryAtMs ≤ start.nowMs
  failedRuns : lane.failedRuns ≤ config.maxTurns.toNat
  stopped : lane.failedRuns = config.maxTurns.toNat → lane.movedTo = some "need_human_input"

/-- In an iteration, the issue is dispatched after the preflight `run`, in `state`. -/
structure Dispatches (config : MainLaneConfig) (issue : String) (lane : RetryLane)
    (iteration : Iteration ω) (run : PreflightRun) (state : RuntimeState) : Prop where
  preflight : iteration.preflight config lane.stored = .ok run
  selected : (iteration.selected config run).any (fun selected => selected.identifier == issue)
    = true
  state : dispatchedState config iteration.dispatch
    (runtimeStateForIssue run.retainedStates issue) = some state

def Iteration.outcome (config : MainLaneConfig) (iteration : Iteration ω) (state : RuntimeState) :
    RunOutcome :=
  runOutcome config iteration.dispatch iteration.effects iteration.recover state

/-- The issue stays in progress, the file holds one state for it, and its runs fail
without a usage limit. -/
structure KeepsFailing (config : MainLaneConfig) (issue : String) (lane : RetryLane)
    (iteration : Iteration ω) : Prop where
  others : ∀ state ∈ iteration.before ++ iteration.after, state.identifier ≠ some issue
  tracks : TracksInProgress iteration.effects config.preflight issue
  dispatched : iteration.dispatch.issue.identifier = issue
  fails : ∀ run state, Dispatches config issue lane iteration run state →
    ∀ result ∈ (iteration.outcome config state).result,
      result.success = false ∧ result.usageLimitPause = none

def RetryLane.storedAttempts (lane : RetryLane) : Nat :=
  (lane.stored.map fun state => state.attemptCount.toNat).getD 0

/-- A run ends within its iteration, and the tracker takes what is written then. -/
structure Concludes (dispatch : Dispatch ω) (outcome : RunOutcome) : Prop where
  ends : outcome.started = true → outcome.result.isSome = true
  whole : ∀ result ∈ outcome.result, result.pendingSession = false
  workpad : dispatch.workpadWritten = true
  claim : dispatch.claimWritten = true
  state : dispatch.stateWritten = true

/-- No session replaces a state that waits for a retry or tells of a failed run, or
one of a later attempt; the plan leaves an issue alone whose retry waits; no run is
started for a session that was completed; the last run is written to the tracker. -/
structure KeepsBudget (config : MainLaneConfig) (issue : String) (lane : RetryLane)
    (iteration : Iteration ω) : Prop where
  sessions : iteration.recover = true → ∀ record,
    Adoptable iteration.effects config.preflight iteration.nowMs issue record →
      0 < record.attempt ∧ ∀ stored ∈ lane.stored, stored.retry = none
        ∧ stored.lastEvent ≠ some "Failed" ∧ stored.attemptCount ≤ record.attempt
  plan : ∀ run, iteration.preflight config lane.stored = .ok run →
    (∀ stored ∈ lane.stored, RetryDue iteration.nowMs stored)
      ∨ config.maxConcurrent ≤ run.activeMainWorkers
      ∨ ∀ planned ∈ iteration.planSelected, planned.identifier = issue →
        (poolClaimEligibility config.preflight.case planned .main config.workerId
          config.preflight.runtime).isClaimable = false
  completed : ∀ run state, Dispatches config issue lane iteration run state →
    state.lastEvent = some "SessionTerminal" → (iteration.outcome config state).started = false
  limit : config.maxTurns.toNat ≤ lane.storedAttempts + 1 →
    ∀ run state, Dispatches config issue lane iteration run state →
      Concludes iteration.dispatch (iteration.outcome config state)

/-! ## Attempts pay for runs -/

/-- One more run may fail under `attempts`. -/
def RetryLane.RoomFor (lane : RetryLane) (attempts : Nat) : Prop :=
  lane.failedRuns + 1 ≤ attempts ∧ lane.runs ≤ attempts

/-- The state may stand for the issue. -/
structure Covers (issue : String) (lane : RetryLane) (state : RuntimeState) : Prop where
  issue : state.identifier = some issue
  attempts : ∀ attempt ∈ lane.attempts, attempt ≤ state.attemptCount
  runs : lane.runs ≤ state.attemptCount.toNat
  spare : state.retry = none → state.lastEvent ≠ some "Failed" →
    lane.failedRuns + 1 ≤ max 1 state.attemptCount.toNat
  terminal : state.lastEvent = some "SessionTerminal" →
    lane.failedRuns + 1 ≤ state.attemptCount.toNat

/-- The lane between two iterations, before it gives the issue up. -/
structure Underway (config : MainLaneConfig) (issue : String) (lane : RetryLane) : Prop where
  unmoved : lane.movedTo = none
  runs : lane.runs < config.maxTurns.toNat
  unstored : lane.stored = none → lane.attempts = [] ∧ lane.runs = 0
  covers : ∀ state ∈ lane.stored, Covers issue lane state

section
variable {config : MainLaneConfig} {issue : String} {lane : RetryLane} {state : RuntimeState}

theorem failedRuns_le_runs (lane : RetryLane) : lane.failedRuns ≤ lane.runs :=
  Nat.le_add_right _ _

theorem runs_le_succ (lane : RetryLane) : lane.runs ≤ lane.failedRuns + 1 :=
  Nat.add_le_add_left (Bool.toNat_le _) _

theorem pairwise_concat_of_le {attempts : List UInt32} {attempt : UInt32}
    (h : attempts.Pairwise (· ≤ ·)) (htop : ∀ a ∈ attempts, a ≤ attempt) :
    (attempts ++ [attempt]).Pairwise (· ≤ ·) := by
  refine List.pairwise_append.mpr ⟨h, List.pairwise_singleton _ _, ?_⟩
  intro a ha b hb
  obtain rfl := List.mem_singleton.mp hb
  exact htop a ha

theorem le_of_mem_concat {attempts : List UInt32} {attempt : UInt32}
    (htop : ∀ a ∈ attempts, a ≤ attempt) : ∀ a ∈ attempts ++ [attempt], a ≤ attempt := by
  intro a ha
  rcases List.mem_append.mp ha with hold | hnew
  · exact htop a hold
  · obtain rfl := List.mem_singleton.mp hnew
    exact UInt32.le_refl _

theorem Covers.store (h : Covers issue lane state) : Covers issue (lane.store state) state where
  issue := h.issue
  attempts := le_of_mem_concat h.attempts
  runs := h.runs
  spare := h.spare
  terminal := h.terminal

theorem Underway.store (h : Underway config issue lane) (hcovers : Covers issue lane state) :
    Underway config issue (lane.store state) where
  unmoved := h.unmoved
  runs := h.runs
  unstored := nofun
  covers other hother := by
    obtain rfl := Option.some.inj hother
    exact hcovers.store

theorem Underway.runs_le_storedAttempts (h : Underway config issue lane) :
    lane.runs ≤ lane.storedAttempts := by
  unfold RetryLane.storedAttempts
  cases hstored : lane.stored with
  | none => exact (h.unstored hstored).2.le
  | some state => exact (h.covers state hstored).runs

end

/-! ## The preflight -/

section
variable {config : MainLaneConfig} {issue : String} {lane : RetryLane} {iteration : Iteration ω}
  {state stored : RuntimeState} {run : PreflightRun}

theorem one_le_toNat {n : UInt32} (h : 0 < n) : 1 ≤ n.toNat := UInt32.lt_iff_toNat_lt.mp h

theorem covers_of_adopted (h : Underway config issue lane)
    (hkeeps : KeepsBudget config issue lane iteration) (hrecover : iteration.recover = true)
    (hstored : lane.stored = some stored)
    (hadopted : AdoptedFor iteration.effects config.preflight iteration.nowMs issue state) :
    Covers issue lane state := by
  obtain ⟨record, hadoptable, hstate⟩ := hadopted
  obtain ⟨hpositive, hreplaces⟩ := hkeeps.sessions hrecover record hadoptable
  obtain ⟨hretry, hevent, hattempt⟩ := hreplaces stored hstored
  have hcovers := h.covers stored hstored
  have hroom : lane.failedRuns + 1 ≤ record.attempt.toNat := by
    have hspare := hcovers.spare hretry hevent
    have hle := UInt32.le_iff_toNat_le.mp hattempt
    have hone := one_le_toNat hpositive
    omega
  have hcount : state.attemptCount = record.attempt := by rcases hstate with rfl | rfl <;> rfl
  constructor
  case issue =>
    rcases hstate with rfl | rfl
    · exact identifier_of_sessionOfIssue hadoptable.ofIssue
    · exact identifier_of_sessionOfIssue hadoptable.ofIssue
  case attempts =>
    intro attempt hmem
    rw [hcount]
    exact UInt32.le_trans (hcovers.attempts attempt hmem) hattempt
  case runs => exact (runs_le_succ lane).trans (hcount ▸ hroom)
  case spare =>
    intro _ _
    rw [hcount]
    exact hroom.trans (le_max_right _ _)
  case terminal => exact fun _ => hcount ▸ hroom

theorem covers_of_taken (h : Underway config issue lane)
    (hkeeps : KeepsBudget config issue lane iteration) (hstored : lane.stored = some stored)
    (htaken : TakenFor iteration.effects config.preflight iteration.nowMs iteration.recover stored
      state) : Covers issue lane state := by
  rcases htaken with rfl | ⟨hrecover, identifier, hidentifier, hadopted⟩
  · exact h.covers state hstored
  · obtain rfl := Option.some.inj (hidentifier.symm.trans (h.covers stored hstored).issue)
    exact covers_of_adopted h hkeeps hrecover hstored hadopted

theorem covers_of_unstored (h : Underway config issue lane) (hnone : lane.stored = none)
    {record : Sessions.AgentSessionRecord} (hsession : sessionOfIssue issue record = true) :
    Covers issue lane (runtimeStateFromSessionRecord record) := by
  obtain ⟨hattempts, hruns⟩ := h.unstored hnone
  have hfailed : lane.failedRuns = 0 := Nat.eq_zero_of_le_zero (hruns ▸ failedRuns_le_runs lane)
  constructor
  case issue => exact identifier_of_sessionOfIssue hsession
  case attempts =>
    rw [hattempts]
    exact nofun
  case runs => exact hruns ▸ Nat.zero_le _
  case spare =>
    intro _ _
    rw [hfailed]
    exact le_max_left 1 _
  case terminal => exact fun hevent => absurd (Option.some.inj hevent) (by decide)

theorem preflight_verdict (hfailing : KeepsFailing config issue lane iteration)
    (hstored : lane.stored = some stored) (hissue : stored.identifier = some issue)
    (hrun : iteration.preflight config lane.stored = .ok run) :
    Verdict iteration.effects config.preflight iteration.nowMs iteration.recover issue stored
      run := by
  have hstates : iteration.before ++ lane.stored.toList ++ iteration.after
      = iteration.before ++ stored :: iteration.after := by
    rw [hstored, Option.toList_some, List.append_assoc, List.singleton_append]
  rw [Iteration.preflight, hstates] at hrun
  exact Preflight.resume_preflight_verdict hfailing.tracks hissue hfailing.others iteration.world run
    _ (Prod.ext hrun rfl)

theorem preflight_unstored (hfailing : KeepsFailing config issue lane iteration)
    (hnone : lane.stored = none) (hrun : iteration.preflight config lane.stored = .ok run) :
    Unstored issue run := by
  have hstates : iteration.before ++ lane.stored.toList ++ iteration.after
      = iteration.before ++ iteration.after := by
    rw [hnone, Option.toList_none, List.append_nil]
  rw [Iteration.preflight, hstates] at hrun
  exact Preflight.resume_preflight_unstored hfailing.tracks hfailing.others iteration.world run _
    (Prod.ext hrun rfl)

theorem preflight_covers (h : Underway config issue lane)
    (hfailing : KeepsFailing config issue lane iteration)
    (hkeeps : KeepsBudget config issue lane iteration)
    (hrun : iteration.preflight config lane.stored = .ok run) :
    (∀ state ∈ runtimeStateForIssue run.retainedStates issue, Covers issue lane state)
      ∧ (runtimeStateForIssue run.retainedStates issue = none → lane.stored = none) := by
  cases hstored : lane.stored with
  | none =>
      refine ⟨fun state hstate => ?_, fun _ => rfl⟩
      obtain ⟨record, hsession, rfl⟩ := preflight_unstored hfailing hstored hrun state hstate
      exact covers_of_unstored h hstored hsession
  | some stored =>
      have hverdict := preflight_verdict hfailing hstored (h.covers stored hstored).issue hrun
      obtain ⟨kept, hkept, htaken⟩ := hverdict.retained
      refine ⟨fun state hstate => ?_, fun hnone => ?_⟩
      · obtain rfl := Option.some.inj (hkept.symm.trans hstate)
        exact covers_of_taken h hkeeps hstored htaken
      · rw [hkept] at hnone
        exact absurd hnone (by simp)

theorem Underway.retain (h : Underway config issue lane) {kept : Option RuntimeState}
    (hcovers : ∀ state ∈ kept, Covers issue lane state) (hnone : kept = none → lane.stored = none) :
    Underway config issue (lane.retain kept) := by
  cases kept with
  | none => exact ⟨h.unmoved, h.runs, fun _ => h.unstored (hnone rfl), by simp [RetryLane.retain]⟩
  | some state => exact h.store (hcovers state rfl)

theorem pairwise_retain (hsorted : lane.attempts.Pairwise (· ≤ ·)) {kept : Option RuntimeState}
    (hcovers : ∀ state ∈ kept, Covers issue lane state) :
    (lane.retain kept).attempts.Pairwise (· ≤ ·) := by
  cases kept with
  | none => exact hsorted
  | some state => exact pairwise_concat_of_le hsorted (hcovers state rfl).attempts

@[simp] theorem stored_retain (kept : Option RuntimeState) : (lane.retain kept).stored = kept := by
  cases kept <;> rfl

@[simp] theorem runs_retain (kept : Option RuntimeState) : (lane.retain kept).runs = lane.runs := by
  cases kept <;> rfl

@[simp] theorem starts_retain (kept : Option RuntimeState) :
    (lane.retain kept).starts = lane.starts := by
  cases kept <;> rfl

/-! ## The selection -/

theorem mem_selectRecoverable {slots : Nat} {selected : TrackerIssue} :
    ∀ {candidates : List RuntimeRecoveryCandidate} {chosen : List TrackerIssue},
      selected ∈ selectRecoverable slots candidates chosen →
      selected ∈ chosen ∨ ∃ candidate ∈ candidates, candidate.issue = selected
  | [], _, h => Or.inl h
  | candidate :: rest, chosen, h => by
      have hrest : ∀ {chosen' : List TrackerIssue}, selected ∈ selectRecoverable slots rest chosen' →
          selected ∈ chosen' ∨ ∃ other ∈ candidate :: rest, other.issue = selected :=
        fun h => (mem_selectRecoverable h).imp id fun ⟨other, hother, hissue⟩ =>
          ⟨other, List.mem_cons_of_mem _ hother, hissue⟩
      rw [selectRecoverable] at h
      split at h
      · exact Or.inl h
      · split at h
        · exact hrest h
        · rcases hrest h with hchosen | hcandidate
          · rcases List.mem_append.mp hchosen with hold | hnew
            · exact Or.inl hold
            · exact Or.inr ⟨candidate, List.mem_cons_self, (List.mem_singleton.mp hnew).symm⟩
          · exact Or.inr hcandidate

theorem mem_foldl_push {selected : TrackerIssue} :
    ∀ (added chosen : List TrackerIssue),
      selected ∈ added.foldl (Collected.push TrackerIssue.identifier fun first _ => first) chosen →
      selected ∈ chosen ∨ selected ∈ added
  | [], _, h => Or.inl h
  | first :: added, chosen, h => by
      rcases mem_foldl_push added _ h with hpushed | hlater
      · have hall : ∀ a ∈ Collected.push TrackerIssue.identifier (fun first _ => first) chosen first,
            a ∈ chosen ∨ a ∈ first :: added :=
          Collected.forall_mem_push (fun a _ ha _ => ha) (fun a ha => Or.inl ha)
            (Or.inr List.mem_cons_self)
        exact hall selected hpushed
      · exact Or.inr (List.mem_cons_of_mem _ hlater)

theorem mem_selectMainRunLoopIssues {candidates : List RuntimeRecoveryCandidate}
    {planned : List TrackerIssue} {slots : Nat} {selected : TrackerIssue}
    (h : selected ∈ selectMainRunLoopIssues config candidates planned slots) :
    (∃ candidate ∈ candidates, candidate.issue = selected) ∨
      0 < slots ∧ selected ∈ planned ∧ (poolClaimEligibility config.preflight.case selected .main
        config.workerId config.preflight.runtime).isClaimable = true := by
  unfold selectMainRunLoopIssues at h
  split at h
  · exact absurd h List.not_mem_nil
  · next hslots =>
    rcases mem_foldl_push _ _ h with hcandidate | hpool
    · left
      exact (mem_selectRecoverable hcandidate).resolve_left List.not_mem_nil
    · exact Or.inr ⟨Nat.pos_of_ne_zero hslots, Lanes.isClaimable_of_mem_select hpool⟩

theorem retryDue_of_dispatches (h : Underway config issue lane)
    (hfailing : KeepsFailing config issue lane iteration)
    (hkeeps : KeepsBudget config issue lane iteration) (hstored : lane.stored = some stored)
    (hdispatches : Dispatches config issue lane iteration run state) :
    RetryDue iteration.nowMs stored := by
  obtain ⟨selected, hselected, hissue⟩ := List.any_eq_true.mp hdispatches.selected
  have hsame : selected.identifier = issue := beq_iff_eq.mp hissue
  unfold Iteration.selected at hselected
  split at hselected
  · exact absurd hselected List.not_mem_nil
  · rcases mem_selectMainRunLoopIssues hselected with ⟨candidate, hcandidate, rfl⟩ | hplanned
    · have hverdict := preflight_verdict hfailing hstored (h.covers stored hstored).issue
        hdispatches.preflight
      have hoffered : OfferedFor iteration.effects config.preflight iteration.nowMs
          iteration.recover stored candidate.state := by
        refine hverdict.candidates candidate ?_ hsame
        split at hcandidate
        · exact hcandidate
        · exact absurd hcandidate List.not_mem_nil
      rcases hoffered with ⟨-, hdue⟩ | ⟨hrecover, identifier, hidentifier, record, hadoptable, -⟩
      · exact hdue
      · obtain rfl := Option.some.inj (hidentifier.symm.trans (h.covers stored hstored).issue)
        obtain ⟨hretry, -, -⟩ := (hkeeps.sessions hrecover record hadoptable).2 stored hstored
        intro retry hmem
        rw [hretry] at hmem
        exact absurd hmem (by simp)
    · obtain ⟨hslots, hmem, hclaimable⟩ := hplanned
      rcases hkeeps.plan run hdispatches.preflight with hdue | hfull | hplan
      · exact hdue stored hstored
      · exact absurd hslots (by omega)
      · rw [hplan selected hmem hsame] at hclaimable
        exact absurd hclaimable Bool.false_ne_true

end

end SheaSymphony.MainLoop

import Mathlib.Data.List.Perm.Subperm
import SheaSymphony.PoolClaim
import SheaSymphony.Sorted

/-!
# Selection from the worker pool

`select_pool_worker_issues` of `lanes/claim.rs`: the issues a worker of a lane
may take, by priority, as many as the pool has room for. An issue held by
someone else stays out (`select_pool_worker_issues_safe`). A claim field that
holds nothing but the worker's name is the worker's own, though it is no claim
the scanner reads; and the selection repeats what the list repeats.
-/

namespace SheaSymphony.Lanes

open Config (RuntimeConfig)
open Model (TrackerIssue)

/-- The sort key: an issue without a priority comes last. -/
def poolSortKey (issue : TrackerIssue) : Int := issue.priority.getD 9223372036854775807

def poolLe (left right : TrackerIssue) : Bool := decide (poolSortKey left ≤ poolSortKey right)

def selectPoolWorkerIssues (case : Text.UnicodeCase) (issues : List TrackerIssue)
    (lane : WorkerLane) (workerId : String) (pool : Nat) (config : RuntimeConfig) :
    List TrackerIssue :=
  if pool = 0 then []
  else
    let selected := issues.filter fun issue =>
      (poolClaimEligibility case issue lane workerId config).isClaimable
    (selected.mergeSort poolLe).take pool

/-- The claim field holds a text that is no claim, or an active claim of another
lane or of another worker. -/
def ForeignClaim (issue : TrackerIssue) (lane : WorkerLane) (workerId : String) : Prop :=
  ∃ owner, projectTextField issue lane.claimField = some owner
    ∧ match LaneClaim.parse owner with
      | .error _ => True
      | .ok claim =>
          claim.state = .active ∧ (claim.lane ≠ lane.claimLane ∨ claim.worker ≠ some workerId)

/-! ## What a claimable issue satisfies -/

variable {issue : TrackerIssue}

theorem isClaimable_iff {case : Text.UnicodeCase} {lane : WorkerLane} {workerId : String}
    {config : RuntimeConfig} :
    (poolClaimEligibility case issue lane workerId config).isClaimable = true ↔
      eligibleState case issue lane config = true
        ∧ nativeSubissuesReason case issue lane config = none
        ∧ ∀ owner, projectTextField issue lane.claimField = some owner →
            (claimOwnership issue lane workerId owner).isClaimable = true := by
  rw [poolClaimEligibility]
  cases heligible : eligibleState case issue lane config with
  | false => simp [PoolClaimEligibility.isClaimable]
  | true =>
      cases hblocker : nativeSubissuesReason case issue lane config with
      | some reason => simp [PoolClaimEligibility.isClaimable]
      | none =>
          cases hfield : projectTextField issue lane.claimField with
          | none => simp [PoolClaimEligibility.isClaimable]
          | some owner => simp

theorem claimOwnership_active {lane : WorkerLane} {workerId owner : String} {claim : LaneClaim}
    (hparse : LaneClaim.parse owner = .ok claim) (hactive : claim.state = .active)
    (h : (claimOwnership issue lane workerId owner).isClaimable = true) :
    owner = workerId ∨ (claim.lane = lane.claimLane ∧ claim.worker = some workerId) := by
  rw [claimOwnership] at h
  by_cases hname : owner = workerId
  · exact Or.inl hname
  right
  simp only [if_neg hname, hparse] at h
  have hterminal : ¬ (claim.lane = lane.claimLane
      ∧ claim.state.isTerminalAuditPointer = true) := by
    rintro ⟨-, hstate⟩
    rw [hactive] at hstate
    cases hstate
  rw [if_neg hterminal] at h
  split at h
  · next hown => exact ⟨hown.1, hown.2.2.2⟩
  · split at h <;> cases h

theorem claimOwnership_malformed {lane : WorkerLane} {workerId owner : String}
    {e : LaneClaimParseError} (hparse : LaneClaim.parse owner = .error e)
    (h : (claimOwnership issue lane workerId owner).isClaimable = true) : owner = workerId := by
  rw [claimOwnership] at h
  by_contra hname
  simp [if_neg hname, hparse, PoolClaimEligibility.isClaimable] at h

theorem projectTextField_of_foreignClaim {case : Text.UnicodeCase} {lane : WorkerLane}
    {workerId : String} {config : RuntimeConfig} (hforeign : ForeignClaim issue lane workerId)
    (h : (poolClaimEligibility case issue lane workerId config).isClaimable = true) :
    projectTextField issue lane.claimField = some workerId := by
  obtain ⟨owner, hfield, hclaim⟩ := hforeign
  obtain ⟨-, -, hopen⟩ := isClaimable_iff.mp h
  have howner := hopen owner hfield
  rw [hfield]
  cases hparse : LaneClaim.parse owner with
  | error e => rw [claimOwnership_malformed hparse howner]
  | ok claim =>
      simp only [hparse] at hclaim
      obtain ⟨hactive, hother⟩ := hclaim
      rcases claimOwnership_active hparse hactive howner with rfl | ⟨hlane, hworker⟩
      · rfl
      · rcases hother with hother | hother <;> contradiction

/-! ## The selection -/

theorem poolLe_iff {a b : TrackerIssue} : poolLe a b = true ↔ poolSortKey a ≤ poolSortKey b :=
  decide_eq_true_iff

theorem pairwise_mergeSort_poolLe (issues : List TrackerIssue) :
    (issues.mergeSort poolLe).Pairwise fun a b => poolSortKey a ≤ poolSortKey b :=
  Sorted.pairwise_mergeSort poolSortKey (fun _ _ => poolLe_iff) issues

section Selection

variable {case : Text.UnicodeCase} {issues : List TrackerIssue} {lane : WorkerLane}
  {workerId : String} {pool : Nat} {config : RuntimeConfig}

theorem selectPoolWorkerIssues_sublist (case : Text.UnicodeCase) (issues : List TrackerIssue)
    (lane : WorkerLane) (workerId : String) (pool : Nat) (config : RuntimeConfig) :
    ∃ claimable : List TrackerIssue,
      claimable.Perm (issues.filter fun issue =>
        (poolClaimEligibility case issue lane workerId config).isClaimable)
      ∧ claimable.Pairwise (fun a b => poolSortKey a ≤ poolSortKey b)
      ∧ (selectPoolWorkerIssues case issues lane workerId pool config).Sublist claimable := by
  refine ⟨_, List.mergeSort_perm _ poolLe, pairwise_mergeSort_poolLe _, ?_⟩
  rw [selectPoolWorkerIssues]
  split
  · exact List.nil_sublist _
  · exact List.take_sublist _ _

theorem length_selectPoolWorkerIssues :
    (selectPoolWorkerIssues case issues lane workerId pool config).length ≤ pool := by
  rw [selectPoolWorkerIssues]
  split
  · exact Nat.zero_le _
  · exact List.length_take_le _ _

theorem isClaimable_of_mem_select
    (h : issue ∈ selectPoolWorkerIssues case issues lane workerId pool config) :
    issue ∈ issues
      ∧ (poolClaimEligibility case issue lane workerId config).isClaimable = true := by
  obtain ⟨claimable, hperm, -, hsublist⟩ :=
    selectPoolWorkerIssues_sublist case issues lane workerId pool config
  exact List.mem_filter.mp (hperm.mem_iff.mp (hsublist.subset h))

/-- What two workers of a pool rely on: neither takes what the other holds, and a
selection is a short list of the lane's own issues, each as often as it was
offered at most, the most urgent first. -/
structure PoolSelectionSafe (case : Text.UnicodeCase) (issues : List TrackerIssue)
    (lane : WorkerLane) (workerId : String) (pool : Nat) (config : RuntimeConfig)
    (selected : List TrackerIssue) : Prop where
  foreign : ∀ issue ∈ issues, ForeignClaim issue lane workerId →
    projectTextField issue lane.claimField ≠ some workerId → issue ∉ selected
  length_le : selected.length ≤ pool
  subperm : selected.Subperm issues
  nodup : ∀ {α : Type} (key : TrackerIssue → α), (issues.map key).Nodup → (selected.map key).Nodup
  states : ∀ issue ∈ selected, eligibleState case issue lane config = true
  ordered : selected.Pairwise fun a b => poolSortKey a ≤ poolSortKey b

theorem select_pool_worker_issues_safe (case : Text.UnicodeCase) (issues : List TrackerIssue)
    (lane : WorkerLane) (workerId : String) (pool : Nat) (config : RuntimeConfig) :
    PoolSelectionSafe case issues lane workerId pool config
      (selectPoolWorkerIssues case issues lane workerId pool config) := by
  obtain ⟨claimable, hperm, hordered, hsublist⟩ :=
    selectPoolWorkerIssues_sublist case issues lane workerId pool config
  have hsubperm : (selectPoolWorkerIssues case issues lane workerId pool config).Subperm issues :=
    hsublist.subperm.trans (hperm.subperm.trans List.filter_sublist.subperm)
  constructor
  case foreign =>
    intro issue _ hforeign hname hselected
    exact hname (projectTextField_of_foreignClaim hforeign (isClaimable_of_mem_select hselected).2)
  case length_le => exact length_selectPoolWorkerIssues
  case subperm => exact hsubperm
  case nodup =>
    intro α key hnodup
    obtain ⟨listed, hlisted, hsub⟩ := hsubperm
    exact (hlisted.map key).nodup_iff.mp (hnodup.sublist (hsub.map key))
  case states =>
    intro issue hselected
    exact (isClaimable_iff.mp (isClaimable_of_mem_select hselected).2).1
  case ordered => exact hordered.sublist hsublist

end Selection

/-- An issue of the main lane whose claim field holds a worker's name. -/
def ownNamedIssue : TrackerIssue where
  id := "I_4"
  identifier := "#4"
  title := "Self owned"
  description := none
  state := "In Progress"
  priority := some 5
  blockedBy := []
  projectFields name := if name = "Main Agent" then some (.str "Shea Symphony Main") else none
  createdAt := none

def poolConfig : RuntimeConfig where
  tracker := Config.parseTracker none
  agent := Config.parseAgent .ascii none
  backendKind := "dry-run"
  pollingIntervalMs := 30000

/-- The name is no claim, and the issue is selected as often as it is listed. -/
theorem own_name_selected_twice :
    ForeignClaim ownNamedIssue .main "Shea Symphony Main"
      ∧ selectPoolWorkerIssues .ascii [ownNamedIssue, ownNamedIssue] .main "Shea Symphony Main" 2
          poolConfig = [ownNamedIssue, ownNamedIssue] := by
  have hfield : projectTextField ownNamedIssue WorkerLane.main.claimField
      = some "Shea Symphony Main" := by decide
  have hmalformed : LaneClaim.parse "Shea Symphony Main" = .error (.invalidToken "Shea") := by
    decide
  have hstate : eligibleState .ascii ownNamedIssue .main poolConfig = true := by decide
  have hopen : nativeSubissuesReason .ascii ownNamedIssue .main poolConfig = none := by
    decide
  have hclaimable : (poolClaimEligibility .ascii ownNamedIssue .main "Shea Symphony Main"
      poolConfig).isClaimable = true := by
    refine isClaimable_iff.mpr ⟨hstate, hopen, ?_⟩
    intro owner howner
    obtain rfl := Option.some.inj (hfield.symm.trans howner)
    rw [claimOwnership, if_pos rfl]
    rfl
  constructor
  · exact ⟨_, hfield, by simp [hmalformed]⟩
  · have hall : [ownNamedIssue, ownNamedIssue].filter (fun issue =>
        (poolClaimEligibility .ascii issue .main "Shea Symphony Main" poolConfig).isClaimable)
        = [ownNamedIssue, ownNamedIssue] := by
      refine List.filter_eq_self.mpr ?_
      intro issue hissue
      obtain rfl : issue = ownNamedIssue := by simpa using hissue
      exact hclaimable
    have hsort : [ownNamedIssue, ownNamedIssue].mergeSort poolLe = [ownNamedIssue, ownNamedIssue] :=
      List.mergeSort_of_pairwise (by simp [poolLe])
    simp only [selectPoolWorkerIssues, hall, hsort]
    rfl

end SheaSymphony.Lanes

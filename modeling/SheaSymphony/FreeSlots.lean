import SheaSymphony.MainRetryBudget

/-!
# Slots of the main lane

`select_main_run_loop_issues`: the issues to recover take their slots first, and the
plan fills the rest. The rest is cut from the plan before the issues that are being
recovered are dropped from it, so one that stands in both takes a slot from another
(`usesFreeSlots_iff`).
-/

namespace SheaSymphony.MainLoop

open Lanes (poolClaimEligibility selectPoolWorkerIssues)
open Model (TrackerIssue)
open Preflight (RuntimeRecoveryCandidate)

/-! ## What is offered -/

/-- The issues of the candidates, each once, as many as there are slots. -/
def recoveredIssues (candidates : List RuntimeRecoveryCandidate) (slots : Nat) :
    List TrackerIssue :=
  (Collected.collect TrackerIssue.identifier (fun first _ => first)
    (candidates.map RuntimeRecoveryCandidate.issue)).take slots

def claimableIssues (config : MainLaneConfig) (planned : List TrackerIssue) : List TrackerIssue :=
  planned.filter fun issue => (poolClaimEligibility config.preflight.case issue .main
    config.workerId config.preflight.runtime).isClaimable

/-- The first claimable issues of the plan, as many as the recovery leaves slots. -/
def plannedWindow (config : MainLaneConfig) (candidates : List RuntimeRecoveryCandidate)
    (planned : List TrackerIssue) (slots : Nat) : List TrackerIssue :=
  selectPoolWorkerIssues config.preflight.case planned .main config.workerId
    (slots - (recoveredIssues candidates slots).length) config.preflight.runtime

/-- Different issues, those to recover first; an issue of the plan is left out only
when every slot is taken, and the slots count each issue once. -/
structure UsesFreeSlots (config : MainLaneConfig) (candidates : List RuntimeRecoveryCandidate)
    (planned : List TrackerIssue) (slots : Nat) (selected : List TrackerIssue) : Prop where
  distinct : (selected.map TrackerIssue.identifier).Nodup
  length_le : selected.length ≤ slots
  recoveryFirst : ∃ added, selected = recoveredIssues candidates slots ++ added
    ∧ added ⊆ claimableIssues config planned
  leftOut : ∀ issue ∈ claimableIssues config planned,
    issue.identifier ∉ selected.map TrackerIssue.identifier → selected.length = slots
  countsOnce : selected.length = min slots ((candidates.map RuntimeRecoveryCandidate.issue
    ++ claimableIssues config planned).map TrackerIssue.identifier).dedup.length

variable {config : MainLaneConfig} {candidates : List RuntimeRecoveryCandidate}
  {planned : List TrackerIssue} {slots : Nat}

/-! ## The issues to recover -/

theorem selectRecoverable_eq (candidates : List RuntimeRecoveryCandidate)
    (selected : List TrackerIssue) (h : selected.length ≤ slots) :
    selectRecoverable slots candidates selected =
      ((candidates.map RuntimeRecoveryCandidate.issue).foldl
        (Collected.push TrackerIssue.identifier fun first _ => first) selected).take slots := by
  induction candidates generalizing selected with
  | nil => exact (List.take_of_length_le h).symm
  | cons candidate rest ih =>
      rw [selectRecoverable]
      split
      · next hfull =>
        obtain ⟨added, heq, -⟩ := Collected.foldl_push_first TrackerIssue.identifier
          ((candidate :: rest).map RuntimeRecoveryCandidate.issue) selected
        rw [heq, List.take_append_of_le_length hfull, List.take_of_length_le h]
      · next hfree =>
        rw [List.map_cons, List.foldl_cons, Collected.push_first]
        have hknown : (selected.any fun issue => issue.identifier == candidate.issue.identifier)
            = true ↔ candidate.issue.identifier ∈ selected.map TrackerIssue.identifier := by
          simp [List.any_eq_true]
        by_cases hmem : candidate.issue.identifier ∈ selected.map TrackerIssue.identifier
        · rw [if_pos (hknown.mpr hmem), if_pos hmem]
          exact ih selected h
        · rw [if_neg (fun hany => hmem (hknown.mp hany)), if_neg hmem]
          refine ih _ ?_
          rw [List.length_append, List.length_singleton]
          omega

theorem selectRecoverable_nil (candidates : List RuntimeRecoveryCandidate) (slots : Nat) :
    selectRecoverable slots candidates [] = recoveredIssues candidates slots :=
  selectRecoverable_eq candidates [] (Nat.zero_le slots)

variable (candidates slots) in
theorem length_recoveredIssues : (recoveredIssues candidates slots).length ≤ slots :=
  List.length_take_le _ _

theorem nodup_recoveredIssues :
    ((recoveredIssues candidates slots).map TrackerIssue.identifier).Nodup := by
  rw [recoveredIssues, List.map_take]
  exact (List.take_sublist _ _).nodup (Collected.nodup_collect (fun _ _ => rfl) _)

theorem mem_recoveredIssues (hfree : (recoveredIssues candidates slots).length < slots)
    {candidate : RuntimeRecoveryCandidate} (h : candidate ∈ candidates) :
    candidate.issue.identifier
      ∈ (recoveredIssues candidates slots).map TrackerIssue.identifier := by
  have hall : recoveredIssues candidates slots = Collected.collect TrackerIssue.identifier
      (fun first _ => first) (candidates.map RuntimeRecoveryCandidate.issue) := by
    refine List.take_of_length_le ?_
    rw [recoveredIssues, List.length_take] at hfree
    omega
  rw [hall, Collected.mem_map_key_collect (fun _ _ => rfl)]
  exact List.mem_map_of_mem (List.mem_map_of_mem h)

theorem recoveredIssues_subset :
    recoveredIssues candidates slots ⊆ candidates.map RuntimeRecoveryCandidate.issue := by
  refine fun issue h => ?_
  have hcollected := List.take_subset _ _ h
  obtain ⟨added, heq, hsub⟩ := Collected.foldl_push_first TrackerIssue.identifier
    (candidates.map RuntimeRecoveryCandidate.issue) []
  rw [Collected.collect, heq] at hcollected
  exact hsub hcollected

/-! ## The selection -/

theorem selectMainRunLoopIssues_eq (config : MainLaneConfig)
    (candidates : List RuntimeRecoveryCandidate) (planned : List TrackerIssue) (slots : Nat) :
    selectMainRunLoopIssues config candidates planned slots =
      (plannedWindow config candidates planned slots).foldl
        (Collected.push TrackerIssue.identifier fun first _ => first)
        (recoveredIssues candidates slots) := by
  by_cases hslots : slots = 0
  · subst hslots
    simp [selectMainRunLoopIssues, plannedWindow, recoveredIssues, selectPoolWorkerIssues]
  · rw [selectMainRunLoopIssues, if_neg hslots]
    simp only [selectRecoverable_nil]
    rfl

theorem map_identifier_selectMainRunLoopIssues :
    (selectMainRunLoopIssues config candidates planned slots).map TrackerIssue.identifier =
      Keyed.upsertKeys ((recoveredIssues candidates slots).map TrackerIssue.identifier)
        ((plannedWindow config candidates planned slots).map TrackerIssue.identifier) := by
  rw [selectMainRunLoopIssues_eq]
  exact Collected.map_key_foldl_push (fun _ _ => rfl) _ _

theorem mem_map_selectMainRunLoopIssues {identifier : String} :
    identifier ∈ (selectMainRunLoopIssues config candidates planned slots).map
        TrackerIssue.identifier ↔
      identifier ∈ (recoveredIssues candidates slots
        ++ plannedWindow config candidates planned slots).map TrackerIssue.identifier := by
  rw [map_identifier_selectMainRunLoopIssues, List.map_append, List.mem_append]
  constructor
  · exact Keyed.mem_upsertKeys
  · rintro (h | h)
    · exact (Keyed.subset_upsertKeys _ _).1 h
    · exact (Keyed.subset_upsertKeys _ _).2 h

theorem nodup_selectMainRunLoopIssues (config : MainLaneConfig)
    (candidates : List RuntimeRecoveryCandidate) (planned : List TrackerIssue) (slots : Nat) :
    ((selectMainRunLoopIssues config candidates planned slots).map
      TrackerIssue.identifier).Nodup := by
  rw [map_identifier_selectMainRunLoopIssues]
  exact Keyed.nodup_upsertKeys nodup_recoveredIssues _

theorem plannedWindow_subset :
    plannedWindow config candidates planned slots ⊆ claimableIssues config planned :=
  fun _ h => List.mem_filter.mpr (Lanes.isClaimable_of_mem_select h)

theorem length_plannedWindow (config : MainLaneConfig)
    (candidates : List RuntimeRecoveryCandidate) (planned : List TrackerIssue) (slots : Nat) :
    (plannedWindow config candidates planned slots).length =
      min (slots - (recoveredIssues candidates slots).length)
        (claimableIssues config planned).length := by
  rw [plannedWindow, selectPoolWorkerIssues]
  split
  · next hfull => rw [hfull, Nat.zero_min, List.length_nil]
  · rw [List.length_take, List.length_mergeSort]
    rfl

theorem mem_plannedWindow
    (hroom : (claimableIssues config planned).length
      ≤ slots - (recoveredIssues candidates slots).length)
    {issue : TrackerIssue} (h : issue ∈ claimableIssues config planned) :
    issue ∈ plannedWindow config candidates planned slots := by
  have hpos : 0 < (claimableIssues config planned).length := List.length_pos_of_mem h
  rw [plannedWindow, selectPoolWorkerIssues, if_neg (by omega)]
  rw [List.take_of_length_le (by rw [List.length_mergeSort]; exact hroom)]
  exact List.mem_mergeSort.mpr h

theorem length_selectMainRunLoopIssues_le (config : MainLaneConfig)
    (candidates : List RuntimeRecoveryCandidate) (planned : List TrackerIssue) (slots : Nat) :
    (selectMainRunLoopIssues config candidates planned slots).length ≤
      (recoveredIssues candidates slots).length
        + (plannedWindow config candidates planned slots).length := by
  have hsub := (List.subperm_of_subset
    (nodup_selectMainRunLoopIssues config candidates planned slots)
    fun _ => mem_map_selectMainRunLoopIssues.mp).length_le
  simpa using hsub

theorem length_selectMainRunLoopIssues_iff :
    (selectMainRunLoopIssues config candidates planned slots).length =
        (recoveredIssues candidates slots).length
          + (plannedWindow config candidates planned slots).length ↔
      ((recoveredIssues candidates slots
        ++ plannedWindow config candidates planned slots).map TrackerIssue.identifier).Nodup := by
  have hsub := List.subperm_of_subset
    (nodup_selectMainRunLoopIssues config candidates planned slots)
    fun _ => mem_map_selectMainRunLoopIssues.mp
  constructor
  · intro hlength
    have hperm := hsub.perm_of_length_le (by simp [hlength])
    exact hperm.nodup_iff.mp (nodup_selectMainRunLoopIssues config candidates planned slots)
  · intro hnodup
    have hback := (List.subperm_of_subset hnodup
      fun _ => mem_map_selectMainRunLoopIssues.mpr).length_le
    have hle := hsub.length_le
    simp only [List.length_map, List.length_append] at hback hle
    omega

theorem length_selectMainRunLoopIssues_le_slots (config : MainLaneConfig)
    (candidates : List RuntimeRecoveryCandidate) (planned : List TrackerIssue) (slots : Nat) :
    (selectMainRunLoopIssues config candidates planned slots).length ≤ slots := by
  have hle := length_selectMainRunLoopIssues_le config candidates planned slots
  have hwindow := length_plannedWindow config candidates planned slots
  have hrecovered := length_recoveredIssues candidates slots
  omega

/-! ## When the free slots are used -/

/-- An issue is left out for want of a slot only, exactly where the window shows no
issue twice or hides none. -/
theorem leftOut_iff :
    (∀ issue ∈ claimableIssues config planned,
        issue.identifier ∉ (selectMainRunLoopIssues config candidates planned slots).map
          TrackerIssue.identifier →
        (selectMainRunLoopIssues config candidates planned slots).length = slots) ↔
      ((recoveredIssues candidates slots
          ++ plannedWindow config candidates planned slots).map TrackerIssue.identifier).Nodup
        ∨ ∀ issue ∈ claimableIssues config planned,
            issue.identifier ∈ (recoveredIssues candidates slots
              ++ plannedWindow config candidates planned slots).map TrackerIssue.identifier := by
  have hwindow := length_plannedWindow config candidates planned slots
  have hrecovered := length_recoveredIssues candidates slots
  constructor
  · intro h
    refine or_iff_not_imp_right.mpr fun hhidden => ?_
    push Not at hhidden
    obtain ⟨issue, hissue, hmissing⟩ := hhidden
    have hfull := h issue hissue (fun hmem => hmissing (mem_map_selectMainRunLoopIssues.mp hmem))
    have hle := length_selectMainRunLoopIssues_le config candidates planned slots
    exact length_selectMainRunLoopIssues_iff.mp (by omega)
  · rintro (hnodup | hshown) issue hissue hmissing
    · rw [length_selectMainRunLoopIssues_iff.mpr hnodup]
      by_contra hfree
      have hroom : (claimableIssues config planned).length
          ≤ slots - (recoveredIssues candidates slots).length := by omega
      refine hmissing (mem_map_selectMainRunLoopIssues.mpr ?_)
      exact List.mem_map_of_mem (List.mem_append_right _ (mem_plannedWindow hroom hissue))
    · exact absurd (mem_map_selectMainRunLoopIssues.mpr (hshown issue hissue)) hmissing

theorem length_selectMainRunLoopIssues_le_dedup (config : MainLaneConfig)
    (candidates : List RuntimeRecoveryCandidate) (planned : List TrackerIssue) (slots : Nat) :
    (selectMainRunLoopIssues config candidates planned slots).length ≤
      ((candidates.map RuntimeRecoveryCandidate.issue
        ++ claimableIssues config planned).map TrackerIssue.identifier).dedup.length := by
  have hsub : (selectMainRunLoopIssues config candidates planned slots).map
      TrackerIssue.identifier ⊆ ((candidates.map RuntimeRecoveryCandidate.issue
        ++ claimableIssues config planned).map TrackerIssue.identifier).dedup := by
    intro identifier h
    rw [List.mem_dedup]
    refine List.map_subset _ ?_ (mem_map_selectMainRunLoopIssues.mp h)
    exact List.append_subset.mpr ⟨List.subset_append_of_subset_left _ recoveredIssues_subset,
      List.subset_append_of_subset_right _ plannedWindow_subset⟩
  simpa using (List.subperm_of_subset
    (nodup_selectMainRunLoopIssues config candidates planned slots) hsub).length_le

theorem dedup_length_le
    (hfree : (selectMainRunLoopIssues config candidates planned slots).length < slots)
    (hleft : ∀ issue ∈ claimableIssues config planned,
      issue.identifier ∉ (selectMainRunLoopIssues config candidates planned slots).map
        TrackerIssue.identifier →
      (selectMainRunLoopIssues config candidates planned slots).length = slots) :
    ((candidates.map RuntimeRecoveryCandidate.issue
        ++ claimableIssues config planned).map TrackerIssue.identifier).dedup.length ≤
      (selectMainRunLoopIssues config candidates planned slots).length := by
  have hrecovered : (recoveredIssues candidates slots).length < slots := by
    obtain ⟨added, heq, -⟩ := Collected.foldl_push_first TrackerIssue.identifier
      (plannedWindow config candidates planned slots) (recoveredIssues candidates slots)
    rw [selectMainRunLoopIssues_eq, heq, List.length_append] at hfree
    omega
  have hsub : ((candidates.map RuntimeRecoveryCandidate.issue
      ++ claimableIssues config planned).map TrackerIssue.identifier).dedup ⊆
      (selectMainRunLoopIssues config candidates planned slots).map TrackerIssue.identifier := by
    intro identifier h
    rw [List.mem_dedup, List.map_append, List.mem_append] at h
    rcases h with h | h
    · obtain ⟨_, hissue, rfl⟩ := List.mem_map.mp h
      obtain ⟨candidate, hcandidate, rfl⟩ := List.mem_map.mp hissue
      rw [mem_map_selectMainRunLoopIssues, List.map_append]
      exact List.mem_append_left _ (mem_recoveredIssues hrecovered hcandidate)
    · obtain ⟨issue, hissue, rfl⟩ := List.mem_map.mp h
      by_contra hmissing
      exact absurd (hleft issue hissue hmissing) (by omega)
  simpa using (List.subperm_of_subset (List.nodup_dedup _) hsub).length_le

theorem usesFreeSlots_iff (config : MainLaneConfig) (candidates : List RuntimeRecoveryCandidate)
    (planned : List TrackerIssue) (slots : Nat) :
    UsesFreeSlots config candidates planned slots
        (selectMainRunLoopIssues config candidates planned slots) ↔
      ((recoveredIssues candidates slots
          ++ plannedWindow config candidates planned slots).map TrackerIssue.identifier).Nodup
        ∨ ∀ issue ∈ claimableIssues config planned,
            issue.identifier ∈ (recoveredIssues candidates slots
              ++ plannedWindow config candidates planned slots).map TrackerIssue.identifier := by
  rw [← leftOut_iff]
  constructor
  · exact fun h => h.leftOut
  · intro hleft
    constructor
    case distinct => exact nodup_selectMainRunLoopIssues ..
    case length_le => exact length_selectMainRunLoopIssues_le_slots ..
    case recoveryFirst =>
      obtain ⟨added, heq, hsub⟩ := Collected.foldl_push_first TrackerIssue.identifier
        (plannedWindow config candidates planned slots) (recoveredIssues candidates slots)
      refine ⟨added, (selectMainRunLoopIssues_eq ..).trans heq, ?_⟩
      exact fun _ h => plannedWindow_subset (hsub h)
    case leftOut => exact hleft
    case countsOnce =>
      have hslots := length_selectMainRunLoopIssues_le_slots config candidates planned slots
      have hdedup := length_selectMainRunLoopIssues_le_dedup config candidates planned slots
      rcases Nat.lt_or_ge (selectMainRunLoopIssues config candidates planned slots).length slots
        with hfree | hfull
      · have hback := dedup_length_le hfree hleft
        omega
      · omega

/-! ## An issue in both lists -/

/-- An issue in progress that nobody claims. -/
def urgentIssue (identifier : String) (priority : Int) : TrackerIssue where
  id := identifier
  identifier := identifier
  title := "Recover"
  description := none
  state := "In Progress"
  priority := some priority
  blockedBy := []
  projectFields := fun _ => none
  createdAt := none

theorem isClaimable_urgentIssue (identifier : String) (priority : Int) :
    (poolClaimEligibility .ascii (urgentIssue identifier priority) .main "Shea Symphony Main"
      Preflight.defaultConfig.runtime).isClaimable = true := by
  refine Lanes.isClaimable_iff.mpr ⟨?_, ?_, ?_⟩
  · exact (by decide : Lanes.eligibleState .ascii (urgentIssue "#1" 1) .main
      Preflight.defaultConfig.runtime = true)
  · exact (by decide : Lanes.nativeSubissuesReason .ascii (urgentIssue "#1" 1) .main
      Preflight.defaultConfig.runtime = none)
  · intro owner howner
    cases howner

def recoveryOfFirst : RuntimeRecoveryCandidate where
  state := .active { id := "#1", identifier := "#1" } "codex"
  issue := urgentIssue "#1" 1
  reason := "retry is due"

/-- The issue that is recovered comes first in the plan too, and the second slot stays
free beside an issue that could take it. -/
theorem recovered_issue_costs_slot :
    ¬ UsesFreeSlots twoWorkers [recoveryOfFirst] [urgentIssue "#1" 1, urgentIssue "#2" 2] 2
        (selectMainRunLoopIssues twoWorkers [recoveryOfFirst]
          [urgentIssue "#1" 1, urgentIssue "#2" 2] 2) := by
  have hclaimable : claimableIssues twoWorkers [urgentIssue "#1" 1, urgentIssue "#2" 2]
      = [urgentIssue "#1" 1, urgentIssue "#2" 2] := by
    refine List.filter_eq_self.mpr ?_
    intro issue hissue
    rcases List.mem_pair.mp hissue with rfl | rfl <;> exact isClaimable_urgentIssue _ _
  have hrecovered : recoveredIssues [recoveryOfFirst] 2 = [urgentIssue "#1" 1] := rfl
  have hwindow : plannedWindow twoWorkers [recoveryOfFirst]
      [urgentIssue "#1" 1, urgentIssue "#2" 2] 2 = [urgentIssue "#1" 1] := by
    have hsort : [urgentIssue "#1" 1, urgentIssue "#2" 2].mergeSort Lanes.poolLe
        = [urgentIssue "#1" 1, urgentIssue "#2" 2] :=
      List.mergeSort_of_pairwise (by simp [Lanes.poolLe, Lanes.poolSortKey, urgentIssue])
    rw [plannedWindow, selectPoolWorkerIssues, hrecovered, ← claimableIssues, hclaimable]
    simp only [hsort]
    rfl
  intro h
  have hsecond : urgentIssue "#2" 2 ∈ claimableIssues twoWorkers
      [urgentIssue "#1" 1, urgentIssue "#2" 2] := by
    rw [hclaimable]
    exact List.mem_cons_of_mem _ List.mem_cons_self
  have hleft := h.leftOut _ hsecond
  rw [selectMainRunLoopIssues_eq, hrecovered, hwindow] at hleft
  exact absurd (hleft (by decide)) (by decide)

end SheaSymphony.MainLoop

import SheaSymphony.Admission
import SheaSymphony.Orchestrator
import SheaSymphony.Sorted

/-!
# The plan is a greedy admission

The planning loop admits the sorted issues greedily (`planDispatch_eq`): its two
lists and its counters are what `Admission` computes for the policy the
configuration gives. Partition, limits and greediness are read off there.
-/

namespace SheaSymphony.Orchestrator

open Admission
open Config (RuntimeConfig)
open Model (TrackerIssue)

variable (case : Text.UnicodeCase) (config : RuntimeConfig)

def dispatchPolicy : Policy TrackerIssue String SkippedIssue where
  refusal := ownSkip case config
  classOf := TrackerIssue.normalizedState case
  limit := config.agent.maxConcurrentAgents
  classLimit := stateLimit config
  overLimit issue := skip issue "global concurrency limit reached"
  overClassLimit issue := skip issue "state concurrency limit reached"

/-- The decisions of the plan, in its order. -/
def planDecisions (issues : List TrackerIssue) : List (TrackerIssue × Option SkippedIssue) :=
  (dispatchPolicy case config).verdicts
    ((sortIssuesForDispatch issues).filter (isPlanned case config))

/-! ## The loop refines the admission -/

/-- The counters count the selected. -/
def Planning.Counted (planning : Planning) : Prop :=
  planning.stateCounts = (dispatchPolicy case config).used planning.selected

variable {case config} {issue : TrackerIssue} {planning : Planning}

theorem planIssue_of_not_isPlanned (h : isPlanned case config issue = false) : planIssue case config planning issue = planning := by
  simp [planIssue, h]

theorem planIssue_of_isPlanned (hcounted : planning.Counted case config)
    (h : isPlanned case config issue = true) :
    planIssue case config planning issue =
      match (dispatchPolicy case config).verdict planning.selected issue with
      | some skipped => { planning with skipped := planning.skipped ++ [skipped] }
      | none =>
          { planning with
            selected := planning.selected ++ [issue]
            stateCounts := Function.update planning.stateCounts (issue.normalizedState case)
              (planning.stateCounts (issue.normalizedState case) + 1) } := by
  have hused : (dispatchPolicy case config).used planning.selected (issue.normalizedState case)
      = planning.stateCounts (issue.normalizedState case) := by rw [hcounted]
  simp only [planIssue, Policy.verdict, dispatchPolicy, h, Bool.not_true, Bool.false_eq_true,
    if_false]
  cases ownSkip case config issue with
  | some skipped => rfl
  | none =>
      simp only [dispatchPolicy] at hused
      simp only [hused]
      split_ifs <;> rfl

theorem Planning.Counted.start : Planning.start.Counted case config := rfl

theorem planIssue_step (hcounted : planning.Counted case config)
    (h : isPlanned case config issue = true) :
    let verdict := (dispatchPolicy case config).verdict planning.selected issue
    (planIssue case config planning issue).Counted case config
      ∧ (planIssue case config planning issue).selected
        = planning.selected ++ admitted [(issue, verdict)]
      ∧ (planIssue case config planning issue).skipped
        = planning.skipped ++ refused [(issue, verdict)] := by
  intro verdict
  rw [planIssue_of_isPlanned hcounted h]
  cases hverdict : (dispatchPolicy case config).verdict planning.selected issue with
  | some skipped =>
      simp only [verdict, hverdict]
      exact ⟨hcounted, by simp [admitted], by simp [refused]⟩
  | none =>
      simp only [verdict, hverdict]
      refine ⟨?_, by simp [admitted], by simp [refused]⟩
      funext state
      rw [Policy.used_concat, hcounted]
      change Function.update _ _ _ state
        = _ + if issue.normalizedState case = state then 1 else 0
      by_cases heq : state = issue.normalizedState case
      · rw [heq, Function.update_self, if_pos rfl]
      · rw [Function.update_of_ne heq, if_neg (Ne.symm heq)]
        rfl

theorem foldl_planIssue : ∀ (issues : List TrackerIssue) {planning : Planning},
    planning.Counted case config →
      let decisions := (dispatchPolicy case config).verdictsFrom planning.selected
        (issues.filter (isPlanned case config))
      (issues.foldl (planIssue case config) planning).selected
          = planning.selected ++ admitted decisions
        ∧ (issues.foldl (planIssue case config) planning).skipped
          = planning.skipped ++ refused decisions
  | [], planning, _ => by simp [Policy.verdictsFrom]
  | issue :: issues, planning, hcounted => by
      cases h : isPlanned case config issue with
      | false =>
          rw [List.foldl_cons, planIssue_of_not_isPlanned h,
            List.filter_cons_of_neg (by rw [h]; decide)]
          exact foldl_planIssue issues hcounted
      | true =>
          obtain ⟨hcounted', hselected, hskipped⟩ := planIssue_step hcounted h
          obtain ⟨ihselected, ihskipped⟩ := foldl_planIssue issues hcounted'
          rw [List.foldl_cons, ihselected, ihskipped, hselected, hskipped, List.filter_cons_of_pos h]
          simp only [Policy.verdictsFrom, Policy.accept_eq, List.append_assoc, ← admitted_append,
            ← refused_append]
          exact ⟨rfl, rfl⟩

theorem planDispatch_eq (case : Text.UnicodeCase) (config : RuntimeConfig)
    (issues : List TrackerIssue) :
    (planDispatch case config issues).selected = admitted (planDecisions case config issues)
      ∧ (planDispatch case config issues).snapshot.skipped
        = refused (planDecisions case config issues) :=
  foldl_planIssue (sortIssuesForDispatch issues) Planning.Counted.start

/-! ## The order of dispatch -/

theorem sortIssuesForDispatch_perm (issues : List TrackerIssue) :
    (sortIssuesForDispatch issues).Perm issues := List.mergeSort_perm _ _

theorem dispatchLe_iff {a b : TrackerIssue} :
    dispatchLe a b = true ↔ dispatchKey a ≤ dispatchKey b := decide_eq_true_iff

theorem sortIssuesForDispatch_pairwise (issues : List TrackerIssue) :
    (sortIssuesForDispatch issues).Pairwise fun a b => dispatchKey a ≤ dispatchKey b :=
  Sorted.pairwise_mergeSort dispatchKey (fun _ _ => dispatchLe_iff) issues

theorem dispatchKey_identifier {a b : TrackerIssue} (h : dispatchKey a = dispatchKey b) :
    a.identifier = b.identifier := by
  have htail := (Prod.mk.inj (toLex.injective h)).2
  exact (Prod.mk.inj (toLex.injective htail)).2

theorem sortIssuesForDispatch_eq_of_perm {issues issues' : List TrackerIssue}
    (hperm : issues.Perm issues') (hdistinct : (issues.map TrackerIssue.identifier).Nodup) :
    sortIssuesForDispatch issues = sortIssuesForDispatch issues' := by
  have hsorted : (sortIssuesForDispatch issues).Perm (sortIssuesForDispatch issues') :=
    (sortIssuesForDispatch_perm issues).trans
      (hperm.trans (sortIssuesForDispatch_perm issues').symm)
  refine List.Perm.eq_of_pairwise ?_ (sortIssuesForDispatch_pairwise issues)
    (sortIssuesForDispatch_pairwise issues') hsorted
  intro a b ha hb hab hba
  have hidentifier := dispatchKey_identifier (le_antisymm hab hba)
  have ha' : a ∈ issues := (sortIssuesForDispatch_perm issues).mem_iff.mp ha
  have hb' : b ∈ issues := hperm.mem_iff.mpr ((sortIssuesForDispatch_perm issues').mem_iff.mp hb)
  exact List.inj_on_of_nodup_map hdistinct ha' hb' hidentifier

/-- The plan does not depend on the order in which the tracker lists the
issues. -/
theorem planDispatch_perm (case : Text.UnicodeCase) (config : RuntimeConfig)
    {issues issues' : List TrackerIssue} (hperm : issues.Perm issues')
    (hdistinct : (issues.map TrackerIssue.identifier).Nodup) :
    planDispatch case config issues = planDispatch case config issues' := by
  rw [planDispatch, planDispatch, sortIssuesForDispatch_eq_of_perm hperm hdistinct]

/-- An issue with nothing in its way. -/
def plainIssue (identifier : String) : TrackerIssue where
  id := identifier
  identifier := identifier
  title := "Plain"
  description := none
  state := "Todo"
  priority := none
  blockedBy := []
  projectFields _ := none
  createdAt := none

/-- The default states, and one agent. -/
def singleAgentConfig : RuntimeConfig where
  tracker := Config.parseTracker none
  agent := { maxConcurrentAgents := 1, maxConcurrentAgentsByState := fun _ => none }
  backendKind := "dry-run"
  pollingIntervalMs := 30000

theorem planDispatch_swap :
    planDispatch .ascii singleAgentConfig [plainIssue "#1", plainIssue "#2"]
      = planDispatch .ascii singleAgentConfig [plainIssue "#2", plainIssue "#1"] :=
  planDispatch_perm .ascii singleAgentConfig (List.Perm.swap _ _ []) (by decide)

/-! ## Partition, limits and greediness -/

theorem map_fst_planDecisions (issues : List TrackerIssue) :
    (planDecisions case config issues).map Prod.fst
      = (sortIssuesForDispatch issues).filter (isPlanned case config) :=
  Policy.map_fst_verdicts _ _

theorem ownSkip_names {skipped : SkippedIssue} (h : ownSkip case config issue = some skipped) :
    skipped.issueId = issue.id ∧ skipped.identifier = issue.identifier := by
  simp only [ownSkip] at h
  split at h
  · obtain rfl := Option.some.inj h
    exact ⟨rfl, rfl⟩
  · split at h
    · obtain rfl := Option.some.inj h
      exact ⟨rfl, rfl⟩
    · split at h
      · obtain rfl := Option.some.inj h
        exact ⟨rfl, rfl⟩
      · cases h

theorem verdict_eq_some {selected : List TrackerIssue} {skipped : SkippedIssue}
    (h : (dispatchPolicy case config).verdict selected issue = some skipped) :
    ownSkip case config issue = some skipped
      ∨ (ownSkip case config issue = none
          ∧ ((config.agent.maxConcurrentAgents ≤ selected.length
              ∧ skipped = skip issue "global concurrency limit reached")
            ∨ (stateLimit config (issue.normalizedState case)
                ≤ (dispatchPolicy case config).used selected (issue.normalizedState case)
              ∧ skipped = skip issue "state concurrency limit reached"))) := by
  rw [Policy.verdict] at h
  split at h
  · next own hown =>
    left
    rw [← h]
    exact hown
  · next hown =>
    refine Or.inr ⟨hown, ?_⟩
    split at h
    · next hlimit => exact Or.inl ⟨hlimit, (Option.some.inj h).symm⟩
    · split at h
      · next hclass => exact Or.inr ⟨hclass, (Option.some.inj h).symm⟩
      · cases h

/-- How many of the issues are in a state. -/
def countInState (case : Text.UnicodeCase) (issues : List TrackerIssue) (state : String) : Nat :=
  issues.countP fun issue => issue.normalizedState case = state

/-- What a plan is: every issue in an active, non-terminal state is decided on
once, in the order of dispatch; it is selected, or skipped by an entry that names
it. The selected keep the limits, and an issue that no reason of its own keeps
back is skipped only where those selected before it use a limit up. -/
structure IsGreedyPlan (case : Text.UnicodeCase) (config : RuntimeConfig)
    (issues : List TrackerIssue) (plan : DispatchPlan)
    (decisions : List (TrackerIssue × Option SkippedIssue)) : Prop where
  partition : (decisions.map Prod.fst).Perm (issues.filter (isPlanned case config))
  ordered : (decisions.map Prod.fst).Pairwise fun a b => dispatchKey a ≤ dispatchKey b
  selected : plan.selected = admitted decisions
  skipped : plan.snapshot.skipped = refused decisions
  named : ∀ issue entry, (issue, some entry) ∈ decisions →
    entry.issueId = issue.id ∧ entry.identifier = issue.identifier
  globalLimit : plan.selected.length ≤ config.agent.maxConcurrentAgents
  stateLimits : ∀ state, countInState case plan.selected state ≤ stateLimit config state
  greedy : ∀ before issue decision after, decisions = before ++ (issue, decision) :: after →
    (decision = none ↔ ownSkip case config issue = none
      ∧ (admitted before).length < config.agent.maxConcurrentAgents
      ∧ countInState case (admitted before) (issue.normalizedState case)
        < stateLimit config (issue.normalizedState case))
    ∧ ∀ entry, decision = some entry → ownSkip case config issue = none →
      (config.agent.maxConcurrentAgents ≤ (admitted before).length
          ∧ entry = skip issue "global concurrency limit reached")
        ∨ (stateLimit config (issue.normalizedState case)
            ≤ countInState case (admitted before) (issue.normalizedState case)
          ∧ entry = skip issue "state concurrency limit reached")

/-- Planning partitions the issues greedily under the limits, counting what the
plan itself selects. -/
theorem planDispatch_isGreedyPlan (case : Text.UnicodeCase) (config : RuntimeConfig)
    (issues : List TrackerIssue) :
    ∃ decisions, IsGreedyPlan case config issues (planDispatch case config issues) decisions := by
  obtain ⟨hselected, hskipped⟩ := planDispatch_eq case config issues
  refine ⟨planDecisions case config issues, ?_⟩
  constructor
  case partition =>
    rw [map_fst_planDecisions]
    exact (sortIssuesForDispatch_perm issues).filter _
  case ordered =>
    rw [map_fst_planDecisions]
    exact (sortIssuesForDispatch_pairwise issues).filter _
  case selected => exact hselected
  case skipped => exact hskipped
  case named =>
    intro issue entry hmem
    obtain ⟨before, after, hsplit⟩ := List.append_of_mem hmem
    obtain ⟨-, hverdict⟩ := Policy.verdict_of_split _ hsplit
    rcases verdict_eq_some hverdict.symm with hown | ⟨-, ⟨-, rfl⟩ | ⟨-, rfl⟩⟩
    · exact ownSkip_names hown
    · exact ⟨rfl, rfl⟩
    · exact ⟨rfl, rfl⟩
  case globalLimit =>
    rw [hselected]
    exact Policy.length_admitted_le _ _
  case stateLimits =>
    intro state
    rw [hselected]
    exact Policy.used_admitted_le (dispatchPolicy case config) _ state
  case greedy =>
    intro before issue decision after hsplit
    obtain ⟨-, rfl⟩ := Policy.verdict_of_split _ hsplit
    refine ⟨Policy.verdict_eq_none _ _ _, fun entry hentry hown => ?_⟩
    rcases verdict_eq_some hentry with hown' | ⟨-, hcapacity⟩
    · rw [hown] at hown'
      cases hown'
    · exact hcapacity

/-- The plan is not told what runs: with its one agent at work, it still selects
an issue. -/
theorem running_work_not_counted :
    ¬ ∀ (case : Text.UnicodeCase) (config : RuntimeConfig) (issues running : List TrackerIssue),
      running.length ≤ config.agent.maxConcurrentAgents →
        (planDispatch case config issues).selected.length + running.length
          ≤ config.agent.maxConcurrentAgents := by
  intro h
  have hsum := h .ascii singleAgentConfig [plainIssue "#1"] [plainIssue "#2"] le_rfl
  have hselected :
      (planDispatch .ascii singleAgentConfig [plainIssue "#1"]).selected.length = 1 := by
    rw [planDispatch, sortIssuesForDispatch, List.mergeSort_singleton]
    decide
  rw [hselected] at hsum
  exact absurd hsum (by decide)

end SheaSymphony.Orchestrator

import SheaSymphony.OrchestratorPlan

/-!
# Blocked work and the plan

The blocker check of the planner compares an issue's state with the texts `todo`
and `rework`, whatever the configuration displays for these two keys. For another
display, only the candidate gate stands between a blocked issue and its dispatch,
and that gate looks at issues with a description alone. `selected_unblocked_iff`
says for which issue lists no blocked Todo or Rework issue is selected, and
`always_unblocked_iff` for which configurations that is so of every list.
-/

namespace SheaSymphony.Orchestrator

open Admission
open Config (RuntimeConfig)
open Model (TrackerIssue)

variable (case : Text.UnicodeCase) (config : RuntimeConfig)

/-- Is the issue in the state the configuration displays for Todo or Rework? -/
def InTodoOrRework (issue : TrackerIssue) : Prop :=
  issue.normalizedState case = Model.normalizeState case config.tracker.stateMap.todo
    ∨ issue.normalizedState case = Model.normalizeState case config.tracker.stateMap.rework

/-- Some blocker is in a state that is unknown or not terminal. -/
def HasUnresolvedBlocker (issue : TrackerIssue) : Prop :=
  ∃ blocker ∈ issue.blockedBy, isUnresolved case (config.terminalStateSet case) blocker = true

/-- No issue in the Todo or Rework state is selected while a blocker is
unresolved. -/
def SelectedUnblocked (issues : List TrackerIssue) : Prop :=
  ∀ issue ∈ (planDispatch case config issues).selected,
    InTodoOrRework case config issue → ¬ HasUnresolvedBlocker case config issue

/-- No check of the planner holds back a blocked issue like this one: its state is
not spelled as the blocker check has it, its native subissues are done and it has
no description for the candidate gate. -/
def EscapesBlockerChecks (issue : TrackerIssue) : Prop :=
  ["todo", "rework"].contains (issue.normalizedState case) = false
    ∧ Model.nativeSubissueGateBlocker case issue (config.terminalStateSet case) = none
    ∧ issueHasRichContract issue = false

variable {case config} {issue : TrackerIssue}

theorem mem_selected_iff {issues : List TrackerIssue} :
    issue ∈ (planDispatch case config issues).selected ↔
      ∃ before after,
        (sortIssuesForDispatch issues).filter (isPlanned case config) = before ++ issue :: after
          ∧ ownSkip case config issue = none
          ∧ (dispatchPolicy case config).HasRoom before issue := by
  rw [(planDispatch_eq case config issues).1]
  exact Policy.mem_admitted_iff _

/-! ## What holds back a blocked issue -/

theorem unresolvedTrackerBlocker_ne_none (h : HasUnresolvedBlocker case config issue) :
    QualityGate.unresolvedTrackerBlocker case issue (config.terminalStateSet case) ≠ none := by
  obtain ⟨blocker, hmem, hunresolved⟩ := h
  rw [isUnresolved, Bool.not_eq_true'] at hunresolved
  intro hnone
  have hblocker := List.findSome?_eq_none_iff.mp hnone blocker hmem
  simp only [hunresolved, Bool.false_eq_true, if_false] at hblocker
  cases hblocker

theorem not_isDispatchable_of_blocked (h : HasUnresolvedBlocker case config issue) :
    (QualityGate.evaluateIssueWithDependencyPreflight case issue
      (config.terminalStateSet case)).isDispatchable = false := by
  by_contra hgate
  rw [Bool.not_eq_false] at hgate
  exact unresolvedTrackerBlocker_ne_none h (QualityGate.unresolvedTrackerBlocker_eq_none hgate)

theorem ownSkip_eq_none_iff_of_blocked (h : HasUnresolvedBlocker case config issue) :
    ownSkip case config issue = none ↔ EscapesBlockerChecks case config issue := by
  have hgate := not_isDispatchable_of_blocked h
  have hany : issue.blockedBy.any (isUnresolved case (config.terminalStateSet case)) = true :=
    List.any_eq_true.mpr h
  simp only [ownSkip, issueBlockedByNonTerminal, hany, hgate, EscapesBlockerChecks, Bool.and_true,
    Bool.not_false]
  cases ["todo", "rework"].contains (issue.normalizedState case) with
  | true => simp
  | false =>
      cases Model.nativeSubissueGateBlocker case issue (config.terminalStateSet case) with
      | some reason => simp
      | none => cases issueHasRichContract issue <;> simp

/-- The plan keeps blocked Todo and Rework issues back exactly when each of them
that escapes the checks comes where the eligible issues before it leave no room. -/
theorem selected_unblocked_iff (case : Text.UnicodeCase) (config : RuntimeConfig)
    (issues : List TrackerIssue) :
    SelectedUnblocked case config issues ↔
      ∀ before issue after,
        (sortIssuesForDispatch issues).filter (isPlanned case config) = before ++ issue :: after →
          InTodoOrRework case config issue → HasUnresolvedBlocker case config issue →
            EscapesBlockerChecks case config issue →
              ¬ (dispatchPolicy case config).HasRoom before issue := by
  constructor
  · intro h before issue after hsplit hstate hblocked hescapes hroom
    have hown := (ownSkip_eq_none_iff_of_blocked hblocked).mpr hescapes
    exact h issue (mem_selected_iff.mpr ⟨before, after, hsplit, hown, hroom⟩) hstate hblocked
  · intro h issue hselected hstate hblocked
    obtain ⟨before, after, hsplit, hown, hroom⟩ := mem_selected_iff.mp hselected
    exact h before issue after hsplit hstate hblocked
      ((ownSkip_eq_none_iff_of_blocked hblocked).mp hown) hroom

/-! ## Which configurations keep blocked work back -/

/-- The blocker check covers the display of a state, or nothing in that state is
ever dispatched. -/
def CoversDisplay (case : Text.UnicodeCase) (config : RuntimeConfig) (display : String) : Prop :=
  let state := Model.normalizeState case display
  ["todo", "rework"].contains state = true
    ∨ (config.activeStateSet case).contains state = false
    ∨ (config.terminalStateSet case).contains state = true
    ∨ config.agent.maxConcurrentAgents = 0 ∨ stateLimit config state = 0

theorem isPlanned_iff :
    isPlanned case config issue = true ↔
      (config.activeStateSet case).contains (issue.normalizedState case) = true
        ∧ (config.terminalStateSet case).contains (issue.normalizedState case) = false := by
  simp [isPlanned]

theorem not_hasRoom_of_coversDisplay {before : List TrackerIssue} {issue : TrackerIssue}
    {display : String} (hstate : issue.normalizedState case = Model.normalizeState case display)
    (hcovers : CoversDisplay case config display) (hplanned : isPlanned case config issue = true)
    (hescapes : EscapesBlockerChecks case config issue) :
    ¬ (dispatchPolicy case config).HasRoom before issue := by
  obtain ⟨hactive, hterminal⟩ := isPlanned_iff.mp hplanned
  rw [hstate] at hactive hterminal
  rintro ⟨hlimit, hclass⟩
  simp only [CoversDisplay] at hcovers
  rcases hcovers with hspelled | hinactive | hdone | hnone | hnone
  · have hother := hescapes.1
    rw [hstate, hspelled] at hother
    cases hother
  · rw [hinactive] at hactive
    cases hactive
  · rw [hdone] at hterminal
    cases hterminal
  · simp only [dispatchPolicy, hnone] at hlimit
    exact Nat.not_lt_zero _ hlimit
  · simp only [dispatchPolicy, hstate, hnone] at hclass
    exact Nat.not_lt_zero _ hclass

/-- An issue of a state with nothing but an unresolved blocker. -/
def blockedIssue (state : String) : TrackerIssue where
  id := "I_1"
  identifier := "#1"
  title := "Blocked"
  description := none
  state := state
  priority := none
  blockedBy := [{ id := none, identifier := some "#2", state := none }]
  projectFields _ := none
  createdAt := none

theorem blockedIssue_hasUnresolvedBlocker (state : String) :
    HasUnresolvedBlocker case config (blockedIssue state) :=
  ⟨_, List.mem_singleton_self _, rfl⟩

theorem blockedIssue_selected {display : String} (h : ¬ CoversDisplay case config display) :
    blockedIssue display ∈ (planDispatch case config [blockedIssue display]).selected := by
  simp only [CoversDisplay, not_or, Bool.not_eq_true, Bool.not_eq_false] at h
  obtain ⟨hspelled, hactive, hterminal, hlimit, hclass⟩ := h
  have hplanned : isPlanned case config (blockedIssue display) = true :=
    isPlanned_iff.mpr ⟨hactive, hterminal⟩
  have hown : ownSkip case config (blockedIssue display) = none :=
    (ownSkip_eq_none_iff_of_blocked (blockedIssue_hasUnresolvedBlocker display)).mpr
      ⟨hspelled, rfl, rfl⟩
  refine mem_selected_iff.mpr ⟨[], [], ?_, hown, ?_, ?_⟩
  · rw [sortIssuesForDispatch, List.mergeSort_singleton, List.filter_cons_of_pos hplanned]
    rfl
  · exact Nat.pos_of_ne_zero hlimit
  · exact Nat.pos_of_ne_zero hclass

/-- A configuration keeps blocked Todo and Rework issues back in every list
exactly when the blocker check covers the display of both. -/
theorem always_unblocked_iff (case : Text.UnicodeCase) (config : RuntimeConfig) :
    (∀ issues, SelectedUnblocked case config issues) ↔
      CoversDisplay case config config.tracker.stateMap.todo
        ∧ CoversDisplay case config config.tracker.stateMap.rework := by
  constructor
  · intro h
    by_contra hcovers
    rcases not_and_or.mp hcovers with htodo | hrework
    · exact h _ _ (blockedIssue_selected htodo) (Or.inl rfl) (blockedIssue_hasUnresolvedBlocker _)
    · exact h _ _ (blockedIssue_selected hrework) (Or.inr rfl) (blockedIssue_hasUnresolvedBlocker _)
  · rintro ⟨htodo, hrework⟩ issues issue hselected hstate hblocked
    obtain ⟨before, after, hsplit, hown, hroom⟩ := mem_selected_iff.mp hselected
    have hescapes := (ownSkip_eq_none_iff_of_blocked hblocked).mp hown
    have hplanned : isPlanned case config issue = true :=
      (List.mem_filter.mp (hsplit ▸ List.mem_append_right _ List.mem_cons_self)).2
    rcases hstate with hstate | hstate
    · exact not_hasRoom_of_coversDisplay hstate htodo hplanned hescapes hroom
    · exact not_hasRoom_of_coversDisplay hstate hrework hplanned hescapes hroom

/-- A workflow that displays Todo as `Ready`. -/
def readyConfig : RuntimeConfig where
  tracker :=
    { stateMap := Config.parseStateMap (some (.obj [("todo", .str "Ready")]))
      activeStates := ["Ready", "In Progress", "Rework"]
      terminalStates := ["Done"] }
  agent := { maxConcurrentAgents := 10, maxConcurrentAgentsByState := fun _ => none }
  backendKind := "dry-run"
  pollingIntervalMs := 30000

/-- It dispatches a blocked Todo issue. -/
theorem ready_blocked_selected :
    ¬ SelectedUnblocked .ascii readyConfig [blockedIssue "Ready"] := by
  have hcovers : ¬ CoversDisplay .ascii readyConfig "Ready" := by
    unfold CoversDisplay
    decide
  intro h
  exact h _ (blockedIssue_selected hcovers) (Or.inl rfl) (blockedIssue_hasUnresolvedBlocker _)

end SheaSymphony.Orchestrator

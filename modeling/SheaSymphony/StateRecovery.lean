import SheaSymphony.RecoveredWrite
import SheaSymphony.StateResolution

/-!
# State recovery and the configured states

`set_state_with_recovery` tells whether an issue is in its target state by the spelling of
the target's key (`tracker_state_match_key`), while the tracker names its states as the
configuration displays them. Where the two agree is `recovery_agrees_iff`.
-/

namespace SheaSymphony.Tracker

open Interrupted Review

/-! ## The two promises -/

section Promises

variable (case : Text.UnicodeCase) (stateMap : StateMap)

/-- Both texts resolve, to the same configured state. -/
def SameState (current target : String) : Prop :=
  ∃ state, resolveConfiguredTrackerState case stateMap current = .ok state
    ∧ resolveConfiguredTrackerState case stateMap target = .ok state

/-- An issue in state `current` is only said to be in its target state already when it is. -/
def AlreadyAppliedIsSame (current target : String) : Prop :=
  ∀ {σ : Type} (adapter : WriteAdapter σ) (tracker : σ) (issueRef mutationType : String)
    (issue : ReviewedIssue), issue.state = current →
    (setStateWithRecovery adapter case issueRef (some issue) target mutationType
      { tracker, calls := [] }).1 = .ok .alreadyApplied →
    SameState case stateMap current target

/-- The write has failed recoverably, and the issue has the display value of the target. -/
def TookEffect {σ : Type} (adapter : WriteAdapter σ) (tracker : σ) (issueRef target : String) :
    Prop :=
  let write := adapter.mutate tracker (.setState issueRef target)
  ∃ state error issue, resolveConfiguredTrackerState case stateMap target = .ok state
    ∧ write.1 = .error error
    ∧ recoverableProjectStateFailure (classifyProjectStateError error) = true
    ∧ (adapter.getIssue write.2 issueRef).1 = .ok (some issue)
    ∧ issue.state = state.displayValue

/-- A write that took effect is recovered, unless the look before it found nothing to do. -/
def EffectIsRecovered (target : String) : Prop :=
  ∀ {σ : Type} (adapter : WriteAdapter σ) (tracker : σ) (issueRef mutationType : String)
    (initial : Option ReviewedIssue), TookEffect case stateMap adapter tracker issueRef target →
    let result := (setStateWithRecovery adapter case issueRef initial target mutationType
      { tracker, calls := [] }).1
    result ≠ .ok .alreadyApplied → result = .ok .recovered

/-! ## Their conditions -/

/-- `current` is spelled another way than the target, or names the state the target resolves
to and no other. -/
def SpelledApartOrNamed (current target : String) : Prop :=
  stateKey case current ≠ stateKey case target
    ∨ ∃ state, resolveConfiguredTrackerState case stateMap target = .ok state
      ∧ namesState case current state.entry = true ∧ NamesOnly case stateMap current state

/-- The target is displayed under its own spelling. -/
def DisplayedAsSpelled (target : String) : Prop :=
  ∀ state, resolveConfiguredTrackerState case stateMap target = .ok state →
    stateKey case state.displayValue = stateKey case target

end Promises

variable {case : Text.UnicodeCase} {stateMap : StateMap}

theorem issueStateMatches_iff {target : String} {issue : ReviewedIssue} :
    issueStateMatches case target issue = true ↔ stateKey case issue.state = stateKey case target :=
  beq_iff_eq

section Run

variable {σ : Type} {adapter : WriteAdapter σ} {tracker : σ} {issueRef mutationType : String}
  {initial : Option ReviewedIssue} {target : String}

theorem writtenBy_setState : WrittenBy initial (issueStateMatches case target)
    (.setState issueRef target) (fun _ => False)
    (setStateWithRecovery adapter case issueRef initial target mutationType
      { tracker, calls := [] }).1
    (setStateWithRecovery adapter case issueRef initial target mutationType
      { tracker, calls := [] }).2.calls :=
  writtenBy_writeWithRecovery (fun _ h => h) issueRef mutationType tracker

theorem alreadyApplied_iff :
    (setStateWithRecovery adapter case issueRef initial target mutationType
      { tracker, calls := [] }).1 = .ok .alreadyApplied
      ↔ initial.any (issueStateMatches case target) = true := by
  constructor
  · intro h
    have hwritten := @writtenBy_setState case σ adapter tracker issueRef mutationType initial target
    rw [h] at hwritten
    generalize (setStateWithRecovery adapter case issueRef initial target mutationType
      { tracker, calls := [] }).2.calls = calls at hwritten
    cases hwritten with
    | satisfied h => exact h
    | skipped h => exact h.elim
  · intro h
    rw [setStateWithRecovery, writeWithRecovery, if_pos h]
    rfl

theorem setState_of_failed {error : AdapterError} {issue : ReviewedIssue}
    (hinitial : initial.any (issueStateMatches case target) = false)
    (hwrite : (adapter.mutate tracker (.setState issueRef target)).1 = .error error)
    (hkind : recoverableProjectStateFailure (classifyProjectStateError error) = true)
    (hread : (adapter.getIssue (adapter.mutate tracker (.setState issueRef target)).2 issueRef).1
      = .ok (some issue)) :
    (setStateWithRecovery adapter case issueRef initial target mutationType
      { tracker, calls := [] }).1
      = if issueStateMatches case target issue then .ok .recovered
        else .error (.mutationUncertain mutationType issueRef (classifyProjectStateError error)
          (some issue.state) error) := by
  rw [setStateWithRecovery, writeWithRecovery, hinitial, if_neg Bool.false_ne_true]
  have hmutate : mutate adapter (.setState issueRef target) { tracker, calls := [] }
      = (.ok (.error error),
        { tracker := (adapter.mutate tracker (.setState issueRef target)).2
          calls := [.mutated (.setState issueRef target) (.error error)] }) := by
    rw [← hwrite]
    rfl
  rw [Program.bind_ok hmutate]
  dsimp only
  generalize (adapter.mutate tracker (.setState issueRef target)).2 = after at hread ⊢
  have hreadBack : readBack adapter issueRef
      { tracker := after, calls := [.mutated (.setState issueRef target) (.error error)] }
      = (.ok (.ok (some issue)),
        { tracker := (adapter.getIssue after issueRef).2
          calls := [.mutated (.setState issueRef target) (.error error),
            .readback (.ok (some issue))] }) := by
    rw [← hread]
    rfl
  rw [recoverAfterAdapterError, hkind, Program.require_true_bind, Program.bind_ok hreadBack]
  dsimp only
  split <;> rfl

end Run

/-! ## Where the promises are kept -/

theorem sameState_iff {current target : String} :
    SameState case stateMap current target
      ↔ ∃ state, resolveConfiguredTrackerState case stateMap target = .ok state
        ∧ namesState case current state.entry = true ∧ NamesOnly case stateMap current state := by
  constructor
  · rintro ⟨state, hcurrent, htarget⟩
    obtain ⟨-, hnames, honly⟩ := resolve_eq_ok_iff.mp hcurrent
    exact ⟨state, htarget, hnames, honly⟩
  · rintro ⟨state, htarget, hnames, honly⟩
    obtain ⟨hmem, -, -⟩ := resolve_eq_ok_iff.mp htarget
    exact ⟨state, resolve_eq_ok_iff.mpr ⟨hmem, hnames, honly⟩, htarget⟩

/-- The issue a tracker of one state reads. -/
def issueIn (state : String) : ReviewedIssue where
  id := "I_1"
  identifier := "#1"
  title := "Work"
  description := none
  state := state
  priority := none
  blockedBy := []
  projectFields _ := none
  createdAt := none
  linkedPullRequests := []

def lostAnswer : AdapterError := .integrationUnavailable "network is unreachable"

theorem recoverable_lostAnswer :
    recoverableProjectStateFailure (classifyProjectStateError lostAnswer) = true := by
  decide +kernel

/-- A tracker that writes `display` whatever it is asked and loses the answer. -/
def lossyTracker (display : String) : WriteAdapter String where
  getIssue state _ := (.ok (some (issueIn state)), state)
  mutate _ _ := (.error lostAnswer, display)

theorem lossyTracker_tookEffect {target : String} {state : ResolvedTrackerState}
    (h : resolveConfiguredTrackerState case stateMap target = .ok state) (tracker : String) :
    TookEffect case stateMap (lossyTracker state.displayValue) tracker "#1" target :=
  ⟨state, lostAnswer, issueIn state.displayValue, h, rfl, recoverable_lostAnswer, rfl, rfl⟩

theorem setState_lossyTracker {display tracker target : String} {initial : Option ReviewedIssue}
    (hinitial : initial.any (issueStateMatches case target) = false) :
    (setStateWithRecovery (lossyTracker display) case "#1" initial target "state_change"
      { tracker, calls := [] }).1 = .ok .recovered
      ↔ stateKey case display = stateKey case target := by
  have hread : ((lossyTracker display).getIssue ((lossyTracker display).mutate tracker
      (.setState "#1" target)).2 "#1").1 = .ok (some (issueIn display)) := rfl
  have hwrite : ((lossyTracker display).mutate tracker (.setState "#1" target)).1
      = .error lostAnswer := rfl
  rw [setState_of_failed hinitial hwrite recoverable_lostAnswer hread]
  have hmatches := @issueStateMatches_iff case target (issueIn display)
  rw [show (issueIn display).state = display from rfl] at hmatches
  rw [← hmatches]
  split
  · next h => exact ⟨fun _ => h, fun _ => rfl⟩
  · next h => exact ⟨nofun, fun h' => absurd h' h⟩

theorem alreadyAppliedIsSame_iff {current target : String} :
    AlreadyAppliedIsSame case stateMap current target
      ↔ SpelledApartOrNamed case stateMap current target := by
  rw [SpelledApartOrNamed, ← sameState_iff]
  constructor
  · intro h
    refine or_iff_not_imp_left.mpr fun hkey => ?_
    have hmatches : issueStateMatches case target (issueIn current) = true :=
      issueStateMatches_iff.mpr (not_not.mp hkey)
    exact h (lossyTracker current) current "#1" "state_change" (issueIn current) rfl
      (alreadyApplied_iff.mpr hmatches)
  · intro h σ adapter tracker issueRef mutationType issue hstate halready
    have hmatches := alreadyApplied_iff.mp halready
    obtain hapart | hsame := h
    · rw [Option.any_some, issueStateMatches_iff, hstate] at hmatches
      exact absurd hmatches hapart
    · exact hsame

theorem effectIsRecovered_iff {target : String} :
    EffectIsRecovered case stateMap target ↔ DisplayedAsSpelled case stateMap target := by
  constructor
  · intro h state hresolve
    have hinitial : (none : Option ReviewedIssue).any (issueStateMatches case target) = false := rfl
    refine (setState_lossyTracker hinitial).mp (h (lossyTracker state.displayValue)
      state.displayValue "#1" "state_change" none (lossyTracker_tookEffect hresolve _) ?_)
    rw [ne_eq, alreadyApplied_iff, hinitial]
    exact Bool.false_ne_true
  · rintro h σ adapter tracker issueRef mutationType initial
      ⟨state, error, issue, hresolve, hwrite, hkind, hread, hdisplay⟩ result hnot
    have hinitial : initial.any (issueStateMatches case target) = false := by
      rw [← Bool.not_eq_true]
      exact fun hany => hnot (alreadyApplied_iff.mpr hany)
    have hmatches : issueStateMatches case target issue = true := by
      rw [issueStateMatches_iff, hdisplay]
      exact h state hresolve
    show (setStateWithRecovery adapter case issueRef initial target mutationType
      { tracker, calls := [] }).1 = .ok .recovered
    rw [setState_of_failed hinitial hwrite hkind hread, if_pos hmatches]

/-- For a state map, an issue's state and a target, recovery keeps both promises exactly when
the state is not merely spelled like the target and the target is displayed as it is
spelled. -/
theorem recovery_agrees_iff (case : Text.UnicodeCase) (stateMap : StateMap)
    (current target : String) :
    AlreadyAppliedIsSame case stateMap current target ∧ EffectIsRecovered case stateMap target
      ↔ SpelledApartOrNamed case stateMap current target
        ∧ DisplayedAsSpelled case stateMap target :=
  and_congr alreadyAppliedIsSame_iff effectIsRecovered_iff

/-! ## A display value of its own -/

def renamedStateMap : StateMap :=
  Config.parseStateMap (some (.obj [("in_progress", .str "Doing")]))

theorem resolve_renamed :
    resolveConfiguredTrackerState .ascii renamedStateMap "in_progress"
        = .ok ⟨"in_progress", "Doing"⟩
      ∧ resolveConfiguredTrackerState .ascii renamedStateMap "In Progress"
        = .error (.unknownInput "In Progress") := by
  decide

/-- Where the state `in_progress` is displayed as "Doing", an issue whose state "In Progress"
names nothing is said to be there already, and a write that moved the issue to "Doing" is
not recovered. -/
theorem renamed_state_not_recovered :
    (setStateWithRecovery (lossyTracker "Doing") .ascii "#1" (some (issueIn "In Progress"))
          "in_progress" "state_change" { tracker := "In Progress", calls := [] }).1
        = .ok .alreadyApplied
      ∧ ¬ SameState .ascii renamedStateMap "In Progress" "in_progress"
      ∧ TookEffect .ascii renamedStateMap (lossyTracker "Doing") "Todo" "#1" "in_progress"
      ∧ (setStateWithRecovery (lossyTracker "Doing") .ascii "#1" (some (issueIn "Todo"))
          "in_progress" "state_change" { tracker := "Todo", calls := [] }).1
        ≠ .ok .recovered := by
  obtain ⟨hkey, hunknown⟩ := resolve_renamed
  refine ⟨alreadyApplied_iff.mpr (by decide +kernel), ?_, lossyTracker_tookEffect hkey "Todo", ?_⟩
  · rintro ⟨state, hcurrent, -⟩
    rw [hunknown] at hcurrent
    cases hcurrent
  · have hinitial : (some (issueIn "Todo")).any (issueStateMatches .ascii "in_progress") = false := by
      decide
    have hapart : stateKey .ascii "Doing" ≠ stateKey .ascii "in_progress" := by decide
    exact fun h => hapart ((setState_lossyTracker hinitial).mp h)

end SheaSymphony.Tracker

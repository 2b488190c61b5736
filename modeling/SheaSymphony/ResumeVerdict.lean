import SheaSymphony.ResumeAccounts
import SheaSymphony.RuntimeStateStore

/-!
# The verdict of a resume preflight on one issue

Among the states of many issues, the preflight treats that of one issue as if it were
alone: the tracker answers about the issue it was asked for, and a session of the
registry is added only for an issue that no state mentions.
-/

namespace SheaSymphony.Preflight

open Interrupted (MayReturn Program Returns)
open Model (TrackerIssue normalizeState)
open SheaSymphony.Runtime (RuntimeState runtimeStateForIssue)
open Sessions (AgentSessionRecord)

variable {ω : Type} (effects : PreflightEffects ω) (config : PreflightConfig) (nowMs : UInt64)
  (recover : Bool) (issue : String)

/-- The tracker answers about the issue it was asked for, and shows this one in
progress where it shows it. -/
structure TracksInProgress : Prop where
  asked : ∀ identifier, Returns (effects.getIssue identifier) fun answer =>
    ∀ read ∈ answer, read.identifier = identifier
  inProgress : Returns (effects.getIssue issue) fun answer =>
    ∀ read ∈ answer, normalizeState config.case read.state = "in progress"

/-- The run says nothing of the issue. -/
structure Silent (run : PreflightRun) : Prop where
  retained : runtimeStateForIssue run.retainedStates issue = none
  candidates : ∀ candidate ∈ run.recoverableStates, candidate.issue.identifier ≠ issue

/-- What the run says of the issue whose state was `stored`. -/
structure Verdict (stored : RuntimeState) (run : PreflightRun) : Prop where
  retained : ∃ state, runtimeStateForIssue run.retainedStates issue = some state
    ∧ TakenFor effects config nowMs recover stored state
  candidates : ∀ candidate ∈ run.recoverableStates, candidate.issue.identifier = issue →
    OfferedFor effects config nowMs recover stored candidate.state

/-- What the run says of the issue that had no state. -/
def Unstored (run : PreflightRun) : Prop :=
  ∀ state ∈ runtimeStateForIssue run.retainedStates issue, ∃ record,
    sessionOfIssue issue record = true ∧ state = runtimeStateFromSessionRecord record

variable {stored : RuntimeState} {run after : PreflightRun} {state : RuntimeState}

section
variable {effects config nowMs recover issue}

theorem runtimeStateForIssue_concat (states : List RuntimeState) (state : RuntimeState) :
    runtimeStateForIssue (states ++ [state]) issue
      = (runtimeStateForIssue states issue).or (runtimeStateForIssue [state] issue) :=
  List.find?_append

theorem runtimeStateForIssue_singleton_self (h : state.identifier = some issue) :
    runtimeStateForIssue [state] issue = some state :=
  List.find?_cons_of_pos (by exact decide_eq_true h)

theorem runtimeStateForIssue_singleton_other (h : state.identifier ≠ some issue) :
    runtimeStateForIssue [state] issue = none :=
  List.find?_cons_of_neg (by simpa using h)

theorem identifier_of_forIssue {states : List RuntimeState}
    (h : runtimeStateForIssue states issue = some state) : state.identifier = some issue := by
  have hfound := List.find?_some (show states.find? _ = some state from h)
  exact of_decide_eq_true hfound

theorem TracksInProgress.identifier_read (htracks : TracksInProgress effects config issue)
    {identifier : String} {read : TrackerIssue} (h : ReadInProgress effects config identifier read) :
    read.identifier = identifier :=
  (htracks.asked identifier).of_mayReturn h.1 read rfl

/-! ## States of other issues -/

theorem Silent.handled (htracks : TracksInProgress effects config issue) {other : RuntimeState}
    (h : Silent issue run) (hother : other.identifier ≠ some issue)
    (hhandled : Handled effects config nowMs recover run other after) : Silent issue after := by
  induction hhandled with
  | retained =>
      refine ⟨?_, h.candidates⟩
      exact (runtimeStateForIssue_concat _ _).trans
        (by rw [h.retained, runtimeStateForIssue_singleton_other hother, Option.or_none])
  | active hmain htaken =>
      refine ⟨?_, h.candidates⟩
      have hstate := (htaken.standsFor hmain).issue ▸ hother
      exact (runtimeStateForIssue_concat _ _).trans
        (by rw [h.retained, runtimeStateForIssue_singleton_other hstate, Option.or_none])
  | recoverable hmain hoffered hissue hread =>
      refine ⟨?_, ?_⟩
      · have hstate := (hoffered.standsFor hmain).issue ▸ hother
        exact (runtimeStateForIssue_concat _ _).trans
          (by rw [h.retained, runtimeStateForIssue_singleton_other hstate, Option.or_none])
      · intro candidate hcandidate
        rcases List.mem_append.mp hcandidate with hold | hnew
        · exact h.candidates candidate hold
        · obtain rfl := List.mem_singleton.mp hnew
          intro hsame
          rw [htracks.identifier_read hread] at hsame
          exact hother (hsame ▸ hissue)
  | archived => exact ⟨h.retained, h.candidates⟩
  | blocked _ ih => exact ⟨ih.retained, ih.candidates⟩

theorem Verdict.handled (htracks : TracksInProgress effects config issue) {other : RuntimeState}
    (h : Verdict effects config nowMs recover issue stored run)
    (hother : other.identifier ≠ some issue)
    (hhandled : Handled effects config nowMs recover run other after) :
    Verdict effects config nowMs recover issue stored after := by
  obtain ⟨state, hstate, htaken⟩ := h.retained
  -- what is retained later stands behind the state of the issue
  have hretained : ∀ added, runtimeStateForIssue (run.retainedStates ++ [added]) issue = some state :=
    fun added => by rw [runtimeStateForIssue_concat, hstate, Option.some_or]
  induction hhandled with
  | retained => exact ⟨⟨state, hretained _, htaken⟩, h.candidates⟩
  | active => exact ⟨⟨state, hretained _, htaken⟩, h.candidates⟩
  | recoverable hmain hoffered hissue hread =>
      refine ⟨⟨state, hretained _, htaken⟩, ?_⟩
      intro candidate hcandidate hsame
      rcases List.mem_append.mp hcandidate with hold | hnew
      · exact h.candidates candidate hold hsame
      · obtain rfl := List.mem_singleton.mp hnew
        rw [htracks.identifier_read hread] at hsame
        exact absurd (hsame ▸ hissue) hother
  | archived => exact ⟨⟨state, hstate, htaken⟩, h.candidates⟩
  | blocked _ ih => exact ⟨ih.retained, ih.candidates⟩

/-! ## The state of the issue -/

theorem Silent.verdict (htracks : TracksInProgress effects config issue) (h : Silent issue run)
    (hissue : stored.identifier = some issue)
    (hhandled : Handled effects config nowMs recover run stored after) :
    Verdict effects config nowMs recover issue stored after := by
  have hretained : ∀ {state}, state.identifier = some issue →
      runtimeStateForIssue (run.retainedStates ++ [state]) issue = some state := fun hstate => by
    rw [runtimeStateForIssue_concat, h.retained, Option.none_or,
      runtimeStateForIssue_singleton_self hstate]
  have hnone : ∀ candidate ∈ run.recoverableStates, candidate.issue.identifier = issue →
      OfferedFor effects config nowMs recover stored candidate.state :=
    fun candidate hmem hsame => absurd hsame (h.candidates candidate hmem)
  induction hhandled with
  | retained => exact ⟨⟨stored, hretained hissue, Or.inl rfl⟩, hnone⟩
  | active hmain htaken =>
      exact ⟨⟨_, hretained ((htaken.standsFor hmain).issue.trans hissue), htaken⟩, hnone⟩
  | recoverable hmain hoffered =>
      refine ⟨⟨_, hretained ((hoffered.standsFor hmain).issue.trans hissue),
        hoffered.imp And.left id⟩, ?_⟩
      intro candidate hcandidate hsame
      rcases List.mem_append.mp hcandidate with hold | hnew
      · exact hnone candidate hold hsame
      · obtain rfl := List.mem_singleton.mp hnew
        exact hoffered
  | archived hmain hidentifier hread hgone =>
      obtain rfl := Option.some.inj (hidentifier.symm.trans hissue)
      exact absurd (htracks.inProgress.of_mayReturn hread _ rfl) hgone
  | blocked _ ih => exact ⟨ih.retained, ih.candidates⟩

/-! ## Sessions of the registry -/

theorem not_mentions_of_ne {run : PreflightRun} {other : String}
    (h : runtimeStateForIssue run.retainedStates issue = some state)
    (hnew : run.mentions other = false) : other ≠ issue := by
  rintro rfl
  have hany := (Bool.or_eq_false_iff.mp hnew).1
  refine List.any_eq_false.mp hany state (List.mem_of_find?_eq_some h) ?_
  exact beq_iff_eq.mpr (identifier_of_forIssue h)

theorem identifier_of_sessionOfIssue {record : AgentSessionRecord}
    (h : sessionOfIssue issue record = true) :
    (runtimeStateFromSessionRecord record).identifier = some issue :=
  (mainStateOf_session h).1

theorem Verdict.added (htracks : TracksInProgress effects config issue)
    (h : Verdict effects config nowMs recover issue stored run)
    (hadded : Added effects config run after) :
    Verdict effects config nowMs recover issue stored after := by
  obtain ⟨state, hstate, htaken⟩ := h.retained
  have hretained : ∀ added, runtimeStateForIssue (run.retainedStates ++ [added]) issue = some state :=
    fun added => by rw [runtimeStateForIssue_concat, hstate, Option.some_or]
  cases hadded with
  | unchanged => exact h
  | active => exact ⟨⟨state, hretained _, htaken⟩, h.candidates⟩
  | recoverable hnew hsession hread =>
      refine ⟨⟨state, hretained _, htaken⟩, ?_⟩
      intro candidate hcandidate hsame
      rcases List.mem_append.mp hcandidate with hold | hlast
      · exact h.candidates candidate hold hsame
      · obtain rfl := List.mem_singleton.mp hlast
        rw [htracks.identifier_read hread] at hsame
        exact absurd hsame (not_mentions_of_ne hstate hnew)

theorem Unstored.concat {run : PreflightRun} {other : String} {record : AgentSessionRecord}
    (h : Unstored issue run) (hsession : sessionOfIssue other record = true) :
    ∀ state ∈ runtimeStateForIssue (run.retainedStates ++ [runtimeStateFromSessionRecord record])
        issue,
      ∃ record, sessionOfIssue issue record = true
        ∧ state = runtimeStateFromSessionRecord record := by
  intro state hstate
  rw [runtimeStateForIssue_concat] at hstate
  cases hold : runtimeStateForIssue run.retainedStates issue with
  | some first =>
      rw [hold, Option.some_or] at hstate
      exact h state (hold.trans hstate)
  | none =>
      rw [hold, Option.none_or] at hstate
      have hissue := identifier_of_forIssue hstate
      obtain rfl := List.mem_singleton.mp (List.mem_of_find?_eq_some hstate)
      rw [identifier_of_sessionOfIssue hsession] at hissue
      exact ⟨record, Option.some.inj hissue ▸ hsession, rfl⟩

theorem Unstored.added (h : Unstored issue run) (hadded : Added effects config run after) :
    Unstored issue after := by
  cases hadded with
  | unchanged => exact h
  | active _ hsession => exact h.concat hsession
  | recoverable _ hsession => exact h.concat hsession

/-! ## All states -/

theorem preflightStates_silent (htracks : TracksInProgress effects config issue) :
    ∀ (states : List RuntimeState) (run : PreflightRun),
      (∀ state ∈ states, state.identifier ≠ some issue) → Silent issue run →
      Returns (preflightStates effects config nowMs recover states run) (Silent issue)
  | [], run, _, h => Returns.pure h
  | state :: states, run, hothers, h => by
      refine Returns.bind (preflightState_handled recover run state) fun after hafter => ?_
      exact preflightStates_silent htracks states after
        (fun other hother => hothers other (List.mem_cons_of_mem _ hother))
        (h.handled htracks (hothers state List.mem_cons_self) hafter)

theorem preflightStates_verdict (htracks : TracksInProgress effects config issue) :
    ∀ (states : List RuntimeState) (run : PreflightRun),
      (∀ state ∈ states, state.identifier ≠ some issue) →
      Verdict effects config nowMs recover issue stored run →
      Returns (preflightStates effects config nowMs recover states run)
        (Verdict effects config nowMs recover issue stored)
  | [], run, _, h => Returns.pure h
  | state :: states, run, hothers, h => by
      refine Returns.bind (preflightState_handled recover run state) fun after hafter => ?_
      exact preflightStates_verdict htracks states after
        (fun other hother => hothers other (List.mem_cons_of_mem _ hother))
        (h.handled htracks (hothers state List.mem_cons_self) hafter)

theorem preflightStates_stored (htracks : TracksInProgress effects config issue)
    {after : List RuntimeState} (hissue : stored.identifier = some issue)
    (hafter : ∀ state ∈ after, state.identifier ≠ some issue) :
    ∀ (before : List RuntimeState) (run : PreflightRun),
      (∀ state ∈ before, state.identifier ≠ some issue) → Silent issue run →
      Returns (preflightStates effects config nowMs recover (before ++ stored :: after) run)
        (Verdict effects config nowMs recover issue stored)
  | [], run, _, h => by
      refine Returns.bind (preflightState_handled recover run stored) fun next hnext => ?_
      exact preflightStates_verdict htracks after next hafter (h.verdict htracks hissue hnext)
  | state :: before, run, hbefore, h => by
      refine Returns.bind (preflightState_handled recover run state) fun next hnext => ?_
      exact preflightStates_stored htracks hissue hafter before next
        (fun other hother => hbefore other (List.mem_cons_of_mem _ hother))
        (h.handled htracks (hbefore state List.mem_cons_self) hnext)

theorem recoverRegisteredSessions_preserves {P : PreflightRun → Prop}
    (hadded : ∀ run after, P run → Added effects config run after → P after) :
    ∀ (sessions : List AgentSessionRecord) (run : PreflightRun), P run →
      Returns (recoverRegisteredSessions effects config nowMs sessions run) P
  | [], run, h => Returns.pure h
  | record :: older, run, h => by
      refine Returns.bind (recoverRegisteredSession_added run record) fun after hafter => ?_
      exact recoverRegisteredSessions_preserves hadded older after (hadded run after h hafter)

theorem runLoopResumePreflightMany_preserves {P : PreflightRun → Prop} {states : List RuntimeState}
    (hstates : Returns (preflightStates effects config nowMs recover states .empty) P)
    (hadded : ∀ run after, P run → Added effects config run after → P after) :
    Returns (runLoopResumePreflightMany effects config states nowMs recover) P := by
  refine Returns.bind hstates fun run hrun => ?_
  cases recover with
  | false => exact Returns.pure hrun
  | true =>
      refine Returns.seq fun sessions => ?_
      exact recoverRegisteredSessions_preserves hadded sessions.reverse run hrun

theorem Silent.empty : Silent issue .empty := ⟨rfl, by simp [PreflightRun.empty]⟩

theorem resume_preflight_verdict (htracks : TracksInProgress effects config issue)
    {before after : List RuntimeState} (hissue : stored.identifier = some issue)
    (hothers : ∀ state ∈ before ++ after, state.identifier ≠ some issue) :
    Returns (runLoopResumePreflightMany effects config (before ++ stored :: after) nowMs recover)
      (Verdict effects config nowMs recover issue stored) := by
  rw [List.forall_mem_append] at hothers
  exact runLoopResumePreflightMany_preserves
    (preflightStates_stored htracks hissue hothers.2 before .empty hothers.1 .empty)
    fun _ _ h hadded => h.added htracks hadded

theorem resume_preflight_unstored (htracks : TracksInProgress effects config issue)
    {states : List RuntimeState} (hothers : ∀ state ∈ states, state.identifier ≠ some issue) :
    Returns (runLoopResumePreflightMany effects config states nowMs recover)
      (Unstored issue) := by
  refine runLoopResumePreflightMany_preserves ?_ fun _ _ h hadded => h.added hadded
  refine (preflightStates_silent htracks states .empty hothers .empty).mono fun run hrun => ?_
  intro state hstate
  rw [hrun.retained] at hstate
  exact absurd hstate (by simp)

end

end SheaSymphony.Preflight

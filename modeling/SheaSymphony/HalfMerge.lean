import SheaSymphony.MergeAgentRepair
import SheaSymphony.Traces

/-!
# Half merges

What holds behind a merge with conflicts: where the repair does not succeed, the merge has been
aborted or none has been found in progress; a push comes last and only behind a repair; and
a stage failure is retried when it is retryable. An error between the merge and the abort breaks
the first, the answer of a stage failure the last (`repair_concludes_iff`).
-/

namespace SheaSymphony.MergeRepair

open Agent (AgentEvent)
open Interrupted (Program)
open Logged (Ends ask attempt mapError note)
open MainHandoff (Command CommandOutput)
open Traces (Everywhere everywhere_concat everywhere_nil)

/-! ## What is required -/

section
variable (request : RepairRequest) (worktreePath : String)

/-- The merge is aborted, or none is found in progress. -/
def Settles : RepairEvent → Prop
  | .ran command answer =>
      command = abortCommand worktreePath
        ∨ command = mergeHeadCommand worktreePath ∧ ∃ output, answer = .ok output ∧ output.status ≠ 0
  | _ => False

/-- The merge is committed. -/
def Commits : RepairEvent → Prop
  | .ran command answer =>
      command = commitCommand worktreePath ∧ ∃ output, answer = .ok output ∧ output.status = 0
  | _ => False

def Pushes : RepairEvent → Prop
  | .ran command _ => command = pushCommand worktreePath request.headRefName
  | _ => False

/-- An answer is missing that the run cannot go on without, or that leaves the merge open; a
stage failure that may be retried counts as one. -/
def Unanswered : RepairEvent → Prop
  | .ran command (.error _) =>
      command = unmergedCommand worktreePath ∨ command = mergeHeadCommand worktreePath
        ∨ command = commitCommand worktreePath
  | .prepared (.error _) | .recorded (.error _) | .staged (.error (.retryable _)) => True
  | _ => False

def Settled (log : List RepairEvent) : Prop := ∃ event ∈ log, Settles worktreePath event

def Committed (log : List RepairEvent) : Prop := ∃ event ∈ log, Commits worktreePath event

def Answered (log : List RepairEvent) : Prop := ∀ event ∈ log, ¬ Unanswered worktreePath event

/-- The branch has been pushed. -/
def Pushed (log : List RepairEvent) : Prop :=
  ∃ output, .ran (pushCommand worktreePath request.headRefName) (.ok output) ∈ log ∧ output.status = 0

/-- What stands in front of a push. -/
structure MayPush (front : List RepairEvent) : Prop where
  once : ∀ event ∈ front, ¬ Pushes request worktreePath event
  repaired : ∃ events, .agentRan (.ok events) ∈ front
    ∧ mergeAgentReportsRepaired (agentEventsText events) = true
    ∧ mergeAgentRequestsHumanInput (agentEventsText events) = false
  staged : .staged (.ok ()) ∈ front
  clean : ∃ output, front.getLast? = some (.ran (statusCommand worktreePath) (.ok output))
    ∧ isClean output = true

def Unrepaired (result : Except String MergeAgentConflictRepairOutcome) : Prop :=
  ∀ outcome, result = .ok outcome → outcome.repaired = false

/-- What a run comes to behind the merge; `isOver` says when the merge is over. -/
structure LeavesNoHalfMerge (isOver : List RepairEvent → Prop)
    (result : Except String MergeAgentConflictRepairOutcome) (log : List RepairEvent) : Prop where
  closed : Unrepaired result → isOver log
  pushed : Everywhere
    (fun front event => Pushes request worktreePath event → MayPush request worktreePath front) log
  retryable : ∀ reason, .staged (.error (.retryable reason)) ∈ log →
    ∃ outcome, result = .ok outcome ∧ outcome.retryable = true ∧ outcome.targetState = none
  unsafely : ∀ reason, .staged (.error (.unsafely reason)) ∈ log → ∀ outcome, result = .ok outcome →
    outcome.retryable = false ∧ outcome.targetState = some "need_human_input"

/-- The two readings of a merge that is over: without its commit and with it. -/
structure Verdict (result : Except String MergeAgentConflictRepairOutcome)
    (log : List RepairEvent) : Prop where
  settled : LeavesNoHalfMerge request worktreePath (Settled worktreePath) result log ↔
    Answered worktreePath log
      ∧ (Committed worktreePath log → Pushed request worktreePath log)
  concluded : LeavesNoHalfMerge request worktreePath
      (fun log => Settled worktreePath log ∨ Committed worktreePath log) result log ↔
    Answered worktreePath log

end

variable {front more : List RepairEvent}

section
variable {request : RepairRequest} {worktreePath : String}
  {result : Except String MergeAgentConflictRepairOutcome} {log : List RepairEvent}

theorem LeavesNoHalfMerge.mono {isOver more : List RepairEvent → Prop}
    (h : LeavesNoHalfMerge request worktreePath isOver result log)
    (hmore : Unrepaired result → more log) :
    LeavesNoHalfMerge request worktreePath more result log :=
  { h with closed := hmore }

theorem Verdict.of_answered (hanswered : Answered worktreePath log)
    (hlaw : LeavesNoHalfMerge request worktreePath
      (fun log => Settled worktreePath log ∨ Committed worktreePath log) result log)
    (hsettled : (Unrepaired result → Settled worktreePath log) ↔
      (Committed worktreePath log → Pushed request worktreePath log)) :
    Verdict request worktreePath result log where
  settled := ⟨fun h => ⟨hanswered, hsettled.mp h.closed⟩,
    fun h => hlaw.mono (hsettled.mpr h.2)⟩
  concluded := ⟨fun _ => hanswered, fun _ => hlaw⟩

theorem Verdict.of_broken (hanswered : ¬ Answered worktreePath log)
    (hlaw : ¬ LeavesNoHalfMerge request worktreePath
      (fun log => Settled worktreePath log ∨ Committed worktreePath log) result log) :
    Verdict request worktreePath result log where
  settled := ⟨fun h => absurd (h.mono fun hnot => Or.inl (h.closed hnot)) hlaw,
    fun h => absurd h.1 hanswered⟩
  concluded := ⟨fun h => absurd h hlaw, fun h => absurd h hanswered⟩

/-! ## Events that leave the law alone -/

def StageFails : RepairEvent → Prop
  | .staged (.error _) => True
  | _ => False

variable (request worktreePath) in
/-- The event asks for nothing to be shown. -/
structure Tame (event : RepairEvent) : Prop where
  commits : ¬ Commits worktreePath event
  pushes : ¬ Pushes request worktreePath event
  fails : ¬ StageFails event

theorem everywhere_of_tame (h : ∀ event ∈ log, ¬ Pushes request worktreePath event) :
    Everywhere
      (fun front event => Pushes request worktreePath event → MayPush request worktreePath front) log := by
  intro front event back hlog hpushes
  exact absurd hpushes (h event (hlog ▸ List.mem_append_right front List.mem_cons_self))

theorem lawful_of_tame {isOver : List RepairEvent → Prop} (hover : isOver log)
    (htame : ∀ event ∈ log, Tame request worktreePath event) :
    LeavesNoHalfMerge request worktreePath isOver result log where
  closed _ := hover
  pushed := everywhere_of_tame fun event hevent => (htame event hevent).pushes
  retryable _ hmem := absurd trivial (htame _ hmem).fails
  unsafely _ hmem := absurd trivial (htame _ hmem).fails

theorem verdict_of_settled (hanswered : Answered worktreePath log)
    (htame : ∀ event ∈ log, Tame request worktreePath event) (hsettled : Settled worktreePath log) :
    Verdict request worktreePath result log := by
  refine .of_answered hanswered (lawful_of_tame (Or.inl hsettled) htame) ⟨fun _ hcommitted => ?_,
    fun _ _ => hsettled⟩
  obtain ⟨event, hevent, hcommits⟩ := hcommitted
  exact absurd hcommits (htame event hevent).commits

theorem verdict_of_open (hunrepaired : Unrepaired result)
    (hopen : ∀ event ∈ log, ¬ Settles worktreePath event ∧ ¬ Commits worktreePath event)
    {event : RepairEvent} (hevent : event ∈ log) (hunanswered : Unanswered worktreePath event) :
    Verdict request worktreePath result log := by
  refine .of_broken (fun hanswered => hanswered event hevent hunanswered) fun hlaw => ?_
  rcases hlaw.closed hunrepaired with ⟨other, hother, hsettles⟩ | ⟨other, hother, hcommits⟩
  · exact (hopen other hother).1 hsettles
  · exact (hopen other hother).2 hcommits

/-! ## Aborting -/

variable {runner : Runner}

theorem ends_abortMerge : Ends (abortMerge runner worktreePath) fun result more =>
    result = .ok () ∧ ∃ answer, more = [.ran (abortCommand worktreePath) answer] := by
  refine Ends.attempt_bind (S := fun result more => more = [.ran (abortCommand worktreePath) result])
    (Ends.ask fun _ => rfl) ?_
  rintro answer _ rfl
  exact Ends.pure ⟨rfl, answer, rfl⟩

theorem abortMerge_bind {β : Type} {rest : Unit → Repairing String β}
    {T : Except String β → List RepairEvent → Prop}
    (h : ∀ answer, Ends (rest ()) fun result more =>
      T result (.ran (abortCommand worktreePath) answer :: more)) :
    Ends (abortMerge runner worktreePath >>= rest) T := by
  refine ends_abortMerge.bind ?_ ?_
  · rintro e first ⟨herror, -⟩
    cases herror
  · rintro ⟨⟩ _ ⟨-, answer, rfl⟩
    exact h answer

/-- What a check for a merge in progress comes to. -/
inductive AbortTail (worktreePath : String) : List RepairEvent → Prop
  | unanswered (e : String) : AbortTail worktreePath [.ran (mergeHeadCommand worktreePath) (.error e)]
  | idle {output : CommandOutput} (hidle : output.status ≠ 0) :
      AbortTail worktreePath [.ran (mergeHeadCommand worktreePath) (.ok output)]
  | aborted (output : CommandOutput) (answer : Except String CommandOutput) :
      AbortTail worktreePath [.ran (mergeHeadCommand worktreePath) (.ok output),
        .ran (abortCommand worktreePath) answer]

theorem ends_abortMergeRepairIfActive :
    Ends (abortMergeRepairIfActive runner worktreePath) fun result more =>
      result = .ok () ∧ AbortTail worktreePath more := by
  refine Ends.attempt_bind
    (S := fun result more => more = [.ran (mergeHeadCommand worktreePath) result])
    (Ends.ask fun _ => rfl) ?_
  rintro answer _ rfl
  cases answer with
  | error e => exact Ends.pure ⟨rfl, .unanswered e⟩
  | ok output =>
      by_cases hactive : output.status = 0
      · rw [isMergeInProgress, hactive, beq_self_eq_true, if_pos rfl]
        refine ends_abortMerge.mono ?_
        rintro result _ ⟨hresult, answer, rfl⟩
        exact ⟨hresult, .aborted output answer⟩
      · rw [isMergeInProgress, beq_false_of_ne hactive, if_neg Bool.false_ne_true]
        exact Ends.pure ⟨rfl, .idle hactive⟩

theorem abortMergeRepairIfActive_bind {β : Type} {rest : Unit → Repairing String β}
    {T : Except String β → List RepairEvent → Prop}
    (h : ∀ tail, AbortTail worktreePath tail →
      Ends (rest ()) fun result more => T result (tail ++ more)) :
    Ends (abortMergeRepairIfActive runner worktreePath >>= rest) T := by
  refine ends_abortMergeRepairIfActive.bind ?_ ?_
  · rintro e first ⟨herror, -⟩
    cases herror
  · rintro ⟨⟩ tail ⟨-, htail⟩
    exact h tail htail

/-! ## Staging -/

variable (request worktreePath) in
/-- The event neither ends the merge nor asks for anything to be shown. -/
structure Calm (event : RepairEvent) : Prop extends Tame request worktreePath event where
  settles : ¬ Settles worktreePath event

/-- Staging leaves the merge as it is, and what it is not answered may be retried. -/
structure StageEnds (request : RepairRequest) (worktreePath : String)
    (result : Except MergeAgentStageFailure Unit) (more : List RepairEvent) : Prop where
  calm : ∀ event ∈ more, Calm request worktreePath event
  answered : (∀ reason, result ≠ .error (.retryable reason)) → Answered worktreePath more

/-- A command of the staging. -/
def IsStaging (worktreePath : String) (command : Command) : Prop :=
  command = diffCheckCommand worktreePath ∨ command = statusCommand worktreePath
    ∨ command = addCommand worktreePath ∨ command = unmergedCommand worktreePath

theorem calm_of_isStaging {command : Command} (h : IsStaging worktreePath command)
    (answer : Except String CommandOutput) : Calm request worktreePath (.ran command answer) := by
  have hother : command ≠ abortCommand worktreePath ∧ command ≠ mergeHeadCommand worktreePath
      ∧ command ≠ commitCommand worktreePath
      ∧ command ≠ pushCommand worktreePath request.headRefName := by
    rcases h with rfl | rfl | rfl | rfl
    all_goals
      simp [diffCheckCommand, statusCommand, addCommand, unmergedCommand, abortCommand,
        mergeHeadCommand, commitCommand, pushCommand, git]
  refine ⟨⟨fun h => hother.2.2.1 h.1, fun h => hother.2.2.2 h, nofun⟩, fun h => ?_⟩
  rcases h with h | h
  · exact hother.1 h
  · exact hother.2.1 h.1

theorem runStage_bind {command : Command} (hcommand : IsStaging worktreePath command)
    {rest : CommandOutput → Repairing MergeAgentStageFailure Unit}
    (h : ∀ output, Ends (rest output) (StageEnds request worktreePath)) :
    Ends (runStage runner command >>= rest) (StageEnds request worktreePath) := by
  have hrun : Ends (runStage runner command) fun result more => ∃ answer,
      result = answer.mapError .retryable ∧ more = [.ran command answer] :=
    Ends.mapError (Ends.ask fun answer => ⟨answer, rfl, rfl⟩)
  refine hrun.bind ?_ ?_
  · rintro failure _ ⟨answer, hfailure, rfl⟩
    cases answer with
    | ok output => cases hfailure
    | error e =>
        obtain rfl := Except.error.inj hfailure
        exact ⟨List.forall_mem_singleton.mpr (calm_of_isStaging hcommand _), fun h => absurd rfl (h e)⟩
  · rintro output _ ⟨answer, houtput, rfl⟩
    cases answer with
    | error e => cases houtput
    | ok other =>
        refine (h output).mono fun result more hmore => ⟨?_, fun hresult => ?_⟩
        · exact List.forall_mem_cons.mpr ⟨calm_of_isStaging hcommand _, hmore.calm⟩
        · exact List.forall_mem_cons.mpr ⟨nofun, hmore.answered hresult⟩

theorem ends_stageResolvedMergeAgentChanges :
    Ends (stageResolvedMergeAgentChanges runner worktreePath) (StageEnds request worktreePath) := by
  have hstop : ∀ failure, Ends (Program.stop failure : Repairing MergeAgentStageFailure Unit)
      (StageEnds request worktreePath) := fun failure => Ends.stop ⟨by simp, fun _ => by simp [Answered]⟩
  unfold stageResolvedMergeAgentChanges
  refine runStage_bind (Or.inl rfl) fun diffCheck => ?_
  split
  · exact hstop _
  · refine runStage_bind (Or.inr (Or.inl rfl)) fun preCommitStatus => ?_
    split
    · exact hstop _
    · refine runStage_bind (Or.inr (Or.inr (Or.inl rfl))) fun add => ?_
      split
      · exact hstop _
      · refine runStage_bind (Or.inr (Or.inr (Or.inr rfl))) fun unresolved => ?_
        split
        · exact hstop _
        · exact Ends.pure ⟨by simp, fun _ => by simp [Answered]⟩

/-! ## Finishing -/

/-- What finishing comes to: the push is last, behind a clean status. -/
inductive FinishEnds (request : RepairRequest) (worktreePath : String) :
    Except String MergeAgentConflictRepairOutcome → List RepairEvent → Prop
  | unchecked (e : String) :
      FinishEnds request worktreePath (.error e) [.ran (statusCommand worktreePath) (.error e)]
  | unclean {outcome : MergeAgentConflictRepairOutcome} (status : CommandOutput)
      (hrepaired : outcome.repaired = false) :
      FinishEnds request worktreePath (.ok outcome) [.ran (statusCommand worktreePath) (.ok status)]
  | refused {result : Except String MergeAgentConflictRepairOutcome} {status : CommandOutput}
      {answer : Except String CommandOutput} (hclean : isClean status = true)
      (hrefused : ∀ output, answer = .ok output → output.status ≠ 0) (hresult : Unrepaired result) :
      FinishEnds request worktreePath result [.ran (statusCommand worktreePath) (.ok status),
        .ran (pushCommand worktreePath request.headRefName) answer]
  | pushed {outcome : MergeAgentConflictRepairOutcome} {status output : CommandOutput}
      (hclean : isClean status = true) (hpushed : output.status = 0)
      (hrepaired : outcome.repaired = true) :
      FinishEnds request worktreePath (.ok outcome) [.ran (statusCommand worktreePath) (.ok status),
        .ran (pushCommand worktreePath request.headRefName) (.ok output)]

theorem ends_finish (story : RepairStory) (initialOutput : CommandOutput) (backend : String)
    (sessionId : Option String) :
    Ends (finishMergeAgentRepairedBranch runner request worktreePath story initialOutput backend
      sessionId) (FinishEnds request worktreePath) := by
  refine Ends.ask_bind (fun e => .unchecked e) fun status => ?_
  split
  · exact Ends.pure (.unclean status rfl)
  · next hclean =>
      rw [Bool.not_eq_true', Bool.not_eq_false] at hclean
      refine Ends.ask_bind (fun e => .refused hclean nofun nofun) fun push => ?_
      split
      · next hrefused =>
          refine Ends.pure (.refused hclean ?_ ?_)
          · intro output houtput
            rw [← Except.ok.inj houtput]
            simpa using hrefused
          · intro outcome houtcome
            rw [← Except.ok.inj houtcome]
            rfl
      · next hpushed => exact Ends.pure (.pushed hclean (by simpa using hpushed) rfl)

/-- What stands in front of a finish: the agent's repair is staged, and the merge is over in
one of the two ways. -/
structure ReadyToFinish (request : RepairRequest) (worktreePath : String) (front : List RepairEvent) :
    Prop where
  answered : Answered worktreePath front
  pushes : ∀ event ∈ front, ¬ Pushes request worktreePath event
  fails : ∀ event ∈ front, ¬ StageFails event
  repaired : ∃ events, .agentRan (.ok events) ∈ front
    ∧ mergeAgentReportsRepaired (agentEventsText events) = true
    ∧ mergeAgentRequestsHumanInput (agentEventsText events) = false
  staged : .staged (.ok ()) ∈ front
  closed : Settled worktreePath front ∧ ¬ Committed worktreePath front
    ∨ ¬ Settled worktreePath front ∧ Committed worktreePath front

theorem FinishEnds.quiet {more : List RepairEvent} (h : FinishEnds request worktreePath result more) :
    ∀ event ∈ more, ¬ Unanswered worktreePath event ∧ ¬ Settles worktreePath event
      ∧ ¬ Commits worktreePath event ∧ ¬ StageFails event := by
  have hstatus : ∀ answer, ¬ Unanswered worktreePath (.ran (statusCommand worktreePath) answer)
      ∧ ¬ Settles worktreePath (.ran (statusCommand worktreePath) answer)
      ∧ ¬ Commits worktreePath (.ran (statusCommand worktreePath) answer)
      ∧ ¬ StageFails (.ran (statusCommand worktreePath) answer) := by
    intro answer
    cases answer with
    | ok output | error e =>
        simp [Unanswered, Settles, Commits, StageFails, statusCommand, unmergedCommand,
          mergeHeadCommand, commitCommand, abortCommand, git]
  have hpush : ∀ answer,
      ¬ Unanswered worktreePath (.ran (pushCommand worktreePath request.headRefName) answer)
      ∧ ¬ Settles worktreePath (.ran (pushCommand worktreePath request.headRefName) answer)
      ∧ ¬ Commits worktreePath (.ran (pushCommand worktreePath request.headRefName) answer)
      ∧ ¬ StageFails (.ran (pushCommand worktreePath request.headRefName) answer) := by
    intro answer
    cases answer with
    | ok output | error e =>
        simp [Unanswered, Settles, Commits, StageFails, pushCommand, unmergedCommand,
          mergeHeadCommand, commitCommand, abortCommand, git]
  cases h with
  | unchecked e => exact List.forall_mem_singleton.mpr (hstatus _)
  | unclean status _ => exact List.forall_mem_singleton.mpr (hstatus _)
  | refused _ _ _ => exact List.forall_mem_cons.mpr ⟨hstatus _, List.forall_mem_singleton.mpr (hpush _)⟩
  | pushed _ _ _ => exact List.forall_mem_cons.mpr ⟨hstatus _, List.forall_mem_singleton.mpr (hpush _)⟩

theorem FinishEnds.unrepaired_iff (h : FinishEnds request worktreePath result more)
    (hfront : ∀ event ∈ front, ¬ Pushes request worktreePath event) :
    Unrepaired result ↔ ¬ Pushed request worktreePath (front ++ more) := by
  have hbehind : Pushed request worktreePath (front ++ more) ↔ Pushed request worktreePath more := by
    refine exists_congr fun output => and_congr_left fun _ => ?_
    rw [List.mem_append]
    exact or_iff_right fun hmem => hfront _ hmem rfl
  have hstatus : ∀ {answer output}, .ran (pushCommand worktreePath request.headRefName) (.ok output)
      ≠ RepairEvent.ran (statusCommand worktreePath) answer := by
    simp [pushCommand, statusCommand, git]
  rw [hbehind]
  cases h with
  | unchecked e => exact iff_of_true nofun fun ⟨_, hmem, _⟩ => hstatus (List.mem_singleton.mp hmem)
  | unclean status hrepaired =>
      refine iff_of_true (fun outcome houtcome => ?_) fun ⟨_, hmem, _⟩ =>
        hstatus (List.mem_singleton.mp hmem)
      rw [← Except.ok.inj houtcome]
      exact hrepaired
  | refused _ hrefused hresult =>
      refine iff_of_true hresult ?_
      rintro ⟨output, hmem, hpushed⟩
      rcases List.mem_cons.mp hmem with hmem | hmem
      · exact hstatus hmem
      · obtain ⟨-, hanswer⟩ := RepairEvent.ran.inj (List.mem_singleton.mp hmem)
        exact hrefused output hanswer.symm hpushed
  | pushed _ hpushed hrepaired =>
      refine iff_of_false (fun hunrepaired => ?_) fun hnot =>
        hnot ⟨_, List.mem_cons_of_mem _ List.mem_cons_self, hpushed⟩
      rw [hunrepaired _ rfl] at hrepaired
      cases hrepaired

theorem ReadyToFinish.pushed (h : ReadyToFinish request worktreePath front)
    (hmore : FinishEnds request worktreePath result more) :
    Everywhere
      (fun front event => Pushes request worktreePath event → MayPush request worktreePath front)
      (front ++ more) := by
  have hstatus : ∀ answer, ∀ event ∈ front ++ [.ran (statusCommand worktreePath) answer],
      ¬ Pushes request worktreePath event := by
    intro answer event hevent
    rcases List.mem_append.mp hevent with hevent | hevent
    · exact h.pushes event hevent
    · rw [List.mem_singleton.mp hevent]
      exact (calm_of_isStaging (Or.inr (Or.inl rfl)) answer).pushes
  have hlast : ∀ status, isClean status = true → ∀ answer,
      Everywhere
        (fun front event => Pushes request worktreePath event → MayPush request worktreePath front)
        (front ++ [.ran (statusCommand worktreePath) (.ok status),
          .ran (pushCommand worktreePath request.headRefName) answer]) := by
    intro status hclean answer
    rw [List.append_cons, everywhere_concat]
    refine ⟨everywhere_of_tame (hstatus _), fun _ => ?_⟩
    obtain ⟨events, hevents, hsays⟩ := h.repaired
    exact
      { once := hstatus _
        repaired := ⟨events, List.mem_append_left _ hevents, hsays⟩
        staged := List.mem_append_left _ h.staged
        clean := ⟨status, List.getLast?_concat, hclean⟩ }
  cases hmore with
  | unchecked e => exact everywhere_of_tame (hstatus _)
  | unclean status _ => exact everywhere_of_tame (hstatus _)
  | refused hclean _ _ => exact hlast _ hclean _
  | pushed hclean _ _ => exact hlast _ hclean _

theorem exists_mem_append_iff_left {P : RepairEvent → Prop} (h : ∀ event ∈ more, ¬ P event) :
    (∃ event ∈ front ++ more, P event) ↔ ∃ event ∈ front, P event := by
  constructor
  · rintro ⟨event, hevent, hP⟩
    rcases List.mem_append.mp hevent with hevent | hevent
    · exact ⟨event, hevent, hP⟩
    · exact absurd hP (h event hevent)
  · rintro ⟨event, hevent, hP⟩
    exact ⟨event, List.mem_append_left _ hevent, hP⟩

theorem ReadyToFinish.verdict (h : ReadyToFinish request worktreePath front)
    (hmore : FinishEnds request worktreePath result more) :
    Verdict request worktreePath result (front ++ more) := by
  have hquiet := hmore.quiet
  have hsettled : Settled worktreePath (front ++ more) ↔ Settled worktreePath front :=
    exists_mem_append_iff_left fun event hevent => (hquiet event hevent).2.1
  have hcommitted : Committed worktreePath (front ++ more) ↔ Committed worktreePath front :=
    exists_mem_append_iff_left fun event hevent => (hquiet event hevent).2.2.1
  have hfails : ∀ event ∈ front ++ more, ¬ StageFails event := fun event hevent =>
    (List.mem_append.mp hevent).elim (h.fails event) fun hevent => (hquiet event hevent).2.2.2
  refine .of_answered (fun event hevent => (List.mem_append.mp hevent).elim (h.answered event)
    fun hevent => (hquiet event hevent).1) ?_ ?_
  · exact
      { closed := fun _ => h.closed.imp (fun hover => hsettled.mpr hover.1)
          fun hover => hcommitted.mpr hover.2
        pushed := h.pushed hmore
        retryable := fun _ hmem => absurd trivial (hfails _ hmem)
        unsafely := fun _ hmem => absurd trivial (hfails _ hmem) }
  · rw [hsettled, hcommitted]
    rcases h.closed with ⟨hover, hnot⟩ | ⟨hnot, hover⟩
    · exact iff_of_true (fun _ => hover) fun hcommitted => absurd hcommitted hnot
    · rw [hmore.unrepaired_iff h.pushes]
      simp only [hnot, hover, imp_false, not_not, forall_const]

/-! ## Concluding -/

section Commands

variable (answer : Except String CommandOutput)

@[simp] theorem settles_abort : Settles worktreePath (.ran (abortCommand worktreePath) answer) :=
  Or.inl rfl

@[simp] theorem settles_mergeHead :
    Settles worktreePath (.ran (mergeHeadCommand worktreePath) answer) ↔
      ∃ output, answer = .ok output ∧ output.status ≠ 0 := by
  simp [Settles, mergeHeadCommand, abortCommand, git]

@[simp] theorem not_settles_commit :
    ¬ Settles worktreePath (.ran (commitCommand worktreePath) answer) := by
  simp [Settles, commitCommand, mergeHeadCommand, abortCommand, git]

@[simp] theorem commits_commit :
    Commits worktreePath (.ran (commitCommand worktreePath) answer) ↔
      ∃ output, answer = .ok output ∧ output.status = 0 := by
  simp [Commits]

@[simp] theorem not_commits_mergeHead :
    ¬ Commits worktreePath (.ran (mergeHeadCommand worktreePath) answer) := by
  simp [Commits, mergeHeadCommand, commitCommand, git]

theorem tame_abort : Tame request worktreePath (.ran (abortCommand worktreePath) answer) where
  commits := by simp [Commits, abortCommand, commitCommand, git]
  pushes := by simp [Pushes, abortCommand, pushCommand, git]
  fails := nofun

theorem tame_mergeHead : Tame request worktreePath (.ran (mergeHeadCommand worktreePath) answer) where
  commits := not_commits_mergeHead answer
  pushes := by simp [Pushes, mergeHeadCommand, pushCommand, git]
  fails := nofun

@[simp] theorem not_unanswered_abort :
    ¬ Unanswered worktreePath (.ran (abortCommand worktreePath) answer) := by
  cases answer <;>
    simp [Unanswered, abortCommand, unmergedCommand, mergeHeadCommand, commitCommand, git]

theorem not_pushes_commit :
    ¬ Pushes request worktreePath (.ran (commitCommand worktreePath) answer) := by
  simp [Pushes, commitCommand, pushCommand, git]

end Commands

/-- What stands in front once the merge is in progress. -/
structure InProgress (request : RepairRequest) (worktreePath : String) (front : List RepairEvent) :
    Prop where
  calm : ∀ event ∈ front, Calm request worktreePath event
  answered : Answered worktreePath front

theorem InProgress.append (h : InProgress request worktreePath front)
    (hmore : InProgress request worktreePath more) : InProgress request worktreePath (front ++ more) where
  calm := List.forall_mem_append.mpr ⟨h.calm, hmore.calm⟩
  answered := List.forall_mem_append.mpr ⟨h.answered, hmore.answered⟩

variable {front tail : List RepairEvent}

theorem InProgress.open (h : InProgress request worktreePath front)
    (hunrepaired : Unrepaired result)
    (htail : ∀ event ∈ tail, ¬ Settles worktreePath event ∧ ¬ Commits worktreePath event)
    {event : RepairEvent} (hevent : event ∈ tail) (hunanswered : Unanswered worktreePath event) :
    Verdict request worktreePath result (front ++ tail) :=
  verdict_of_open hunrepaired
    (List.forall_mem_append.mpr
      ⟨fun event hevent => ⟨(h.calm event hevent).settles, (h.calm event hevent).commits⟩, htail⟩)
    (List.mem_append_right _ hevent) hunanswered

theorem InProgress.settled (h : InProgress request worktreePath front)
    (hanswered : Answered worktreePath tail)
    (htame : ∀ event ∈ tail, Tame request worktreePath event)
    (hsettled : Settled worktreePath tail) : Verdict request worktreePath result (front ++ tail) := by
  obtain ⟨event, hevent, hsettles⟩ := hsettled
  exact verdict_of_settled (List.forall_mem_append.mpr ⟨h.answered, hanswered⟩)
    (List.forall_mem_append.mpr ⟨fun event hevent => (h.calm event hevent).toTame, htame⟩)
    ⟨event, List.mem_append_right _ hevent, hsettles⟩

theorem InProgress.aborted {front : List RepairEvent} (h : InProgress request worktreePath front)
    (answer : Except String CommandOutput) :
    Verdict request worktreePath result (front ++ [.ran (abortCommand worktreePath) answer]) :=
  h.settled (List.forall_mem_singleton.mpr (not_unanswered_abort answer))
    (List.forall_mem_singleton.mpr (tame_abort answer))
    ⟨_, List.mem_singleton_self _, settles_abort answer⟩

theorem AbortTail.settles_or {tail : List RepairEvent} (h : AbortTail worktreePath tail) :
    (∃ e, tail = [.ran (mergeHeadCommand worktreePath) (.error e)])
      ∨ Answered worktreePath tail ∧ (∀ event ∈ tail, Tame request worktreePath event)
        ∧ Settled worktreePath tail := by
  cases h with
  | unanswered e => exact Or.inl ⟨e, rfl⟩
  | idle hidle =>
      refine Or.inr ⟨List.forall_mem_singleton.mpr nofun,
        List.forall_mem_singleton.mpr (tame_mergeHead _), _, List.mem_singleton_self _, ?_⟩
      exact (settles_mergeHead _).mpr ⟨_, rfl, hidle⟩
  | aborted output answer =>
      exact Or.inr
        ⟨List.forall_mem_cons.mpr ⟨nofun, List.forall_mem_singleton.mpr (not_unanswered_abort answer)⟩,
          List.forall_mem_cons.mpr ⟨tame_mergeHead _, List.forall_mem_singleton.mpr (tame_abort answer)⟩,
          _, List.mem_cons_of_mem _ (List.mem_singleton_self _), settles_abort answer⟩

theorem InProgress.checked (h : InProgress request worktreePath front)
    (hunrepaired : Unrepaired result) (htail : AbortTail worktreePath tail) :
    Verdict request worktreePath result (front ++ tail) := by
  rcases htail.settles_or with ⟨e, rfl⟩ | ⟨hanswered, htame, hsettled⟩
  · exact h.open hunrepaired
      (List.forall_mem_singleton.mpr ⟨by simp, not_commits_mergeHead _⟩)
      (List.mem_singleton_self _) (Or.inr (Or.inl rfl))
  · exact h.settled hanswered htame hsettled

theorem inProgress_mergeHead {output : CommandOutput} (hactive : output.status = 0) :
    InProgress request worktreePath [.ran (mergeHeadCommand worktreePath) (.ok output)] where
  calm := List.forall_mem_singleton.mpr ⟨tame_mergeHead _, by simp [hactive]⟩
  answered := List.forall_mem_singleton.mpr nofun

theorem inProgress_commit {output : CommandOutput} (hfailed : output.status ≠ 0) :
    InProgress request worktreePath [.ran (commitCommand worktreePath) (.ok output)] where
  calm := List.forall_mem_singleton.mpr
    ⟨⟨by simp [hfailed], not_pushes_commit _, nofun⟩, not_settles_commit _⟩
  answered := List.forall_mem_singleton.mpr nofun

/-- What stands in front of the conclusion of a merge. -/
structure RepairStaged (request : RepairRequest) (worktreePath : String) (front : List RepairEvent) :
    Prop extends InProgress request worktreePath front where
  repaired : ∃ events, .agentRan (.ok events) ∈ front
    ∧ mergeAgentReportsRepaired (agentEventsText events) = true
    ∧ mergeAgentRequestsHumanInput (agentEventsText events) = false
  staged : .staged (.ok ()) ∈ front

theorem RepairStaged.ready (h : RepairStaged request worktreePath front)
    (hanswered : Answered worktreePath tail)
    (htail : ∀ event ∈ tail, ¬ Pushes request worktreePath event ∧ ¬ StageFails event)
    (hover : Settled worktreePath tail ∧ ¬ Committed worktreePath tail
      ∨ ¬ Settled worktreePath tail ∧ Committed worktreePath tail) :
    ReadyToFinish request worktreePath (front ++ tail) := by
  have hbehind : ∀ {P : RepairEvent → Prop}, (∀ event ∈ front, ¬ P event) →
      ((∃ event ∈ front ++ tail, P event) ↔ ∃ event ∈ tail, P event) := by
    intro P hfront
    simp only [List.mem_append, or_and_right, exists_or]
    exact or_iff_right fun ⟨event, hevent, hP⟩ => hfront event hevent hP
  have hsettled : Settled worktreePath (front ++ tail) ↔ Settled worktreePath tail :=
    hbehind fun event hevent => (h.calm event hevent).settles
  have hcommitted : Committed worktreePath (front ++ tail) ↔ Committed worktreePath tail :=
    hbehind fun event hevent => (h.calm event hevent).commits
  obtain ⟨events, hevents, hsays⟩ := h.repaired
  exact
    { answered := List.forall_mem_append.mpr ⟨h.answered, hanswered⟩
      pushes := List.forall_mem_append.mpr
        ⟨fun event hevent => (h.calm event hevent).pushes, fun event hevent => (htail event hevent).1⟩
      fails := List.forall_mem_append.mpr
        ⟨fun event hevent => (h.calm event hevent).fails, fun event hevent => (htail event hevent).2⟩
      repaired := ⟨events, List.mem_append_left _ hevents, hsays⟩
      staged := List.mem_append_left _ h.staged
      closed := by rwa [hsettled, hcommitted] }

theorem ends_concludeMerge {front : List RepairEvent} (h : RepairStaged request worktreePath front)
    (conflictSummary agentText : String) (summary : AgentSummary) :
    Ends (concludeMerge runner request worktreePath conflictSummary agentText summary)
      fun result more => Verdict request worktreePath result (front ++ more) := by
  refine Ends.ask_bind (fun e => ?_) fun mergeHead => ?_
  · exact h.checked nofun (.unanswered e)
  · split
    · next hactive =>
        have hhead : mergeHead.status = 0 := by simpa using hactive
        have hprogress := h.toInProgress.append (inProgress_mergeHead hhead)
        refine Ends.ask_bind (fun e => ?_) fun commit => ?_
        · rw [List.append_cons]
          exact hprogress.open nofun (List.forall_mem_singleton.mpr (by simp))
            (List.mem_singleton_self _) (Or.inr (Or.inr rfl))
        · split
          · next hfailed =>
              refine abortMergeRepairIfActive_bind fun tail htail => Ends.pure ?_
              rw [List.append_nil, List.append_cons, List.append_cons]
              refine (hprogress.append (inProgress_commit (by simpa using hfailed))).checked ?_ htail
              intro outcome houtcome
              rw [← Except.ok.inj houtcome]
              rfl
          · next hcommitted =>
              have hcommit : commit.status = 0 := by simpa using hcommitted
              refine (ends_finish _ _ _ _).mono fun result more hmore => ?_
              have hready : ReadyToFinish request worktreePath (front ++
                  [.ran (mergeHeadCommand worktreePath) (.ok mergeHead),
                    .ran (commitCommand worktreePath) (.ok commit)]) := by
                refine h.ready (List.forall_mem_cons.mpr ⟨nofun, List.forall_mem_singleton.mpr nofun⟩)
                  (List.forall_mem_cons.mpr ⟨⟨(tame_mergeHead _).pushes, nofun⟩,
                    List.forall_mem_singleton.mpr ⟨not_pushes_commit _, nofun⟩⟩) (Or.inr ⟨?_, ?_⟩)
                · simp [Settled, hhead]
                · simp [Committed, hcommit]
              simpa using hready.verdict hmore
    · next hidle =>
        refine (ends_finish _ _ _ _).mono fun result more hmore => ?_
        have hstatus : mergeHead.status ≠ 0 := by simpa using hidle
        have hready : ReadyToFinish request worktreePath
            (front ++ [.ran (mergeHeadCommand worktreePath) (.ok mergeHead)]) := by
          refine h.ready (List.forall_mem_singleton.mpr nofun)
            (List.forall_mem_singleton.mpr ⟨(tame_mergeHead _).pushes, nofun⟩) (Or.inl ⟨?_, ?_⟩)
          · simp [Settled, hstatus]
          · simp [Committed]
        simpa using hready.verdict hmore

/-! ## Behind the merge -/

/-- A stage failure is never retried, and the merge is over behind it if the check for it is
answered. -/
theorem verdict_of_stageFailure {failure : MergeAgentStageFailure}
    {outcome : MergeAgentConflictRepairOutcome}
    (hcalm : ∀ event ∈ front, Calm request worktreePath event)
    (hanswered : (∀ reason, failure ≠ .retryable reason) → Answered worktreePath front)
    (htail : AbortTail worktreePath tail) (hrepaired : outcome.repaired = false)
    (hretryable : outcome.retryable = false) :
    Verdict request worktreePath (.ok outcome) (front ++ .staged (.error failure) :: tail) := by
  have hmem : .staged (.error failure) ∈ front ++ .staged (.error failure) :: tail :=
    List.mem_append_right _ List.mem_cons_self
  have hunrepaired : Unrepaired (.ok outcome) := fun _ h => Except.ok.inj h ▸ hrepaired
  cases failure with
  | retryable reason =>
      refine .of_broken (fun h => h _ hmem trivial) fun hlaw => ?_
      obtain ⟨other, hother, htrue, -⟩ := hlaw.retryable reason hmem
      rw [← Except.ok.inj hother, hretryable] at htrue
      cases htrue
  | unsafely reason =>
      have hfront := hanswered nofun
      rcases htail.settles_or with ⟨e, rfl⟩ | ⟨hanswered, htame, hsettled⟩
      · refine verdict_of_open hunrepaired (List.forall_mem_append.mpr
          ⟨fun event hevent => ⟨(hcalm event hevent).settles, (hcalm event hevent).commits⟩,
            List.forall_mem_cons.mpr ⟨⟨nofun, nofun⟩, List.forall_mem_singleton.mpr
              ⟨by simp, not_commits_mergeHead _⟩⟩⟩)
          (List.mem_append_right _ (List.mem_cons_of_mem _ (List.mem_singleton_self _)))
          (Or.inr (Or.inl rfl))
      · have hover : Settled worktreePath (front ++ .staged (.error (.unsafely reason)) :: tail) := by
          obtain ⟨event, hevent, hsettles⟩ := hsettled
          exact ⟨event, List.mem_append_right _ (List.mem_cons_of_mem _ hevent), hsettles⟩
        have hpushes : ∀ event ∈ front ++ .staged (.error (.unsafely reason)) :: tail,
            ¬ Commits worktreePath event ∧ ¬ Pushes request worktreePath event :=
          List.forall_mem_append.mpr
            ⟨fun event hevent => ⟨(hcalm event hevent).commits, (hcalm event hevent).pushes⟩,
              List.forall_mem_cons.mpr ⟨⟨nofun, nofun⟩,
                fun event hevent => ⟨(htame event hevent).commits, (htame event hevent).pushes⟩⟩⟩
        have honly : ∀ other, .staged (.error other) ∈ front ++ .staged (.error (.unsafely reason)) :: tail →
            other = .unsafely reason := by
          intro other hother
          rcases List.mem_append.mp hother with hother | hother
          · exact absurd trivial (hcalm _ hother).fails
          · rcases List.mem_cons.mp hother with hother | hother
            · exact Except.error.inj (RepairEvent.staged.inj hother)
            · exact absurd trivial (htame _ hother).fails
        refine .of_answered (List.forall_mem_append.mpr
          ⟨hfront, List.forall_mem_cons.mpr ⟨nofun, hanswered⟩⟩) ?_ ⟨fun _ hcommitted => ?_,
            fun _ _ => hover⟩
        · exact
            { closed := fun _ => Or.inl hover
              pushed := everywhere_of_tame fun event hevent => (hpushes event hevent).2
              retryable := fun other hother => nomatch honly _ hother
              unsafely := fun _ _ other hother => by
                rw [← Except.ok.inj hother, MergeAgentConflictRepairOutcome.targetState, hrepaired,
                  hretryable]
                exact ⟨rfl, rfl⟩ }
        · obtain ⟨event, hevent, hcommits⟩ := hcommitted
          exact absurd hcommits (hpushes event hevent).1

theorem ends_applyRepair {front : List RepairEvent} (h : InProgress request worktreePath front)
    (hrepaired : ∃ events, .agentRan (.ok events) ∈ front
      ∧ mergeAgentReportsRepaired (agentEventsText events) = true
      ∧ mergeAgentRequestsHumanInput (agentEventsText events) = false)
    (conflictSummary agentText : String) (summary : AgentSummary) :
    Ends (applyRepair runner request worktreePath conflictSummary agentText summary)
      fun result more => Verdict request worktreePath result (front ++ more) := by
  refine Ends.attempt_bind (S := StageEnds request worktreePath) ends_stageResolvedMergeAgentChanges
    fun staged stage hstage => ?_
  refine Ends.bind (S := fun result more => result = .ok () ∧ more = [.staged staged])
    (Ends.note ⟨rfl, rfl⟩) (fun e first herror => nomatch herror.1) ?_
  rintro ⟨⟩ _ ⟨-, rfl⟩
  have hcalm : ∀ event ∈ front ++ stage, Calm request worktreePath event :=
    List.forall_mem_append.mpr ⟨h.calm, hstage.calm⟩
  cases staged with
  | error failure =>
      refine abortMergeRepairIfActive_bind fun tail htail => Ends.pure ?_
      have hanswered : (∀ reason, failure ≠ .retryable reason) →
          Answered worktreePath (front ++ stage) := fun hfailure =>
        List.forall_mem_append.mpr ⟨h.answered, hstage.answered fun reason heq =>
          hfailure reason (Except.error.inj heq)⟩
      simpa using verdict_of_stageFailure hcalm hanswered htail rfl rfl
  | ok u =>
      obtain ⟨events, hevents, hsays⟩ := hrepaired
      have hfront : RepairStaged request worktreePath (front ++ stage ++ [.staged (.ok ())]) :=
        { calm := List.forall_mem_append.mpr
            ⟨hcalm, List.forall_mem_singleton.mpr ⟨⟨nofun, nofun, nofun⟩, nofun⟩⟩
          answered := List.forall_mem_append.mpr
            ⟨List.forall_mem_append.mpr ⟨h.answered, hstage.answered nofun⟩,
              List.forall_mem_singleton.mpr nofun⟩
          repaired := ⟨events, by simp [hevents], hsays⟩
          staged := by simp }
      refine (ends_concludeMerge hfront conflictSummary agentText summary).mono fun result more hmore => ?_
      simpa using hmore

theorem ends_judgeSession {front : List RepairEvent} (h : InProgress request worktreePath front)
    {events : List AgentEvent} (hevents : .agentRan (.ok events) ∈ front)
    (conflictSummary : String) (summary : AgentSummary) :
    Ends (judgeSession runner request worktreePath conflictSummary (agentEventsText events) summary)
      fun result more => Verdict request worktreePath result (front ++ more) := by
  unfold judgeSession
  split
  · exact abortMerge_bind fun answer => Ends.pure (h.aborted answer)
  · split
    · exact abortMerge_bind fun answer => Ends.pure (h.aborted answer)
    · next hhuman =>
        split
        · exact abortMerge_bind fun answer => Ends.pure (h.aborted answer)
        · next hrepaired =>
            exact ends_applyRepair h ⟨events, hevents, by simpa using hrepaired, by simpa using hhuman⟩
              conflictSummary (agentEventsText events) summary

theorem calm_unmerged (answer : Except String CommandOutput) :
    Calm request worktreePath (.ran (unmergedCommand worktreePath) answer) :=
  calm_of_isStaging (Or.inr (Or.inr (Or.inr rfl))) answer

theorem inProgress_prepared (conflictFiles : CommandOutput) (prepared : PreparedRun) :
    InProgress request worktreePath
      [.ran (unmergedCommand worktreePath) (.ok conflictFiles), .prepared (.ok prepared)] where
  calm := List.forall_mem_cons.mpr ⟨calm_unmerged _,
    List.forall_mem_singleton.mpr ⟨⟨nofun, nofun, nofun⟩, nofun⟩⟩
  answered := List.forall_mem_cons.mpr ⟨nofun, List.forall_mem_singleton.mpr nofun⟩

theorem inProgress_agentRan (answer : Except String (List AgentEvent)) :
    InProgress request worktreePath [.agentRan answer] where
  calm := List.forall_mem_singleton.mpr ⟨⟨nofun, nofun, nofun⟩, nofun⟩
  answered := List.forall_mem_singleton.mpr nofun

theorem inProgress_recorded : InProgress request worktreePath [.recorded (.ok ())] where
  calm := List.forall_mem_singleton.mpr ⟨⟨nofun, nofun, nofun⟩, nofun⟩
  answered := List.forall_mem_singleton.mpr nofun

theorem ends_repairConflict (sessions : AgentSessions) :
    Ends (repairConflict runner sessions request worktreePath)
      fun result more => Verdict request worktreePath result more := by
  refine Ends.ask_bind (fun e => ?_) fun conflictFiles => ?_
  · have hcalm : Calm request worktreePath _ := calm_unmerged (.error e)
    exact verdict_of_open nofun (List.forall_mem_singleton.mpr ⟨hcalm.settles, hcalm.commits⟩)
      (List.mem_singleton_self _) (Or.inl rfl)
  refine Ends.ask_bind (fun e => ?_) fun session => ?_
  · have hcalm : Calm request worktreePath _ := calm_unmerged (.ok conflictFiles)
    exact verdict_of_open nofun (List.forall_mem_cons.mpr ⟨⟨hcalm.settles, hcalm.commits⟩,
      List.forall_mem_singleton.mpr ⟨nofun, nofun⟩⟩)
      (List.mem_cons_of_mem _ (List.mem_singleton_self _)) trivial
  have hprepared : InProgress request worktreePath _ :=
    inProgress_prepared conflictFiles session.prepared
  refine Ends.attempt_bind (S := fun result more => more = [.agentRan result])
    (Ends.ask fun _ => rfl) ?_
  rintro answer _ rfl
  have hran := hprepared.append (inProgress_agentRan answer)
  cases answer with
  | error error => exact abortMerge_bind fun answer => Ends.pure (hran.aborted answer)
  | ok events =>
      refine Ends.ask_bind (fun e => ?_) fun u => ?_
      · exact hran.open nofun (List.forall_mem_singleton.mpr ⟨nofun, nofun⟩)
          (List.mem_singleton_self _) trivial
      · exact ends_judgeSession (hran.append inProgress_recorded) (by simp) _ _

/-! ## Runs -/

/-- The base is merged into the worktree, with conflicts. -/
def Conflicts (request : RepairRequest) (worktreePath : String) : RepairEvent → Prop
  | .ran command answer => command = mergeCommand worktreePath request.expectedBase
      ∧ ∃ output, answer = .ok output ∧ output.status ≠ 0
  | _ => False

def StartsConflict (request : RepairRequest) (worktreePath : String) (log : List RepairEvent) : Prop :=
  ∃ event ∈ log, Conflicts request worktreePath event

/-- A log up to a merge with conflicts, and what is behind it. -/
def Behind (request : RepairRequest) (worktreePath : String) (log behind : List RepairEvent) : Prop :=
  ∃ status fetch merge, log =
    .ran (statusCommand worktreePath) status :: .ran (fetchCommand worktreePath request.expectedBase) fetch
      :: .ran (mergeCommand worktreePath request.expectedBase) (.ok merge) :: behind

@[simp] theorem conflicts_merge (answer : Except String CommandOutput) :
    Conflicts request worktreePath (.ran (mergeCommand worktreePath request.expectedBase) answer) ↔
      ∃ output, answer = .ok output ∧ output.status ≠ 0 := by
  simp [Conflicts]

@[simp] theorem not_conflicts_status (answer : Except String CommandOutput) :
    ¬ Conflicts request worktreePath (.ran (statusCommand worktreePath) answer) := by
  simp [Conflicts, statusCommand, mergeCommand, git]

@[simp] theorem not_conflicts_fetch (answer : Except String CommandOutput) :
    ¬ Conflicts request worktreePath
      (.ran (fetchCommand worktreePath request.expectedBase) answer) := by
  simp [Conflicts, fetchCommand, mergeCommand, git]

@[simp] theorem not_conflicts_push (answer : Except String CommandOutput) :
    ¬ Conflicts request worktreePath
      (.ran (pushCommand worktreePath request.headRefName) answer) := by
  simp [Conflicts, pushCommand, mergeCommand, git]

theorem FinishEnds.not_conflicts {more : List RepairEvent}
    (h : FinishEnds request worktreePath result more) :
    ∀ event ∈ more, ¬ Conflicts request worktreePath event := by
  cases h <;> simp

theorem ends_repairWorktree (sessions : AgentSessions) :
    Ends (repairWorktree runner sessions request worktreePath) fun result log =>
      StartsConflict request worktreePath log →
        ∃ behind, Behind request worktreePath log behind ∧ Verdict request worktreePath result behind := by
  have hnone : ∀ {result : Except String MergeAgentConflictRepairOutcome} {log : List RepairEvent},
      (∀ event ∈ log, ¬ Conflicts request worktreePath event) →
      StartsConflict request worktreePath log →
        ∃ behind, Behind request worktreePath log behind
          ∧ Verdict request worktreePath result behind := by
    rintro result log hlog ⟨event, hevent, hconflicts⟩
    exact absurd hconflicts (hlog event hevent)
  refine Ends.ask_bind (fun e => hnone (by simp)) fun status => ?_
  split
  · exact Ends.pure (hnone (by simp))
  refine Ends.ask_bind (fun e => hnone (by simp)) fun fetch => ?_
  split
  · exact Ends.pure (hnone (by simp))
  refine Ends.ask_bind (fun e => hnone (by simp)) fun merge => ?_
  split
  · next hmerged =>
      refine (ends_finish _ _ _ _).mono fun result more hmore => hnone ?_
      have hmerge : merge.status = 0 := by simpa using hmerged
      simpa [hmerge] using hmore.not_conflicts
  · exact (ends_repairConflict sessions).mono fun result more hmore _ =>
      ⟨more, ⟨.ok status, .ok fetch, merge, rfl⟩, hmore⟩

/-- A run of the repair, from its first command on. -/
def repairRun (runner : Runner) (sessions : AgentSessions) (request : RepairRequest) :
    Except String MergeAgentConflictRepairOutcome × List RepairEvent :=
  runMergeAgentConflictRepair runner sessions request []

theorem repair_concludes_iff (runner : Runner) (sessions : AgentSessions)
    (hpath : request.mechanicalRepair.worktreePath = some worktreePath)
    (hconflict : StartsConflict request worktreePath (repairRun runner sessions request).2) :
    ∃ behind, Behind request worktreePath (repairRun runner sessions request).2 behind
      ∧ Verdict request worktreePath (repairRun runner sessions request).1 behind := by
  have hrun : runMergeAgentConflictRepair runner sessions request
      = repairWorktree runner sessions request worktreePath := by
    rw [runMergeAgentConflictRepair, hpath]
  have hends : Ends (repairWorktree runner sessions request worktreePath) _ :=
    ends_repairWorktree sessions
  obtain ⟨log, hlog, hverdict⟩ := hends []
  rw [repairRun, hrun] at hconflict ⊢
  rw [List.nil_append] at hlog
  rw [hlog] at hconflict ⊢
  exact hverdict hconflict

end

/-! ## Two runs -/

def conflictRequest : RepairRequest where
  issue :=
    { id := "I_1", identifier := "#1", title := "Fix", description := none, state := "Merging"
      priority := none, blockedBy := [], projectFields := fun _ => none, createdAt := none }
  claim :=
    { lane := .merge, actor := .codex, worker := none, source := .loop, issue := "#1"
      run := "run-1", state := .active, thread := "", registry := "" }
  prRef := "7"
  headRefName := "feature/issue-1-fix"
  expectedBase := "main"
  mechanicalRepair := { worktreePath := some "/work/issue-1", output := ⟨1, "", ""⟩, reason := "conflict" }

/-- The base conflicts, the merge stays in progress, and the staging check answers a status. -/
def conflictRunner (diffCheck : Int) : Runner := fun _ command =>
  match command.args with
  | ["merge", "--no-edit", _] => .ok ⟨1, "CONFLICT", ""⟩
  | ["diff", "--check"] => .ok ⟨diffCheck, "", ""⟩
  | _ => .ok ⟨0, "", ""⟩

/-- An agent that repairs, where its prompt can be rendered. -/
def repairingSessions (prompt : Except String String) : AgentSessions where
  conflictRepairPrompt _ _ := prompt
  backendSpec := .ok ⟨"codex", "codex"⟩
  backend _ := .ok
    { prepare := fun workspace renderedPrompt => .ok
        { backend := "codex", workspace, prompt := renderedPrompt, promptArtifactPath := none
          command := none, env := fun _ => none, issueId := none, issueIdentifier := none
          issueTitle := none, lane := none, runId := none, branchName := none }
      run := fun _ => .ok [.completed "codex" none "MERGE_AGENT_DECISION: repaired"]
      summarize := fun _ => ⟨"codex", true, none, "repaired"⟩ }
  promptArtifactPath _ _ := "/logs/prompt.md"
  recordEvents _ _ _ := .ok ()

def stagedRetryable : RepairEvent → Bool
  | .staged (.error (.retryable _)) => true
  | _ => false

theorem stagedRetryable_iff {event : RepairEvent} :
    stagedRetryable event = true ↔ ∃ reason, event = .staged (.error (.retryable reason)) := by
  unfold stagedRetryable
  split
  · next reason => exact iff_of_true rfl ⟨reason, rfl⟩
  · next hother =>
      exact iff_of_false Bool.false_ne_true fun ⟨reason, hevent⟩ => hother reason hevent

/-- The run stops at the prompt, or the check of the stage fails. -/
theorem half_merge_left :
    (∃ behind, Behind conflictRequest "/work/issue-1"
        (repairRun (conflictRunner 0) (repairingSessions (.error "no template")) conflictRequest).2 behind
      ∧ ¬ LeavesNoHalfMerge conflictRequest "/work/issue-1"
        (fun log => Settled "/work/issue-1" log ∨ Committed "/work/issue-1" log)
        (repairRun (conflictRunner 0) (repairingSessions (.error "no template")) conflictRequest).1 behind)
    ∧ ∃ behind, Behind conflictRequest "/work/issue-1"
        (repairRun (conflictRunner 2) (repairingSessions (.ok "resolve")) conflictRequest).2 behind
      ∧ ¬ LeavesNoHalfMerge conflictRequest "/work/issue-1"
        (fun log => Settled "/work/issue-1" log ∨ Committed "/work/issue-1" log)
        (repairRun (conflictRunner 2) (repairingSessions (.ok "resolve")) conflictRequest).1 behind := by
  obtain ⟨status, fetch, merge, behind, hlog⟩ : ∃ status fetch merge behind,
      (repairRun (conflictRunner 2) (repairingSessions (.ok "resolve")) conflictRequest).2
        = .ran (statusCommand "/work/issue-1") status :: .ran (fetchCommand "/work/issue-1" "main") fetch
          :: .ran (mergeCommand "/work/issue-1" "main") (.ok merge) :: behind := ⟨_, _, _, _, rfl⟩
  refine ⟨⟨[.ran (unmergedCommand "/work/issue-1") (.ok ⟨0, "", ""⟩), .prepared (.error "no template")],
    ⟨_, _, _, rfl⟩, fun h => ?_⟩, ⟨behind, ⟨status, fetch, merge, hlog⟩, fun h => ?_⟩⟩
  · have hcalm : Calm conflictRequest "/work/issue-1" _ := calm_unmerged (.ok ⟨0, "", ""⟩)
    rcases h.closed nofun with ⟨event, hevent, hends⟩ | ⟨event, hevent, hends⟩
    · rcases List.mem_cons.mp hevent with rfl | hevent
      · exact hcalm.settles hends
      · rw [List.mem_singleton.mp hevent] at hends
        exact hends
    · rcases List.mem_cons.mp hevent with rfl | hevent
      · exact hcalm.commits hends
      · rw [List.mem_singleton.mp hevent] at hends
        exact hends
  · have hstaged : ((repairRun (conflictRunner 2) (repairingSessions (.ok "resolve"))
        conflictRequest).2.drop 3).any stagedRetryable = true := by decide +kernel
    have hresult : (repairRun (conflictRunner 2) (repairingSessions (.ok "resolve"))
        conflictRequest).1.toOption.map (·.retryable) = some false := by decide +kernel
    rw [hlog] at hstaged
    obtain ⟨event, hevent, hretryable⟩ := List.any_eq_true.mp hstaged
    obtain ⟨reason, rfl⟩ := stagedRetryable_iff.mp hretryable
    obtain ⟨outcome, houtcome, htrue, -⟩ := h.retryable reason hevent
    rw [houtcome] at hresult
    have hfalse : outcome.retryable = false := Option.some.inj hresult
    rw [hfalse] at htrue
    cases htrue

/-- A repair that goes through. -/
theorem conflict_repaired :
    ∃ behind, Behind conflictRequest "/work/issue-1"
        (repairRun (conflictRunner 0) (repairingSessions (.ok "resolve")) conflictRequest).2 behind
      ∧ Verdict conflictRequest "/work/issue-1"
        (repairRun (conflictRunner 0) (repairingSessions (.ok "resolve")) conflictRequest).1 behind := by
  have hlog : ∃ status fetch behind,
      (repairRun (conflictRunner 0) (repairingSessions (.ok "resolve")) conflictRequest).2
        = status :: fetch :: .ran (mergeCommand "/work/issue-1" "main") (.ok ⟨1, "CONFLICT", ""⟩)
          :: behind := ⟨_, _, _, rfl⟩
  obtain ⟨status, fetch, behind, hlog⟩ := hlog
  refine repair_concludes_iff _ _ rfl ⟨_, ?_, (conflicts_merge (.ok ⟨1, "CONFLICT", ""⟩)).mpr
    ⟨_, rfl, by decide⟩⟩
  rw [hlog]
  exact List.mem_cons_of_mem _ (List.mem_cons_of_mem _ List.mem_cons_self)

end SheaSymphony.MergeRepair

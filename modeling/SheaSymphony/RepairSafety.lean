import SheaSymphony.DirtyRepair
import SheaSymphony.Traces

/-!
# Safe repairs

What holds of the commands of `repair_dirty_pull_request`, whatever they are answered: nothing is
merged but in a worktree that has just been seen clean, and nothing is pushed but behind such a merge
(`repair_safe`). A rehearsal runs no command and reports a repair all the same.
-/

namespace SheaSymphony.MergeRepair

open Interrupted (Program)
open Logged (Ends)
open MainHandoff (Command CommandOutput)
open Traces (Everywhere)

/-! ## What is required -/

/-- Any merge but one that is given up. -/
def IsMerge : RepairEvent → Prop
  | .ran command _ => command.args.head? = some "merge" ∧ command.args ≠ ["merge", "--abort"]
  | _ => False

def IsPush : RepairEvent → Prop
  | .ran command _ => command.args.head? = some "push"
  | _ => False

def Quiet (log : List RepairEvent) : Prop := ∀ event ∈ log, ¬ IsMerge event ∧ ¬ IsPush event

section
variable (repair : DirtyRepair)

/-- A worktree seen clean, with the base fetched into it. -/
inductive Fetched (path : String) : List RepairEvent → Prop
  | intro {status fetch : CommandOutput} (hclean : isClean status = true) (hfetch : fetch.status = 0) :
      Fetched path [.ran (statusCommand path) (.ok status),
        .ran (fetchCommand path repair.expectedBaseBranch) (.ok fetch)]

/-- The base merged into it, and the worktree seen clean again. -/
inductive Merged (path : String) : List RepairEvent → Prop
  | intro {merge status : CommandOutput} (hmerge : merge.status = 0) (hclean : isClean status = true) :
      Merged path [.ran (mergeCommand path repair.expectedBaseBranch) (.ok merge),
        .ran (statusCommand path) (.ok status)]

/-- What stands in front of a merge. -/
def MayMerge (front : List RepairEvent) (event : RepairEvent) : Prop :=
  ∃ path earlier fetched answer, front = earlier ++ fetched ∧ Fetched repair path fetched
    ∧ event = .ran (mergeCommand path repair.expectedBaseBranch) answer

/-- What stands in front of a push; it is the first. -/
def MayPushRepair (front : List RepairEvent) (event : RepairEvent) : Prop :=
  (∀ other ∈ front, ¬ IsPush other) ∧ ∃ path headRefName earlier fetched merged answer,
    repair.head? = some headRefName ∧ front = earlier ++ (fetched ++ merged)
      ∧ Fetched repair path fetched ∧ Merged repair path merged
      ∧ event = .ran (pushCommand path headRefName) answer

/-- A push has succeeded. -/
def PushSucceeded (log : List RepairEvent) : Prop :=
  ∃ command output, .ran command (.ok output) ∈ log ∧ command.args.head? = some "push"
    ∧ output.status = 0

def Repaired (result : Except MergeLaneError (Option ConflictRepairOutcome)) : Prop :=
  ∃ outcome, result = .ok (some outcome) ∧ outcome.repaired = true

structure SafeRepair (result : Except MergeLaneError (Option ConflictRepairOutcome))
    (log : List RepairEvent) : Prop where
  merges : Everywhere (fun front event => IsMerge event → MayMerge repair front event) log
  pushes : Everywhere (fun front event => IsPush event → MayPushRepair repair front event) log
  repaired : Repaired result ↔ PushSucceeded log

/-! ## What a run comes to -/

/-- A run that merges and pushes nothing, one that stops behind its merge, and one that pushes. -/
inductive RepairEnds : Except MergeLaneError (Option ConflictRepairOutcome) → List RepairEvent → Prop
  | quiet {result : Except MergeLaneError (Option ConflictRepairOutcome)} {log : List RepairEvent}
      (hlog : Quiet log) (hresult : ¬ Repaired result) : RepairEnds result log
  | stopped {result : Except MergeLaneError (Option ConflictRepairOutcome)} {path : String}
      {earlier fetched behind : List RepairEvent} {answer : Except String CommandOutput}
      (hearlier : Quiet earlier) (hfetched : Fetched repair path fetched) (hbehind : Quiet behind)
      (hresult : ¬ Repaired result) :
      RepairEnds result (earlier ++ (fetched
        ++ .ran (mergeCommand path repair.expectedBaseBranch) answer :: behind))
  | pushed {result : Except MergeLaneError (Option ConflictRepairOutcome)} {path headRefName : String}
      {earlier fetched merged : List RepairEvent} {answer : Except String CommandOutput}
      (hhead : repair.head? = some headRefName) (hearlier : Quiet earlier)
      (hfetched : Fetched repair path fetched) (hmerged : Merged repair path merged)
      (hresult : Repaired result ↔ ∃ output, answer = .ok output ∧ output.status = 0) :
      RepairEnds result (earlier ++ (fetched ++ (merged
        ++ [.ran (pushCommand path headRefName) answer])))

end

variable {status : CommandOutput} {headRefName : String} {command : Command}

section
variable {repair : DirtyRepair} {result : Except MergeLaneError (Option ConflictRepairOutcome)}
  {log earlier : List RepairEvent} {path : String}

theorem Quiet.append {front back : List RepairEvent} (hfront : Quiet front) (hback : Quiet back) :
    Quiet (front ++ back) := fun event hevent =>
  (List.mem_append.mp hevent).elim (hfront event) (hback event)

theorem quiet_nil : Quiet [] := fun _ hevent => nomatch hevent

theorem Quiet.cons {event : RepairEvent} (hevent : ¬ IsMerge event ∧ ¬ IsPush event) (hlog : Quiet log) :
    Quiet (event :: log) := List.forall_mem_cons.mpr ⟨hevent, hlog⟩

theorem Fetched.quiet {fetched : List RepairEvent} (h : Fetched repair path fetched) : Quiet fetched := by
  cases h
  refine .cons ⟨?_, ?_⟩ (.cons ⟨?_, ?_⟩ quiet_nil)
  all_goals simp [IsMerge, IsPush, statusCommand, fetchCommand, git]

theorem RepairEnds.after (h : RepairEnds repair result log) (hearlier : Quiet earlier) :
    RepairEnds repair result (earlier ++ log) := by
  cases h with
  | quiet hlog hresult => exact .quiet (hearlier.append hlog) hresult
  | stopped hfront hfetched hbehind hresult =>
      rw [← List.append_assoc]
      exact .stopped (hearlier.append hfront) hfetched hbehind hresult
  | pushed hhead hfront hfetched hmerged hresult =>
      rw [← List.append_assoc]
      exact .pushed hhead (hearlier.append hfront) hfetched hmerged hresult

/-! ## What a run comes to is safe -/

theorem everywhere_of_only {asks : RepairEvent → Prop} {needs : List RepairEvent → RepairEvent → Prop}
    {front back : List RepairEvent} {event : RepairEvent} (hfront : ∀ other ∈ front, ¬ asks other)
    (hback : ∀ other ∈ back, ¬ asks other) (hevent : needs front event) :
    Everywhere (fun front event => asks event → needs front event) (front ++ event :: back) := by
  have hnone : Everywhere (fun front event => asks event → needs front event) front := by
    intro earlier other later heq hasks
    exact absurd hasks (hfront other (heq ▸ List.mem_append_right earlier List.mem_cons_self))
  rw [List.append_cons]
  exact (Traces.everywhere_concat.mpr ⟨hnone, fun _ => hevent⟩).append fun other hother _ hasks =>
    absurd hasks (hback other hother)

theorem everywhere_of_none {asks : RepairEvent → Prop} {needs : List RepairEvent → RepairEvent → Prop}
    (h : ∀ event ∈ log, ¬ asks event) :
    Everywhere (fun front event => asks event → needs front event) log := fun earlier event _ heq hasks =>
  absurd hasks (h event (heq ▸ List.mem_append_right earlier List.mem_cons_self))

theorem not_pushSucceeded (h : ∀ event ∈ log, ¬ IsPush event) : ¬ PushSucceeded log := by
  rintro ⟨command, output, hmem, hpush, -⟩
  exact h _ hmem hpush

theorem not_isPush_merge (answer : Except String CommandOutput) :
    ¬ IsPush (.ran (mergeCommand path repair.expectedBaseBranch) answer) := by
  simp [IsPush, mergeCommand, git]

theorem not_isMerge_status (answer : Except String CommandOutput) :
    ¬ IsMerge (.ran (statusCommand path) answer) := by
  simp [IsMerge, statusCommand, git]

theorem not_isMerge_push (headRefName : String) (answer : Except String CommandOutput) :
    ¬ IsMerge (.ran (pushCommand path headRefName) answer) := by
  simp [IsMerge, pushCommand, git]

theorem Merged.not_isPush {merged : List RepairEvent} (h : Merged repair path merged) :
    ∀ event ∈ merged, ¬ IsPush event := by
  cases h
  simp [IsPush, mergeCommand, statusCommand, git]

theorem RepairEnds.safe (h : RepairEnds repair result log) : SafeRepair repair result log := by
  cases h with
  | quiet hlog hresult =>
      have hpushes : ∀ event ∈ log, ¬ IsPush event := fun event hevent => (hlog event hevent).2
      exact ⟨everywhere_of_none fun event hevent => (hlog event hevent).1, everywhere_of_none hpushes,
        iff_of_false hresult (not_pushSucceeded hpushes)⟩
  | @stopped path earlier fetched behind answer hearlier hfetched hbehind hresult =>
      have hfront := hearlier.append hfetched.quiet
      rw [← List.append_assoc]
      have hpushes : ∀ event ∈ earlier ++ fetched
          ++ .ran (mergeCommand path repair.expectedBaseBranch) answer :: behind, ¬ IsPush event := by
        intro event hevent
        rcases List.mem_append.mp hevent with hevent | hevent
        · exact (hfront event hevent).2
        · rcases List.mem_cons.mp hevent with rfl | hevent
          · exact not_isPush_merge answer
          · exact (hbehind event hevent).2
      exact ⟨everywhere_of_only (fun event hevent => (hfront event hevent).1)
          (fun event hevent => (hbehind event hevent).1)
          ⟨path, earlier, fetched, answer, rfl, hfetched, rfl⟩,
        everywhere_of_none hpushes, iff_of_false hresult (not_pushSucceeded hpushes)⟩
  | @pushed path headRefName earlier fetched merged answer hhead hearlier hfetched hmerged hresult =>
      have hfront := hearlier.append hfetched.quiet
      have hnone : ∀ event ∈ earlier ++ (fetched ++ merged), ¬ IsPush event := by
        rw [← List.append_assoc]
        intro event hevent
        rcases List.mem_append.mp hevent with hevent | hevent
        · exact (hfront event hevent).2
        · exact hmerged.not_isPush event hevent
      refine ⟨?_, ?_, ?_⟩
      · cases hmerged with
        | @intro merge status hmerge hclean =>
            rw [← List.append_assoc]
            refine everywhere_of_only (fun event hevent => (hfront event hevent).1) ?_
              ⟨path, earlier, fetched, .ok merge, rfl, hfetched, rfl⟩
            exact List.forall_mem_cons.mpr ⟨not_isMerge_status _,
              List.forall_mem_singleton.mpr (not_isMerge_push headRefName answer)⟩
      · rw [← List.append_assoc fetched, ← List.append_assoc earlier]
        exact everywhere_of_only hnone nofun
          ⟨hnone, path, headRefName, earlier, fetched, merged, answer, hhead, rfl, hfetched, hmerged, rfl⟩
      · rw [hresult, ← List.append_assoc fetched, ← List.append_assoc earlier]
        constructor
        · rintro ⟨output, rfl, hstatus⟩
          exact ⟨pushCommand path headRefName, output,
            List.mem_append_right _ (List.mem_singleton_self _), rfl, hstatus⟩
        · rintro ⟨command, output, hmem, hpush, hstatus⟩
          rcases List.mem_append.mp hmem with hmem | hmem
          · exact absurd hpush (hnone _ hmem)
          · cases List.mem_singleton.mp hmem
            exact ⟨output, rfl, hstatus⟩

/-! ## The parts of a run -/

variable {runner : Runner}

theorem not_repaired_error {error : MergeLaneError} : ¬ Repaired (.error error) := by
  rintro ⟨outcome, h, -⟩
  cases h

theorem runCommand_bind {α : Type} {rest : CommandOutput → Repairing MergeLaneError α}
    {T : Except MergeLaneError α → List RepairEvent → Prop}
    (hstop : ∀ error, T (.error (.runner error)) [.ran command (.error error)])
    (hrest : ∀ output, Ends (rest output) fun result more => T result (.ran command (.ok output) :: more)) :
    Ends (runCommand runner command >>= rest) T := by
  have hrun : Ends (runCommand runner command) fun result more => ∃ answer,
      result = answer.mapError .runner ∧ more = [.ran command answer] :=
    Ends.mapError (Ends.ask fun answer => ⟨answer, rfl, rfl⟩)
  refine hrun.bind ?_ ?_
  · rintro error _ ⟨answer, hresult, rfl⟩
    cases answer with
    | ok output => cases hresult
    | error e =>
        obtain rfl := Except.error.inj hresult
        exact hstop e
  · rintro output _ ⟨answer, hresult, rfl⟩
    cases answer with
    | error e => cases hresult
    | ok other =>
        obtain rfl := Except.ok.inj hresult
        exact hrest output

theorem runSuccessfully_bind {α : Type} {rest : CommandOutput → Repairing MergeLaneError α}
    {T : Except MergeLaneError α → List RepairEvent → Prop}
    (hstop : ∀ error answer, T (.error error) [.ran command answer])
    (hrest : ∀ output, output.status = 0 →
      Ends (rest output) fun result more => T result (.ran command (.ok output) :: more)) :
    Ends (runSuccessfully runner command >>= rest) T := by
  rw [runSuccessfully, Program.bind_assoc]
  refine runCommand_bind (fun error => hstop _ _) fun output => ?_
  by_cases hstatus : output.status = 0
  · rw [if_pos hstatus]
    exact hrest output hstatus
  · rw [if_neg hstatus]
    exact Ends.stop (hstop _ _)

variable (path) in
theorem quiet_worktree_command (answer : Except String CommandOutput)
    (h : command ∈ [listCommand path, statusCommand path, mergeHeadCommand path, unmergedCommand path,
      abortCommand path]) : ¬ IsMerge (.ran command answer) ∧ ¬ IsPush (.ran command answer) := by
  simp only [List.mem_cons, List.not_mem_nil, or_false] at h
  rcases h with rfl | rfl | rfl | rfl | rfl
  all_goals
    simp [IsMerge, IsPush, listCommand, statusCommand, mergeHeadCommand, unmergedCommand, abortCommand,
      git]

theorem ends_abortInterrupted :
    Ends (abortInterruptedMergeRepair runner path) fun _ more => Quiet more := by
  have hstep : ∀ {command : Command} {more : List RepairEvent} (answer : Except String CommandOutput),
      command ∈ [listCommand path, statusCommand path, mergeHeadCommand path, unmergedCommand path,
        abortCommand path] → Quiet more → Quiet (.ran command answer :: more) :=
    fun answer hcommand hmore => .cons (quiet_worktree_command path answer hcommand) hmore
  unfold abortInterruptedMergeRepair
  refine runCommand_bind (fun error => hstep _ (by simp) quiet_nil) fun mergeHead => ?_
  refine runCommand_bind (fun error => hstep _ (by simp) (hstep _ (by simp) quiet_nil))
    fun unmerged => ?_
  split
  · exact Ends.pure (hstep _ (by simp) (hstep _ (by simp) quiet_nil))
  · refine runSuccessfully_bind (fun error answer =>
      hstep _ (by simp) (hstep _ (by simp) (hstep _ (by simp) quiet_nil))) fun output _ => ?_
    exact Ends.pure (hstep _ (by simp) (hstep _ (by simp) (hstep _ (by simp) quiet_nil)))

theorem not_repaired_none : ¬ Repaired (.ok none) := by
  rintro ⟨outcome, h, -⟩
  cases h

theorem not_repaired_of_false {outcome : ConflictRepairOutcome} (h : outcome.repaired = false) :
    ¬ Repaired (.ok (some outcome)) := by
  rintro ⟨other, hother, hrepaired⟩
  obtain rfl := Option.some.inj (Except.ok.inj hother)
  rw [h] at hrepaired
  cases hrepaired

theorem ends_recoverDirty :
    Ends (recoverDirty runner path status) fun result more => Quiet more ∧ ¬ Repaired result := by
  unfold recoverDirty
  refine ends_abortInterrupted.bind (fun e first hfirst => ⟨hfirst, not_repaired_error⟩) ?_
  intro aborted first hfirst
  have hstatus : ∀ answer, Quiet (first ++ [.ran (statusCommand path) answer]) := fun answer =>
    hfirst.append (.cons (quiet_worktree_command path answer (by simp)) quiet_nil)
  cases aborted with
  | false =>
      refine Ends.pure ⟨?_, not_repaired_of_false rfl⟩
      rwa [List.append_nil]
  | true =>
      refine runSuccessfully_bind (fun error answer => ⟨hstatus answer, not_repaired_error⟩)
        fun output _ => ?_
      split
      · exact Ends.pure ⟨hstatus _, not_repaired_none⟩
      · exact Ends.pure ⟨hstatus _, not_repaired_of_false rfl⟩

theorem isClean_of_blank (hstatus : status.status = 0)
    (hblank : Text.isBlank status.stdout = true) : isClean status = true := by
  rw [isClean, hstatus, hblank]
  rfl

theorem ends_pushMerged {fetched : List RepairEvent} {merge : CommandOutput}
    (hhead : repair.head? = some headRefName) (hfetched : Fetched repair path fetched)
    (hmerge : merge.status = 0) :
    Ends (pushMerged runner repair headRefName path) fun result more =>
      RepairEnds repair (result.map some) (fetched
        ++ .ran (mergeCommand path repair.expectedBaseBranch) (.ok merge) :: more) := by
  have hstopped : ∀ {result : Except MergeLaneError ConflictRepairOutcome}
      (answer : Except String CommandOutput), ¬ Repaired (result.map some) →
      RepairEnds repair (result.map some) (fetched
        ++ .ran (mergeCommand path repair.expectedBaseBranch) (.ok merge)
          :: [.ran (statusCommand path) answer]) := fun answer hresult =>
    .stopped quiet_nil hfetched (.cons (quiet_worktree_command path answer (by simp)) quiet_nil) hresult
  unfold pushMerged
  refine runSuccessfully_bind (fun error answer => hstopped answer not_repaired_error)
    fun status hstatus => ?_
  split
  · exact Ends.pure (hstopped _ (not_repaired_of_false rfl))
  · next hblank =>
    have hclean := isClean_of_blank hstatus (Bool.not_eq_false _ ▸ hblank)
    have hmerged : Merged repair path [.ran (mergeCommand path repair.expectedBaseBranch) (.ok merge),
        .ran (statusCommand path) (.ok status)] := ⟨hmerge, hclean⟩
    have hpushed : ∀ {result : Except MergeLaneError ConflictRepairOutcome}
        (answer : Except String CommandOutput),
        (Repaired (result.map some) ↔ ∃ output, answer = .ok output ∧ output.status = 0) →
        RepairEnds repair (result.map some) (fetched
          ++ .ran (mergeCommand path repair.expectedBaseBranch) (.ok merge)
            :: .ran (statusCommand path) (.ok status)
            :: [.ran (pushCommand path headRefName) answer]) := fun answer hresult =>
      .pushed hhead quiet_nil hfetched hmerged hresult
    refine runCommand_bind (fun error => hpushed _ (iff_of_false not_repaired_error nofun))
      fun push => ?_
    split
    · next hfailed =>
      refine Ends.pure (hpushed _ (iff_of_false (not_repaired_of_false rfl) ?_))
      rintro ⟨output, houtput, hstatus⟩
      obtain rfl := Except.ok.inj houtput
      exact hfailed hstatus
    · next hstatus =>
      exact Ends.pure (hpushed _ (iff_of_true ⟨_, rfl, rfl⟩ ⟨push, rfl, not_not.mp hstatus⟩))

theorem ends_mergeAndPush (hhead : repair.head? = some headRefName)
    (hclean : isClean status = true) :
    Ends (mergeAndPush runner repair headRefName path) fun result more =>
      RepairEnds repair (result.map some) (.ran (statusCommand path) (.ok status) :: more) := by
  have hstatus : ¬ IsMerge (.ran (statusCommand path) (.ok status))
      ∧ ¬ IsPush (.ran (statusCommand path) (.ok status)) := quiet_worktree_command path _ (by simp)
  unfold mergeAndPush
  refine runSuccessfully_bind (fun error answer => .quiet (.cons hstatus (.cons ?_ quiet_nil))
    not_repaired_error) fun fetch hfetch => ?_
  · simp [IsMerge, IsPush, fetchCommand, git]
  · have hfetched : Fetched repair path [.ran (statusCommand path) (.ok status),
        .ran (fetchCommand path repair.expectedBaseBranch) (.ok fetch)] := ⟨hclean, hfetch⟩
    refine runCommand_bind (fun error => .stopped quiet_nil hfetched quiet_nil not_repaired_error)
      fun merge => ?_
    split
    · refine Ends.attempt_bind
        (S := fun answer more => more = [.ran (abortCommand path) answer]) (Ends.ask fun _ => rfl) ?_
      rintro answer _ rfl
      exact Ends.pure (.stopped quiet_nil hfetched
        (.cons (quiet_worktree_command path answer (by simp)) quiet_nil) (not_repaired_of_false rfl))
    · next hmerge => exact ends_pushMerged hhead hfetched (not_not.mp hmerge)

theorem Ends.map {α β : Type} {f : α → β} {program : Repairing MergeLaneError α}
    {T : Except MergeLaneError β → List RepairEvent → Prop}
    (h : Ends program fun result more => T (result.map f) more) : Ends (f <$> program) T := by
  refine Logged.Ends.bind h (fun e first hfirst => hfirst) fun b first hfirst => Ends.pure ?_
  rw [List.append_nil]
  exact hfirst

theorem ends_repairWorktreeOf (hhead : repair.head? = some headRefName) :
    Ends (repairWorktreeOf runner repair headRefName path) fun result more =>
      RepairEnds repair result more ∧ (result = .ok none → Quiet more) := by
  have hquiet : ∀ answer, Quiet [.ran (statusCommand path) answer] := fun answer =>
    .cons (quiet_worktree_command path answer (by simp)) quiet_nil
  unfold repairWorktreeOf
  refine runSuccessfully_bind
    (fun error answer => ⟨.quiet (hquiet answer) not_repaired_error, nofun⟩) fun status hstatus => ?_
  split
  · next hblank =>
    refine Ends.map ((ends_mergeAndPush hhead (isClean_of_blank hstatus hblank)).mono
      fun result more hmore => ⟨hmore, fun hnone => ?_⟩)
    cases result <;> cases hnone
  · refine ends_recoverDirty.mono fun result more hmore => ?_
    have hmoreQuiet := (hquiet (.ok status)).append hmore.1
    exact ⟨.quiet hmoreQuiet hmore.2, fun _ => hmoreQuiet⟩

theorem ends_repairRound (hlive : repair.fixtureMode = false) :
    Ends (repairRound runner repair) fun result more =>
      RepairEnds repair result more ∧ (result = .ok none → Quiet more) := by
  have hquiet : ∀ answer, Quiet [.ran (listCommand repair.cwd) answer] := fun answer =>
    .cons (quiet_worktree_command repair.cwd answer (by simp)) quiet_nil
  unfold repairRound
  rw [hlive, if_neg Bool.false_ne_true]
  split
  · exact Ends.pure ⟨.quiet quiet_nil (not_repaired_of_false rfl), fun _ => quiet_nil⟩
  · next headRefName hhead =>
    refine runSuccessfully_bind
      (fun error answer => ⟨.quiet (hquiet answer) not_repaired_error, nofun⟩) fun listed _ => ?_
    split
    · exact Ends.pure ⟨.quiet (hquiet _) (not_repaired_of_false rfl), fun _ => hquiet _⟩
    · refine (ends_repairWorktreeOf hhead).mono fun result more hmore => ?_
      exact ⟨hmore.1.after (hquiet _), fun hnone => (hquiet _).append (hmore.2 hnone)⟩

theorem ends_repairDirtyPullRequest (hlive : repair.fixtureMode = false) (rounds : Nat) :
    Ends (repairDirtyPullRequest runner repair rounds) (RepairEnds repair) := by
  induction rounds with
  | zero => exact Ends.pure (.quiet quiet_nil not_repaired_none)
  | succ rounds ih =>
      rw [repairDirtyPullRequest]
      refine (ends_repairRound hlive).bind (fun error first hfirst => hfirst.1) ?_
      rintro outcome first ⟨hfirst, hnone⟩
      cases outcome with
      | some outcome =>
          refine Ends.pure ?_
          rw [List.append_nil]
          exact hfirst
      | none => exact ih.mono fun result more hmore => hmore.after (hnone rfl)

end

/-! ## The repair -/

/-- A rehearsal runs nothing, any other repair is safe. -/
structure RepairVerdict (repair : DirtyRepair)
    (result : Except MergeLaneError (Option ConflictRepairOutcome)) (log : List RepairEvent) : Prop where
  live : repair.fixtureMode = false → SafeRepair repair result log
  rehearsed : repair.fixtureMode = true → log = []
    ∧ ∀ outcome, result = .ok (some outcome) → outcome = fixtureOutcome repair

/-- However often the repair has begun. -/
theorem repair_safe (runner : Runner) (repair : DirtyRepair) (rounds : Nat) :
    RepairVerdict repair (repairDirtyPullRequest runner repair rounds []).1
      (repairDirtyPullRequest runner repair rounds []).2 := by
  refine ⟨fun hlive => ?_, fun hfixture => ?_⟩
  · have hruns : Ends (repairDirtyPullRequest runner repair rounds) (RepairEnds repair) :=
      ends_repairDirtyPullRequest hlive rounds
    obtain ⟨more, hlog, hends⟩ := hruns []
    rw [List.nil_append] at hlog
    rw [hlog]
    exact hends.safe
  · cases rounds with
    | zero => exact ⟨rfl, nofun⟩
    | succ rounds =>
        have hround : repairRound runner repair [] = (.ok (some (fixtureOutcome repair)), []) := by
          rw [repairRound, hfixture, if_pos rfl]
          rfl
        rw [repairDirtyPullRequest, Program.bind_ok hround]
        refine ⟨rfl, fun outcome houtcome => ?_⟩
        exact (Option.some.inj (Except.ok.inj houtcome)).symm

def rehearsal : DirtyRepair where
  prRef := "#7"
  headRefName := none
  expectedBaseBranch := "main"
  cwd := "/r"
  fixtureMode := true

/-- A rehearsal reports a repair without a push. -/
theorem rehearsal_unpushed :
    Repaired (repairDirtyPullRequest (fun _ _ => .error "offline") rehearsal 1 []).1
      ∧ ¬ PushSucceeded (repairDirtyPullRequest (fun _ _ => .error "offline") rehearsal 1 []).2 := by
  refine ⟨⟨fixtureOutcome rehearsal, rfl, rfl⟩, ?_⟩
  rintro ⟨command, output, hmem, -⟩
  cases hmem

end SheaSymphony.MergeRepair

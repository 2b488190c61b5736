import SheaSymphony.RepairSafety

/-!
# Repairs that begin again

`repair_dirty_pull_request` calls itself behind an interrupted merge that it has aborted, and counts
nothing. A beginning runs six commands at most, so a repair finishes exactly where its runner lets
it recover no more than some number of times (`repair_finishes_iff`).
-/

namespace SheaSymphony.MergeRepair

open Interrupted (Program)
open Logged (Ends attempt mapError)
open MainHandoff (Command CommandOutput)

/-! ## Beginning again -/

/-- What a beginning that is followed by another leaves in the log. -/
def recoveryEvents (cwd path : String) (listed status mergeHead unmerged abort recovered : CommandOutput) :
    List RepairEvent :=
  [.ran (listCommand cwd) (.ok listed), .ran (statusCommand path) (.ok status),
    .ran (mergeHeadCommand path) (.ok mergeHead), .ran (unmergedCommand path) (.ok unmerged),
    .ran (abortCommand path) (.ok abort), .ran (statusCommand path) (.ok recovered)]

section
variable (runner : Runner) (repair : DirtyRepair)

/-- The answers are those of the runner, each behind what has been logged before it. -/
def Answers : List RepairEvent → List RepairEvent → Prop
  | _, [] => True
  | log, .ran command answer :: rest =>
      runner log command = answer ∧ Answers (log ++ [.ran command answer]) rest
  | _, _ :: _ => False

/-- The worktree is dirty, an interrupted merge is found in it and aborted, and it is clean. -/
inductive RecoversOnce (log : List RepairEvent) : List RepairEvent → Prop
  | intro {headRefName path : String} {listed status mergeHead unmerged abort recovered : CommandOutput}
      (hlive : repair.fixtureMode = false) (hhead : repair.head? = some headRefName)
      (hlisted : listed.status = 0)
      (hpath : parseWorktreeForBranch listed.stdout headRefName = some path)
      (hstatus : status.status = 0) (hdirty : Text.isBlank status.stdout = false)
      (hinterrupted : mergeHead.status = 0 ∨ Text.isBlank unmerged.stdout = false)
      (habort : abort.status = 0) (hrecovered : recovered.status = 0)
      (hclean : Text.isBlank recovered.stdout = true)
      (hanswers : Answers runner log
        (recoveryEvents repair.cwd path listed status mergeHead unmerged abort recovered)) :
      RecoversOnce log
        (log ++ recoveryEvents repair.cwd path listed status mergeHead unmerged abort recovered)

inductive RecoversTimes : Nat → List RepairEvent → List RepairEvent → Prop
  | zero {log : List RepairEvent} : RecoversTimes 0 log log
  | succ {rounds : Nat} {log middle after : List RepairEvent}
      (hfirst : RecoversOnce runner repair log middle) (hrest : RecoversTimes rounds middle after) :
      RecoversTimes (rounds + 1) log after

/-- The repair comes to an end, with six commands at most for each beginning. -/
def Finishes : Prop :=
  ∃ rounds, (repairDirtyPullRequest runner repair rounds []).1 ≠ .ok none
    ∧ (repairDirtyPullRequest runner repair rounds []).2.length ≤ 6 * rounds

end

section
variable {runner : Runner} {repair : DirtyRepair} {path : String} {log after : List RepairEvent}

theorem runCommand_eq_ok_iff {command : Command} {output : CommandOutput} :
    runCommand runner command log = (.ok output, after) ↔
      runner log command = .ok output ∧ after = log ++ [.ran command (.ok output)] := by
  show ((runner log command).mapError MergeLaneError.runner,
    log ++ [.ran command (runner log command)]) = _ ↔ _
  cases runner log command with
  | error e => simp [Except.mapError]
  | ok other =>
      simp only [Except.mapError, Prod.mk.injEq, Except.ok.injEq]
      constructor
      · rintro ⟨rfl, rfl⟩
        exact ⟨rfl, rfl⟩
      · rintro ⟨rfl, rfl⟩
        exact ⟨rfl, rfl⟩

theorem runSuccessfully_eq_ok_iff {command : Command} {output : CommandOutput} :
    runSuccessfully runner command log = (.ok output, after) ↔
      (runner log command = .ok output ∧ after = log ++ [.ran command (.ok output)])
        ∧ output.status = 0 := by
  rw [runSuccessfully, Program.bind_eq_ok_iff]
  constructor
  · rintro ⟨other, middle, hrun, hrest⟩
    split at hrest
    · next hstatus =>
      obtain ⟨rfl, rfl⟩ := Program.pure_eq_ok_iff.mp hrest
      exact ⟨runCommand_eq_ok_iff.mp hrun, hstatus⟩
    · cases congrArg Prod.fst hrest
  · rintro ⟨hrun, hstatus⟩
    refine ⟨output, after, runCommand_eq_ok_iff.mpr hrun, ?_⟩
    rw [if_pos hstatus]
    rfl

theorem abortInterrupted_eq_true_iff :
    abortInterruptedMergeRepair runner path log = (.ok true, after) ↔
      ∃ mergeHead unmerged abort : CommandOutput,
        (mergeHead.status = 0 ∨ Text.isBlank unmerged.stdout = false) ∧ abort.status = 0
          ∧ runner log (mergeHeadCommand path) = .ok mergeHead
          ∧ runner (log ++ [.ran (mergeHeadCommand path) (.ok mergeHead)]) (unmergedCommand path)
            = .ok unmerged
          ∧ runner (log ++ [.ran (mergeHeadCommand path) (.ok mergeHead)]
            ++ [.ran (unmergedCommand path) (.ok unmerged)]) (abortCommand path) = .ok abort
          ∧ after = log ++ [.ran (mergeHeadCommand path) (.ok mergeHead)]
            ++ [.ran (unmergedCommand path) (.ok unmerged)]
            ++ [.ran (abortCommand path) (.ok abort)] := by
  unfold abortInterruptedMergeRepair
  rw [Program.bind_eq_ok_iff]
  constructor
  · rintro ⟨mergeHead, first, hfirst, hrest⟩
    obtain ⟨hmergeHead, rfl⟩ := runCommand_eq_ok_iff.mp hfirst
    obtain ⟨unmerged, second, hsecond, hrest⟩ := Program.bind_eq_ok_iff.mp hrest
    obtain ⟨hunmerged, rfl⟩ := runCommand_eq_ok_iff.mp hsecond
    split at hrest
    · obtain ⟨hfalse, -⟩ := Program.pure_eq_ok_iff.mp hrest
      cases hfalse
    · next hinterrupted =>
      obtain ⟨abort, third, hthird, hrest⟩ := Program.bind_eq_ok_iff.mp hrest
      obtain ⟨⟨habort, rfl⟩, hstatus⟩ := runSuccessfully_eq_ok_iff.mp hthird
      obtain ⟨-, rfl⟩ := Program.pure_eq_ok_iff.mp hrest
      refine ⟨mergeHead, unmerged, abort, ?_, hstatus, hmergeHead, hunmerged, habort, rfl⟩
      by_contra hneither
      rw [not_or] at hneither
      exact hinterrupted ⟨hneither.1, Bool.not_eq_false _ ▸ hneither.2⟩
  · rintro ⟨mergeHead, unmerged, abort, hinterrupted, hstatus, hmergeHead, hunmerged, habort, rfl⟩
    refine ⟨mergeHead, _, runCommand_eq_ok_iff.mpr ⟨hmergeHead, rfl⟩, ?_⟩
    rw [Program.bind_eq_ok_iff]
    refine ⟨unmerged, _, runCommand_eq_ok_iff.mpr ⟨hunmerged, rfl⟩, ?_⟩
    have hfound : ¬ (mergeHead.status ≠ 0 ∧ Text.isBlank unmerged.stdout = true) := by
      rintro ⟨hmerge, hblank⟩
      rcases hinterrupted with hzero | hshown
      · exact hmerge hzero
      · rw [hshown] at hblank
        cases hblank
    rw [if_neg hfound, Program.bind_eq_ok_iff]
    exact ⟨abort, _, runSuccessfully_eq_ok_iff.mpr ⟨⟨habort, rfl⟩, hstatus⟩, rfl⟩

theorem recoverDirty_eq_none_iff {status : CommandOutput} :
    recoverDirty runner path status log = (.ok none, after) ↔
      ∃ middle recovered, abortInterruptedMergeRepair runner path log = (.ok true, middle)
        ∧ runner middle (statusCommand path) = .ok recovered ∧ recovered.status = 0
        ∧ Text.isBlank recovered.stdout = true
        ∧ after = middle ++ [.ran (statusCommand path) (.ok recovered)] := by
  unfold recoverDirty
  rw [Program.bind_eq_ok_iff]
  constructor
  · rintro ⟨aborted, middle, habort, hrest⟩
    split at hrest
    · next htrue =>
      obtain rfl : aborted = true := htrue
      obtain ⟨recovered, last, hlast, hrest⟩ := Program.bind_eq_ok_iff.mp hrest
      obtain ⟨⟨hanswer, rfl⟩, hstatus⟩ := runSuccessfully_eq_ok_iff.mp hlast
      split at hrest
      · next hblank =>
        obtain ⟨-, rfl⟩ := Program.pure_eq_ok_iff.mp hrest
        exact ⟨middle, recovered, habort, hanswer, hstatus, hblank, rfl⟩
      · obtain ⟨hsome, -⟩ := Program.pure_eq_ok_iff.mp hrest
        cases hsome
    · obtain ⟨hsome, -⟩ := Program.pure_eq_ok_iff.mp hrest
      cases hsome
  · rintro ⟨middle, recovered, habort, hanswer, hstatus, hblank, rfl⟩
    refine ⟨true, middle, habort, ?_⟩
    rw [if_pos rfl, Program.bind_eq_ok_iff]
    refine ⟨recovered, _, runSuccessfully_eq_ok_iff.mpr ⟨⟨hanswer, rfl⟩, hstatus⟩, ?_⟩
    rw [if_pos hblank]
    rfl

theorem repairRound_eq_none_iff :
    repairRound runner repair log = (.ok none, after) ↔ RecoversOnce runner repair log after := by
  unfold repairRound
  constructor
  · intro h
    split at h
    · cases congrArg Prod.fst h
    · next hfixture =>
      cases hhead : repair.head? with
      | none =>
          rw [hhead] at h
          cases congrArg Prod.fst h
      | some headRefName =>
          rw [hhead] at h
          obtain ⟨listed, first, hfirst, h⟩ := Program.bind_eq_ok_iff.mp h
          obtain ⟨⟨hlisted, rfl⟩, hlistedStatus⟩ := runSuccessfully_eq_ok_iff.mp hfirst
          cases hpath : parseWorktreeForBranch listed.stdout headRefName with
          | none =>
              rw [hpath] at h
              cases congrArg Prod.fst h
          | some path =>
              rw [hpath] at h
              obtain ⟨status, second, hsecond, h⟩ := Program.bind_eq_ok_iff.mp h
              obtain ⟨⟨hanswer, rfl⟩, hstatus⟩ := runSuccessfully_eq_ok_iff.mp hsecond
              split at h
              · obtain ⟨outcome, last, -, hsome⟩ := Program.bind_eq_ok_iff.mp h
                obtain ⟨hsome, -⟩ := Program.pure_eq_ok_iff.mp hsome
                cases hsome
              · next hdirty =>
                obtain ⟨middle, recovered, hmiddle, hrecovered, hrecoveredStatus, hclean, rfl⟩ :=
                  recoverDirty_eq_none_iff.mp h
                obtain ⟨mergeHead, unmerged, abort, hinterrupted, habort, hmergeHead, hunmerged,
                  haborted, rfl⟩ := abortInterrupted_eq_true_iff.mp hmiddle
                have hanswers : Answers runner log (recoveryEvents repair.cwd path listed status mergeHead
                    unmerged abort recovered) :=
                  ⟨hlisted, hanswer, hmergeHead, hunmerged, haborted, hrecovered, trivial⟩
                have hrecovers := RecoversOnce.intro (Bool.eq_false_iff.mpr hfixture) hhead hlistedStatus
                  hpath hstatus (Bool.eq_false_iff.mpr hdirty) hinterrupted habort hrecoveredStatus hclean
                  hanswers
                simpa [recoveryEvents] using hrecovers
  · rintro ⟨hlive, hhead, hlisted, hpath, hstatus, hdirty, hinterrupted, habort, hrecovered, hclean,
      hanswers⟩
    rw [hlive, if_neg Bool.false_ne_true, hhead]
    simp only [recoveryEvents, Answers] at hanswers
    obtain ⟨hlistedAnswer, hstatusAnswer, hmergeHead, hunmerged, haborted, hrecoveredAnswer, -⟩ := hanswers
    refine Program.bind_eq_ok_iff.mpr ⟨_, _, runSuccessfully_eq_ok_iff.mpr
      ⟨⟨hlistedAnswer, rfl⟩, hlisted⟩, ?_⟩
    rw [hpath]
    refine Program.bind_eq_ok_iff.mpr ⟨_, _, runSuccessfully_eq_ok_iff.mpr
      ⟨⟨hstatusAnswer, rfl⟩, hstatus⟩, ?_⟩
    rw [hdirty, if_neg Bool.false_ne_true]
    refine recoverDirty_eq_none_iff.mpr ⟨_, _, abortInterrupted_eq_true_iff.mpr
      ⟨_, _, _, hinterrupted, habort, hmergeHead, hunmerged, haborted, rfl⟩, hrecoveredAnswer,
      hrecovered, hclean, ?_⟩
    simp [recoveryEvents]

theorem repair_eq_none_iff {rounds : Nat} :
    repairDirtyPullRequest runner repair rounds log = (.ok none, after) ↔
      RecoversTimes runner repair rounds log after := by
  induction rounds generalizing log with
  | zero =>
      rw [repairDirtyPullRequest, Program.pure_eq_ok_iff]
      constructor
      · rintro ⟨-, rfl⟩
        exact .zero
      · rintro ⟨⟩
        exact ⟨rfl, rfl⟩
  | succ rounds ih =>
      rw [repairDirtyPullRequest, Program.bind_eq_ok_iff]
      constructor
      · rintro ⟨outcome, middle, hround, hrest⟩
        cases outcome with
        | some outcome =>
            obtain ⟨hsome, -⟩ := Program.pure_eq_ok_iff.mp hrest
            cases hsome
        | none => exact .succ (repairRound_eq_none_iff.mp hround) (ih.mp hrest)
      · intro h
        cases h with
        | succ hfirst hrest =>
            exact ⟨none, _, repairRound_eq_none_iff.mpr hfirst, ih.mpr hrest⟩

end

/-! ## The commands of a beginning -/

/-- The program logs no more than some number of events. -/
def Within {ε α : Type} (limit : Nat) (program : Repairing ε α) : Prop :=
  Ends program fun _ more => more.length ≤ limit

section
variable {α β : Type} {limit : Nat} {runner : Runner} {repair : DirtyRepair} {path : String}

theorem within_pure (a : α) : Within limit (pure a : Repairing MergeLaneError α) :=
  Ends.pure (Nat.zero_le limit)

theorem Within.bind {first : Nat} {program : Repairing MergeLaneError α}
    {rest : α → Repairing MergeLaneError β} (h : Within first program) (second : Nat)
    (hrest : ∀ a, Within second (rest a)) : Within (first + second) (program >>= rest) := by
  refine Ends.bind h (fun _ more hmore => Nat.le_add_right_of_le hmore) fun a more hmore => ?_
  refine (hrest a).mono fun _ others hothers => ?_
  rw [List.length_append]
  exact Nat.add_le_add hmore hothers

theorem within_runCommand (command : Command) : Within 1 (runCommand runner command) :=
  Ends.mapError (Ends.ask fun _ => le_refl 1)

theorem within_runSuccessfully (command : Command) : Within 1 (runSuccessfully runner command) := by
  refine (within_runCommand command).bind 0 fun output => ?_
  split
  · exact within_pure output
  · exact Ends.stop (le_refl 0)

theorem within_abortInterrupted : Within 3 (abortInterruptedMergeRepair runner path) := by
  refine (within_runCommand _).bind 2 fun mergeHead => ?_
  refine (within_runCommand _).bind 1 fun unmerged => ?_
  split
  · exact within_pure false
  · exact (within_runSuccessfully _).bind 0 fun _ => within_pure true

theorem within_recoverDirty {status : CommandOutput} : Within 4 (recoverDirty runner path status) := by
  refine within_abortInterrupted.bind 1 fun aborted => ?_
  split
  · refine (within_runSuccessfully _).bind 0 fun recovered => ?_
    split <;> exact within_pure _
  · exact within_pure _

theorem within_pushMerged {headRefName : String} :
    Within 2 (pushMerged runner repair headRefName path) := by
  refine (within_runSuccessfully _).bind 1 fun status => ?_
  split
  · exact within_pure _
  · refine (within_runCommand _).bind 0 fun push => ?_
    split <;> exact within_pure _

theorem within_mergeAndPush {headRefName : String} :
    Within 4 (mergeAndPush runner repair headRefName path) := by
  refine (within_runSuccessfully _).bind 3 fun fetch => ?_
  refine (within_runCommand _).bind 2 fun merge => ?_
  split
  · have habort : Within 1 (attempt (run runner (abortCommand path)) :
        Repairing MergeLaneError (Except String CommandOutput)) :=
      Ends.attempt (Ends.ask fun _ => le_refl 1)
    exact habort.bind 1 fun _ => within_pure _
  · exact within_pushMerged

theorem within_repairRound : Within 6 (repairRound runner repair) := by
  unfold repairRound
  split
  · exact within_pure _
  · split
    · exact within_pure _
    · refine (within_runSuccessfully _).bind 5 fun listed => ?_
      split
      · exact within_pure _
      · refine (within_runSuccessfully _).bind 4 fun status => ?_
        split
        · exact Ends.map within_mergeAndPush
        · exact within_recoverDirty

theorem within_repair (rounds : Nat) :
    Within (6 * rounds) (repairDirtyPullRequest runner repair rounds) := by
  induction rounds with
  | zero => exact within_pure none
  | succ rounds ih =>
      have hround : Within (6 + 6 * rounds) (repairDirtyPullRequest runner repair (rounds + 1)) := by
        refine within_repairRound.bind _ fun outcome => ?_
        cases outcome with
        | some outcome => exact within_pure _
        | none => exact ih
      rwa [Nat.mul_add_one, Nat.add_comm]

end

/-! ## Finishing -/

/-- A repair finishes where its runner does not let it recover once too often. -/
theorem repair_finishes_iff (runner : Runner) (repair : DirtyRepair) :
    Finishes runner repair ↔ ∃ rounds, ¬ ∃ log, RecoversTimes runner repair rounds [] log := by
  constructor
  · rintro ⟨rounds, hover, -⟩
    refine ⟨rounds, ?_⟩
    rintro ⟨log, hrecovers⟩
    exact hover (congrArg Prod.fst (repair_eq_none_iff.mpr hrecovers))
  · rintro ⟨rounds, hnever⟩
    refine ⟨rounds, fun hnone => hnever ⟨_, repair_eq_none_iff.mp (Prod.ext hnone rfl)⟩, ?_⟩
    obtain ⟨more, hlog, hbound⟩ :=
      (within_repair rounds : Within _ (repairDirtyPullRequest runner repair rounds)) []
    rw [hlog]
    exact hbound

/-! ## A repair without an end -/

/-- The worktree is dirty whenever a repair begins, and clean behind each abort. -/
def relapsingRunner : Runner := fun log command =>
  if command.args = ["worktree", "list", "--porcelain"] then
    .ok ⟨0, "worktree /w\nbranch refs/heads/feature", ""⟩
  else if command.args = ["status", "--porcelain"] then
    match log.getLast? with
    | some (.ran last _) =>
        if last.args = ["merge", "--abort"] then .ok ⟨0, "", ""⟩ else .ok ⟨0, "UU conflict.rs", ""⟩
    | _ => .ok ⟨0, "", ""⟩
  else .ok ⟨0, "", ""⟩

def relapsingRepair : DirtyRepair where
  prRef := "#7"
  headRefName := some "feature"
  expectedBaseBranch := "main"
  cwd := "/r"
  fixtureMode := false

theorem relapses (log : List RepairEvent) :
    ∃ after, RecoversOnce relapsingRunner relapsingRepair log after := by
  have hanswers : Answers relapsingRunner log (recoveryEvents "/r" "/w"
      ⟨0, "worktree /w\nbranch refs/heads/feature", ""⟩ ⟨0, "UU conflict.rs", ""⟩ ⟨0, "", ""⟩
      ⟨0, "", ""⟩ ⟨0, "", ""⟩ ⟨0, "", ""⟩) := by
    simp [recoveryEvents, Answers, relapsingRunner, listCommand, statusCommand, mergeHeadCommand,
      unmergedCommand, abortCommand, git]
  have hhead : relapsingRepair.head? = some "feature" := by decide
  exact ⟨_, .intro rfl hhead rfl (by decide) rfl (by decide) (Or.inl rfl) rfl rfl (by decide) hanswers⟩

theorem relapsing_endless : ¬ Finishes relapsingRunner relapsingRepair := by
  rintro ⟨rounds, hover, -⟩
  have hrecovers : ∀ rounds log, ∃ after,
      RecoversTimes relapsingRunner relapsingRepair rounds log after := by
    intro rounds
    induction rounds with
    | zero => exact fun log => ⟨log, .zero⟩
    | succ rounds ih =>
        intro log
        obtain ⟨middle, hmiddle⟩ := relapses log
        obtain ⟨after, hafter⟩ := ih middle
        exact ⟨after, .succ hmiddle hafter⟩
  obtain ⟨after, hafter⟩ := hrecovers rounds []
  exact hover (congrArg Prod.fst (repair_eq_none_iff.mpr hafter))

end SheaSymphony.MergeRepair

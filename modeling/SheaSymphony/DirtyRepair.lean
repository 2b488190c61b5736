import SheaSymphony.MergeAgentRepair

/-!
# Repair of a dirty pull request

`repair_dirty_pull_request` (`merge_lane.rs`): the base is merged into the worktree of a pull
request and its branch pushed. A merge that was interrupted in the worktree is aborted first, and the
repair begins again; `repairRound` is what one beginning comes to. The runner of the commands may
answer whatever it likes.
-/

namespace SheaSymphony.MergeRepair

open Interrupted (Program)
open Logged (Ends attempt mapError)
open MainHandoff (Command CommandOutput)

/-! ## Outcomes -/

inductive MergeConflictRepairFailureKind where
  | missingHeadBranch
  | missingWorktree
  | dirtyWorktree
  | contentConflict
  | postMergeDirty
  | pushFailed
deriving DecidableEq

structure ConflictRepairOutcome extends MergeConflictRepairOutcome where
  repaired : Bool
  failureKind : Option MergeConflictRepairFailureKind
deriving DecidableEq

inductive MergeLaneError where
  | runner (error : String)
  | commandFailed (program : String) (output : CommandOutput)
deriving DecidableEq

/-- A repair that has not been made, with what the last command has answered. -/
def notRepaired (worktreePath : Option String) (output : CommandOutput) (reason : String)
    (failureKind : MergeConflictRepairFailureKind) : ConflictRepairOutcome where
  worktreePath := worktreePath
  output := output
  reason := reason
  repaired := false
  failureKind := some failureKind

/-! ## Worktrees -/

/-- The worktree whose branch is the expected one, in what `git` lists. -/
def parseWorktreeFrom (expectedBranch : String) : Option String → List String → Option String
  | _, [] => none
  | currentWorktree, line :: lines =>
      match Text.stripPrefix line "worktree " with
      | some path => parseWorktreeFrom expectedBranch (some path) lines
      | none =>
          match Text.stripPrefix line "branch " with
          | some branch =>
              if branch = expectedBranch then currentWorktree
              else parseWorktreeFrom expectedBranch currentWorktree lines
          | none =>
              if Text.isBlank line then parseWorktreeFrom expectedBranch none lines
              else parseWorktreeFrom expectedBranch currentWorktree lines

def parseWorktreeForBranch (output branchName : String) : Option String :=
  parseWorktreeFrom ("refs/heads/" ++ branchName) none (Text.lines output)

def listCommand (cwd : String) : Command := git cwd ["worktree", "list", "--porcelain"]

/-! ## The repair -/

/-- The arguments of a repair. -/
structure DirtyRepair where
  prRef : String
  headRefName : Option String
  expectedBaseBranch : String
  cwd : String
  fixtureMode : Bool

namespace DirtyRepair

def head? (repair : DirtyRepair) : Option String :=
  repair.headRefName.filter fun value => !Text.isBlank value

end DirtyRepair

section
variable (runner : Runner) (repair : DirtyRepair)

def runCommand (command : Command) : Repairing MergeLaneError CommandOutput :=
  mapError .runner (run runner command)

/-- The command, which has to succeed. -/
def runSuccessfully (command : Command) : Repairing MergeLaneError CommandOutput := do
  let output ← runCommand runner command
  if output.status = 0 then return output
  else Program.stop (.commandFailed "git" output)

def abortInterruptedMergeRepair (worktreePath : String) : Repairing MergeLaneError Bool := do
  let mergeHead ← runCommand runner (mergeHeadCommand worktreePath)
  let unmerged ← runCommand runner (unmergedCommand worktreePath)
  if mergeHead.status ≠ 0 ∧ Text.isBlank unmerged.stdout = true then return false
  else do
    let _ ← runSuccessfully runner (abortCommand worktreePath)
    return true

def fixtureOutcome : ConflictRepairOutcome where
  worktreePath := none
  output := ⟨0, "fixture conflict repair rehearsed for " ++ repair.prRef
    ++ "; no live branch was changed", ""⟩
  reason := "fixture-mode safe conflict repair rehearsal completed"
  repaired := true
  failureKind := none

def missingHeadOutcome : ConflictRepairOutcome :=
  notRepaired none ⟨1, "", "pull request head branch is missing from preflight metadata"⟩
    "cannot attempt safe conflict repair without a PR head branch" .missingHeadBranch

def missingWorktreeOutcome (headRefName : String) : ConflictRepairOutcome :=
  notRepaired none ⟨1, "", "no local worktree found for branch \x60" ++ headRefName ++ "\x60"⟩
    ("no local worktree is available for PR branch \x60" ++ headRefName
      ++ "\x60; operator must adopt or create the existing PR worktree before merge-lane repair")
    .missingWorktree

/-- Behind a merge that has succeeded. -/
def pushMerged (headRefName worktreePath : String) : Repairing MergeLaneError ConflictRepairOutcome := do
  let postStatus ← runSuccessfully runner (statusCommand worktreePath)
  if Text.isBlank postStatus.stdout = false then
    return notRepaired (some worktreePath) postStatus
      "merge-lane repair left uncommitted changes in the PR worktree" .postMergeDirty
  else do
    let push ← runCommand runner (pushCommand worktreePath headRefName)
    if push.status ≠ 0 then
      return notRepaired (some worktreePath) push
        "merge-lane repair succeeded locally, but pushing the repaired PR branch failed" .pushFailed
    else
      return {
        worktreePath := some worktreePath
        output := push
        reason := "safe merge-lane repair merged \x60origin/" ++ repair.expectedBaseBranch
          ++ "\x60 into \x60" ++ headRefName ++ "\x60 and pushed the existing PR branch"
        repaired := true
        failureKind := none }

/-- In a clean worktree. -/
def mergeAndPush (headRefName worktreePath : String) :
    Repairing MergeLaneError ConflictRepairOutcome := do
  let _ ← runSuccessfully runner (fetchCommand worktreePath repair.expectedBaseBranch)
  let merge ← runCommand runner (mergeCommand worktreePath repair.expectedBaseBranch)
  if merge.status ≠ 0 then do
    let _ ← attempt (run runner (abortCommand worktreePath))
    return notRepaired (some worktreePath) merge
      ("safe merge-lane repair could not merge \x60origin/" ++ repair.expectedBaseBranch
        ++ "\x60 into \x60" ++ headRefName ++ "\x60 without manual conflict resolution") .contentConflict
  else pushMerged runner repair headRefName worktreePath

/-- In a worktree that is not clean; without an outcome the repair begins again. -/
def recoverDirty (worktreePath : String) (status : CommandOutput) :
    Repairing MergeLaneError (Option ConflictRepairOutcome) := do
  let dirty := notRepaired (some worktreePath) status "PR worktree is dirty before merge-lane repair"
    .dirtyWorktree
  if ← abortInterruptedMergeRepair runner worktreePath then
    let recoveredStatus ← runSuccessfully runner (statusCommand worktreePath)
    if Text.isBlank recoveredStatus.stdout then return none
    else return some dirty
  else return some dirty

def repairWorktreeOf (headRefName worktreePath : String) :
    Repairing MergeLaneError (Option ConflictRepairOutcome) := do
  let status ← runSuccessfully runner (statusCommand worktreePath)
  if Text.isBlank status.stdout then some <$> mergeAndPush runner repair headRefName worktreePath
  else recoverDirty runner worktreePath status

def repairRound : Repairing MergeLaneError (Option ConflictRepairOutcome) :=
  if repair.fixtureMode then return some (fixtureOutcome repair)
  else
    match repair.head? with
    | none => return some missingHeadOutcome
    | some headRefName => do
        let listed ← runSuccessfully runner (listCommand repair.cwd)
        match parseWorktreeForBranch listed.stdout headRefName with
        | none => return some (missingWorktreeOutcome headRefName)
        | some worktreePath => repairWorktreeOf runner repair headRefName worktreePath

/-- What the repair comes to within some beginnings; `none` where it begins once more. -/
def repairDirtyPullRequest : Nat → Repairing MergeLaneError (Option ConflictRepairOutcome)
  | 0 => return none
  | rounds + 1 => do
      match ← repairRound runner repair with
      | some outcome => return some outcome
      | none => repairDirtyPullRequest rounds

end

end SheaSymphony.MergeRepair

import SheaSymphony.HandoffWorld

/-!
# Git steps of a handoff

`git_handoff.rs`: preparing the worktree of an issue, committing what is in it, pushing
the branch and opening the pull request, and taking it out of draft.
-/

namespace SheaSymphony.MainHandoff

open Codes
open Handoff (BranchTargetRole)
open Interrupted (Program)

inductive GitHandoffError where
  | io (error : String)
  | commandFailed (program : String) (status : Int) (stdout stderr : String)
  | worktreeBranchMismatch (path expectedBranch currentBranch : String)
  | missingPullRequestUrl
  | invalidPullRequestViewPayload (error : String)
  | invalidPullRequestReadyPayload (error : String)
  | dirtyWorktree (path status : String)
  | noCommitsAhead (branch base : String)
  | invalidAheadCount (value : String)
deriving DecidableEq

def GitHandoffError.display : GitHandoffError → String
  | io error => "git handoff io error: " ++ error
  | commandFailed program status stdout stderr =>
      program ++ " failed with status " ++ toString status ++ ": stdout=" ++ stdout ++ " stderr="
        ++ stderr
  | worktreeBranchMismatch path expectedBranch currentBranch =>
      "existing worktree " ++ path ++ " is on branch " ++ currentBranch ++ ", expected "
        ++ expectedBranch
  | missingPullRequestUrl => "pull request command did not return a URL"
  | invalidPullRequestViewPayload error =>
      "pull request view command returned invalid JSON: " ++ error
  | invalidPullRequestReadyPayload error =>
      "pull request ready command returned invalid JSON: " ++ error
  | dirtyWorktree path status =>
      "worktree " ++ path ++ " has uncommitted changes before PR handoff: " ++ status
  | noCommitsAhead branch base =>
      "branch " ++ branch ++ " has no commits ahead of base " ++ base ++ " before PR handoff"
  | invalidAheadCount value => "git rev-list returned an invalid ahead count: " ++ value

/-! ## Texts -/

/-- `parse` of an unsigned number: digits, with at most one plus sign before them. -/
def parseUnsigned (limit : Nat) (text : String) : Option Nat :=
  let digits := match text.toList with
    | '+' :: rest => rest
    | digits => digits
  if digits.isEmpty || !digits.all Char.isDigit then none
  else
    let value := digits.foldl (fun total c => 10 * total + (c.toNat - '0'.toNat)) 0
    if value < limit then some value else none

def parseU32 (text : String) : Option Nat := parseUnsigned 4294967296 text

def parseU64 (text : String) : Option Nat := parseUnsigned 18446744073709551616 text

theorem parseUnsigned_toString (limit n : Nat) :
    parseUnsigned limit (toString n) = if n < limit then some n else none := by
  have hlist : (toString n).toList = decimal n := Nat.toList_repr
  have hplus : '+' ∉ decimal n := not_mem_decimal (by decide)
  have hvalue : (decimal n).foldl
      (fun total c => 10 * total + (c.toNat - '0'.toNat)) 0 = n :=
    Nat.ofDigitChars_ten_toDigits
  have hdigits : (decimal n).all Char.isDigit = true :=
    List.all_eq_true.mpr fun _ => isDigit_of_mem_decimal
  have hne : (decimal n).isEmpty = false := by
    rw [List.isEmpty_eq_false_iff]
    exact Nat.toDigits_ne_nil
  rw [parseUnsigned, hlist]
  generalize decimal n = digits at *
  cases digits with
  | nil => cases hne
  | cons d digits =>
      have hd : d ≠ '+' := fun h => hplus (h ▸ List.mem_cons_self)
      have hrest : digits.foldl (fun total c => 10 * total + (c.toNat - 48)) (d.toNat - 48) = n := by
        simpa using hvalue
      simp [hd, hdigits, hrest]

theorem parseUnsigned_of_head {limit : Nat} {text : String} {c : Char} {rest : List Char}
    (htext : text.toList = c :: rest) (hplus : c ≠ '+') (hdigit : c.isDigit = false) :
    parseUnsigned limit text = none := by
  rw [parseUnsigned, htext]
  simp [hplus, hdigit]

def compactGitEvidence (value : String) : String :=
  let compact := Text.collapseWhitespace value
  let truncated := String.ofList (compact.toList.take 240)
  if Text.byteLength truncated < Text.byteLength compact then truncated ++ "..." else compact

def extractUrl (stdout : String) : Except GitHandoffError String :=
  Fallible.okOr
    (((Text.lines stdout).map Text.trim).find? fun line =>
      Text.startsWith line "http://" || Text.startsWith line "https://")
    .missingPullRequestUrl

def closingKeywords : List String :=
  ["close", "closes", "closed", "fix", "fixes", "fixed", "resolve", "resolves", "resolved"]

/-- An occurrence of the reference that no digit follows; the search goes on behind an
occurrence. -/
def lineContainsIssueRef (issueRef : List Char) : Nat → List Char → Bool
  | _, [] => false
  | skip + 1, _ :: rest => lineContainsIssueRef issueRef skip rest
  | 0, c :: rest =>
      if issueRef.isPrefixOf (c :: rest) then
        !(((c :: rest).drop issueRef.length).head?.any Char.isDigit)
          || lineContainsIssueRef issueRef (issueRef.length - 1) rest
      else lineContainsIssueRef issueRef 0 rest

def pullRequestBodyHasClosingIssueReference (body issueRef : String) : Bool :=
  let issueRef := Text.toAsciiLowercase (Text.trim issueRef)
  issueRef != "" && (Text.lines body).any fun line =>
    let line := Text.toAsciiLowercase line
    ((line.toList.splitOnP fun c => !c.isAlpha).any fun token =>
        closingKeywords.contains (String.ofList token))
      && lineContainsIssueRef issueRef.toList 0 line.toList

def appendIssueClosingReference (body issueRef : String) : String :=
  let body := Text.trimEnd body
  if body = "" then "Closes " ++ Text.trim issueRef ++ "\n"
  else body ++ "\n\n## Issue Link\n\nCloses " ++ Text.trim issueRef ++ "\n"

structure PullRequestView where
  url : String
  body : String
deriving DecidableEq

def textField (name : String) (value : Json) : Option String := (value.get name).bind Json.asStr

def visibleUrl (value : Json) : Option String :=
  (textField "url" value).filter fun url => !Text.isBlank url

section
variable {σ : Type} (outside : HandoffOutside σ)

def parsePullRequestView (stdout : String) : Except GitHandoffError PullRequestView :=
  match outside.parseJson stdout with
  | .error error => .error (.invalidPullRequestViewPayload error)
  | .ok value =>
      match visibleUrl value with
      | none => .error .missingPullRequestUrl
      | some url => .ok { url, body := (textField "body" value).getD "" }

/-- The page of the pull request and whether it is a draft. -/
def parsePullRequestReady (stdout : String) : Except GitHandoffError (String × Bool) :=
  match outside.parseJson stdout with
  | .error error => .error (.invalidPullRequestReadyPayload error)
  | .ok value =>
      match visibleUrl value, (value.get "isDraft").bind Json.asBool with
      | none, _ => .error (.invalidPullRequestReadyPayload "missing url")
      | some _, none => .error (.invalidPullRequestReadyPayload "missing isDraft")
      | some url, some isDraft => .ok (url, isDraft)

/-! ## Commands -/

abbrev GitProgram (σ : Type) := Program (HandoffWorld σ) GitHandoffError

def requireSuccess (program : String) (output : CommandOutput) : Except GitHandoffError Unit :=
  if output.status = 0 then .ok ()
  else .error (.commandFailed program output.status output.stdout output.stderr)

def runCommand (command : Command) : GitProgram σ CommandOutput := do
  match ← call (.ran command) fun state => outside.run state command with
  | .ok output => return output
  | .error error => Program.stop (.io error)

/-- A command that has to succeed. -/
def runSuccessful (command : Command) : GitProgram σ CommandOutput := do
  let output ← runCommand outside command
  Program.ofExcept (requireSuccess command.program output)
  return output

def git (cwd : String) (args : List String) : Command where
  program := "git"
  args := args
  cwd := cwd

def gh (cwd : String) (args : List String) : Command where
  program := "gh"
  args := args
  cwd := cwd

/-! ## Worktrees -/

variable (plan : IssueHandoffPlan)

def statusCommand : Command := git plan.workspacePath ["status", "--porcelain"]

def commitCommand (message : String) : Command := git plan.workspacePath ["commit", "-m", message]

def commitIssueWorktreeChanges (message : String) : GitProgram σ WorktreeCommitResult := do
  let status ← runSuccessful outside (statusCommand plan)
  let statusBefore := Text.trim status.stdout
  if statusBefore = "" then
    return { committed := false, commitHash := none, statusBefore }
  else
    let _ ← runSuccessful outside (git plan.workspacePath ["add", "-A"])
    let _ ← runSuccessful outside (commitCommand plan message)
    let hash ← runSuccessful outside (git plan.workspacePath ["rev-parse", "--short", "HEAD"])
    return { committed := true, commitHash := some (Text.trim hash.stdout), statusBefore }

def currentBranch (workspacePath : String) : GitProgram σ String := do
  let output ← runSuccessful outside (git workspacePath ["branch", "--show-current"])
  return Text.trim output.stdout

def localBranchExists (repoRoot branchName : String) : GitProgram σ Bool := do
  let output ← runCommand outside (git repoRoot
    ["-C", repoRoot, "show-ref", "--verify", "--quiet", "refs/heads/" ++ branchName])
  return output.status == 0

/-- The branch of the parent, where a subissue has one. -/
def parentBranch : Option String :=
  if plan.branchTarget.role = .subissue then plan.branchTarget.parentIntegrationBranch else none

def ensureLocalParentIntegrationBranch (repoRoot : String) : GitProgram σ Unit :=
  match parentBranch plan with
  | none => return ()
  | some parent => do
      if ← localBranchExists outside repoRoot parent then return ()
      else
        let base := plan.branchTarget.parentFinalBaseBranch.getD plan.pullRequest.baseBranch
        let _ ← runSuccessful outside (git repoRoot ["-C", repoRoot, "branch", parent, base])
        return ()

def prepareIssueWorktree (repoRoot : String) : GitProgram σ LiveWorktreeResult := do
  if ← look fun state => outside.pathExists state plan.workspacePath then
    let branch ← currentBranch outside plan.workspacePath
    if branch ≠ plan.branchName then
      Program.stop (.worktreeBranchMismatch plan.workspacePath plan.branchName branch)
    else
      return { workspacePath := plan.workspacePath, branchName := plan.branchName, created := false }
  else
    match ← look fun state => outside.createParent state plan.workspacePath with
    | .error error => Program.stop (.io error)
    | .ok () =>
        ensureLocalParentIntegrationBranch outside plan repoRoot
        let args :=
          if ← localBranchExists outside repoRoot plan.branchName then
            ["-C", repoRoot, "worktree", "add", plan.workspacePath, plan.branchName]
          else
            ["-C", repoRoot, "worktree", "add", "-b", plan.branchName, plan.workspacePath,
              plan.pullRequest.baseBranch]
        let _ ← runSuccessful outside (git repoRoot args)
        return { workspacePath := plan.workspacePath, branchName := plan.branchName, created := true }

/-! ## Publishing -/

def aheadCommand : Command :=
  git plan.workspacePath ["rev-list", "--count", plan.pullRequest.baseBranch ++ "..HEAD"]

def pushCommand (branch : String) : Command :=
  git plan.workspacePath ["push", "-u", "origin", branch]

def lsRemoteCommand (branch : String) : Command :=
  git plan.workspacePath ["ls-remote", "--exit-code", "--heads", "origin", branch]

def viewCommand : Command :=
  gh plan.workspacePath ["pr", "view", plan.branchName, "--json", "url,body"]

def createCommand : Command :=
  gh plan.workspacePath ["pr", "create", "--title", plan.pullRequest.title, "--body",
    plan.pullRequest.body, "--base", plan.pullRequest.baseBranch, "--head",
    plan.pullRequest.headBranch]

def ensurePublishableBranch : GitProgram σ Unit := do
  let status ← runSuccessful outside (statusCommand plan)
  Program.require (Text.isBlank status.stdout)
    (.dirtyWorktree plan.workspacePath (compactGitEvidence status.stdout))
  let ahead ← runSuccessful outside (aheadCommand plan)
  let count ← Program.ofExcept (Fallible.okOr (parseU32 (Text.trim ahead.stdout))
    (.invalidAheadCount (Text.trim ahead.stdout)))
  Program.require (count != 0) (.noCommitsAhead plan.branchName plan.pullRequest.baseBranch)

def ensureRemoteParentIntegrationBranch : GitProgram σ Unit :=
  match parentBranch plan with
  | none => return ()
  | some parent => do
      let remote ← runCommand outside (lsRemoteCommand plan parent)
      if remote.status = 0 then return ()
      else
        let _ ← runSuccessful outside (pushCommand plan parent)
        return ()

def ensureExistingPullRequestBodyLinksIssue (existingBody : String) : GitProgram σ Unit :=
  if pullRequestBodyHasClosingIssueReference existingBody plan.issueRef then return ()
  else do
    let _ ← runSuccessful outside (gh plan.workspacePath ["pr", "edit", plan.branchName, "--body",
      appendIssueClosingReference existingBody plan.issueRef])
    return ()

def publishIssuePullRequest : GitProgram σ PullRequestPublication := do
  ensurePublishableBranch outside plan
  ensureRemoteParentIntegrationBranch outside plan
  let _ ← runSuccessful outside (pushCommand plan plan.branchName)
  let existing ← runCommand outside (viewCommand plan)
  if existing.status = 0 then
    let view ← Program.ofExcept (parsePullRequestView outside existing.stdout)
    ensureExistingPullRequestBodyLinksIssue outside plan view.body
    return { branchPushed := true, prUrl := view.url, prCreated := false }
  else
    let created ← runSuccessful outside (createCommand plan)
    let url ← Program.ofExcept (extractUrl created.stdout)
    return { branchPushed := true, prUrl := url, prCreated := true }

/-- What publishing does behind the push. -/
def openPullRequest : GitProgram σ PullRequestPublication := do
  let existing ← runCommand outside (viewCommand plan)
  if existing.status = 0 then
    let view ← Program.ofExcept (parsePullRequestView outside existing.stdout)
    ensureExistingPullRequestBodyLinksIssue outside plan view.body
    return { branchPushed := true, prUrl := view.url, prCreated := false }
  else
    let created ← runSuccessful outside (createCommand plan)
    let url ← Program.ofExcept (extractUrl created.stdout)
    return { branchPushed := true, prUrl := url, prCreated := true }

def readyViewCommand (prRef cwd : String) : Command :=
  gh cwd ["pr", "view", prRef, "--json", "url,isDraft"]

def readyCommand (prRef cwd : String) : Command := gh cwd ["pr", "ready", prRef]

def ensurePullRequestReady (prRef cwd : String) : GitProgram σ PullRequestReadyStatus := do
  let viewed ← runSuccessful outside (readyViewCommand prRef cwd)
  let (prUrl, wasDraft) ← Program.ofExcept (parsePullRequestReady outside viewed.stdout)
  if wasDraft then
    let _ ← runSuccessful outside (readyCommand prRef cwd)
    return { prUrl, wasDraft, markedReady := true }
  else return { prUrl, wasDraft, markedReady := false }

end

end SheaSymphony.MainHandoff

import SheaSymphony.HandoffWorld
import SheaSymphony.WorkspaceNames

/-!
# The plan of a handoff

`plan_issue_handoff_for_profile`: the branch, the worktree and the pull request of an issue
(`handoff.rs`).
-/

namespace SheaSymphony.MainHandoff

open Handoff (BranchTargetEvidence BranchTargetRole branchTargetEvidence digitsOnly issueNumber
  issueSlug titleSlug)
open Workspace (safeIdentifier)

inductive HandoffError where
  | branchIssueMismatch (branchName expectedIssue foundIssue : String)
  | ambiguousReworkContinuation (issueRef : String) (candidates : List String)
  | staleReworkContinuation (issueRef pullRequestUrl state : String)
  | missingReworkContinuationBranch (issueRef pullRequestUrl : String)
  | workspacePreflightBlocked (issueRef reason : String)
deriving DecidableEq

/-- A character inside a quoted text. -/
def debugChar (c : Char) : List Char :=
  match c with
  | '"' => ['\\', '"']
  | '\\' => ['\\', '\\']
  | '\n' => ['\\', 'n']
  | '\r' => ['\\', 'r']
  | '\t' => ['\\', 't']
  | c =>
      if c.toNat = 0 then ['\\', '0']
      else if Text.isControl c then
        ['\\', 'u', '\x7b'] ++ Nat.toDigits 16 c.toNat ++ ['\x7d']
      else [c]

/-- A text as a debug print quotes it. -/
def debugText (text : String) : String :=
  String.ofList ('"' :: text.toList.flatMap debugChar ++ ['"'])

def HandoffError.display : HandoffError → String
  | branchIssueMismatch branchName expectedIssue foundIssue =>
      "branch " ++ branchName ++ " appears to belong to issue #" ++ foundIssue ++ ", expected #"
        ++ expectedIssue
  | ambiguousReworkContinuation issueRef candidates =>
      "issue " ++ issueRef ++ " has multiple open pull request candidates: ["
        ++ Text.join ", " (candidates.map debugText) ++ "]"
  | staleReworkContinuation issueRef pullRequestUrl state =>
      "issue " ++ issueRef ++ " has stale pull request evidence " ++ pullRequestUrl ++ " in state "
        ++ state
  | missingReworkContinuationBranch issueRef pullRequestUrl =>
      "issue " ++ issueRef ++ " has pull request " ++ pullRequestUrl
        ++ " but no safe branch/workspace evidence"
  | workspacePreflightBlocked issueRef reason =>
      "issue " ++ issueRef ++ " workspace preflight blocked Main launch: " ++ reason

inductive BranchIssueCheck where
  | matching (issueNumber : String)
  | mismatch (expected found : String)
  | unknown
deriving DecidableEq

/-! ## Branches and their issues -/

def defaultBranchPrefix : String := "feature"

/-- The number behind the first token `issue`, or in the first token that starts with it. -/
def issueNumberOfTokens : List String → Option String
  | [] => none
  | token :: rest =>
      (if Text.eqIgnoreAsciiCase token "issue" then rest.head?.bind digitsOnly else none)
        <|> (Text.stripPrefix (Text.toAsciiLowercase token) "issue").bind digitsOnly
        <|> issueNumberOfTokens rest

def branchIssueNumber (branchName : String) : Option String :=
  issueNumberOfTokens
    (((branchName.toList.splitOnP fun c => !c.isAlphanum).map String.ofList).filter (· != ""))

def checkBranchIssue (branchName issueIdentifier : String) : BranchIssueCheck :=
  match issueNumber issueIdentifier, branchIssueNumber branchName with
  | some expected, some found =>
      if expected = found then .matching found else .mismatch expected found
  | _, _ => .unknown

def guardBranchForIssue (branchName issueIdentifier : String) :
    Except HandoffError BranchIssueCheck :=
  match checkBranchIssue branchName issueIdentifier with
  | .mismatch expected found => .error (.branchIssueMismatch branchName expected found)
  | check => .ok check

def branchNameForIssue (case : Text.UnicodeCase) (issueIdentifier title : String) : String :=
  defaultBranchPrefix ++ "/" ++ issueSlug case issueIdentifier ++ "-" ++ titleSlug case title

/-! ## Workspaces -/

def workspaceKeyForIssue (case : Text.UnicodeCase) (issueIdentifier title : String) : String :=
  safeIdentifier (issueSlug case issueIdentifier ++ "-" ++ titleSlug case title)

def profileWorkspaceKeyForIssue (case : Text.UnicodeCase) (profileId : Option String)
    (issueIdentifier title : String) : String :=
  match (profileId.map Text.trim).filter (· != "") with
  | some profileId =>
      safeIdentifier (safeIdentifier profileId ++ "--"
        ++ workspaceKeyForIssue case issueIdentifier title)
  | none => workspaceKeyForIssue case issueIdentifier title

/-- `Path::join` on texts. -/
def joinPath (base name : String) : String :=
  if Text.startsWith name "/" then name
  else if base = "" ∨ base.toList.getLast? = some '/' then base ++ name
  else base ++ "/" ++ name

/-! ## Rework -/

def pullRequestIsOpen (pullRequest : LinkedPullRequest) : Bool :=
  pullRequest.state.any fun state => Text.eqIgnoreAsciiCase state "open"

def pullRequestUrl (pullRequest : LinkedPullRequest) : String :=
  (pullRequest.url <|> pullRequest.number.map fun number =>
    "pull request #" ++ toString number).getD "unknown pull request"

def reworkContinuationEvidence (case : Text.UnicodeCase) (issue : MainIssue) :
    Except HandoffError (Option ReworkContinuationEvidence) :=
  if issue.normalizedState case ≠ "rework" then .ok none
  else
    match issue.linkedPullRequests with
    | [] => .ok none
    | first :: _ =>
        match issue.linkedPullRequests.filter pullRequestIsOpen with
        | [] => .error (.staleReworkContinuation issue.identifier (pullRequestUrl first)
            (first.state.getD "unknown"))
        | [pullRequest] =>
            let branchName := (pullRequest.headRefName.map Text.trim).filter (· != "")
            .ok (some {
              pullRequestUrl := pullRequestUrl pullRequest
              pullRequestState := pullRequest.state.getD "unknown"
              branchName
              source :=
                if branchName.isSome then "linked_pull_request_head_ref"
                else "linked_pull_request" })
        | candidates => .error (.ambiguousReworkContinuation issue.identifier
            (candidates.map pullRequestUrl))

/-! ## The pull request -/

def BranchTargetRole.shown : BranchTargetRole → String
  | .singleIssue => "SingleIssue"
  | .subissue => "Subissue"
  | .parentIssue => "ParentIssue"

def branchLine (name value : String) : String := "- " ++ name ++ ": \x60" ++ value ++ "\x60"

def renderPullRequestBody (issueRef issueTitle : String) (branchTarget : BranchTargetEvidence) :
    String :=
  let branchLines :=
    [branchLine "Branch target role" (BranchTargetRole.shown branchTarget.role),
      branchLine "PR base branch" branchTarget.pullRequestBaseBranch]
    ++ (branchTarget.parentIssue.map (branchLine "Native parent issue")).toList
    ++ (branchTarget.parentIntegrationBranch.map (branchLine "Parent integration branch")).toList
    ++ (branchTarget.parentFinalBaseBranch.map (branchLine "Parent final PR base branch")).toList
  "## Summary\n- Implements " ++ issueRef ++ ": " ++ issueTitle
    ++ ".\n\n## Branch Target Evidence\n" ++ Text.join "\n" branchLines
    ++ "\n\n## Verification\n- cargo test\n- cargo fmt --check\n- cargo clippy --all-targets --all-features -- -D warnings\n\n## Handoff\nMain implementation work stops at Agent Review. Human Review remains reserved for an independent Review Agent after passing evidence is recorded.\n\nCloses "
    ++ issueRef ++ "\n"

def PullRequestHandoffPlan.newWithBranchTarget (issueRef issueTitle headBranch : String)
    (branchTarget : BranchTargetEvidence) : PullRequestHandoffPlan where
  title := Text.trim issueRef ++ ": " ++ Text.trim issueTitle
  headBranch := headBranch
  baseBranch := branchTarget.pullRequestBaseBranch
  issueRef := issueRef
  body := renderPullRequestBody issueRef issueTitle branchTarget

/-! ## The plan -/

/-- The branch of the pull request that a rework goes on with. -/
def continuedBranch (issue : MainIssue) (continuation : ReworkContinuationEvidence) :
    Except HandoffError String :=
  match (continuation.branchName.map Text.trim).filter (· != "") with
  | some branchName => (guardBranchForIssue branchName issue.identifier).map fun _ => branchName
  | none =>
      .error (.missingReworkContinuationBranch issue.identifier continuation.pullRequestUrl)

/-- The integration branch of a parent, and the branch of an issue of its own. -/
def ownBranch (case : Text.UnicodeCase) (issue : MainIssue) (branchTarget : BranchTargetEvidence) :
    String :=
  if branchTarget.role = .parentIssue then
    branchTarget.parentIntegrationBranch.getD
      (branchNameForIssue case issue.identifier issue.title)
  else branchNameForIssue case issue.identifier issue.title

def plannedBranch (case : Text.UnicodeCase) (issue : MainIssue)
    (continuation : Option ReworkContinuationEvidence) (branchTarget : BranchTargetEvidence) :
    Except HandoffError String :=
  match issue.branchName with
  | some existing =>
      if issue.normalizedState case = "rework" then .ok existing
      else .ok (ownBranch case issue branchTarget)
  | none =>
      match continuation with
      | some continuation => continuedBranch issue continuation
      | none => .ok (ownBranch case issue branchTarget)

def guardExistingBranch (issue : MainIssue) : Except HandoffError Unit :=
  match issue.branchName with
  | some existing => (guardBranchForIssue existing issue.identifier).map fun _ => ()
  | none => .ok ()

def planIssueHandoffForProfile (case : Text.UnicodeCase) (workspaceRoot : String)
    (issue : MainIssue) (baseBranch : String) (profileId : Option String) :
    Except HandoffError IssueHandoffPlan := do
  let continuation ← reworkContinuationEvidence case issue
  guardExistingBranch issue
  let branchTarget := branchTargetEvidence case issue.toTrackerIssue baseBranch
  let branchName ← plannedBranch case issue continuation branchTarget
  let workspaceKey := profileWorkspaceKeyForIssue case profileId issue.identifier issue.title
  return {
    issueRef := issue.identifier
    issueTitle := issue.title
    workspaceKey
    workspacePath := joinPath workspaceRoot workspaceKey
    branchName
    pullRequest := .newWithBranchTarget issue.identifier issue.title branchName branchTarget
    branchTarget
    continuation }

end SheaSymphony.MainHandoff

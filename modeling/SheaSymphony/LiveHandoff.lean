import SheaSymphony.GitHandoff

/-!
# The live handoff

What follows a successful run: `apply_live_handoff_steps` commits, verifies, publishes,
links the pull request and takes it out of draft, and `evaluate_agent_review_handoff`
judges what has come of it (`lanes/main_loop/write_candidate/live_handoff.rs`,
`lanes/main_loop/handoff.rs` and `handoff.rs`).

A failed step does not stop the handoff: it takes the success of the result back and
says so in its message.
-/

namespace SheaSymphony.MainHandoff

open Interrupted (Program)
open Preflight (compactEvidence)

/-- What the handoff reads of the configuration. -/
structure HandoffConfig where
  trackerKind : String
  trackerFixturePath : Option String
  verificationCommands : List String
deriving DecidableEq

def runLoopLiveHandoffEnabled (config : HandoffConfig) : Bool :=
  config.trackerKind == "github_project_v2" && config.trackerFixturePath.isNone

/-- A step of the handoff has failed. -/
def HandoffResult.failed (result : HandoffResult) (message : String) : HandoffResult :=
  { result with success := false, message }

/-! ## Linked pull requests -/

def lastSegment (text : String) : String :=
  (Text.splitChar '/' text).getLastD ""

def pullRequestNumberFromUrl (url : String) : Option Nat :=
  parseU64 (lastSegment (String.ofList ((Text.trim url).toList.rdropWhile (· == '/'))))

/-- `trim_start_matches` of a text. -/
def dropPrefixes (pattern : List Char) : Nat → List Char → List Char
  | 0, text => text
  | fuel + 1, text =>
      if pattern.isPrefixOf text then dropPrefixes pattern fuel (text.drop pattern.length) else text

def pullRequestNumberFromRef (reference : String) : Option Nat :=
  pullRequestNumberFromUrl reference <|>
    let text := (Text.trimStartMatches '#' (Text.trim reference)).toList
    parseU64 (String.ofList (dropPrefixes "PR_".toList text.length text))

def linkedPullRequestMatches (linked : LinkedPullRequest) (prUrl : String) : Bool :=
  let expectedUrl := Text.trim prUrl
  let expectedNumber := pullRequestNumberFromRef expectedUrl
  (linked.url.any fun url => Text.trim url == expectedUrl)
    || (expectedNumber.isSome && linked.number == expectedNumber)

def linkedPullRequestsContain (linked : List LinkedPullRequest) (prUrl : String) : Bool :=
  linked.any fun linked => linkedPullRequestMatches linked prUrl

def nativeLinkedPullRequestsContain (linked : List LinkedPullRequest) (prUrl : String) : Bool :=
  (linked.filter LinkedPullRequest.isGithubNativeLinkage).any fun linked =>
    linkedPullRequestMatches linked prUrl

section
variable {σ ε : Type} (outside : HandoffOutside σ)

def listLinkedPullRequests (issueRef : String) :
    Program (HandoffWorld σ) String (List LinkedPullRequest) := do
  match ← call (.listed issueRef) fun state => outside.listLinkedPullRequests state issueRef with
  | .ok linked => return linked
  | .error error => Program.stop ("handoff PR link verification failed: " ++ error)

def linkPullRequest (issueRef prUrl : String) : Program (HandoffWorld σ) String Unit := do
  match ← call (.linked issueRef prUrl) fun state => outside.linkPullRequest state issueRef prUrl with
  | .ok () => return ()
  | .error error => Program.stop ("handoff PR link repair failed: " ++ error)

def linkNotVisible (prUrl : String) : String :=
  "linked PR was not visible after repair attempt: " ++ prUrl
    ++ "; fallback_diagnostic_visible=false"

def recordLiveHandoffPrLink (issueRef : String) (result : HandoffResult) :
    Program (HandoffWorld σ) String Unit :=
  match result.liveHandoff with
  | none => return ()
  | some handoff => do
      let linked ← listLinkedPullRequests outside issueRef
      if nativeLinkedPullRequestsContain linked handoff.publication.prUrl then return ()
      else
        linkPullRequest outside issueRef handoff.publication.prUrl
        let linked ← listLinkedPullRequests outside issueRef
        Program.require (linkedPullRequestsContain linked handoff.publication.prUrl)
          (linkNotVisible handoff.publication.prUrl)

/-- Whether the pull request has been linked, and the result with what has come of it. -/
def applyLiveHandoffPrLink (issueRef : String) (result : HandoffResult) :
    Program (HandoffWorld σ) ε (Bool × HandoffResult) :=
  match result.liveHandoff with
  | none => return (false, result)
  | some handoff => do
      match ← attempt (recordLiveHandoffPrLink outside issueRef result) with
      | .ok () =>
          return (true, { result with
            liveHandoff := some { handoff with projectPrLinkVerified := some true } })
      | .error error =>
          return (false, { result.failed error with
            liveHandoff := some { handoff with projectPrLinkVerified := some false } })

/-! ## Steps -/

variable (config : HandoffConfig) (issue : MainIssue) (plan : IssueHandoffPlan)
  (profileId : Option String)

def shellSummary (command : String) : String := "\x60" ++ compactEvidence command ++ "\x60"

/-- The commands from the one with the index on, of as many as are configured. -/
def verifyFrom (total index : Nat) : List String → Program (HandoffWorld σ) ε HandoffVerification
  | [] =>
      return { success := true
               summary := "passed:" ++ toString total ++ " command(s) runtime_profile="
                 ++ profileId.getD "not_configured" }
  | command :: rest => do
      match ← call (.verified command) fun state => outside.verify state command with
      | .error error =>
          return { success := false
                   summary := "failed command=" ++ shellSummary command ++ " index="
                     ++ toString index ++ " error=" ++ compactEvidence error }
      | .ok () => verifyFrom total (index + 1) rest

def runHandoffVerification : Program (HandoffWorld σ) ε HandoffVerification :=
  if config.verificationCommands.isEmpty then
    return { success := true, summary := "skipped:not_configured" }
  else
    verifyFrom outside profileId config.verificationCommands.length 1 config.verificationCommands

def commitMessage : String :=
  "Implement " ++ issue.identifier ++ ": "
    ++ String.ofList (issue.title.toList.map fun c => if c = '\n' ∨ c = '\r' then ' ' else c)

/-- What a codex run has left in its worktree is committed. -/
def commitLocalChanges (result : HandoffResult) : Program (HandoffWorld σ) ε HandoffResult :=
  if result.backend = "codex" then do
    match ← attempt (commitIssueWorktreeChanges outside plan (commitMessage issue)) with
    | .ok _ => return result
    | .error error => return result.failed ("handoff commit failed: " ++ error.display)
  else return result

def verifyLocalChanges (result : HandoffResult) : Program (HandoffWorld σ) ε HandoffVerification :=
  if result.success then runHandoffVerification outside config profileId
  else return { success := false, summary := result.message }

def publishVerified (worktree : LiveWorktreeResult) (verification : HandoffVerification)
    (result : HandoffResult) : Program (HandoffWorld σ) ε HandoffResult :=
  let result := { result with handoffVerification := some verification.summary }
  if verification.success then do
    match ← attempt (publishIssuePullRequest outside plan) with
    | .ok publication =>
        return { result with
          liveHandoff := some { worktree, publication, verification := verification.summary
                                projectPrLinkVerified := none, pullRequestReady := none } }
    | .error error => return result.failed ("handoff publication failed: " ++ error.display)
  else return result.failed ("handoff verification failed: " ++ verification.summary)

/-- From the worktree to the pull request. -/
def publishWorktree (worktree : LiveWorktreeResult) (result : HandoffResult) :
    Program (HandoffWorld σ) ε HandoffResult := do
  let result ← commitLocalChanges outside issue plan result
  let verification ← verifyLocalChanges outside config profileId result
  publishVerified outside plan worktree verification result

def linkPublished (result : HandoffResult) : Program (HandoffWorld σ) ε HandoffResult :=
  if result.success then do
    let (_, result) ← applyLiveHandoffPrLink outside issue.identifier result
    return result
  else return result

def readyPublished (result : HandoffResult) : Program (HandoffWorld σ) ε HandoffResult :=
  if result.success then
    match result.liveHandoff with
    | none => return result
    | some handoff => do
        match ← attempt (ensurePullRequestReady outside handoff.publication.prUrl
            handoff.worktree.workspacePath) with
        | .ok ready =>
            return { result with
              liveHandoff := some { handoff with pullRequestReady := some ready } }
        | .error error => return result.failed ("handoff PR ready check failed: " ++ error.display)
  else return result

def applyLiveHandoffSteps (liveWorktree : Option LiveWorktreeResult) (result : HandoffResult) :
    Program (HandoffWorld σ) ε HandoffResult := do
  let result ← match liveWorktree with
    | some worktree => publishWorktree outside config issue plan profileId worktree result
    | none => pure result
  let result ← linkPublished outside issue result
  readyPublished outside result

end

/-! ## Salvage -/

def appServerStall : String := "Codex app-server stalled waiting for turn event"

/-- The log is the content of its file where that can be read. -/
def failedBackendHasSalvageableTransportEvidence (result : HandoffResult) (log : Option String) :
    Bool :=
  Text.contains result.message appServerStall
    || log.any fun content => Text.contains content appServerStall

/-- A codex run that has failed for good and has handed nothing off. -/
def failedWithoutHandoff (result : HandoffResult) : Bool :=
  result.backend == "codex" && !result.success && !result.pendingSession
    && result.usageLimitPause.isNone && result.liveHandoff.isNone

def failedBackendCanUseLiveHandoff (result : HandoffResult) (log : Option String) : Bool :=
  failedWithoutHandoff result && failedBackendHasSalvageableTransportEvidence result log

def HandoffResult.salvaged (result : HandoffResult) : HandoffResult :=
  { result with
    success := true
    message := "backend failed after local work; attempting live handoff salvage: "
      ++ result.message }

/-! ## Evidence -/

def markdownHasHeading (markdown heading : String) : Bool :=
  (Text.lines markdown).any fun line =>
    let trimmed := Text.trim line
    trimmed == heading || ((Text.stripPrefix trimmed heading).any fun rest => Text.startsWith rest " ")

def AgentReviewHandoffEvidence.fromPlan (plan : IssueHandoffPlan)
    (validationSummary lastTransition : String) : AgentReviewHandoffEvidence where
  issueRef := plan.issueRef
  workspaceKey := plan.workspaceKey
  workspacePath := plan.workspacePath
  branchName := plan.branchName
  branchTarget := plan.branchTarget
  pullRequestUrl := none
  projectPrLinkVerified := none
  pullRequestIsDraft := none
  mainWorkpadHasPlan := none
  mainWorkpadHasWorkLog := none
  validationSummary := validationSummary
  lastTransition := lastTransition
  noPrBlocker := none

def AgentReviewHandoffEvidence.recordMainWorkpadMarkdown (evidence : AgentReviewHandoffEvidence)
    (markdown : Option String) : AgentReviewHandoffEvidence :=
  { evidence with
    mainWorkpadHasPlan := some (markdown.any (markdownHasHeading · "### Plan"))
    mainWorkpadHasWorkLog := some (markdown.any (markdownHasHeading · "### Work Log")) }

def validationSummary (result : HandoffResult) : String :=
  "backend=" ++ result.backend ++ " success=" ++ toString result.success ++ " session="
    ++ result.sessionId.getD "n/a" ++ " message=" ++ result.message

def evidencePullRequestUrl (issue : MainIssue) (result : HandoffResult) : Option String :=
  (result.liveHandoff.map fun handoff => handoff.publication.prUrl)
    <|> issue.linkedPullRequests.findSome? fun pr => pr.url

def evidencePullRequestIsDraft (issue : MainIssue) (result : HandoffResult) : Option Bool :=
  (result.liveHandoff.bind fun handoff =>
      handoff.pullRequestReady.map fun ready => ready.wasDraft && !ready.markedReady)
    <|> (evidencePullRequestUrl issue result).bind fun url =>
      (issue.linkedPullRequests.find? fun pr => pr.url == some url).bind fun pr => pr.isDraft

def evidenceProjectPrLinkVerified (issue : MainIssue) (result : HandoffResult) : Option Bool :=
  (result.liveHandoff.bind fun handoff => handoff.projectPrLinkVerified)
    <|> (evidencePullRequestUrl issue result).map fun url =>
      nativeLinkedPullRequestsContain issue.linkedPullRequests url

def missingPullRequestBlocker : String :=
  "No pull request URL was present in tracker data at handoff time; keeping issue out of Agent Review until PR evidence is durable."

def runLoopAgentReviewHandoffEvidence (issue : MainIssue) (result : HandoffResult)
    (plan : IssueHandoffPlan) (mainWorkpadMarkdown : Option String) : AgentReviewHandoffEvidence :=
  let evidence := (AgentReviewHandoffEvidence.fromPlan plan (validationSummary result)
    "main agent completed local run").recordMainWorkpadMarkdown mainWorkpadMarkdown
  { evidence with
    pullRequestUrl := evidencePullRequestUrl issue result
    pullRequestIsDraft := evidencePullRequestIsDraft issue result
    projectPrLinkVerified := evidenceProjectPrLinkVerified issue result
    noPrBlocker :=
      if (evidencePullRequestUrl issue result).isNone then some missingPullRequestBlocker
      else none }

/-! ## Evaluation -/

/-- What is missing of a fact that has to hold, by what is known of it. -/
def missingFact (fact : Option Bool) (expected : Bool) (violated unknown : String) : List String :=
  match fact with
  | some value => if value = expected then [] else [violated]
  | none => [unknown]

def missingText (value name : String) : List String := if Text.isBlank value then [name] else []

def isGiven (value : Option String) : Bool := value.any fun value => !Text.isBlank value

def missingHandoffEvidence (evidence : AgentReviewHandoffEvidence) : List String :=
  missingText evidence.issueRef "issue id"
    ++ missingText evidence.workspaceKey "workspace key"
    ++ missingText evidence.branchName "branch name"
    ++ missingText evidence.validationSummary "validation summary"
    ++ missingText evidence.lastTransition "last transition"
    ++ missingFact evidence.mainWorkpadHasPlan true "Main Workpad \x60### Plan\x60"
      "Main Workpad \x60### Plan\x60 evidence"
    ++ missingFact evidence.mainWorkpadHasWorkLog true "Main Workpad \x60### Work Log\x60"
      "Main Workpad \x60### Work Log\x60 evidence"
    ++ (if isGiven evidence.pullRequestUrl then
          missingFact evidence.projectPrLinkVerified true "linked PR handoff verification"
              "linked PR handoff verification status"
            ++ missingFact evidence.pullRequestIsDraft false "non-draft pull request"
              "pull request draft status"
        else if isGiven evidence.noPrBlocker then []
        else ["pull request url or explicit no-PR blocker"])

def evaluateAgentReviewHandoff (evidence : AgentReviewHandoffEvidence) :
    AgentReviewHandoffReport :=
  let missing := missingHandoffEvidence evidence
  if missing.isEmpty && isGiven evidence.pullRequestUrl
      && evidence.projectPrLinkVerified == some true && evidence.pullRequestIsDraft == some false
      && evidence.mainWorkpadHasPlan == some true && evidence.mainWorkpadHasWorkLog == some true then
    { status := .ready, missing, targetState := some "agent_review"
      message := "Agent Review handoff invariant passed." }
  else
    { status := .blocked, missing, targetState := some "need_human_input"
      message := "Agent Review handoff invariant is not satisfied; keeping issue out of Agent Review." }

end SheaSymphony.MainHandoff

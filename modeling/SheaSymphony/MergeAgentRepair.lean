import SheaSymphony.AgentEvents
import SheaSymphony.HandoffWorld
import SheaSymphony.Logged

/-!
# Repair of a conflicting merge by an agent

`run_merge_agent_conflict_repair` (`lanes/merge/repair.rs`, `repair/outcome.rs`): the base is
merged into the worktree of a pull request once more, an agent resolves the conflicts, and
what it leaves is staged, committed and pushed. The runner of the commands may answer
whatever it likes; every answer is logged.
-/

namespace SheaSymphony.MergeRepair

open Agent (AgentEvent)
open Interrupted (Program)
open Lanes (LaneClaim)
open Logged (ask attempt mapError note)
open MainHandoff (Command CommandOutput)
open Model (TrackerIssue)

def singleLine (value : String) : String := Text.collapseWhitespace value

/-! ## Outcomes -/

structure MergeRepairEvidence where
  method : String
  conflictSummary : String
  resolutionSummary : String
  semanticSafety : String
  verification : String
  pushEvidence : String
  nextStateRationale : String
deriving DecidableEq

/-- What the mechanical repair before has come to. -/
structure MergeConflictRepairOutcome where
  worktreePath : Option String
  output : CommandOutput
  reason : String
deriving DecidableEq

structure MergeAgentConflictRepairOutcome where
  repaired : Bool
  retryable : Bool
  output : CommandOutput
  evidence : MergeRepairEvidence
  reason : String
  backend : String
  sessionId : Option String
deriving DecidableEq

def mergeAgentRepairBlocked (reason : String) (mechanicalRepair : MergeConflictRepairOutcome) :
    MergeAgentConflictRepairOutcome where
  repaired := false
  retryable := false
  output := mechanicalRepair.output
  evidence :=
    { method := "merge_agent_not_started"
      conflictSummary := mechanicalRepair.reason
      resolutionSummary := reason
      semanticSafety := "Trusted repair preconditions failed before the merge-agent could safely edit files."
      verification := "No agent verification ran."
      pushEvidence := "No push attempted."
      nextStateRationale := "Route to \x60Need Human Input\x60 because the merge lane cannot prove safe branch repair." }
  reason := reason
  backend := "not-started"
  sessionId := none

def mergeAgentRepairBackendFailed (backend reason conflictSummary : String) :
    MergeAgentConflictRepairOutcome where
  repaired := false
  retryable := true
  output := ⟨1, "", reason⟩
  evidence :=
    { method := "merge_agent_backend"
      conflictSummary := conflictSummary
      resolutionSummary := reason
      semanticSafety := "Backend failure prevents semantic-safety proof."
      verification := "No completed repair verification."
      pushEvidence := "No push attempted."
      nextStateRationale := "Keep the issue in \x60Merging\x60 for retry because the repair backend did not reach a semantic decision." }
  reason := reason
  backend := backend
  sessionId := none

def mergeAgentRepairSemanticUncertainty (backend : String) (sessionId : Option String)
    (conflictSummary reason : String) : MergeAgentConflictRepairOutcome where
  repaired := false
  retryable := false
  output := ⟨1, reason, ""⟩
  evidence :=
    { method := "merge_agent_semantic_uncertainty"
      conflictSummary := conflictSummary
      resolutionSummary := singleLine reason
      semanticSafety := "The merge-agent did not provide a positive semantic-safety proof."
      verification := "Repair verification was skipped or incomplete because semantic safety was uncertain."
      pushEvidence := "No push attempted."
      nextStateRationale := "Route to \x60Need Human Input\x60 with a concrete semantic-safety question." }
  reason := "merge-agent repair could not prove semantic safety"
  backend := backend
  sessionId := sessionId

def mergeAgentRepairVerificationFailed (backend : String) (sessionId : Option String)
    (conflictSummary reason : String) : MergeAgentConflictRepairOutcome where
  repaired := false
  retryable := false
  output := ⟨1, "", reason⟩
  evidence :=
    { method := "merge_agent_verification_failed"
      conflictSummary := conflictSummary
      resolutionSummary := reason
      semanticSafety := "Verification failure prevents treating the repair as safe."
      verification := reason
      pushEvidence := "No push attempted."
      nextStateRationale := "Route to \x60Need Human Input\x60 because the repaired branch was not clean and verified." }
  reason := reason
  backend := backend
  sessionId := sessionId

def mergeAgentRepairRetryableVerificationFailed (backend : String) (sessionId : Option String)
    (conflictSummary reason : String) : MergeAgentConflictRepairOutcome where
  repaired := false
  retryable := true
  output := ⟨1, "", reason⟩
  evidence :=
    { method := "merge_agent_retryable_verification_failed"
      conflictSummary := conflictSummary
      resolutionSummary := reason
      semanticSafety := "The merge lane cleaned up the interrupted repair attempt before retrying."
      verification := reason
      pushEvidence := "No push attempted."
      nextStateRationale := "Keep the issue in \x60Merging\x60 because the failed repair attempt was cleaned up and can be retried automatically." }
  reason := reason
  backend := backend
  sessionId := sessionId

/-- The state a dirty merge goes on to behind an outcome, unless it stays (`tick/dirty.rs`). -/
def MergeAgentConflictRepairOutcome.targetState (outcome : MergeAgentConflictRepairOutcome) :
    Option String :=
  if outcome.repaired || outcome.retryable then none else some "need_human_input"

/-! ## What the agent says -/

def agentEventText : AgentEvent → Option String
  | .message _ _ text => some text
  | .completed _ _ summary => some summary
  | .failed _ error => some error
  | _ => none

def agentEventsText (events : List AgentEvent) : String :=
  Text.join "\n" (events.filterMap agentEventText)

def mergeAgentReportsRepaired (text : String) : Bool :=
  Text.contains text "MERGE_AGENT_DECISION: repaired"

def mergeAgentRequestsHumanInput (text : String) : Bool :=
  Text.contains text "MERGE_AGENT_DECISION: needs_human_input"
    || Text.contains (Text.toAsciiLowercase text) "semantic uncertainty"

def markerLine (text marker : String) : Option String :=
  ((Text.lines text).findSome? fun line =>
    (Text.stripPrefix (Text.trim line) marker).map Text.trim).filter (· != "")

def mergeAgentResolutionSummary (text : String) : String :=
  (markerLine text "RESOLUTION_SUMMARY:").getD "Merge-agent reported repaired conflict resolution."

def mergeAgentSemanticSafety (text : String) : String :=
  (markerLine text "SEMANTIC_SAFETY:").getD
    "Merge-agent reported that reviewed implementation intent was preserved."

/-! ## What the repair is given -/

structure RepairRequest where
  issue : TrackerIssue
  claim : LaneClaim
  prRef : String
  headRefName : String
  expectedBase : String
  mechanicalRepair : MergeConflictRepairOutcome

structure AgentSessionBackendSpec where
  backend : String
  command : String
deriving DecidableEq

structure PreparedRun where
  backend : String
  workspace : String
  prompt : String
  promptArtifactPath : Option String
  command : Option String
  env : String → Option String
  issueId : Option String
  issueIdentifier : Option String
  issueTitle : Option String
  lane : Option String
  runId : Option String
  branchName : Option String

structure AgentSummary where
  backend : String
  success : Bool
  sessionId : Option String
  message : String
deriving DecidableEq

structure AgentBackend where
  prepare : (workspace renderedPrompt : String) → Except String PreparedRun
  run : PreparedRun → Except String (List AgentEvent)
  summarize : List AgentEvent → AgentSummary

/-- The prompt's templates, the configured backend and the event log. -/
structure AgentSessions where
  conflictRepairPrompt : RepairRequest → (conflictSummary : String) → Except String String
  backendSpec : Except String AgentSessionBackendSpec
  backend : String → Except String AgentBackend
  promptArtifactPath : TrackerIssue → (backend : String) → String
  recordEvents : AgentSummary → List AgentEvent → (promptPath : String) → Except String Unit

inductive MergeAgentStageFailure where
  | retryable (reason : String)
  | unsafely (reason : String)
deriving DecidableEq

def MergeAgentStageFailure.display : MergeAgentStageFailure → String
  | retryable reason | unsafely reason => reason

/-- What the repair has been answered; the result of staging is logged as well. -/
inductive RepairEvent where
  | ran (command : Command) (answer : Except String CommandOutput)
  | prepared (answer : Except String PreparedRun)
  | agentRan (answer : Except String (List AgentEvent))
  | recorded (answer : Except String Unit)
  | staged (result : Except MergeAgentStageFailure Unit)

/-- An answer may depend on everything before it. -/
abbrev Runner := List RepairEvent → Command → Except String CommandOutput

abbrev Repairing := Program (List RepairEvent)

/-! ## Commands -/

section
variable (worktreePath : String)

def git (args : List String) : Command := ⟨"git", args, worktreePath⟩

def statusCommand : Command := git worktreePath ["status", "--porcelain"]

def fetchCommand (expectedBase : String) : Command :=
  git worktreePath ["fetch", "origin", expectedBase]

def mergeCommand (expectedBase : String) : Command :=
  git worktreePath ["merge", "--no-edit", "origin/" ++ expectedBase]

def abortCommand : Command := git worktreePath ["merge", "--abort"]

def unmergedCommand : Command := git worktreePath ["diff", "--name-only", "--diff-filter=U"]

def diffCheckCommand : Command := git worktreePath ["diff", "--check"]

def addCommand : Command := git worktreePath ["add", "-A"]

def mergeHeadCommand : Command := git worktreePath ["rev-parse", "-q", "--verify", "MERGE_HEAD"]

def commitCommand : Command := git worktreePath ["commit", "--no-edit"]

def pushCommand (headRefName : String) : Command := git worktreePath ["push", "origin", headRefName]

end

variable (runner : Runner) (sessions : AgentSessions) (request : RepairRequest)
  (worktreePath : String)

def run (command : Command) : Repairing String CommandOutput :=
  ask (.ran command) fun log => runner log command

/-! ## Finishing -/

def isClean (status : CommandOutput) : Bool := status.status == 0 && Text.isBlank status.stdout

def outputs (output : CommandOutput) : String :=
  "stdout=\x60" ++ singleLine output.stdout ++ "\x60 stderr=\x60" ++ singleLine output.stderr ++ "\x60"

/-- What the evidence of a repair says. -/
structure RepairStory where
  method : String
  conflictSummary : String
  resolutionSummary : String
  semanticSafety : String
  verificationCommands : List String

def finishMergeAgentRepairedBranch (story : RepairStory) (initialOutput : CommandOutput)
    (backend : String) (sessionId : Option String) :
    Repairing String MergeAgentConflictRepairOutcome := do
  let postStatus ← run runner (statusCommand worktreePath)
  if !isClean postStatus then
    return mergeAgentRepairVerificationFailed backend sessionId story.conflictSummary
      ("repaired branch was not clean before push: \x60" ++ singleLine postStatus.stdout ++ "\x60")
  else
    let push ← run runner (pushCommand worktreePath request.headRefName)
    if push.status != 0 then
      return mergeAgentRepairVerificationFailed backend sessionId story.conflictSummary
        ("push failed: " ++ outputs push)
    else
      return {
        repaired := true
        retryable := false
        output := ⟨0, singleLine initialOutput.stdout ++ "\n" ++ singleLine push.stdout,
          singleLine push.stderr⟩
        evidence :=
          { method := story.method
            conflictSummary := story.conflictSummary
            resolutionSummary := story.resolutionSummary
            semanticSafety := story.semanticSafety
            verification := Text.join "; " story.verificationCommands
            pushEvidence := "\x60git push origin " ++ request.headRefName ++ "\x60 exit status \x60"
              ++ toString push.status ++ "\x60"
            nextStateRationale := "Successful merge-agent repair stays in \x60Merging\x60 so the next merge tick rereads GitHub mergeability before landing." }
        reason := "merge-agent repaired the conflicted approved PR branch, verification passed, and the existing branch was pushed"
        backend := backend
        sessionId := sessionId }

/-! ## Staging -/

def runStage (command : Command) : Repairing MergeAgentStageFailure CommandOutput :=
  mapError .retryable (run runner command)

def stageResolvedMergeAgentChanges : Repairing MergeAgentStageFailure Unit := do
  let diffCheck ← runStage runner (diffCheckCommand worktreePath)
  if diffCheck.status != 0 then
    Program.stop (.retryable ("\x60git diff --check\x60 failed: " ++ outputs diffCheck))
  else
    let preCommitStatus ← runStage runner (statusCommand worktreePath)
    if (Text.lines preCommitStatus.stdout).any fun line => Text.startsWith line "??" then
      Program.stop (.unsafely "merge-agent left untracked files in the PR worktree")
    else
      let add ← runStage runner (addCommand worktreePath)
      if add.status != 0 then
        Program.stop (.unsafely ("\x60git add -A\x60 failed after merge-agent reported repair: "
          ++ outputs add))
      else
        let unresolved ← runStage runner (unmergedCommand worktreePath)
        if !isClean unresolved then
          Program.stop (.retryable ("unresolved conflict files remain after staging: \x60"
            ++ singleLine unresolved.stdout ++ "\x60"))
        else
          return ()

def abortMerge : Repairing String Unit := do
  let _ ← attempt (run runner (abortCommand worktreePath))
  return ()

def isMergeInProgress : Except String CommandOutput → Bool
  | .ok output => output.status == 0
  | .error _ => false

def abortMergeRepairIfActive : Repairing String Unit := do
  let mergeHead ← attempt (run runner (mergeHeadCommand worktreePath))
  if isMergeInProgress mergeHead then abortMerge runner worktreePath else return ()

/-! ## The agent's session -/

structure AgentSession where
  spec : AgentSessionBackendSpec
  backend : AgentBackend
  promptPath : String
  prepared : PreparedRun

def prepareSession (conflictSummary : String) : Except String AgentSession := do
  let prompt ← sessions.conflictRepairPrompt request conflictSummary
  let spec ← sessions.backendSpec
  let backend ← sessions.backend spec.backend
  let promptPath := sessions.promptArtifactPath request.issue spec.backend
  let prepared ← backend.prepare worktreePath prompt
  return {
    spec
    backend
    promptPath
    prepared :=
      { prepared with
        command := some spec.command
        promptArtifactPath := some promptPath
        issueId := some request.issue.id
        issueIdentifier := some request.issue.identifier
        issueTitle := some request.issue.title
        lane := some "merge"
        runId := some request.claim.run
        branchName := some request.headRefName
        env := Function.update (Function.update (Function.update prepared.env
          "SHEA_SYMPHONY_AGENT_LANE" (some "merge"))
          "SHEA_SYMPHONY_RUN_ID" (some request.claim.run))
          "SHEA_SYMPHONY_CLAIM" (some request.claim.render) } }

/-! ## The repair -/

def conflictSummary (conflictFiles : CommandOutput) : String :=
  if Text.isBlank conflictFiles.stdout then
    "Git reported conflicts while merging \x60origin/" ++ request.expectedBase
      ++ "\x60, but no unmerged files were listed."
  else
    "Conflicted files after merging \x60origin/" ++ request.expectedBase ++ "\x60: \x60"
      ++ singleLine conflictFiles.stdout ++ "\x60"

/-- What the agent says about its repair. -/
def agentStory (conflictSummary agentText : String) : RepairStory where
  method := "merge_agent"
  conflictSummary := conflictSummary
  resolutionSummary := mergeAgentResolutionSummary agentText
  semanticSafety := mergeAgentSemanticSafety agentText
  verificationCommands :=
    ["git diff --name-only --diff-filter=U", "git diff --check", "git status --porcelain"]

/-- The merge is committed unless that has been done, and the branch is pushed. -/
def concludeMerge (conflictSummary agentText : String) (summary : AgentSummary) :
    Repairing String MergeAgentConflictRepairOutcome := do
  let finish := finishMergeAgentRepairedBranch runner request worktreePath
    (agentStory conflictSummary agentText) ⟨0, summary.message, ""⟩ summary.backend summary.sessionId
  let mergeHead ← run runner (mergeHeadCommand worktreePath)
  if mergeHead.status == 0 then
    let commit ← run runner (commitCommand worktreePath)
    if commit.status != 0 then
      abortMergeRepairIfActive runner worktreePath
      return mergeAgentRepairRetryableVerificationFailed summary.backend summary.sessionId
        conflictSummary ("\x60git commit --no-edit\x60 failed: " ++ outputs commit)
    else finish
  else finish

/-- What the agent has left is staged. -/
def applyRepair (conflictSummary agentText : String) (summary : AgentSummary) :
    Repairing String MergeAgentConflictRepairOutcome := do
  let result ← attempt (stageResolvedMergeAgentChanges runner worktreePath)
  note (.staged result)
  match result with
  | .error reason =>
      abortMergeRepairIfActive runner worktreePath
      return mergeAgentRepairVerificationFailed summary.backend summary.sessionId conflictSummary
        reason.display
  | .ok () => concludeMerge runner request worktreePath conflictSummary agentText summary

/-- What is made of a session that has ended. -/
def judgeSession (conflictSummary agentText : String) (summary : AgentSummary) :
    Repairing String MergeAgentConflictRepairOutcome := do
  if !summary.success then
    abortMerge runner worktreePath
    return mergeAgentRepairBackendFailed summary.backend
      ("merge-agent backend did not complete: " ++ summary.message) conflictSummary
  else if mergeAgentRequestsHumanInput agentText then
    abortMerge runner worktreePath
    return mergeAgentRepairSemanticUncertainty summary.backend summary.sessionId conflictSummary
      agentText
  else if !mergeAgentReportsRepaired agentText then
    abortMerge runner worktreePath
    return mergeAgentRepairSemanticUncertainty summary.backend summary.sessionId conflictSummary
      "merge-agent completed without the required MERGE_AGENT_DECISION marker"
  else applyRepair runner request worktreePath conflictSummary agentText summary

/-- Behind a merge with conflicts. -/
def repairConflict : Repairing String MergeAgentConflictRepairOutcome := do
  let conflictFiles ← run runner (unmergedCommand worktreePath)
  let conflictSummary := conflictSummary request conflictFiles
  let session ← ask (fun answer => .prepared (answer.map AgentSession.prepared))
    fun _ => prepareSession sessions request worktreePath conflictSummary
  let answer ← attempt (ask RepairEvent.agentRan fun _ => session.backend.run session.prepared)
  match answer with
  | .error error =>
      abortMerge runner worktreePath
      return mergeAgentRepairBackendFailed session.spec.backend
        ("merge-agent backend unavailable: " ++ error) conflictSummary
  | .ok events =>
      let summary := session.backend.summarize events
      ask .recorded fun _ => sessions.recordEvents summary events session.promptPath
      judgeSession runner request worktreePath conflictSummary (agentEventsText events) summary

/-- The second merge went through without the agent. -/
def mechanicalStory : RepairStory where
  method := "mechanical_retry"
  conflictSummary := "The second base merge completed before agent edits were needed."
  resolutionSummary := "\x60git merge --no-edit\x60 completed cleanly on retry."
  semanticSafety := "No merge-agent semantic changes were needed."
  verificationCommands := ["git merge --no-edit"]

def repairWorktree : Repairing String MergeAgentConflictRepairOutcome := do
  let cleanAfterAbort ← run runner (statusCommand worktreePath)
  if !isClean cleanAfterAbort then
    return mergeAgentRepairBlocked
      "PR worktree was not clean after aborting the failed mechanical merge" request.mechanicalRepair
  else
    let fetch ← run runner (fetchCommand worktreePath request.expectedBase)
    if fetch.status != 0 then
      return mergeAgentRepairBlocked
        "merge-agent repair could not refresh the expected base branch" request.mechanicalRepair
    else
      let conflictMerge ← run runner (mergeCommand worktreePath request.expectedBase)
      if conflictMerge.status == 0 then
        finishMergeAgentRepairedBranch runner request worktreePath mechanicalStory
          ⟨0, conflictMerge.stdout, conflictMerge.stderr⟩ "direct-cli" none
      else repairConflict runner sessions request worktreePath

def runMergeAgentConflictRepair : Repairing String MergeAgentConflictRepairOutcome :=
  match request.mechanicalRepair.worktreePath with
  | none =>
      pure (mergeAgentRepairBlocked
        "missing trusted PR worktree after mechanical content-conflict repair failed"
        request.mechanicalRepair)
  | some worktreePath => repairWorktree runner sessions request worktreePath

end SheaSymphony.MergeRepair

import SheaSymphony.AgentReviewEntry
import SheaSymphony.EventsArtifact
import SheaSymphony.Occurrences

/-!
# What a failed run is taken for

A failed handoff says in its message what has failed, and `complete_failed_run` and the
salvage of a run look for a text in it. The steps of the handoff are mirrored by programs
that return the failure itself (`handOff_mirrors`), which gives the failures that are
routed as what they are.
-/

namespace SheaSymphony.MainHandoff

open Agent (AgentEvent AppServerRun CodexRun contains_eventsArtifact eventsArtifact summarizeEvents)
open Interrupted (Program Mirrors Related)
open MainLoop (IssueExecutionResult)
open Preflight (compactEvidence)
open Review (UsageLimitPause)

/-! ## What fails -/

inductive LinkFailure where
  | listing (error : String)
  | repair (error : String)
  | invisible (prUrl : String)
deriving DecidableEq

def LinkFailure.message : LinkFailure → String
  | listing error => "handoff PR link verification failed: " ++ error
  | repair error => "handoff PR link repair failed: " ++ error
  | invisible prUrl => linkNotVisible prUrl

structure FailedCommand where
  command : String
  index : Nat
  error : String
deriving DecidableEq

def FailedCommand.summary (failed : FailedCommand) : String :=
  "failed command=" ++ shellSummary failed.command ++ " index=" ++ toString failed.index
    ++ " error=" ++ compactEvidence failed.error

/-- Why a run has not been handed off. -/
inductive HandoffFailure where
  | backend (message : String)
  | commit (error : GitHandoffError)
  | verification (failed : FailedCommand)
  | publication (error : GitHandoffError)
  | link (failure : LinkFailure)
  | ready (error : GitHandoffError)
deriving DecidableEq

namespace HandoffFailure

def message : HandoffFailure → String
  | backend message => message
  | commit error => "handoff verification failed: " ++ ("handoff commit failed: " ++ error.display)
  | verification failed => "handoff verification failed: " ++ failed.summary
  | publication error => "handoff publication failed: " ++ error.display
  | link failure => failure.message
  | ready error => "handoff PR ready check failed: " ++ error.display

def isLink : HandoffFailure → Bool
  | link _ => true
  | _ => false

end HandoffFailure

abbrev HandoffOutcome := Except HandoffFailure HandoffResult

/-! ## The steps with their failures -/

section
variable {σ ε : Type} (outside : HandoffOutside σ) (config : HandoffConfig) (issue : MainIssue)
  (plan : IssueHandoffPlan) (profileId : Option String)

def recordLink (issueRef prUrl : String) : Program (HandoffWorld σ) ε (Except LinkFailure Unit) := do
  match ← call (.listed issueRef) fun state => outside.listLinkedPullRequests state issueRef with
  | .error error => return .error (.listing error)
  | .ok linked =>
      if nativeLinkedPullRequestsContain linked prUrl then return .ok ()
      else
        match ← call (.linked issueRef prUrl) fun state =>
            outside.linkPullRequest state issueRef prUrl with
        | .error error => return .error (.repair error)
        | .ok () =>
            match ← call (.listed issueRef) fun state =>
                outside.listLinkedPullRequests state issueRef with
            | .error error => return .error (.listing error)
            | .ok linked =>
                if linkedPullRequestsContain linked prUrl then return .ok ()
                else return .error (.invisible prUrl)

def commitOutcome (result : HandoffResult) :
    Program (HandoffWorld σ) ε (Except GitHandoffError Unit) :=
  if result.backend = "codex" then do
    match ← attempt (commitIssueWorktreeChanges outside plan (commitMessage issue)) with
    | .ok _ => return .ok ()
    | .error error => return .error error
  else return .ok ()

def verifyOutcomeFrom (total index : Nat) :
    List String → Program (HandoffWorld σ) ε (Except FailedCommand String)
  | [] =>
      return .ok ("passed:" ++ toString total ++ " command(s) runtime_profile="
        ++ profileId.getD "not_configured")
  | command :: rest => do
      match ← call (.verified command) fun state => outside.verify state command with
      | .error error => return .error { command, index, error }
      | .ok () => verifyOutcomeFrom total (index + 1) rest

def verifyOutcome : Program (HandoffWorld σ) ε (Except FailedCommand String) :=
  if config.verificationCommands.isEmpty then return .ok "skipped:not_configured"
  else
    verifyOutcomeFrom outside profileId config.verificationCommands.length 1
      config.verificationCommands

def publishOutcome (worktree : LiveWorktreeResult) (summary : String) (result : HandoffResult) :
    Program (HandoffWorld σ) ε HandoffOutcome := do
  match ← attempt (publishIssuePullRequest outside plan) with
  | .error error => return .error (.publication error)
  | .ok publication =>
      return .ok { result with
        handoffVerification := some summary
        liveHandoff := some { worktree, publication, verification := summary
                              projectPrLinkVerified := none, pullRequestReady := none } }

def worktreeOutcome (worktree : LiveWorktreeResult) (result : HandoffResult) :
    Program (HandoffWorld σ) ε HandoffOutcome := do
  match ← commitOutcome outside issue plan result with
  | .error error => return .error (.commit error)
  | .ok () =>
      match ← verifyOutcome outside config profileId with
      | .error failed => return .error (.verification failed)
      | .ok summary => publishOutcome outside plan worktree summary result

def linkOutcome (result : HandoffResult) : Program (HandoffWorld σ) ε HandoffOutcome :=
  match result.liveHandoff with
  | none => return .ok result
  | some handoff => do
      match ← recordLink outside issue.identifier handoff.publication.prUrl with
      | .error failure => return .error (.link failure)
      | .ok () =>
          return .ok { result with
            liveHandoff := some { handoff with projectPrLinkVerified := some true } }

def readyOutcome (result : HandoffResult) : Program (HandoffWorld σ) ε HandoffOutcome :=
  match result.liveHandoff with
  | none => return .ok result
  | some handoff => do
      match ← attempt (ensurePullRequestReady outside handoff.publication.prUrl
          handoff.worktree.workspacePath) with
      | .error error => return .error (.ready error)
      | .ok ready =>
          return .ok { result with
            liveHandoff := some { handoff with pullRequestReady := some ready } }

/-- The next step of what has not failed. -/
def andThen (program : Program (HandoffWorld σ) ε HandoffOutcome)
    (next : HandoffResult → Program (HandoffWorld σ) ε HandoffOutcome) :
    Program (HandoffWorld σ) ε HandoffOutcome := do
  match ← program with
  | .error failure => return .error failure
  | .ok result => next result

def publishedOutcome (liveWorktree : Option LiveWorktreeResult) (result : HandoffResult) :
    Program (HandoffWorld σ) ε HandoffOutcome :=
  match liveWorktree with
  | none => return .ok result
  | some worktree => worktreeOutcome outside config issue plan profileId worktree result

def stepsOutcome (liveWorktree : Option LiveWorktreeResult) (result : HandoffResult) :
    Program (HandoffWorld σ) ε HandoffOutcome :=
  andThen (andThen (publishedOutcome outside config issue plan profileId liveWorktree result)
    (linkOutcome outside issue)) (readyOutcome outside)

end

section
variable {σ : Type} (outside : DispatchOutside σ) (config : DispatchConfig) (claimed : ClaimedDispatch)

/-- The handoff of a result, with what fails in it. -/
def handOffOutcome (result : HandoffResult) : Dispatching σ HandoffOutcome := do
  let result ← salvageResult outside claimed result
  if result.success then
    stepsOutcome outside.toHandoffOutside config.toHandoffConfig claimed.latest claimed.plan
      claimed.profileId claimed.liveWorktree result
  else return .error (.backend result.message)

end

/-! ## The steps and their mirrors -/

section
variable {σ ε : Type} {outside : HandoffOutside σ}

theorem attempt_call_bind {δ α β : Type} {event : α → HandoffEvent} {f : σ → α × σ}
    {rest : α → Program (HandoffWorld σ) δ β} :
    (attempt (call event f >>= rest) : Program (HandoffWorld σ) ε (Except δ β))
      = call event f >>= fun a => attempt (rest a) := rfl

variable {result : HandoffResult}

theorem attempt_recordLiveHandoffPrLink {issueRef : String} {handoff : RunLoopLiveHandoff}
    (h : result.liveHandoff = some handoff) :
    (attempt (recordLiveHandoffPrLink outside issueRef result) :
        Program (HandoffWorld σ) ε (Except String Unit))
      = recordLink outside issueRef handoff.publication.prUrl >>= fun outcome =>
        pure (outcome.mapError LinkFailure.message) := by
  simp only [recordLiveHandoffPrLink, h, listLinkedPullRequests, linkPullRequest, recordLink,
    Program.bind_assoc, attempt_call_bind]
  refine bind_congr fun listed => ?_
  cases listed with
  | error error => rfl
  | ok linked =>
      show attempt (if _ then _ else _) = _
      dsimp only
      split
      · rfl
      · rw [attempt_call_bind, Program.bind_assoc]
        refine bind_congr fun repaired => ?_
        cases repaired with
        | error error => rfl
        | ok u =>
            cases u
            simp only [Program.pure_bind, Program.bind_assoc, attempt_call_bind]
            refine bind_congr fun listed => ?_
            cases listed with
            | error error => rfl
            | ok linked =>
                show attempt (Program.require _ _) = _
                dsimp only
                cases linkedPullRequestsContain linked handoff.publication.prUrl with
                | false => rfl
                | true => rfl

/-- The result a handoff ends with, by its outcome. -/
def Renders (pause : Option UsageLimitPause) (result : HandoffResult) : HandoffOutcome → Prop
  | .ok final => result = final ∧ final.success = true ∧ final.usageLimitPause = pause
  | .error failure =>
      result.success = false ∧ result.message = failure.message ∧ result.usageLimitPause = pause

def verificationOf : Except FailedCommand String → HandoffVerification
  | .ok summary => { success := true, summary }
  | .error failed => { success := false, summary := failed.summary }

variable {config : HandoffConfig} {issue : MainIssue} {plan : IssueHandoffPlan}
  {profileId : Option String} {pause : Option UsageLimitPause}

theorem commitLocalChanges_eq (result : HandoffResult) :
    (commitLocalChanges outside issue plan result : Program (HandoffWorld σ) ε HandoffResult)
      = commitOutcome outside issue plan result >>= fun outcome =>
        match outcome with
        | .ok () => pure result
        | .error error => pure (result.failed ("handoff commit failed: " ++ error.display)) := by
  unfold commitLocalChanges commitOutcome
  split
  · rw [Program.bind_assoc]
    refine bind_congr fun committed => ?_
    cases committed with
    | ok commit => rfl
    | error error => rfl
  · rfl

theorem verifyFrom_eq (total : Nat) : ∀ (index : Nat) (commands : List String),
    (verifyFrom outside profileId total index commands :
        Program (HandoffWorld σ) ε HandoffVerification)
      = verifyOutcomeFrom outside profileId total index commands >>= fun outcome =>
        pure (verificationOf outcome)
  | index, [] => rfl
  | index, command :: rest => by
      rw [verifyFrom, verifyOutcomeFrom, Program.bind_assoc]
      refine bind_congr fun verified => ?_
      cases verified with
      | error error => rfl
      | ok u => exact verifyFrom_eq total (index + 1) rest

theorem runHandoffVerification_eq :
    (runHandoffVerification outside config profileId :
        Program (HandoffWorld σ) ε HandoffVerification)
      = verifyOutcome outside config profileId >>= fun outcome => pure (verificationOf outcome) := by
  unfold runHandoffVerification verifyOutcome
  split
  · rfl
  · exact verifyFrom_eq _ 1 _

theorem mirrors_publishVerified (worktree : LiveWorktreeResult) (summary : String)
    (hsuccess : result.success = true) :
    Mirrors (Renders result.usageLimitPause)
      (publishVerified outside plan worktree (verificationOf (.ok summary)) result :
        Program (HandoffWorld σ) ε HandoffResult)
      (publishOutcome outside plan worktree summary result) := by
  unfold publishVerified publishOutcome
  refine Mirrors.seq fun published => ?_
  cases published with
  | ok publication => exact Mirrors.pure ⟨rfl, hsuccess, rfl⟩
  | error error => exact Mirrors.pure ⟨rfl, rfl, rfl⟩

theorem mirrors_publishWorktree (worktree : LiveWorktreeResult) (hsuccess : result.success = true) :
    Mirrors (Renders result.usageLimitPause)
      (publishWorktree outside config issue plan profileId worktree result :
        Program (HandoffWorld σ) ε HandoffResult)
      (worktreeOutcome outside config issue plan profileId worktree result) := by
  rw [publishWorktree, worktreeOutcome, commitLocalChanges_eq, Program.bind_assoc]
  refine Mirrors.seq fun committed => ?_
  cases committed with
  | error error => exact Mirrors.pure ⟨rfl, rfl, rfl⟩
  | ok u =>
      show Mirrors _ (verifyLocalChanges outside config profileId result >>= _) _
      rw [verifyLocalChanges, if_pos hsuccess, runHandoffVerification_eq, Program.bind_assoc]
      refine Mirrors.seq fun verified => ?_
      cases verified with
      | error failed => exact Mirrors.pure ⟨rfl, rfl, rfl⟩
      | ok summary => exact mirrors_publishVerified worktree summary hsuccess

theorem mirrors_linkPublished (hsuccess : result.success = true) :
    Mirrors (Renders result.usageLimitPause)
      (linkPublished outside issue result : Program (HandoffWorld σ) ε HandoffResult)
      (linkOutcome outside issue result) := by
  rw [linkPublished, if_pos hsuccess, applyLiveHandoffPrLink, linkOutcome]
  cases hhandoff : result.liveHandoff with
  | none => exact Mirrors.pure ⟨rfl, hsuccess, rfl⟩
  | some handoff =>
      dsimp only
      rw [attempt_recordLiveHandoffPrLink hhandoff, Program.bind_assoc, Program.bind_assoc]
      refine Mirrors.seq fun recorded => ?_
      cases recorded with
      | error failure => exact Mirrors.pure ⟨rfl, rfl, rfl⟩
      | ok u => exact Mirrors.pure ⟨rfl, hsuccess, rfl⟩

theorem mirrors_readyPublished (hsuccess : result.success = true) :
    Mirrors (Renders result.usageLimitPause)
      (readyPublished outside result : Program (HandoffWorld σ) ε HandoffResult)
      (readyOutcome outside result) := by
  rw [readyPublished, if_pos hsuccess, readyOutcome]
  cases result.liveHandoff with
  | none => exact Mirrors.pure ⟨rfl, hsuccess, rfl⟩
  | some handoff =>
      refine Mirrors.seq fun checked => ?_
      cases checked with
      | error error => exact Mirrors.pure ⟨rfl, rfl, rfl⟩
      | ok ready => exact Mirrors.pure ⟨rfl, hsuccess, rfl⟩

theorem mirrors_andThen {program : Program (HandoffWorld σ) ε HandoffResult}
    {outcome : Program (HandoffWorld σ) ε HandoffOutcome}
    {next : HandoffResult → Program (HandoffWorld σ) ε HandoffResult}
    {nextOutcome : HandoffResult → Program (HandoffWorld σ) ε HandoffOutcome}
    (h : Mirrors (Renders pause) program outcome)
    (hfailed : ∀ result, result.success = false → next result = pure result)
    (hnext : ∀ result, result.success = true →
      Mirrors (Renders result.usageLimitPause) (next result) (nextOutcome result)) :
    Mirrors (Renders pause) (program >>= next) (andThen outcome nextOutcome) := by
  refine h.bind fun result final hrenders => ?_
  cases final with
  | error failure =>
      rw [hfailed result hrenders.1]
      exact Mirrors.pure hrenders
  | ok final =>
      obtain ⟨rfl, hsuccess, rfl⟩ := hrenders
      exact hnext result hsuccess

theorem linkPublished_of_failed (h : result.success = false) :
    (linkPublished outside issue result : Program (HandoffWorld σ) ε HandoffResult) = pure result := by
  rw [linkPublished, if_neg (Bool.eq_false_iff.mp h)]

theorem readyPublished_of_failed (h : result.success = false) :
    (readyPublished outside result : Program (HandoffWorld σ) ε HandoffResult) = pure result := by
  rw [readyPublished, if_neg (Bool.eq_false_iff.mp h)]

theorem mirrors_applyLiveHandoffSteps (liveWorktree : Option LiveWorktreeResult)
    (hsuccess : result.success = true) :
    Mirrors (Renders result.usageLimitPause)
      (applyLiveHandoffSteps outside config issue plan profileId liveWorktree result :
        Program (HandoffWorld σ) ε HandoffResult)
      (stepsOutcome outside config issue plan profileId liveWorktree result) := by
  have hsteps : ∀ published : Program (HandoffWorld σ) ε HandoffResult,
      Mirrors (Renders result.usageLimitPause) published
        (publishedOutcome outside config issue plan profileId liveWorktree result) →
      Mirrors (Renders result.usageLimitPause)
        (published >>= linkPublished outside issue >>= readyPublished outside)
        (stepsOutcome outside config issue plan profileId liveWorktree result) := fun _ hpublished =>
    mirrors_andThen
      (mirrors_andThen hpublished (fun _ => linkPublished_of_failed) fun _ => mirrors_linkPublished)
      (fun _ => readyPublished_of_failed) fun _ => mirrors_readyPublished
  cases liveWorktree with
  | none => exact hsteps (pure result) (Mirrors.pure ⟨rfl, hsuccess, rfl⟩)
  | some worktree =>
      have hpublished := hsteps _ (mirrors_publishWorktree worktree hsuccess)
      rw [Program.bind_assoc] at hpublished
      exact hpublished

end

section
variable {σ : Type} {outside : DispatchOutside σ} {config : DispatchConfig}
  {claimed : ClaimedDispatch}

theorem returns_salvageResult (result : HandoffResult) :
    Interrupted.Returns (salvageResult outside claimed result)
      fun salvaged => salvaged.usageLimitPause = result.usageLimitPause := by
  unfold salvageResult
  refine Interrupted.Returns.seq fun log => ?_
  split
  · exact Interrupted.Returns.seq fun _ => Interrupted.Returns.seq fun _ =>
      Interrupted.Returns.pure rfl
  · exact Interrupted.Returns.pure rfl

theorem handOff_mirrors (outside : DispatchOutside σ) (config : DispatchConfig)
    (claimed : ClaimedDispatch) (result : HandoffResult) :
    Mirrors (Renders result.usageLimitPause) (handOff outside config claimed result)
      (handOffOutcome outside config claimed result) := by
  refine (Mirrors.of_returns (returns_salvageResult result)).bind fun salvaged other h => ?_
  obtain ⟨rfl, hpause⟩ := h
  rw [← hpause]
  cases hsuccess : salvaged.success with
  | true =>
      rw [if_pos rfl]
      exact mirrors_applyLiveHandoffSteps claimed.liveWorktree hsuccess
  | false =>
      rw [if_neg Bool.false_ne_true]
      exact Mirrors.pure ⟨hsuccess, rfl, rfl⟩

/-- The step that fails in the handoff of a result. -/
def FailsBy (outside : DispatchOutside σ) (config : DispatchConfig) (claimed : ClaimedDispatch)
    (result : IssueExecutionResult) (world : HandoffWorld σ) (failure : HandoffFailure) : Prop :=
  (handOffOutcome outside config claimed (freshResult result) world).1 = .ok (.error failure)

end

/-! ## What the message says -/

/-- The text the linkage route looks for is in what has been reported. -/
def HandoffFailure.namesLink : HandoffFailure → Bool
  | backend message => Text.contains message prLinkMarker
  | commit error => Text.contains error.display prLinkMarker
  | verification failed =>
      Text.contains (compactEvidence failed.command) prLinkMarker
        || Text.contains (compactEvidence failed.error) prLinkMarker
  | publication error => Text.contains error.display prLinkMarker
  | link (.listing _) => true
  | link (.repair _) => true
  | link (.invisible prUrl) => Text.contains prUrl prLinkMarker
  | ready error => Text.contains error.display prLinkMarker

theorem contains_after {front : String} (back : String)
    (hends : ∀ ending ∈ front.toList.tails, ending ≠ [] → ¬ ending <+: prLinkMarker.toList)
    (hfront : Text.contains front prLinkMarker = false) :
    Text.contains (front ++ back) prLinkMarker = Text.contains back prLinkMarker := by
  refine Bool.eq_iff_iff.mpr ((Text.contains_append_of_ends hends).trans (or_iff_right ?_))
  rw [hfront]
  exact Bool.false_ne_true

theorem contains_before {front back : String} {c : Char} (hback : back.toList.head? = some c)
    (hc : c ∉ prLinkMarker.toList) :
    Text.contains (front ++ back) prLinkMarker
      = (Text.contains front prLinkMarker || Text.contains back prLinkMarker) := by
  refine Bool.eq_iff_iff.mpr ((Text.contains_append_of_head hback hc).trans ?_)
  rw [Bool.or_eq_true]

theorem contains_linkNotVisible (prUrl : String) :
    Text.contains (linkNotVisible prUrl) prLinkMarker = Text.contains prUrl prLinkMarker := by
  have hrest : Text.contains "; fallback_diagnostic_visible=false" prLinkMarker = false := by
    decide
  refine (contains_before (c := ';') (by decide) (by decide)).trans ?_
  rw [hrest, Bool.or_false]
  exact contains_after prUrl (by decide) (by decide)

theorem contains_past (front : String) {back : String} (h : 'h' ∉ front.toList) :
    Text.contains (front ++ back) prLinkMarker = Text.contains back prLinkMarker :=
  Text.contains_append_of_skip (c := 'h') rfl h

theorem contains_failedCommand {command digits error : String} (hdigits : 'h' ∉ digits.toList) :
    Text.contains ("failed command=" ++ ("\x60" ++ command ++ "\x60") ++ " index=" ++ digits
        ++ " error=" ++ error) prLinkMarker
      = (Text.contains command prLinkMarker || Text.contains error prLinkMarker) := by
  have hseam : ∀ rest : String, ("\x60" ++ rest).toList.head? = some '\x60' := fun rest => by
    rw [String.toList_append]
    rfl
  have hsum : "failed command=" ++ ("\x60" ++ command ++ "\x60") ++ " index=" ++ digits ++ " error="
      ++ error = "failed command=" ++ ("\x60" ++ (command ++ ("\x60" ++ (" index=" ++ (digits
        ++ (" error=" ++ error)))))) := by
    simp only [String.append_assoc]
  rw [hsum]
  refine (contains_after _ (by decide) (by decide)).trans ?_
  refine (contains_past "\x60" (by decide)).trans ?_
  refine (contains_before (hseam _) (by decide)).trans (congrArg _ ?_)
  refine (contains_past "\x60" (by decide)).trans ?_
  refine (contains_past " index=" (by decide)).trans ?_
  refine (contains_past _ hdigits).trans ?_
  exact contains_past " error=" (by decide)

theorem contains_summary (failed : FailedCommand) :
    Text.contains failed.summary prLinkMarker
      = (Text.contains (compactEvidence failed.command) prLinkMarker
        || Text.contains (compactEvidence failed.error) prLinkMarker) := by
  refine contains_failedCommand fun hmem => ?_
  rw [show toString failed.index = String.ofList (Nat.toDigits 10 failed.index) from rfl,
    String.toList_ofList] at hmem
  exact absurd (Nat.isDigit_of_mem_toDigits (b := 10) (by decide) (by decide) hmem) (by decide)

theorem contains_message (failure : HandoffFailure) :
    Text.contains failure.message prLinkMarker = failure.namesLink := by
  cases failure with
  | backend message => rfl
  | commit error =>
      refine (contains_after _ (by decide) (by decide)).trans ?_
      exact contains_after _ (by decide) (by decide)
  | verification failed =>
      exact (contains_after _ (by decide) (by decide)).trans (contains_summary failed)
  | publication error => exact contains_after _ (by decide) (by decide)
  | link failure =>
      cases failure with
      | listing error => exact Text.contains_append_left (by decide) error
      | repair error => exact Text.contains_append_left (by decide) error
      | invisible prUrl => exact contains_linkNotVisible prUrl
  | ready error => exact contains_after _ (by decide) (by decide)

/-! ## The routes -/

theorem failureRoute_eq_prLinkage {maxTurns : UInt32} {state : Runtime.RuntimeState}
    {result : HandoffResult} :
    failureRoute maxTurns state result = .prLinkage
      ↔ result.usageLimitPause = none ∧ Text.contains result.message prLinkMarker = true := by
  unfold failureRoute
  cases result.usageLimitPause with
  | some pause => simp
  | none => split <;> simp_all <;> split <;> simp

/-- A failure whose message reads as what it is. -/
def ReadsAsItIs (pause : Option UsageLimitPause) (failure : HandoffFailure) : Prop :=
  if failure.isLink then pause = none ∧ failure.namesLink = true
  else pause = none → failure.namesLink = false

variable {failure : HandoffFailure}

theorem readsAsItIs_iff {pause : Option UsageLimitPause} :
    ReadsAsItIs pause failure ↔ (pause = none ∧ failure.namesLink = true ↔ failure.isLink = true) := by
  unfold ReadsAsItIs
  cases failure.isLink with
  | true => simp
  | false => simp

section
variable {σ : Type} (outside : DispatchOutside σ) (config : DispatchConfig) (claimed : ClaimedDispatch)
  (result : IssueExecutionResult) (world : HandoffWorld σ)

/-- The linkage route is taken exactly where the link of the pull request has failed. -/
def LinkageFollowsFailure : Prop :=
  ∀ failure, FailsBy outside config claimed result world failure →
    ∀ failed after, handOff outside config claimed (freshResult result) world = (.ok failed, after) →
      ∀ state, failureRoute config.maxTurns state failed = .prLinkage ↔ failure.isLink = true

theorem FailsBy.exists_run (h : FailsBy outside config claimed result world failure) :
    ∃ failed after, handOff outside config claimed (freshResult result) world = (.ok failed, after)
      ∧ Renders result.usageLimitPause failed (.error failure) := by
  obtain ⟨-, hrelated⟩ := handOff_mirrors outside config claimed (freshResult result) world
  rw [h] at hrelated
  cases hrun : handOff outside config claimed (freshResult result) world with
  | mk answer after =>
      rw [hrun] at hrelated
      cases answer with
      | error e => exact hrelated.elim
      | ok failed => exact ⟨failed, after, rfl, hrelated⟩

theorem route_of_renders {failed : HandoffResult} {maxTurns : UInt32}
    {state : Runtime.RuntimeState} {pause : Option UsageLimitPause}
    (h : Renders pause failed (.error failure)) :
    failureRoute maxTurns state failed = .prLinkage ↔ pause = none ∧ failure.namesLink = true := by
  obtain ⟨-, hmessage, hpause⟩ := h
  rw [failureRoute_eq_prLinkage, hpause, hmessage, contains_message]

theorem linkageFollowsFailure_iff :
    LinkageFollowsFailure outside config claimed result world
      ↔ ∀ failure, FailsBy outside config claimed result world failure →
        ReadsAsItIs result.usageLimitPause failure := by
  constructor
  · intro h failure hfails
    obtain ⟨failed, after, hrun, hrenders⟩ := hfails.exists_run
    rw [readsAsItIs_iff, ← route_of_renders hrenders]
    exact h failure hfails failed after hrun claimed.runtimeState
  · intro h failure hfails failed after hrun state
    obtain ⟨other, next, hother, hrenders⟩ := hfails.exists_run
    rw [hrun] at hother
    obtain rfl : failed = other := Except.ok.inj (congrArg Prod.fst hother)
    rw [route_of_renders hrenders]
    exact readsAsItIs_iff.mp (h failure hfails)

/-! ## The salvage -/

/-- The log that is looked into, and the state that is left. -/
def readSalvageLog (state : σ) : Option String × σ :=
  let result := freshResult result
  if failedWithoutHandoff result && !Text.contains result.message appServerStall then
    match result.backendLogPath with
    | some path => outside.readLog state path
    | none => (none, state)
  else (none, state)

theorem salvageLog_eq :
    salvageLog outside (freshResult result) world
      = (.ok (readSalvageLog outside result world.outside).1,
        { world with outside := (readSalvageLog outside result world.outside).2 }) := by
  unfold salvageLog readSalvageLog
  dsimp only
  split
  · cases (freshResult result).backendLogPath with
    | none => rfl
    | some path => rfl
  · rfl

theorem ask_ok {α : Type} {f : σ → Except String α × σ} {world : HandoffWorld σ} {a : α} {after : σ}
    (h : f world.outside = (.ok a, after)) : ask f world = (.ok a, { world with outside := after }) := by
  show ((look f >>= _) : Dispatching σ α) world = _
  rw [Program.bind_ok (show look f world = (.ok (.ok a), { world with outside := after }) by
    rw [look, Program.step, h])]
  rfl

theorem ask_error {α : Type} {f : σ → Except String α × σ} {world : HandoffWorld σ} {error : String}
    {after : σ} (h : f world.outside = (.error error, after)) :
    ask f world = (.error (.message error), { world with outside := after }) := by
  show ((look f >>= _) : Dispatching σ α) world = _
  rw [Program.bind_ok (show look f world = (.ok (.error error), { world with outside := after }) by
    rw [look, Program.step, h])]
  rfl

/-- The failed result is turned into a success. -/
def Salvages : Prop :=
  ∃ salvaged after, salvageResult outside claimed (freshResult result) world = (.ok salvaged, after)
    ∧ salvaged.success = true ∧ result.success = false

/-- The log that is looked into. -/
def lookedInto : Option String := (readSalvageLog outside result world.outside).1

/-- A codex run has failed for good, with a worktree, and its salvage can be recorded. -/
structure CanSalvage : Prop where
  failed : failedWithoutHandoff (freshResult result) = true
  worktree : claimed.liveWorktree.isSome = true
  recorded : (outside.appendSupervisionEvent (readSalvageLog outside result world.outside).2
    claimed.runtimeState "MainBackendFailureLiveHandoffSalvage").1 = .ok ()

theorem salvages_iff :
    Salvages outside claimed result world ↔ CanSalvage outside claimed result world
      ∧ failedBackendHasSalvageableTransportEvidence (freshResult result)
        (lookedInto outside result world) = true := by
  unfold Salvages salvageResult
  rw [Program.bind_ok (salvageLog_eq outside result world)]
  split
  · next huses =>
    obtain ⟨hcan, hworktree⟩ := Bool.and_eq_true _ _ |>.mp huses
    obtain ⟨hfailed, hnamed⟩ := Bool.and_eq_true _ _ |>.mp hcan
    have hunsuccessful : result.success = false := by
      simp only [failedWithoutHandoff, Bool.and_eq_true, Bool.not_eq_true'] at hfailed
      exact hfailed.1.1.1.2
    cases hrecorded : outside.appendSupervisionEvent (readSalvageLog outside result world.outside).2
        claimed.runtimeState "MainBackendFailureLiveHandoffSalvage" with
    | mk answer after =>
        cases answer with
        | error error =>
            refine iff_of_false ?_ fun h => ?_
            · rintro ⟨salvaged, final, hrun, -⟩
              rw [Program.bind_error (ask_error hrecorded)] at hrun
              cases congrArg Prod.fst hrun
            · have hwritten := h.1.recorded
              rw [hrecorded] at hwritten
              cases hwritten
        | ok u =>
            refine iff_of_true ?_ ⟨⟨hfailed, hworktree, congrArg Prod.fst hrecorded⟩, hnamed⟩
            rw [Program.bind_ok (ask_ok hrecorded)]
            exact ⟨(freshResult result).salvaged, _, rfl, rfl, hunsuccessful⟩
  · next huses =>
    refine iff_of_false ?_ fun h => huses ?_
    · rintro ⟨salvaged, after, hrun, hsuccess, hunsuccessful⟩
      obtain ⟨rfl, -⟩ := Program.pure_eq_ok_iff.mp hrun
      exact absurd hsuccess (by rw [freshResult, hunsuccessful]; exact Bool.false_ne_true)
    · exact Bool.and_eq_true _ _ |>.mpr
        ⟨Bool.and_eq_true _ _ |>.mpr ⟨h.1.failed, h.2⟩, h.1.worktree⟩

/-! ## What is looked into -/

/-- How a failed result comes by its message: its run has just ended, or a later loop has
found the session of the run failed. -/
inductive FailureReport where
  | executed
  | reconciled (evidence : String)

/-- The result is what the report of the run says. -/
inductive Reports (run : CodexRun) (result : IssueExecutionResult) : FailureReport → Prop
  | executed (hsuccess : result.success = (summarizeEvents "codex" run.events).success)
      (hmessage : result.message = (summarizeEvents "codex" run.events).message) :
      Reports run result .executed
  | reconciled {evidence : String} (hmessage : result.message = "main session failed: " ++ evidence) :
      Reports run result (.reconciled evidence)

/-- What is reported quotes the stall: the first failure of the run, or the evidence. -/
def FailureReport.Quotes (run : CodexRun) : FailureReport → Prop
  | executed => ∃ error, run.events.findSome? AgentEvent.failure = some error
      ∧ Text.contains error appServerStall = true
  | reconciled evidence => Text.contains evidence appServerStall = true

/-- The log quotes the stall: an event of the run, where the file is what the run has
written, and the text of the file where it is another one. -/
def LogQuotes (run : CodexRun) (log : Option String) : Prop :=
  ∃ content ∈ log, if content = eventsArtifact run.events then Agent.Quotes run.events
    else Text.contains content appServerStall = true

variable {run : CodexRun} {report : FailureReport}

theorem logQuotes_iff {log : Option String} :
    (log.any fun content => Text.contains content appServerStall) = true ↔ LogQuotes run log := by
  rw [Option.any_eq_true]
  refine exists_congr fun content => and_congr_right fun _ => ?_
  split
  · next hwritten => rw [hwritten, contains_eventsArtifact]
  · rfl

theorem Reports.quotes_iff (h : Reports run result report) (hfailed : result.success = false) :
    Text.contains result.message appServerStall = true ↔ report.Quotes run := by
  cases h with
  | reconciled hmessage =>
      rw [hmessage, Agent.stall_past (by decide)]
      rfl
  | executed hsuccess hmessage =>
      rw [hmessage, FailureReport.Quotes]
      rw [hsuccess, summarizeEvents] at hfailed
      rw [summarizeEvents]
      cases hfailure : run.events.findSome? AgentEvent.failure with
      | some error => simp
      | none =>
          rw [hfailure] at hfailed
          cases hcompleted : run.events.findSome? AgentEvent.completion with
          | some summary =>
              rw [hcompleted] at hfailed
              cases hfailed
          | none => simp [show Text.contains "no terminal event" appServerStall = false by decide]

theorem salvages_of_stalled (hcan : CanSalvage outside claimed result world)
    (hreports : Reports run result .executed) (hstalled : run.EndsStalled) :
    Salvages outside claimed result world := by
  refine salvages_iff outside claimed result world |>.mpr ⟨hcan, Bool.or_eq_true _ _ |>.mpr (Or.inl ?_)⟩
  cases hreports with
  | executed hsuccess hmessage =>
      cases run with
      | subprocess events => exact hstalled.elim
      | appServer run =>
          show Text.contains result.message appServerStall = true
          rw [hmessage, CodexRun.events, hstalled.message "codex"]
          decide

/-- **Failures are routed by what failed** exactly where the texts of what failed do not say
otherwise: no failure but that of the link reads like one, and a run that can be salvaged
has stalled, or neither its report nor its log quotes the stall. -/
theorem failures_routed_iff (run : CodexRun) (report : FailureReport)
    (hreports : failedWithoutHandoff (freshResult result) = true → Reports run result report) :
    (LinkageFollowsFailure outside config claimed result world
        ∧ (Salvages outside claimed result world → run.EndsStalled))
      ↔ (∀ failure, FailsBy outside config claimed result world failure →
          ReadsAsItIs result.usageLimitPause failure)
        ∧ (CanSalvage outside claimed result world → run.EndsStalled
          ∨ ¬ report.Quotes run ∧ ¬ LogQuotes run (lookedInto outside result world)) := by
  rw [linkageFollowsFailure_iff, salvages_iff]
  refine and_congr_right fun _ => ?_
  rw [and_imp]
  refine forall_congr' fun hcan => ?_
  have hunsuccessful : result.success = false := by
    have hfailed := hcan.failed
    simp only [failedWithoutHandoff, Bool.and_eq_true, Bool.not_eq_true'] at hfailed
    exact hfailed.1.1.1.2
  have hevidence : failedBackendHasSalvageableTransportEvidence (freshResult result)
        (lookedInto outside result world) = true
      ↔ report.Quotes run ∨ LogQuotes run (lookedInto outside result world) := by
    rw [failedBackendHasSalvageableTransportEvidence, Bool.or_eq_true, logQuotes_iff]
    exact or_congr_left ((hreports hcan.failed).quotes_iff result hunsuccessful)
  rw [hevidence, ← not_or]
  tauto
end

/-! ## Texts that mislead -/

def reportedFailure : Except DispatchFailure HandoffOutcome → Option HandoffFailure
  | .ok (.error failure) => some failure
  | _ => none

theorem eq_of_reportedFailure {answer : Except DispatchFailure HandoffOutcome}
    (h : reportedFailure answer = some failure) :
    answer = .ok (.error failure) := by
  unfold reportedFailure at h
  split at h
  · rw [Option.some.inj h]
  · cases h

/-- The linked pull request is never listed. -/
def unlinkedDispatch : DispatchOutside Unit :=
  { steadyDispatch completedRun with
    listLinkedPullRequests := fun _ _ => (.ok [], ()) }

/-- A run that waits for the end of its turn until the wait is over. -/
def stalledRun : AppServerRun :=
  { Agent.sampleAppServerRun [Agent.initializedLine, Agent.threadLine, Agent.turnLine]
      (.code 0) with cut := .deadline true }

theorem stalledRun_endsStalled : stalledRun.EndsStalled := by
  have hinitialized : stalledRun.Answer 1 stalledRun.lines [] Agent.initializedLine
      [Agent.threadLine, Agent.turnLine] (.obj [("id", .int 1), ("result", .obj [])]) :=
    ⟨rfl, by simp, by rfl⟩
  have hthread : stalledRun.Answer 2 [Agent.threadLine, Agent.turnLine] [] Agent.threadLine
      [Agent.turnLine]
      (.obj [("id", .int 2), ("result", .obj [("thread", .obj [("id", .str "t1")])])]) :=
    ⟨rfl, by simp, by rfl⟩
  have hturn : stalledRun.Answer 3 [Agent.turnLine] [] Agent.turnLine []
      (.obj [("id", .int 3), ("result", .obj [("turn", .obj [("id", .str "u1")])])]) :=
    ⟨rfl, by simp, by rfl⟩
  have hopening : Agent.Awaits stalledRun .opening [] [.sent .initializeRequest] stalledRun.lines :=
    .opening rfl
  have hwait := (hopening.thread hinitialized (by rfl) rfl rfl).turn hthread (by rfl) (by rfl) rfl
  exact ⟨"t1", "u1", _, _, _, .intro hwait hturn (by rfl) (by rfl), rfl, by simp, rfl⟩

/-- What a run that has failed is summarised to. -/
def failedResult (run : AppServerRun) : IssueExecutionResult :=
  { completedRun with
    success := false
    message := (summarizeEvents "codex" (Agent.appServerRunEvents run)).message }

theorem stalled_run_routed :
    LinkageFollowsFailure (steadyDispatch completedRun) liveConfig steadyClaimed
        (failedResult stalledRun) { outside := (), log := [] }
      ∧ (Salvages (steadyDispatch completedRun) steadyClaimed (failedResult stalledRun)
          { outside := (), log := [] } → (CodexRun.appServer stalledRun).EndsStalled) := by
  have hnone : reportedFailure (handOffOutcome (steadyDispatch completedRun) liveConfig steadyClaimed
      (freshResult (failedResult stalledRun)) { outside := (), log := [] }).1 = none := by
    decide +kernel
  refine (failures_routed_iff _ _ _ _ _ (.appServer stalledRun) .executed fun _ =>
    .executed (by decide +kernel) rfl).mpr ⟨fun failure hfails => ?_, fun _ =>
      Or.inl stalledRun_endsStalled⟩
  rw [show (handOffOutcome _ _ _ _ _).1 = _ from hfails] at hnone
  cases hnone

/-- The server reports that its turn has failed, and quotes the text of a stall. -/
def quotingLine : String := "\x7b\"method\":\"turn/failed\"\x7d"

def quotingDocument : Json :=
  .obj [("method", .str "turn/failed"),
    ("params", .obj [("message", .str "grep: Codex app-server stalled waiting for turn event")])]

def quotingRun : AppServerRun :=
  { Agent.sampleAppServerRun [Agent.initializedLine, Agent.threadLine, Agent.turnLine, quotingLine]
      (.code 0) with
    json :=
      { parse := fun text =>
          Fallible.okOr ((Agent.appServerDocuments ++ [(quotingLine, quotingDocument)]).lookup text)
            "expected value at line 1 column 1"
        compact := fun _ => "" } }

theorem failures_misrouted :
    ¬ LinkageFollowsFailure unlinkedDispatch liveConfig steadyClaimed completedRun
        { outside := (), log := [] }
      ∧ ¬ (Salvages (steadyDispatch completedRun) steadyClaimed (failedResult quotingRun)
          { outside := (), log := [] } → (CodexRun.appServer quotingRun).EndsStalled) := by
  constructor
  · rw [linkageFollowsFailure_iff]
    intro h
    have hfails : FailsBy unlinkedDispatch liveConfig steadyClaimed completedRun
        { outside := (), log := [] } (.link (.invisible publishedUrl)) :=
      eq_of_reportedFailure (by decide +kernel)
    exact absurd (h _ hfails).2 (by decide +kernel)
  · rw [salvages_iff]
    intro h
    obtain ⟨_, _, _, _, _, -, -, -, hcut⟩ :=
      h ⟨⟨by decide +kernel, rfl, rfl⟩, by decide +kernel⟩
    exact absurd hcut (by decide +kernel)

end SheaSymphony.MainHandoff

import SheaSymphony.MainDispatch
import SheaSymphony.PublishedBranch
import SheaSymphony.Traces

/-!
# The stages of a handoff

The success of a result is a flag that ten steps may take back. Each step that leaves it
has logged what it did, so a result that is still a success behind the last step has the
stages of the handoff in its log, one behind the other (`logs_applyLiveHandoffSteps`).
-/

namespace SheaSymphony.MainHandoff

open Interrupted (Program)
open Traces (Everywhere Passed)
open Tracker (Mutation WrappedOperation)

/-! ## Stages -/

/-- A command has succeeded, and its output is as expected. -/
def Ran (command : Command) (expected : CommandOutput → Prop) (event : HandoffEvent) : Prop :=
  ∃ output, event = .ran command (.ok output) ∧ output.status = 0 ∧ expected output

/-- The run has succeeded, or its failure has been salvaged. -/
def resultStages (result : HandoffResult) : List (HandoffEvent → Prop) :=
  (· = .result result) :: if result.success then [] else [(· = .salvaged)]

/-- There was nothing to commit, or it has been committed. -/
def Committed (issue : MainIssue) (plan : IssueHandoffPlan) (event : HandoffEvent) : Prop :=
  Ran (statusCommand plan) (fun output => Text.trim output.stdout = "") event
    ∨ Ran (commitCommand plan (commitMessage issue)) (fun _ => True) event

def commitStages (issue : MainIssue) (plan : IssueHandoffPlan) (backend : String) :
    List (HandoffEvent → Prop) :=
  if backend = "codex" then [Committed issue plan] else []

def verificationStages (commands : List String) : List (HandoffEvent → Prop) :=
  commands.map fun command => (· = .verified command (.ok ()))

section
variable {σ : Type} (outside : HandoffOutside σ)

def Ahead (output : CommandOutput) : Prop :=
  ∃ count, parseU32 (Text.trim output.stdout) = some count ∧ count ≠ 0

/-- The pull request has been found, or it has been created. -/
def HasPullRequest (plan : IssueHandoffPlan) (url : String) (event : HandoffEvent) : Prop :=
  Ran (viewCommand plan) (fun output =>
      ∃ view, parsePullRequestView outside output.stdout = .ok view ∧ view.url = url) event
    ∨ Ran (createCommand plan) (fun output => extractUrl output.stdout = .ok url) event

def publicationStages (plan : IssueHandoffPlan) (url : String) : List (HandoffEvent → Prop) :=
  [Ran (statusCommand plan) fun output => Text.isBlank output.stdout = true,
    Ran (aheadCommand plan) Ahead,
    Ran (pushCommand plan plan.branchName) fun _ => True,
    HasPullRequest outside plan url]

/-- A list of the linked pull requests has the one of the handoff. -/
def LinkSeen (issueRef url : String) (event : HandoffEvent) : Prop :=
  ∃ linked, event = .listed issueRef (.ok linked) ∧ linkedPullRequestsContain linked url = true

/-- The pull request is no draft, or it has been taken out of draft. -/
def ReadyChecked (url cwd : String) (event : HandoffEvent) : Prop :=
  Ran (readyViewCommand url cwd) (fun output =>
      ∃ page, parsePullRequestReady outside output.stdout = .ok (page, false)) event
    ∨ Ran (readyCommand url cwd) (fun _ => True) event

def EvaluatedReady (url : String) (event : HandoffEvent) : Prop :=
  ∃ evidence, event = .evaluated evidence (evaluateAgentReviewHandoff evidence)
    ∧ (evaluateAgentReviewHandoff evidence).isReady = true ∧ evidence.pullRequestUrl = some url

/-- What the steps of a handoff pass, in their order. -/
def handoffStages (commands : List String) (issue : MainIssue) (plan : IssueHandoffPlan)
    (backend url cwd : String) : List (HandoffEvent → Prop) :=
  commitStages issue plan backend ++ verificationStages commands
    ++ publicationStages outside plan url ++ [LinkSeen issue.identifier url]
    ++ [ReadyChecked outside url cwd]

/-! ## What each step logs -/

variable {outside} {Q : HandoffEvent → Prop} {ε : Type}

theorem logs_runCommand {command : Command} (h : ∀ answer, Q (.ran command answer)) :
    Logs Q (runCommand outside command) fun output more => more = [.ran command (.ok output)] := by
  refine (Logs.call_eq h).bind fun answer first hfirst => ?_
  cases answer with
  | error error => exact Logs.stop
  | ok output => exact Logs.pure ((List.append_nil _).trans hfirst)

theorem logs_runSuccessful {command : Command} (h : ∀ answer, Q (.ran command answer)) :
    Logs Q (runSuccessful outside command) fun output more =>
      output.status = 0 ∧ more = [.ran command (.ok output)] := by
  refine (logs_runCommand h).bind fun output first hfirst => ?_
  refine Logs.ofExcept.bind ?_
  rintro u second ⟨hsuccess, rfl⟩
  refine Logs.pure ⟨?_, by rw [hfirst]; rfl⟩
  by_contra hne
  rw [requireSuccess, if_neg hne] at hsuccess
  cases hsuccess

theorem passed_ran {command : Command} {output : CommandOutput} {more : List HandoffEvent}
    {expected : CommandOutput → Prop}
    (h : output.status = 0 ∧ more = [.ran command (.ok output)]) (houtput : expected output) :
    Passed [Ran command expected] more := by
  obtain ⟨hstatus, rfl⟩ := h
  exact Passed.single List.mem_cons_self ⟨output, rfl, hstatus, houtput⟩

variable (hran : ∀ command answer, Q (.ran command answer))
include hran

theorem logs_commitIssueWorktreeChanges (issue : MainIssue) (plan : IssueHandoffPlan) :
    Logs Q (commitIssueWorktreeChanges outside plan (commitMessage issue)) fun _ more =>
      Passed [Committed issue plan] more := by
  refine (logs_runSuccessful (hran _)).bind fun status first hfirst => ?_
  dsimp only
  split
  · next hclean =>
    refine Logs.pure (Passed.grow ?_)
    obtain ⟨hstatus, rfl⟩ := hfirst
    exact Passed.single List.mem_cons_self (Or.inl ⟨status, rfl, hstatus, hclean⟩)
  · refine Logs.seq (appends_runSuccessful (hran _)) fun _ second => ?_
    refine (logs_runSuccessful (hran _)).bind fun committed third hthird => ?_
    refine Logs.seq (appends_runSuccessful (hran _)) fun _ fourth => Logs.pure ?_
    obtain ⟨hstatus, rfl⟩ := hthird
    have hcommitted : Passed [Committed issue plan]
        [.ran (commitCommand plan (commitMessage issue)) (.ok committed)] :=
      Passed.single List.mem_cons_self (Or.inr ⟨committed, rfl, hstatus, trivial⟩)
    exact hcommitted.grow.prepend.prepend

theorem logs_ensurePublishableBranch (plan : IssueHandoffPlan) :
    Logs Q (ensurePublishableBranch outside plan) fun _ more =>
      Passed [Ran (statusCommand plan) fun output => Text.isBlank output.stdout = true,
        Ran (aheadCommand plan) Ahead] more := by
  refine (logs_runSuccessful (hran _)).bind fun status first hfirst => ?_
  refine Logs.require.bind ?_
  rintro _ second ⟨hblank, rfl⟩
  refine (logs_runSuccessful (hran _)).bind fun ahead third hthird => ?_
  refine Logs.ofExcept.bind ?_
  rintro count fourth ⟨hcount, rfl⟩
  refine Logs.require.mono ?_
  rintro _ fifth ⟨hne, rfl⟩
  have hparse : parseU32 (Text.trim ahead.stdout) = some count := Fallible.okOr_eq_ok.mp hcount
  have hahead : Passed [Ran (aheadCommand plan) Ahead] third :=
    passed_ran hthird ⟨count, hparse, bne_iff_ne.mp hne⟩
  exact (passed_ran hfirst hblank).append (hahead.grow.prepend)

theorem appends_ensureRemoteParent (plan : IssueHandoffPlan) :
    Appends Q (ensureRemoteParentIntegrationBranch outside plan) := by
  unfold ensureRemoteParentIntegrationBranch
  split
  · exact Appends.pure
  · refine (appends_runCommand (hran _)).bind fun remote => ?_
    split
    · exact Appends.pure
    · exact (appends_runSuccessful (hran _)).bind fun _ => Appends.pure

theorem logs_publishIssuePullRequest (plan : IssueHandoffPlan) :
    Logs Q (publishIssuePullRequest outside plan) fun publication more =>
      Passed (publicationStages outside plan publication.prUrl) more := by
  refine (logs_ensurePublishableBranch hran plan).bind fun _ first hfirst => ?_
  refine Logs.seq (appends_ensureRemoteParent hran plan) fun _ second => ?_
  refine (logs_runSuccessful (hran _)).bind fun pushed third hthird => ?_
  have hpushed : Passed [Ran (pushCommand plan plan.branchName) fun _ => True] third :=
    passed_ran hthird trivial
  refine (logs_runCommand (hran _)).bind fun existing fourth hfourth => ?_
  -- the stages up to the push, and the one of the pull request behind them
  have hstages : ∀ {url : String} {last : List HandoffEvent},
      Passed [HasPullRequest outside plan url] last →
        Passed (publicationStages outside plan url) (first ++ (second ++ (third ++ last))) :=
    fun hlast => hfirst.append ((hpushed.append hlast).prepend)
  split
  · next hstatus =>
    refine Logs.ofExcept.bind ?_
    rintro view fifth ⟨hview, rfl⟩
    refine Logs.seq (appends_ensureExistingBody view.body hran) fun _ sixth => Logs.pure ?_
    refine hstages (Passed.grow (Passed.single ?_ (Or.inl
      ⟨existing, rfl, hstatus, view, hview, rfl⟩)))
    rw [hfourth]
    exact List.mem_cons_self
  · refine (logs_runSuccessful (hran _)).bind fun created fifth hfifth => ?_
    refine Logs.ofExcept.bind ?_
    rintro url sixth ⟨hurl, rfl⟩
    refine Logs.pure (hstages (Passed.prepend (Passed.grow ?_)))
    obtain ⟨hstatus, rfl⟩ := hfifth
    exact Passed.single List.mem_cons_self (Or.inr ⟨created, rfl, hstatus, hurl⟩)

theorem logs_ensurePullRequestReady (url cwd : String) :
    Logs Q (ensurePullRequestReady outside url cwd) fun _ more =>
      Passed [ReadyChecked outside url cwd] more := by
  refine (logs_runSuccessful (hran _)).bind fun viewed first hfirst => ?_
  refine Logs.ofExcept.bind ?_
  rintro ⟨page, wasDraft⟩ second ⟨hready, rfl⟩
  dsimp only
  split
  · refine (logs_runSuccessful (hran _)).bind fun marked third hthird => Logs.pure ?_
    obtain ⟨hstatus, rfl⟩ := hthird
    have hmarked : Passed [ReadyChecked outside url cwd] [.ran (readyCommand url cwd) (.ok marked)] :=
      Passed.single List.mem_cons_self (Or.inr ⟨marked, rfl, hstatus, trivial⟩)
    exact hmarked.grow.prepend.prepend
  · next hdraft =>
    obtain rfl : wasDraft = false := Bool.eq_false_of_not_eq_true hdraft
    refine Logs.pure (Passed.grow ?_)
    obtain ⟨hstatus, rfl⟩ := hfirst
    exact Passed.single List.mem_cons_self (Or.inl ⟨viewed, rfl, hstatus, page, hready⟩)

end

/-! ## The write of the state -/

/-- The write by which an issue enters agent review. -/
def reviewWrite (issueRef : String) (answer : Except Tracker.AdapterError Unit) : HandoffEvent :=
  .tracker (.mutated (.setState issueRef "agent_review") answer)

/-- Not a write of that kind. -/
def Quiet (event : HandoffEvent) : Prop := ∀ issueRef answer, event ≠ reviewWrite issueRef answer

theorem quiet_result (result : HandoffResult) : Quiet (.result result) := fun _ _ => nofun

theorem quiet_salvaged : Quiet .salvaged := fun _ _ => nofun

theorem quiet_ran (command : Command) (answer : Except String CommandOutput) :
    Quiet (.ran command answer) := fun _ _ => nofun

theorem quiet_verified (command : String) (answer : Except String Unit) :
    Quiet (.verified command answer) := fun _ _ => nofun

theorem quiet_listed (issueRef : String) (answer : Except String (List LinkedPullRequest)) :
    Quiet (.listed issueRef answer) := fun _ _ => nofun

theorem quiet_linked (issueRef prUrl : String) (answer : Except String Unit) :
    Quiet (.linked issueRef prUrl answer) := fun _ _ => nofun

theorem quiet_evaluated (evidence : AgentReviewHandoffEvidence)
    (report : AgentReviewHandoffReport) : Quiet (.evaluated evidence report) := fun _ _ => nofun

theorem quiet_readback (answer : Except Tracker.AdapterError (Option Review.ReviewedIssue)) :
    Quiet (.tracker (.readback answer)) := fun _ _ => nofun

theorem quiet_mutated {mutation : Mutation}
    (h : ∀ issueRef, mutation ≠ .setState issueRef "agent_review")
    (answer : Except Tracker.AdapterError Unit) : Quiet (.tracker (.mutated mutation answer)) := by
  intro issueRef other heq
  cases heq
  exact h issueRef rfl

/-! ## The steps of the live handoff -/

section
variable {σ ε : Type} {outside : HandoffOutside σ}

theorem logs_listLinkedPullRequests (issueRef : String) :
    Logs Quiet (listLinkedPullRequests outside issueRef) fun linked more =>
      more = [.listed issueRef (.ok linked)] := by
  refine (Logs.call_eq (quiet_listed issueRef)).bind fun answer first hfirst => ?_
  cases answer with
  | error error => exact Logs.stop
  | ok linked => exact Logs.pure ((List.append_nil _).trans hfirst)

theorem appends_linkPullRequest (issueRef prUrl : String) :
    Appends Quiet (linkPullRequest outside issueRef prUrl) := by
  refine (Appends.call (quiet_linked issueRef prUrl)).bind fun answer => ?_
  cases answer with
  | error error => exact Appends.stop
  | ok u => exact Appends.pure

theorem linkedPullRequestsContain_of_native {linked : List LinkedPullRequest} {prUrl : String}
    (h : nativeLinkedPullRequestsContain linked prUrl = true) :
    linkedPullRequestsContain linked prUrl = true := by
  obtain ⟨pr, hpr, hmatch⟩ := List.any_eq_true.mp h
  exact List.any_eq_true.mpr ⟨pr, List.mem_of_mem_filter hpr, hmatch⟩

theorem logs_recordLiveHandoffPrLink (issueRef : String) {result : HandoffResult}
    {handoff : RunLoopLiveHandoff} (hresult : result.liveHandoff = some handoff) :
    Logs Quiet (recordLiveHandoffPrLink outside issueRef result) fun _ more =>
      Passed [LinkSeen issueRef handoff.publication.prUrl] more := by
  unfold recordLiveHandoffPrLink
  rw [hresult]
  have hseen : ∀ {linked : List LinkedPullRequest} {more : List HandoffEvent},
      more = [.listed issueRef (.ok linked)] →
        linkedPullRequestsContain linked handoff.publication.prUrl = true →
          Passed [LinkSeen issueRef handoff.publication.prUrl] more := by
    rintro linked _ rfl hcontain
    exact Passed.single List.mem_cons_self ⟨linked, rfl, hcontain⟩
  refine (logs_listLinkedPullRequests issueRef).bind fun linked first hfirst => ?_
  split
  · next hnative =>
    exact Logs.pure (Passed.grow (hseen hfirst (linkedPullRequestsContain_of_native hnative)))
  · refine Logs.seq (appends_linkPullRequest issueRef _) fun _ second => ?_
    refine (logs_listLinkedPullRequests issueRef).bind fun again third hthird => ?_
    refine Logs.require.mono ?_
    rintro _ fourth ⟨hcontain, rfl⟩
    exact (hseen hthird hcontain).grow.prepend.prepend

/-- A result that is handed off at a pull request, behind some stages. -/
def HandedOff (stages : RunLoopLiveHandoff → List (HandoffEvent → Prop)) (result : HandoffResult)
    (more : List HandoffEvent) : Prop :=
  result.success = true →
    ∃ handoff, result.liveHandoff = some handoff ∧ Passed (stages handoff) more

theorem logs_linkPublished (issue : MainIssue) (result : HandoffResult)
    {stages : RunLoopLiveHandoff → List (HandoffEvent → Prop)}
    (hstages : ∀ handoff linked, stages { handoff with projectPrLinkVerified := linked } = stages handoff)
    {earlier : List HandoffEvent} (hresult : HandedOff stages result earlier) :
    Logs Quiet (linkPublished outside issue result : Program (HandoffWorld σ) ε HandoffResult)
      fun final more => HandedOff (fun handoff =>
        stages handoff ++ [LinkSeen issue.identifier handoff.publication.prUrl]) final
          (earlier ++ more) := by
  unfold linkPublished
  split
  · next hsuccess =>
    obtain ⟨handoff, hhandoff, hpassed⟩ := hresult hsuccess
    suffices hlink : Logs Quiet (applyLiveHandoffPrLink outside issue.identifier result :
        Program (HandoffWorld σ) ε (Bool × HandoffResult)) fun linked more => HandedOff (fun handoff =>
          stages handoff ++ [LinkSeen issue.identifier handoff.publication.prUrl]) linked.2
            (earlier ++ more) from
      hlink.bind fun linked first hlinked => Logs.pure (by rwa [List.append_nil])
    unfold applyLiveHandoffPrLink
    rw [hhandoff]
    refine (Logs.attempt (logs_recordLiveHandoffPrLink issue.identifier hhandoff)).bind
      fun recorded first hrecorded => ?_
    cases recorded with
    | error error => exact Logs.pure nofun
    | ok u =>
        refine Logs.pure fun _ => ⟨_, rfl, ?_⟩
        dsimp only
        rw [hstages, List.append_nil]
        exact hpassed.append (hrecorded u rfl)
  · next hsuccess => exact Logs.pure fun h => absurd h hsuccess

theorem logs_readyPublished (result : HandoffResult)
    {stages : RunLoopLiveHandoff → List (HandoffEvent → Prop)}
    (hstages : ∀ handoff ready, stages { handoff with pullRequestReady := ready } = stages handoff)
    {earlier : List HandoffEvent} (hresult : HandedOff stages result earlier) :
    Logs Quiet (readyPublished outside result : Program (HandoffWorld σ) ε HandoffResult)
      fun final more => HandedOff (fun handoff => stages handoff ++
        [ReadyChecked outside handoff.publication.prUrl handoff.worktree.workspacePath]) final
          (earlier ++ more) := by
  unfold readyPublished
  split
  · next hsuccess =>
    obtain ⟨handoff, hhandoff, hpassed⟩ := hresult hsuccess
    rw [hhandoff]
    refine (Logs.attempt (logs_ensurePullRequestReady quiet_ran _ _)).bind
      fun checked first hchecked => ?_
    cases checked with
    | error error => exact Logs.pure nofun
    | ok ready =>
        refine Logs.pure fun _ => ⟨_, rfl, ?_⟩
        dsimp only
        rw [hstages, List.append_nil]
        exact hpassed.append (hchecked ready rfl)
  · next hsuccess => exact Logs.pure fun h => absurd h hsuccess

variable (config : HandoffConfig) (issue : MainIssue) (plan : IssueHandoffPlan)
  (profileId : Option String)

theorem logs_commitLocalChanges (result : HandoffResult) :
    Logs Quiet (commitLocalChanges outside issue plan result :
      Program (HandoffWorld σ) ε HandoffResult) fun final more =>
        final.success = true → Passed (commitStages issue plan result.backend) more := by
  unfold commitLocalChanges commitStages
  split
  · refine (Logs.attempt (logs_commitIssueWorktreeChanges quiet_ran issue plan)).bind
      fun committed first hcommitted => ?_
    cases committed with
    | error error => exact Logs.pure nofun
    | ok commit => exact Logs.pure fun _ => (hcommitted commit rfl).grow
  · exact Logs.pure fun _ => Passed.nil

theorem logs_verifyFrom (total : Nat) : ∀ (commands : List String) (index : Nat),
    Logs Quiet (verifyFrom outside profileId total index commands :
      Program (HandoffWorld σ) ε HandoffVerification) fun verification more =>
        verification.success = true → Passed (verificationStages commands) more
  | [], _ => Logs.pure fun _ => Passed.nil
  | command :: rest, index => by
      refine (Logs.call_eq (quiet_verified command)).bind fun answer first hfirst => ?_
      cases answer with
      | error error => exact Logs.pure nofun
      | ok u =>
          refine (logs_verifyFrom total rest (index + 1)).mono fun verification more hmore h => ?_
          have hcommand : Passed [(· = .verified command (.ok ()))] first := by
            rw [hfirst]
            exact Passed.single List.mem_cons_self rfl
          exact hcommand.append (hmore h)

theorem logs_verifyLocalChanges (result : HandoffResult) :
    Logs Quiet (verifyLocalChanges outside config profileId result :
      Program (HandoffWorld σ) ε HandoffVerification) fun verification more =>
        verification.success = true →
          result.success = true ∧ Passed (verificationStages config.verificationCommands) more := by
  unfold verifyLocalChanges
  split
  · next hsuccess =>
    unfold runHandoffVerification
    split
    · next hempty =>
      refine Logs.pure fun _ => ⟨hsuccess, ?_⟩
      rw [List.isEmpty_iff.mp hempty]
      exact Passed.nil
    · exact (logs_verifyFrom profileId _ _ _).mono fun verification more hmore h =>
        ⟨hsuccess, hmore h⟩
  · exact Logs.pure nofun

theorem logs_publishVerified (worktree : LiveWorktreeResult) (verification : HandoffVerification)
    (result : HandoffResult) :
    Logs Quiet (publishVerified outside plan worktree verification result :
      Program (HandoffWorld σ) ε HandoffResult) fun final more =>
        HandedOff (fun handoff => publicationStages outside plan handoff.publication.prUrl) final more
          ∧ (final.success = true → verification.success = true) := by
  unfold publishVerified
  dsimp only
  split
  · next hverified =>
    refine (Logs.attempt (logs_publishIssuePullRequest quiet_ran plan)).bind
      fun published first hpublished => ?_
    cases published with
    | error error =>
        exact Logs.pure ⟨nofun, nofun⟩
    | ok publication =>
        refine Logs.pure ⟨fun _ => ⟨_, rfl, ?_⟩, fun _ => hverified⟩
        exact (hpublished publication rfl).grow
  · exact Logs.pure ⟨nofun, nofun⟩

theorem logs_publishWorktree (worktree : LiveWorktreeResult) (result : HandoffResult) :
    Logs Quiet (publishWorktree outside config issue plan profileId worktree result :
      Program (HandoffWorld σ) ε HandoffResult) fun final more =>
        HandedOff (fun handoff => commitStages issue plan result.backend
          ++ verificationStages config.verificationCommands
          ++ publicationStages outside plan handoff.publication.prUrl) final more := by
  refine (logs_commitLocalChanges issue plan result).bind fun committed first hfirst => ?_
  refine (logs_verifyLocalChanges config profileId committed).bind
    fun verification second hsecond => ?_
  refine (logs_publishVerified plan worktree verification committed).mono ?_
  rintro final third ⟨hhanded, hverified⟩ hsuccess
  obtain ⟨hcommitted, hverification⟩ := hsecond (hverified hsuccess)
  obtain ⟨handoff, hhandoff, hpassed⟩ := hhanded hsuccess
  refine ⟨handoff, hhandoff, ?_⟩
  rw [← List.append_assoc]
  exact ((hfirst hcommitted).append hverification).append hpassed

theorem logs_applyLiveHandoffSteps (worktree : LiveWorktreeResult) (result : HandoffResult) :
    Logs Quiet (applyLiveHandoffSteps outside config issue plan profileId (some worktree) result :
      Program (HandoffWorld σ) ε HandoffResult) fun final more =>
        HandedOff (fun handoff => handoffStages outside config.verificationCommands issue plan
          result.backend handoff.publication.prUrl handoff.worktree.workspacePath) final more := by
  refine (logs_publishWorktree config issue plan profileId worktree result).bind
    fun published first hfirst => ?_
  refine (logs_linkPublished issue published (fun _ _ => rfl) hfirst).bind
    fun linked second hsecond => ?_
  refine (logs_readyPublished linked (fun _ _ => rfl) hsecond).mono fun final third hthird => ?_
  rwa [List.append_assoc] at hthird

end

end SheaSymphony.MainHandoff

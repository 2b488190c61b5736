import SheaSymphony.HandoffStages
import SheaSymphony.ResumeAccounts

/-!
# The way into agent review

A dispatch writes `agent_review` at one place, and it comes there only with a result that
is a success behind the last step of the live handoff and evidence that is evaluated as
ready. So whatever the tracker, the commands and the backend answer, the write has the
stages of the handoff before it (`agent_review_has_published_evidence`).
-/

namespace SheaSymphony.MainHandoff

open Interrupted (Program)
open MainLoop (IssueExecutionResult)
open SheaSymphony.Runtime (RuntimeState)
open Traces (Everywhere Passed)
open Tracker (Mutation WrappedOperation)

variable {claimed : ClaimedDispatch} {handoff : RunLoopLiveHandoff} {result : HandoffResult}

section
variable {σ : Type} {outside : DispatchOutside σ} {config : DispatchConfig} {α : Type}

/-! ## Calls and writes -/

theorem appends_ask {Q : HandoffEvent → Prop} {f : σ → Except String α × σ} :
    Appends Q (ask f : Dispatching σ α) := by
  refine Appends.look.bind fun answer => ?_
  cases answer with
  | error error => exact Appends.stop
  | ok a => exact Appends.pure

theorem appends_gitStep {Q : HandoffEvent → Prop} {program : GitProgram σ α}
    (h : Appends Q program) : Appends Q (gitStep program) := by
  refine h.attempt.bind fun answer => ?_
  cases answer with
  | error error => exact Appends.stop
  | ok a => exact Appends.pure

theorem appends_readIssue (issueRef missing : String) :
    Appends Quiet (readIssue outside issueRef missing) := by
  refine Appends.look.bind fun answer => ?_
  match answer with
  | .ok (some issue) => exact Appends.pure
  | .ok none => exact Appends.stop
  | .error error => exact Appends.stop

theorem wrapped_log (outside : DispatchOutside σ) (config : DispatchConfig)
    (operation : WrappedOperation) (world : HandoffWorld σ) :
    ∃ calls : List Tracker.AdapterCall,
      (wrapped outside config operation world).2.log = world.log ++ calls.map .tracker
        ∧ ∀ mutation answer, .mutated mutation answer ∈ calls → mutation = operation.mutation :=
  ⟨_, rfl, (operation.writtenBy_run (writeAdapter outside) config.preflight.case
    world.outside).faithful.own⟩

theorem appends_wrapped {operation : WrappedOperation}
    (h : ∀ issueRef, operation.mutation ≠ .setState issueRef "agent_review") :
    Appends Quiet (wrapped outside config operation) := by
  intro world
  obtain ⟨calls, hlog, hown⟩ := wrapped_log outside config operation world
  refine ⟨_, hlog, fun event hevent => ?_⟩
  obtain ⟨call, hcall, rfl⟩ := List.mem_map.mp hevent
  cases call with
  | readback answer => exact quiet_readback answer
  | mutated mutation answer =>
      rw [hown mutation answer hcall]
      exact quiet_mutated h answer

theorem appends_writeOnce {mutation : Mutation}
    (h : ∀ issueRef, mutation ≠ .setState issueRef "agent_review") :
    Appends Quiet (writeOnce outside mutation) := by
  refine (Appends.call (quiet_mutated h)).bind fun answer => ?_
  cases answer with
  | error error => exact Appends.stop
  | ok u => exact Appends.pure

theorem appends_setState (issue : MainIssue) {state : String} (h : state ≠ "agent_review") :
    Appends Quiet (setState outside config issue state) := by
  refine (appends_wrapped fun issueRef heq => h ?_).bind fun _ => Appends.pure
  exact (Mutation.setState.inj heq).2

theorem appends_upsertWorkpad (issue : MainIssue) (markdown key : String) :
    Appends Quiet (upsertWorkpad outside config issue markdown key) :=
  (appends_wrapped fun _ heq => by cases heq).bind fun _ => Appends.pure

theorem appends_writeClaimValue (issue : MainIssue) (value : Except String String) :
    Appends Quiet (writeClaimValue outside config issue value) := by
  cases value with
  | error error => exact Appends.stop
  | ok value => exact (appends_wrapped fun _ heq => by cases heq).bind fun _ => Appends.pure

/-! ## Before the claim -/

theorem gateTargetState_ne (decision : QualityGate.GateDecision) :
    gateTargetState decision ≠ "agent_review" := by
  unfold gateTargetState
  split <;> decide

theorem appends_handleRunLoopGateFailure (issue : MainIssue) (decision : QualityGate.GateDecision) :
    Appends Quiet (handleRunLoopGateFailure outside config issue decision) := by
  unfold handleRunLoopGateFailure
  split
  · refine (appends_writeOnce fun _ heq => by cases heq).bind fun _ => appends_writeOnce fun issueRef heq => ?_
    exact gateTargetState_ne decision (Mutation.setState.inj heq).2
  · exact Appends.pure

theorem appends_handleRunLoopHandoffFailure (issue : MainIssue) (error : String) :
    Appends Quiet (handleRunLoopHandoffFailure outside config issue error) := by
  unfold handleRunLoopHandoffFailure
  split
  · refine (appends_writeOnce fun _ heq => by cases heq).bind fun _ => appends_writeOnce fun issueRef heq => ?_
    exact absurd (Mutation.setState.inj heq).2 (by decide)
  · exact Appends.pure

theorem appends_admitted (issue : MainIssue) : Appends Quiet (admitted outside config issue) := by
  unfold admitted
  split
  · exact Appends.pure
  · refine appends_ask.bind fun decision => ?_
    split
    · exact Appends.pure
    · exact (appends_handleRunLoopGateFailure issue decision).bind fun _ => Appends.pure

theorem appends_ensureParent (issue : MainIssue) (plan : IssueHandoffPlan) :
    Appends Quiet (ensureParentIntegrationBranchEvidence outside config issue plan) := by
  unfold ensureParentIntegrationBranchEvidence
  split
  · refine (appends_readIssue _ _).bind fun parent => ?_
    split
    · exact Appends.pure
    · exact (appends_wrapped fun _ heq => by cases heq).bind fun _ => Appends.pure
  · exact Appends.pure

theorem appends_assigneeAllows (issue : MainIssue) (logins : Option String × Option String) :
    Appends Quiet (assigneeAllows outside config issue logins) := by
  unfold assigneeAllows
  split
  · exact Appends.pure
  · exact (appends_upsertWorkpad _ _ _).bind fun _ => Appends.pure

theorem appends_launchPlan (issue : MainIssue) (plan : IssueHandoffPlan)
    (existing : Option RuntimeState) (recover : Bool) :
    Appends Quiet (launchPlan outside issue plan existing recover) := by
  refine Appends.bind ?_ fun recovered => Appends.look
  unfold recoveredPlan
  split
  · exact appends_ask
  · exact Appends.pure

theorem appends_prepareIssueWorktree (outside : HandoffOutside σ) (plan : IssueHandoffPlan)
    (repoRoot : String) : Appends Quiet (prepareIssueWorktree outside plan repoRoot) := by
  have hexists : ∀ branch, Appends Quiet (localBranchExists outside repoRoot branch) :=
    fun branch => (appends_runCommand (quiet_ran _)).bind fun _ => Appends.pure
  unfold prepareIssueWorktree
  refine Appends.look.bind fun found => ?_
  split
  · refine Appends.bind ((appends_runSuccessful (quiet_ran _)).bind fun _ => Appends.pure)
      fun branch => ?_
    split
    · exact Appends.stop
    · exact Appends.pure
  · refine Appends.look.bind fun created => ?_
    cases created with
    | error error => exact Appends.stop
    | ok u =>
        refine Appends.bind ?_ fun _ => (hexists _).bind fun exists? =>
          (appends_runSuccessful (quiet_ran _)).bind fun _ => Appends.pure
        unfold ensureLocalParentIntegrationBranch
        split
        · exact Appends.pure
        · refine (hexists _).bind fun found => ?_
          split
          · exact Appends.pure
          · exact (appends_runSuccessful (quiet_ran _)).bind fun _ => Appends.pure

theorem logs_liveWorktree (plan : IssueHandoffPlan)
    (hlive : runLoopLiveHandoffEnabled config.toHandoffConfig = true) :
    Logs Quiet (liveWorktree outside config plan) fun worktree _ => worktree.isSome = true := by
  unfold liveWorktree
  rw [if_pos hlive]
  exact Logs.seq appends_ask fun repoRoot _ =>
    Logs.seq (appends_gitStep (appends_prepareIssueWorktree _ plan repoRoot)) fun _ _ =>
      Logs.pure rfl

theorem appends_readyProfile (workspacePath : String) :
    Appends Quiet (readyProfile outside workspacePath) := by
  refine Appends.look.bind fun answer => ?_
  cases answer with
  | error error => exact appends_ask.bind fun _ => Appends.pure
  | ok profileId => exact Appends.pure

/-- A dispatch that has been prepared has its worktree. -/
def Prepared (prepared : Option PreparedDispatch) : Prop :=
  ∀ dispatch, prepared = some dispatch → dispatch.liveWorktree.isSome = true

theorem prepared_none : Prepared none := by
  intro dispatch h
  cases h

section
variable (hlive : runLoopLiveHandoffEnabled config.toHandoffConfig = true)
include hlive

theorem logs_prepareWorkspace (issue : MainIssue) (plan : IssueHandoffPlan)
    (logins : Option String × Option String) (recover : Bool) :
    Logs Quiet (prepareWorkspace outside config issue plan logins recover) fun prepared _ =>
      Prepared prepared := by
  refine Logs.seq appends_ask fun states _ => Logs.seq (appends_launchPlan _ _ _ _) fun launch _ => ?_
  cases launch with
  | error error =>
      exact Logs.seq (appends_handleRunLoopHandoffFailure issue error) fun _ _ =>
        Logs.pure prepared_none
  | ok plan =>
      refine (logs_liveWorktree plan hlive).bind fun worktree _ hworktree => ?_
      refine Logs.seq (appends_readyProfile _) fun ready _ => ?_
      cases ready with
      | none => exact Logs.pure prepared_none
      | some profileId =>
          refine Logs.seq (appends_readIssue _ _) fun latest _ =>
            Logs.seq (appends_admitted latest) fun isAdmitted _ => ?_
          cases isAdmitted with
          | false => exact Logs.pure prepared_none
          | true =>
              rw [if_pos rfl]
              split
              · exact Logs.pure prepared_none
              · refine Logs.pure fun dispatch hdispatch => ?_
                cases hdispatch
                exact hworktree

theorem logs_prepareDispatch (issue : MainIssue) (recover : Bool) :
    Logs Quiet (prepareDispatch outside config issue recover) fun prepared _ =>
      Prepared prepared := by
  refine Logs.seq ?_ fun latest _ => Logs.seq (appends_admitted latest) fun isAdmitted _ => ?_
  · unfold dispatchedIssue
    split
    · exact Appends.pure
    · exact appends_readIssue _ _
  · cases isAdmitted with
    | false => exact Logs.pure prepared_none
    | true =>
        rw [if_pos rfl]
        refine Logs.seq Appends.look fun planned _ => ?_
        cases planned with
        | error error =>
            exact Logs.seq (appends_handleRunLoopHandoffFailure latest error) fun _ _ =>
              Logs.pure prepared_none
        | ok plan =>
            refine Logs.seq (appends_ensureParent latest plan) fun _ _ =>
              Logs.seq appends_ask fun logins _ =>
                Logs.seq (appends_assigneeAllows latest logins) fun isAllowed _ => ?_
            cases isAllowed with
            | false => exact Logs.pure prepared_none
            | true => exact logs_prepareWorkspace hlive latest plan logins recover

end

/-! ## The claim and the run -/

theorem appends_touchRuntimeState (state : RuntimeState) :
    Appends Quiet (touchRuntimeState outside state) :=
  Appends.look.bind fun _ => Appends.pure

theorem appends_storeRuntimeState (state : RuntimeState) :
    Appends Quiet (storeRuntimeState outside state) :=
  (appends_touchRuntimeState state).bind fun _ => appends_ask.bind fun _ => Appends.pure

/-- A claim leaves the dispatch with the worktree it has. -/
def KeepsWorktree (prepared : PreparedDispatch) (claimed : Option ClaimedDispatch) : Prop :=
  ∀ dispatch, claimed = some dispatch → dispatch.liveWorktree = prepared.liveWorktree

theorem keepsWorktree_none (prepared : PreparedDispatch) : KeepsWorktree prepared none := by
  intro dispatch h
  cases h

theorem logs_recordClaim (prepared : PreparedDispatch) (claim : Lanes.LaneClaim)
    (ownership : RuntimeOwnership) (event : String) :
    Logs Quiet (recordClaim outside config prepared claim ownership event) fun claimed _ =>
      KeepsWorktree prepared claimed := by
  refine Logs.seq (appends_writeClaimValue _ _) fun _ _ => Logs.seq ?_ fun _ _ =>
    Logs.seq (appends_upsertWorkpad _ _ _) fun _ _ =>
      Logs.seq (appends_storeRuntimeState _) fun _ _ => Logs.pure ?_
  · unfold enterInProgress
    split
    · exact appends_setState _ (by decide)
    · exact Appends.pure
  · intro dispatch hdispatch
    cases hdispatch
    rfl

theorem logs_claimDispatch (prepared : PreparedDispatch) :
    Logs Quiet (claimDispatch outside config prepared) fun claimed _ =>
      KeepsWorktree prepared claimed := by
  refine Logs.seq appends_ask fun ownership _ => Logs.seq Appends.look fun nowMs _ => ?_
  dsimp only
  split
  · exact logs_recordClaim _ _ _ _
  · split
    · exact Logs.pure (keepsWorktree_none prepared)
    · exact logs_recordClaim _ _ _ _
  · exact Logs.pure (keepsWorktree_none prepared)

theorem appends_superviseResume (state : RuntimeState) (resumed : Option String) (event : String) :
    Appends Quiet (superviseResume outside state resumed event) := by
  unfold superviseResume
  split
  · exact appends_ask
  · exact Appends.pure

theorem appends_runBackend (claimed : ClaimedDispatch) (recover : Bool) :
    Appends Quiet (runBackend outside config claimed recover) := by
  refine Appends.bind ?_ fun recovery => appends_ask
  unfold dispatchRecovery
  dsimp only
  split
  · exact appends_ask.bind fun plan => appends_ask.bind fun _ =>
      (appends_superviseResume _ _ _).bind fun _ => (appends_superviseResume _ _ _).bind fun _ =>
        Appends.pure
  · exact Appends.pure

theorem appends_backendResult (claimed : ClaimedDispatch) (recover : Bool) :
    Appends Quiet (backendResult outside config claimed recover) := by
  refine appends_ask.bind fun reconciled => ?_
  match reconciled with
  | some (.terminal result) => exact Appends.pure
  | none => exact (appends_runBackend claimed recover).bind fun _ => Appends.pure
  | some (.active status source evidence) =>
      dsimp only
      split
      · exact appends_ask.bind fun _ => (appends_runBackend claimed recover).bind fun _ => Appends.pure
      · exact appends_ask.bind fun _ => Appends.pure

/-! ## The handoff of a result -/

theorem appends_salvageLog (result : HandoffResult) : Appends Quiet (salvageLog outside result) := by
  unfold salvageLog
  split
  · split
    · exact Appends.look
    · exact Appends.pure
  · exact Appends.pure

/-- What a result has passed by which the handoff goes on. -/
def salvageStages (result : HandoffResult) : List (HandoffEvent → Prop) :=
  if result.success then [] else [(· = .salvaged)]

theorem logs_salvageResult (claimed : ClaimedDispatch) (result : HandoffResult) :
    Logs Quiet (salvageResult outside claimed result) fun final more =>
      final.backend = result.backend
        ∧ (final.success = true → Passed (salvageStages result) more) := by
  refine Logs.seq (appends_salvageLog result) fun log first => ?_
  split
  · refine Logs.seq appends_ask fun _ second => ?_
    refine (Logs.note_eq quiet_salvaged).bind ?_
    rintro _ third rfl
    refine Logs.pure ⟨rfl, fun _ => ?_⟩
    unfold salvageStages
    split
    · exact Passed.nil
    · have hsalvaged : Passed [(· = HandoffEvent.salvaged)] [HandoffEvent.salvaged] :=
        Passed.single List.mem_cons_self rfl
      exact hsalvaged.grow.prepend.prepend
  · refine Logs.pure ⟨rfl, fun hsuccess => ?_⟩
    rw [salvageStages, if_pos hsuccess]
    exact Passed.nil

theorem logs_handOff (hworktree : claimed.liveWorktree.isSome = true) (result : HandoffResult) :
    Logs Quiet (handOff outside config claimed result) fun final more =>
      HandedOff (fun handoff => salvageStages result
        ++ handoffStages outside.toHandoffOutside config.verificationCommands claimed.latest
          claimed.plan result.backend handoff.publication.prUrl handoff.worktree.workspacePath)
        final more := by
  obtain ⟨worktree, hsome⟩ := Option.isSome_iff_exists.mp hworktree
  refine (logs_salvageResult claimed result).bind fun salvaged first hfirst => ?_
  obtain ⟨hbackend, hpassed⟩ := hfirst
  split
  · next hsuccess =>
    rw [hsome]
    refine (logs_applyLiveHandoffSteps config.toHandoffConfig claimed.latest claimed.plan
      claimed.profileId worktree salvaged).mono fun final second hsecond hfinal => ?_
    obtain ⟨handoff, hhandoff, hsteps⟩ := hsecond hfinal
    rw [hbackend] at hsteps
    exact ⟨handoff, hhandoff, (hpassed hsuccess).append hsteps⟩
  · next hsuccess => exact Logs.pure fun h => absurd h hsuccess

/-! ## What stands before the write -/

variable (outside) in
/-- The stages a dispatch has passed that has handed a result off. -/
def publishedStages (commands : List String) (issue : MainIssue) (plan : IssueHandoffPlan)
    (result : HandoffResult) (url cwd : String) : List (HandoffEvent → Prop) :=
  resultStages result
    ++ handoffStages outside.toHandoffOutside commands issue plan result.backend url cwd
    ++ [EvaluatedReady url]

variable (outside) in
def PublishedEvidence (commands : List String) (issueRef : String) (earlier : List HandoffEvent) :
    Prop :=
  ∃ issue plan result url cwd, issue.identifier = issueRef
    ∧ Passed (publishedStages outside commands issue plan result url cwd) earlier

variable (outside) in
/-- A write of `agent_review` has the evidence behind it. -/
def EntersWithEvidence (commands : List String) (earlier : List HandoffEvent) (event : HandoffEvent) :
    Prop :=
  ∀ issueRef answer, event = reviewWrite issueRef answer →
    PublishedEvidence outside commands issueRef earlier

theorem entersWithEvidence_of_quiet {commands : List String} {event : HandoffEvent}
    (h : Quiet event) (earlier : List HandoffEvent) :
    EntersWithEvidence outside commands earlier event :=
  fun issueRef answer heq => absurd heq (h issueRef answer)

variable (outside) in
/-- Behind the stages, the program writes `agent_review` only with evidence. -/
def Keeps (commands : List String) (stages : List (HandoffEvent → Prop)) (program : Dispatching σ α) :
    Prop :=
  ∀ world, Everywhere (EntersWithEvidence outside commands) world.log → Passed stages world.log →
    Everywhere (EntersWithEvidence outside commands) (program world).2.log

section
variable {β : Type} {commands : List String} {stages : List (HandoffEvent → Prop)}
  {program : Dispatching σ α} {rest : α → Dispatching σ β}

theorem keeps_of_appends (h : Appends Quiet program) : Keeps outside commands stages program := by
  intro world hworld _
  obtain ⟨more, hlog, hmore⟩ := h world
  rw [hlog]
  exact hworld.append fun event hevent earlier =>
    entersWithEvidence_of_quiet (hmore event hevent) earlier

theorem keeps_bind {post : α → List HandoffEvent → Prop} (h : Logs Quiet program post)
    (hrest : ∀ a first, post a first →
      ∃ passed, Passed passed first ∧ Keeps outside commands (stages ++ passed) (rest a)) :
    Keeps outside commands stages (program >>= rest) := by
  intro world hworld hstages
  have hkeeps : Keeps outside commands stages program := keeps_of_appends h.appends
  have hquiet := hkeeps world hworld hstages
  obtain ⟨first, hlog, -, hreturn⟩ := h world
  cases hrun : program world with
  | mk result next =>
      rw [hrun] at hlog hreturn hquiet
      cases result with
      | error e =>
          rw [Program.bind_error hrun]
          exact hquiet
      | ok a =>
          rw [Program.bind_ok hrun]
          obtain ⟨passed, hpassed, hkeeps⟩ := hrest a first (hreturn a rfl)
          refine hkeeps next hquiet ?_
          have hnext : next.log = world.log ++ first := hlog
          rw [hnext]
          exact hstages.append hpassed

theorem keeps_seq (h : Appends Quiet program) (hrest : ∀ a, Keeps outside commands stages (rest a)) :
    Keeps outside commands stages (program >>= rest) := by
  refine keeps_bind (Logs.of_appends h) fun a first _ => ⟨[], Passed.nil, ?_⟩
  rw [List.append_nil]
  exact hrest a

theorem keeps_last (h : Keeps outside commands stages program)
    (hrest : ∀ a, Appends Quiet (rest a)) : Keeps outside commands stages (program >>= rest) := by
  intro world hworld hstages
  have hkept := h world hworld hstages
  cases hrun : program world with
  | mk result next =>
      rw [hrun] at hkept
      cases result with
      | error e =>
          rw [Program.bind_error hrun]
          exact hkept
      | ok a =>
          rw [Program.bind_ok hrun]
          obtain ⟨more, hlog, hmore⟩ := hrest a next
          rw [hlog]
          exact hkept.append fun event hevent earlier =>
            entersWithEvidence_of_quiet (hmore event hevent) earlier

end

/-! ## Terminal transitions -/

theorem keeps_setState {commands : List String} {issue : MainIssue} {plan : IssueHandoffPlan}
    {url cwd : String} :
    Keeps outside commands (publishedStages outside commands issue plan result url cwd)
      (setState outside config issue "agent_review") := by
  refine keeps_last ?_ fun _ => Appends.pure
  intro world hworld hstages
  obtain ⟨calls, hlog, hown⟩ := wrapped_log outside config
    (.setState issue.identifier (some issue.reviewed) "agent_review" "state_change") world
  rw [hlog]
  refine hworld.append_of fun first event later hmore issueRef answer hevent => ?_
  have hcall : event ∈ calls.map HandoffEvent.tracker := by
    rw [hmore]
    exact List.mem_append_right first List.mem_cons_self
  obtain ⟨call, hmem, rfl⟩ := List.mem_map.mp hcall
  rw [HandoffEvent.tracker.inj hevent] at hmem
  have hmutation := hown _ _ hmem
  exact ⟨issue, plan, result, url, cwd, (Mutation.setState.inj hmutation).1.symm, hstages.grow⟩

theorem appends_transition {state : RuntimeState} {claimState : Lanes.LaneClaimState}
    {claimResult toState reason : String} (h : toState ≠ "agent_review") :
    Appends Quiet (transition outside config claimed state claimState claimResult toState reason) := by
  unfold transition writeLaneClaimTerminalResult
  refine appends_ask.bind fun _ => ?_
  exact (appends_writeClaimValue _ _).bind fun _ => appends_setState _ h

theorem appends_storeRetry (state : RuntimeState) (delayMs : UInt64) (error : String) :
    Appends Quiet (storeRetry outside state delayMs error) :=
  Appends.look.bind fun _ => appends_ask.bind fun _ => Appends.pure

theorem appends_completeFailedRun (claimed : ClaimedDispatch) (state : RuntimeState)
    (result : HandoffResult) : Appends Quiet (completeFailedRun outside config claimed state result) := by
  unfold completeFailedRun
  dsimp only
  split
  · exact (appends_storeRetry _ _ _).bind fun _ => (appends_upsertWorkpad _ _ _).bind fun _ =>
      appends_ask.bind fun _ => Appends.pure
  · exact (appends_touchRuntimeState _).bind fun _ => (appends_transition (by decide)).bind fun _ =>
      appends_ask.bind fun _ => Appends.pure
  · exact (appends_storeRetry _ _ _).bind fun _ => appends_ask.bind fun _ => Appends.pure
  · exact (appends_touchRuntimeState _).bind fun _ => (appends_transition (by decide)).bind fun _ =>
      appends_ask.bind fun _ => Appends.pure

theorem evidencePullRequestUrl_of_handoff {issue : MainIssue}
    (h : result.liveHandoff = some handoff) :
    evidencePullRequestUrl issue result = some handoff.publication.prUrl := by
  rw [evidencePullRequestUrl, h]
  rfl

theorem keeps_completeSuccessfulRun {state : RuntimeState} {result final : HandoffResult}
    {workpad cwd : String} (hhandoff : final.liveHandoff = some handoff) :
    Keeps outside config.verificationCommands
      (resultStages result ++ handoffStages outside.toHandoffOutside config.verificationCommands
        claimed.latest claimed.plan result.backend handoff.publication.prUrl cwd)
      (completeSuccessfulRun outside config claimed state final workpad) := by
  unfold completeSuccessfulRun
  dsimp only
  generalize hevidence : runLoopAgentReviewHandoffEvidence claimed.latest final claimed.plan
    (some workpad) = evidence
  have hurl : evidence.pullRequestUrl = some handoff.publication.prUrl := by
    rw [← hevidence]
    exact evidencePullRequestUrl_of_handoff hhandoff
  refine keeps_bind (Logs.note_eq (quiet_evaluated _ _)) ?_
  rintro _ first rfl
  cases hready : (evaluateAgentReviewHandoff evidence).isReady with
  | false =>
      refine ⟨[], Passed.nil, keeps_seq (appends_upsertWorkpad _ _ _) fun _ => ?_⟩
      rw [if_neg Bool.false_ne_true]
      exact keeps_of_appends ((appends_transition (by decide)).bind fun _ =>
        appends_ask.bind fun _ => Appends.pure)
  | true =>
      refine ⟨[EvaluatedReady handoff.publication.prUrl],
        Passed.single List.mem_cons_self ⟨evidence, rfl, hready, hurl⟩,
        keeps_seq (appends_upsertWorkpad _ _ _) fun _ => ?_⟩
      rw [if_pos rfl]
      refine keeps_seq (appends_touchRuntimeState _) fun touched => ?_
      refine keeps_last ?_ fun _ => appends_ask.bind fun _ => appends_ask.bind fun _ => Appends.pure
      exact keeps_seq appends_ask fun _ => keeps_seq (appends_writeClaimValue _ _) fun _ =>
        keeps_setState

theorem keeps_concludeDispatch {result final : HandoffResult} {cwd : String}
    (hhandoff : final.liveHandoff = some handoff) :
    Keeps outside config.verificationCommands
      (resultStages result ++ handoffStages outside.toHandoffOutside config.verificationCommands
        claimed.latest claimed.plan result.backend handoff.publication.prUrl cwd)
      (concludeDispatch outside config claimed final) := by
  refine keeps_seq (appends_storeRuntimeState _) fun state =>
    keeps_seq Appends.look fun workpad => keeps_seq (appends_upsertWorkpad _ _ _) fun _ => ?_
  split
  · exact keeps_of_appends (appends_ask.bind fun _ => Appends.pure)
  · unfold applyTerminalTransition
    split
    · exact keeps_completeSuccessfulRun hhandoff
    · exact keeps_of_appends (appends_completeFailedRun _ _ _)

theorem appends_concludeDispatch (claimed : ClaimedDispatch) (h : result.success = false) :
    Appends Quiet (concludeDispatch outside config claimed result) := by
  refine (appends_storeRuntimeState _).bind fun state => Appends.look.bind fun workpad =>
    (appends_upsertWorkpad _ _ _).bind fun _ => ?_
  split
  · exact appends_ask.bind fun _ => Appends.pure
  · rw [applyTerminalTransition, if_neg (Bool.eq_false_iff.mp h)]
    exact appends_completeFailedRun _ _ _

theorem keeps_finishDispatch (hworktree : claimed.liveWorktree.isSome = true)
    (result : IssueExecutionResult) :
    Keeps outside config.verificationCommands [] (finishDispatch outside config claimed result) := by
  refine keeps_bind (Logs.note_eq (quiet_result _)) ?_
  rintro _ first rfl
  have hresult : Passed [(· = HandoffEvent.result (freshResult result))]
      [HandoffEvent.result (freshResult result)] := Passed.single List.mem_cons_self rfl
  refine ⟨_, hresult, keeps_bind (logs_handOff hworktree (freshResult result))
    fun final second hsecond => ?_⟩
  cases hsuccess : final.success with
  | false =>
      exact ⟨[], Passed.nil, keeps_of_appends (appends_concludeDispatch claimed hsuccess)⟩
  | true =>
      obtain ⟨handoff, hhandoff, hpassed⟩ := hsecond hsuccess
      exact ⟨_, hpassed, keeps_concludeDispatch hhandoff⟩

end

/-- **Every write of `agent_review` has published evidence behind it**: in the order of the
stages, the result or its salvage, the commit of a codex run, each verification command, the
clean worktree ahead of its base, the push, the pull request, its link, its ready check and
the evaluation. -/
theorem agent_review_has_published_evidence {σ : Type} (outside : DispatchOutside σ)
    (config : DispatchConfig) (hlive : runLoopLiveHandoffEnabled config.toHandoffConfig = true)
    (issue : MainIssue) (recover : Bool) (state : σ) :
    Everywhere (EntersWithEvidence outside config.verificationCommands)
      (runLoopDispatchWriteCandidate outside config issue recover
        { outside := state, log := [] }).2.log := by
  have hkeeps : Keeps outside config.verificationCommands []
      (runLoopDispatchWriteCandidate outside config issue recover) := by
    refine keeps_bind (logs_prepareDispatch hlive issue recover) fun prepared _ hprepared =>
      ⟨[], Passed.nil, ?_⟩
    cases prepared with
    | none => exact keeps_of_appends Appends.pure
    | some prepared =>
        refine keeps_bind (logs_claimDispatch prepared) fun claimed _ hclaimed =>
          ⟨[], Passed.nil, ?_⟩
        cases claimed with
        | none => exact keeps_of_appends Appends.pure
        | some claimed =>
            have hworktree : claimed.liveWorktree.isSome = true := by
              rw [hclaimed claimed rfl]
              exact hprepared prepared rfl
            refine keeps_seq (appends_backendResult claimed recover) fun result => ?_
            cases result with
            | none => exact keeps_of_appends Appends.pure
            | some result => exact keeps_finishDispatch hworktree result
  exact hkeeps _ Traces.everywhere_nil Passed.nil

/-! ## A dispatch that comes through -/

theorem liveTurns_pos : 0 < 4 := by decide

def liveConfig : DispatchConfig where
  preflight := Preflight.defaultConfig
  maxConcurrent := 1
  maxTurns := 4
  maxRetryBackoffMs := 300000
  workerId := "w"
  profileId := none
  instanceName := none
  actorRole := "Main Agent"
  actorLabel := "Shea Symphony Main"
  gitAuthor := none
  validTurns := liveTurns_pos
  trackerKind := "github_project_v2"
  trackerFixturePath := none
  verificationCommands := ["cargo test"]
  write := true
  codexAppServer := true

def queuedIssue : MainIssue where
  id := "I_7"
  identifier := "#7"
  title := "Publish"
  description := none
  state := "Todo"
  priority := none
  blockedBy := []
  projectFields := fun _ => none
  createdAt := none
  branchName := none
  linkedPullRequests := []

def completedRun : IssueExecutionResult where
  workspacePath := "/work/issue-7-publish"
  backend := "codex"
  profileId := none
  instanceName := none
  success := true
  pendingSession := false
  sessionId := none
  runId := none
  backendLogPath := none
  backendAttachCommand := none
  message := "done"
  usageLimitPause := none
  actorRole := "Main Agent"
  actorLabel := "Shea Symphony Main"
  gitAuthor := none

def publishedUrl : String := "https://github.com/o/r/pull/9"

def publishedPullRequest : LinkedPullRequest where
  number := some 9
  url := some publishedUrl
  state := some "OPEN"
  isDraft := some false
  baseRefName := some "main"
  headSha := none
  id := some "PR_9"
  headRefName := some "feature/issue-7-publish"
  source := .githubNative

/-- The worktree of the plan, with its pull request linked as soon as it is created. -/
def steadyHandoff : HandoffOutside Unit where
  run _ command :=
    (.ok (if command = readyViewCommand publishedUrl samplePlan.workspacePath then
        { status := 0, stdout := "\x7b\"isDraft\":false,\"url\":\"https://github.com/o/r/pull/9\"\x7d"
          stderr := "" }
      else cleanRunner samplePlan.branchName command), ())
  pathExists _ _ := (true, ())
  createParent _ _ := (.ok (), ())
  verify _ _ := (.ok (), ())
  listLinkedPullRequests _ _ := (.ok [publishedPullRequest], ())
  linkPullRequest _ _ _ := (.ok (), ())
  parseJson _ := .ok (.obj [("isDraft", .bool false), ("url", .str publishedUrl)])

/-- A tracker that takes every write, and a backend that gives `result`. -/
def steadyDispatch (result : IssueExecutionResult) : DispatchOutside Unit where
  toHandoffOutside := steadyHandoff
  getIssue _ _ := (.ok (some queuedIssue), ())
  mutate _ _ := (.ok (), ())
  gate _ _ := (.ok .ready, ())
  handoffPlan _ _ := (.ok samplePlan, ())
  logins _ := (.ok (none, none), ())
  assigneeBlock _ _ := none
  loadRuntimeStates _ := (.ok [], ())
  recoveryHandoff _ _ _ _ := (.ok none, ())
  launchPreflight _ _ _ plan := (.ok plan, ())
  currentDir _ := (.ok "/repo", ())
  runtimeReadiness _ _ := (.ok none, ())
  persistReadinessFailure _ _ := (.ok (), ())
  runtimeOwnership _ _ _ := (.ok { marker := "", mismatch := none }, ())
  currentTimeMs _ := (1700000000000, ())
  upsertRuntimeState _ _ := (.ok (), ())
  removeRuntimeState _ _ := (.ok (), ())
  reconcileHandoffRuntimeState _ _ _ := (.ok (), ())
  appendSupervisionEvent _ _ _ := (.ok (), ())
  reconcileSession _ _ _ _ := (.ok none, ())
  recoveryPlan _ _ _ := (.error "no recovery", ())
  execute _ _ := (.ok result, ())
  readLog _ _ := (none, ())
  handoffWorkpad _ _ _ _ _ := ("### Plan\n\n### Work Log\n", ())
  parentHasBranch _ _ := false
  gateWorkpad _ _ := "gate"
  handoffFailureWorkpad _ _ := "handoff failure"
  parentTopologyWorkpad _ _ _ := "parent topology"
  assigneeWorkpad _ _ := "assignee"
  ownershipWorkpad _ _ _ _ _ := "ownership"
  reviewWorkpad _ _ _ := "review handoff"
  pauseWorkpad _ _ _ _ := "usage limit"

/-- The states the issue is written into. -/
def writtenStates (log : List HandoffEvent) : List String :=
  log.filterMap fun event =>
    match event with
    | .tracker (.mutated (.setState _ state) _) => some state
    | _ => none

def steadyClaimed : ClaimedDispatch where
  latest := queuedIssue
  plan := samplePlan
  liveWorktree := some {
    workspacePath := samplePlan.workspacePath
    branchName := samplePlan.branchName
    created := false }
  profileId := none
  existing := none
  claim := {
    lane := .main
    actor := .codex
    worker := some "w"
    source := .loop
    issue := "#7"
    run := "run-7"
    state := .active
    thread := "unknown"
    registry := "run/run-7" }
  ownership := { marker := "", mismatch := none }
  runtimeState := RuntimeState.active { id := "I_7", identifier := "#7" } "codex"

/-- A run that comes through enters review, and no dispatch enters it without evidence. -/
theorem completed_run_enters_review :
    writtenStates (finishDispatch (steadyDispatch completedRun) liveConfig steadyClaimed completedRun
        { outside := (), log := [] }).2.log = ["agent_review"]
      ∧ Everywhere (EntersWithEvidence (steadyDispatch completedRun) liveConfig.verificationCommands)
        (runLoopDispatchWriteCandidate (steadyDispatch completedRun) liveConfig queuedIssue false
          { outside := (), log := [] }).2.log :=
  ⟨by decide +kernel, agent_review_has_published_evidence (steadyDispatch completedRun) liveConfig
    (by decide +kernel) queuedIssue false ()⟩

end SheaSymphony.MainHandoff

import SheaSymphony.Handoff
import SheaSymphony.MainRetry

/-!
# What a handoff is made of

The plan of a handoff, what its steps report and what they meet: the commands, the
verification and the tracker are any state with any answers, and every call is logged
with its answer (`git_handoff.rs`, `handoff.rs`, `lanes/main_loop/handoff.rs`).
-/

namespace SheaSymphony.MainHandoff

open Handoff (BranchTargetEvidence)
open Interrupted (Program)
open MainLoop (IssueExecutionResult)
open Tracker (AdapterCall)

/-! ## Pull requests and plans -/

inductive LinkedPullRequestSource where
  | unknown | githubNative | fallbackDiagnostic
deriving DecidableEq

structure LinkedPullRequest extends Review.LinkedPullRequest where
  id : Option String
  headRefName : Option String
  source : LinkedPullRequestSource
deriving DecidableEq

def LinkedPullRequest.isGithubNativeLinkage (pr : LinkedPullRequest) : Bool :=
  pr.source == .githubNative || (pr.source == .unknown && pr.id.any (· != ""))

/-- An issue with the branch and the pull requests its tracker gives for it. -/
structure MainIssue extends Model.TrackerIssue where
  branchName : Option String
  linkedPullRequests : List LinkedPullRequest

/-- The issue as the writes with recovery look at it. -/
def MainIssue.reviewed (issue : MainIssue) : Review.ReviewedIssue where
  toTrackerIssue := issue.toTrackerIssue
  linkedPullRequests := issue.linkedPullRequests.map LinkedPullRequest.toLinkedPullRequest

structure PullRequestHandoffPlan where
  title : String
  headBranch : String
  baseBranch : String
  issueRef : String
  body : String
deriving DecidableEq

structure ReworkContinuationEvidence where
  pullRequestUrl : String
  pullRequestState : String
  branchName : Option String
  source : String
deriving DecidableEq

structure IssueHandoffPlan where
  issueRef : String
  issueTitle : String
  workspaceKey : String
  workspacePath : String
  branchName : String
  pullRequest : PullRequestHandoffPlan
  branchTarget : BranchTargetEvidence
  continuation : Option ReworkContinuationEvidence
deriving DecidableEq

/-! ## Results -/

structure LiveWorktreeResult where
  workspacePath : String
  branchName : String
  created : Bool
deriving DecidableEq

structure PullRequestPublication where
  branchPushed : Bool
  prUrl : String
  prCreated : Bool
deriving DecidableEq

structure PullRequestReadyStatus where
  prUrl : String
  wasDraft : Bool
  markedReady : Bool
deriving DecidableEq

structure WorktreeCommitResult where
  committed : Bool
  commitHash : Option String
  statusBefore : String
deriving DecidableEq

structure RunLoopLiveHandoff where
  worktree : LiveWorktreeResult
  publication : PullRequestPublication
  verification : String
  projectPrLinkVerified : Option Bool
  pullRequestReady : Option PullRequestReadyStatus
deriving DecidableEq

structure HandoffVerification where
  success : Bool
  summary : String
deriving DecidableEq

/-- The result of a run with what the handoff adds to it. -/
structure HandoffResult extends IssueExecutionResult where
  liveHandoff : Option RunLoopLiveHandoff
  handoffVerification : Option String
deriving DecidableEq

structure AgentReviewHandoffEvidence where
  issueRef : String
  workspaceKey : String
  workspacePath : String
  branchName : String
  branchTarget : BranchTargetEvidence
  pullRequestUrl : Option String
  projectPrLinkVerified : Option Bool
  pullRequestIsDraft : Option Bool
  mainWorkpadHasPlan : Option Bool
  mainWorkpadHasWorkLog : Option Bool
  validationSummary : String
  lastTransition : String
  noPrBlocker : Option String
deriving DecidableEq

inductive AgentReviewHandoffStatus where
  | ready | blocked
deriving DecidableEq

structure AgentReviewHandoffReport where
  status : AgentReviewHandoffStatus
  missing : List String
  targetState : Option String
  message : String
deriving DecidableEq

def AgentReviewHandoffReport.isReady (report : AgentReviewHandoffReport) : Bool :=
  report.status == .ready

/-! ## Calls -/

structure Command where
  program : String
  args : List String
  cwd : String
deriving DecidableEq

structure CommandOutput where
  status : Int
  stdout : String
  stderr : String
deriving DecidableEq

/-- What has been done, with its answer; an evaluation and a result are logged as well. -/
inductive HandoffEvent where
  | result (result : HandoffResult)
  | salvaged
  | ran (command : Command) (answer : Except String CommandOutput)
  | verified (command : String) (answer : Except String Unit)
  | listed (issueRef : String) (answer : Except String (List LinkedPullRequest))
  | linked (issueRef prUrl : String) (answer : Except String Unit)
  | evaluated (evidence : AgentReviewHandoffEvidence) (report : AgentReviewHandoffReport)
  | tracker (call : AdapterCall)

structure HandoffWorld (σ : Type) where
  outside : σ
  log : List HandoffEvent

/-- What the steps of a handoff call; the document parser is pure. -/
structure HandoffOutside (σ : Type) where
  run : σ → Command → Except String CommandOutput × σ
  pathExists : σ → String → Bool × σ
  createParent : σ → String → Except String Unit × σ
  verify : σ → String → Except String Unit × σ
  listLinkedPullRequests : σ → String → Except String (List LinkedPullRequest) × σ
  linkPullRequest : σ → String → String → Except String Unit × σ
  parseJson : String → Except String Json

section
variable {σ ε α : Type}

/-- A call that is not logged. -/
def look (f : σ → α × σ) : Program (HandoffWorld σ) ε α :=
  Program.step fun world => ((f world.outside).1, { world with outside := (f world.outside).2 })

/-- A call that is logged with its answer. -/
def call (event : α → HandoffEvent) (f : σ → α × σ) : Program (HandoffWorld σ) ε α :=
  Program.step fun world =>
    ((f world.outside).1,
      { outside := (f world.outside).2, log := world.log ++ [event (f world.outside).1] })

/-- What has come to be known is logged. -/
def note (event : HandoffEvent) : Program (HandoffWorld σ) ε Unit :=
  Program.step fun world => ((), { world with log := world.log ++ [event] })

/-- A `match` on the result of a step whose errors are of another kind. -/
def attempt {δ : Type} (program : Program (HandoffWorld σ) δ α) :
    Program (HandoffWorld σ) ε (Except δ α) := fun world =>
  (.ok (program world).1, (program world).2)

end

/-! ## The log grows -/

/-- Whatever the program does, it only adds events with the property to the log. -/
def Appends {σ ε α : Type} (Q : HandoffEvent → Prop) (program : Program (HandoffWorld σ) ε α) :
    Prop :=
  ∀ world, ∃ more, (program world).2.log = world.log ++ more ∧ ∀ event ∈ more, Q event

namespace Appends

variable {σ ε α β : Type} {Q R : HandoffEvent → Prop} {program : Program (HandoffWorld σ) ε α}

theorem of_eq (h : ∀ world, (program world).2.log = world.log) : Appends Q program :=
  fun world => ⟨[], (h world).trans (List.append_nil _).symm, by simp⟩

theorem pure {a : α} : Appends Q (Pure.pure a : Program (HandoffWorld σ) ε α) := of_eq fun _ => rfl

theorem stop {e : ε} : Appends Q (Program.stop e : Program (HandoffWorld σ) ε α) := of_eq fun _ => rfl

theorem ofExcept {result : Except ε α} :
    Appends Q (Program.ofExcept result : Program (HandoffWorld σ) ε α) := of_eq fun _ => rfl

theorem require {condition : Bool} {e : ε} :
    Appends Q (Program.require condition e : Program (HandoffWorld σ) ε Unit) := by
  cases condition with
  | true => exact pure
  | false => exact stop

theorem look {f : σ → α × σ} : Appends Q (look f : Program (HandoffWorld σ) ε α) :=
  of_eq fun _ => rfl

theorem call {event : α → HandoffEvent} {f : σ → α × σ} (h : ∀ a, Q (event a)) :
    Appends Q (call event f : Program (HandoffWorld σ) ε α) :=
  fun world => ⟨[event (f world.outside).1], rfl, List.forall_mem_singleton.mpr (h _)⟩

theorem attempt {δ : Type} (h : Appends Q program) :
    Appends Q (attempt program : Program (HandoffWorld σ) δ (Except ε α)) := h

theorem bind {rest : α → Program (HandoffWorld σ) ε β} (h : Appends Q program)
    (hrest : ∀ a, Appends Q (rest a)) : Appends Q (program >>= rest) := by
  intro world
  obtain ⟨more, hlog, hmore⟩ := h world
  cases hrun : program world with
  | mk result next =>
      rw [hrun] at hlog
      cases result with
      | error e =>
          rw [Program.bind_error hrun]
          exact ⟨more, hlog, hmore⟩
      | ok a =>
          rw [Program.bind_ok hrun]
          obtain ⟨later, hlater, hmoreLater⟩ := hrest a next
          refine ⟨more ++ later, ?_, List.forall_mem_append.mpr ⟨hmore, hmoreLater⟩⟩
          rw [hlater, hlog, List.append_assoc]

theorem mem_log (h : Appends Q program) {world : HandoffWorld σ} {event : HandoffEvent}
    (hevent : event ∈ world.log) : event ∈ (program world).2.log := by
  obtain ⟨more, hlog, -⟩ := h world
  rw [hlog]
  exact List.mem_append_left _ hevent

theorem bind_mem_log {rest : α → Program (HandoffWorld σ) ε β} (hrest : ∀ a, Appends Q (rest a))
    {world : HandoffWorld σ} {event : HandoffEvent} (hevent : event ∈ (program world).2.log) :
    event ∈ ((program >>= rest) world).2.log := by
  cases hrun : program world with
  | mk result next =>
      rw [hrun] at hevent
      cases result with
      | error e =>
          rw [Program.bind_error hrun]
          exact hevent
      | ok a =>
          rw [Program.bind_ok hrun]
          exact (hrest a).mem_log hevent

end Appends

/-! ## What a step has logged when it returns -/

/-- The program adds events with the property to the log; where it returns, the value and what
it has added satisfy `post`. -/
def Logs {σ ε α : Type} (Q : HandoffEvent → Prop) (program : Program (HandoffWorld σ) ε α)
    (post : α → List HandoffEvent → Prop) : Prop :=
  ∀ world, ∃ more, (program world).2.log = world.log ++ more ∧ (∀ event ∈ more, Q event)
    ∧ ∀ a, (program world).1 = .ok a → post a more

namespace Logs

variable {σ ε α β : Type} {Q : HandoffEvent → Prop} {program : Program (HandoffWorld σ) ε α}
  {post post' : α → List HandoffEvent → Prop}

theorem of_appends (h : Appends Q program) : Logs Q program fun _ _ => True := by
  intro world
  obtain ⟨more, hlog, hmore⟩ := h world
  exact ⟨more, hlog, hmore, fun _ _ => trivial⟩

theorem appends (h : Logs Q program post) : Appends Q program := by
  intro world
  obtain ⟨more, hlog, hmore, -⟩ := h world
  exact ⟨more, hlog, hmore⟩

theorem mono (h : Logs Q program post) (hpost : ∀ a more, post a more → post' a more) :
    Logs Q program post' := by
  intro world
  obtain ⟨more, hlog, hmore, hreturn⟩ := h world
  exact ⟨more, hlog, hmore, fun a ha => hpost a more (hreturn a ha)⟩

theorem pure {a : α} (h : post a []) : Logs Q (Pure.pure a : Program (HandoffWorld σ) ε α) post := by
  intro world
  refine ⟨[], (List.append_nil _).symm, List.forall_mem_nil _, fun b hb => ?_⟩
  obtain rfl : a = b := Except.ok.inj hb
  exact h

theorem stop {e : ε} : Logs Q (Program.stop e : Program (HandoffWorld σ) ε α) post :=
  fun _ => ⟨[], (List.append_nil _).symm, List.forall_mem_nil _, nofun⟩

theorem ofExcept {result : Except ε α} :
    Logs Q (Program.ofExcept result : Program (HandoffWorld σ) ε α)
      fun a more => result = .ok a ∧ more = [] :=
  fun _ => ⟨[], (List.append_nil _).symm, List.forall_mem_nil _, fun _ ha => ⟨ha, rfl⟩⟩

theorem require {condition : Bool} {e : ε} :
    Logs Q (Program.require condition e : Program (HandoffWorld σ) ε Unit)
      fun _ more => condition = true ∧ more = [] := by
  cases condition with
  | true => exact pure ⟨rfl, rfl⟩
  | false => exact stop

theorem call {event : α → HandoffEvent} {f : σ → α × σ} (h : ∀ a, Q (event a))
    (hpost : ∀ a, post a [event a]) :
    Logs Q (call event f : Program (HandoffWorld σ) ε α) post := by
  intro world
  refine ⟨[event (f world.outside).1], rfl, List.forall_mem_singleton.mpr (h _), fun a ha => ?_⟩
  obtain rfl : (f world.outside).1 = a := Except.ok.inj ha
  exact hpost _

theorem note {event : HandoffEvent} (h : Q event) {post : Unit → List HandoffEvent → Prop}
    (hpost : post () [event]) :
    Logs Q (note event : Program (HandoffWorld σ) ε Unit) post :=
  fun _ => ⟨[event], rfl, List.forall_mem_singleton.mpr h, fun _ _ => hpost⟩

theorem call_eq {event : α → HandoffEvent} {f : σ → α × σ} (h : ∀ a, Q (event a)) :
    Logs Q (MainHandoff.call event f : Program (HandoffWorld σ) ε α)
      fun a more => more = [event a] :=
  call h fun _ => rfl

theorem note_eq {event : HandoffEvent} (h : Q event) :
    Logs Q (MainHandoff.note event : Program (HandoffWorld σ) ε Unit) fun _ more => more = [event] :=
  note h rfl

theorem attempt {δ : Type} (h : Logs Q program post) :
    Logs Q (attempt program : Program (HandoffWorld σ) δ (Except ε α))
      fun result more => ∀ a, result = .ok a → post a more := by
  intro world
  obtain ⟨more, hlog, hmore, hreturn⟩ := h world
  refine ⟨more, hlog, hmore, fun result hresult a ha => hreturn a ?_⟩
  obtain rfl : (program world).1 = result := Except.ok.inj hresult
  exact ha

theorem bind {rest : α → Program (HandoffWorld σ) ε β} {final : β → List HandoffEvent → Prop}
    (h : Logs Q program post)
    (hrest : ∀ a first, post a first → Logs Q (rest a) fun b second => final b (first ++ second)) :
    Logs Q (program >>= rest) final := by
  intro world
  obtain ⟨first, hlog, hfirst, hreturn⟩ := h world
  cases hrun : program world with
  | mk result next =>
      rw [hrun] at hlog hreturn
      cases result with
      | error e =>
          rw [Program.bind_error hrun]
          exact ⟨first, hlog, hfirst, nofun⟩
      | ok a =>
          rw [Program.bind_ok hrun]
          obtain ⟨second, hsecond, hmore, hfinal⟩ := hrest a first (hreturn a rfl) next
          refine ⟨first ++ second, ?_, List.forall_mem_append.mpr ⟨hfirst, hmore⟩, hfinal⟩
          rw [hsecond, hlog, List.append_assoc]

theorem seq {rest : α → Program (HandoffWorld σ) ε β} {final : β → List HandoffEvent → Prop}
    (h : Appends Q program)
    (hrest : ∀ a first, Logs Q (rest a) fun b second => final b (first ++ second)) :
    Logs Q (program >>= rest) final :=
  (of_appends h).bind fun a first _ => hrest a first

end Logs

end SheaSymphony.MainHandoff

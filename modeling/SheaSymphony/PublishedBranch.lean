import SheaSymphony.GitHandoff

/-!
# What is published

The checks before a push look at HEAD, the push itself at the branch of the plan. Preparing
a worktree asks whether the two agree; publishing does not, so a push of the branch is one
of HEAD exactly where HEAD is on the branch or a check stops the run before
(`publishesHead_iff`).
-/

namespace SheaSymphony.MainHandoff

open Interrupted (Program)

section
variable {σ : Type} {outside : HandoffOutside σ} {Q : HandoffEvent → Prop}

/-! ## Commands -/

theorem appends_runCommand {command : Command} (h : ∀ answer, Q (.ran command answer)) :
    Appends Q (runCommand outside command) := by
  refine (Appends.call h).bind fun answer => ?_
  cases answer with
  | error error => exact Appends.stop
  | ok output => exact Appends.pure

theorem appends_runSuccessful {command : Command} (h : ∀ answer, Q (.ran command answer)) :
    Appends Q (runSuccessful outside command) :=
  (appends_runCommand h).bind fun _ => Appends.ofExcept.bind fun _ => Appends.pure

/-- The world after a command. -/
def ranWorld (outside : HandoffOutside σ) (command : Command) (world : HandoffWorld σ) :
    HandoffWorld σ where
  outside := (outside.run world.outside command).2
  log := world.log ++ [.ran command (outside.run world.outside command).1]

theorem runCommand_eq (outside : HandoffOutside σ) (command : Command) (world : HandoffWorld σ) :
    runCommand outside command world
      = ((outside.run world.outside command).1.mapError .io, ranWorld outside command world) := by
  have hcall : (call (.ran command) fun state => outside.run state command :
      GitProgram σ (Except String CommandOutput)) world
      = (.ok (outside.run world.outside command).1, ranWorld outside command world) := rfl
  rw [runCommand, Program.bind_ok hcall]
  cases (outside.run world.outside command).1 <;> rfl

/-- The command answers with success. -/
def Succeeds (outside : HandoffOutside σ) (state : σ) (command : Command) (output : CommandOutput) :
    Prop :=
  (outside.run state command).1 = .ok output ∧ output.status = 0

theorem runSuccessful_of_succeeds {command : Command} {world : HandoffWorld σ}
    {output : CommandOutput} (h : Succeeds outside world.outside command output) :
    runSuccessful outside command world = (.ok output, ranWorld outside command world) := by
  have hrun : runCommand outside command world = (.ok output, ranWorld outside command world) := by
    rw [runCommand_eq, h.1]
    rfl
  rw [runSuccessful, Program.bind_ok hrun, requireSuccess, if_pos h.2]
  rfl

theorem runSuccessful_eq_ok_iff {command : Command} {world after : HandoffWorld σ}
    {output : CommandOutput} :
    runSuccessful outside command world = (.ok output, after)
      ↔ Succeeds outside world.outside command output ∧ after = ranWorld outside command world := by
  constructor
  · intro h
    obtain ⟨answer, middle, hrun, h⟩ := Program.bind_eq_ok_iff.mp h
    obtain ⟨u, next, hsuccess, hreturn⟩ := Program.bind_eq_ok_iff.mp h
    obtain ⟨hstatus, rfl⟩ := Program.ofExcept_eq_ok_iff.mp hsuccess
    obtain ⟨rfl, rfl⟩ := Program.pure_eq_ok_iff.mp hreturn
    rw [runCommand_eq, Prod.mk.injEq] at hrun
    obtain ⟨hanswer, rfl⟩ := hrun
    refine ⟨⟨?_, ?_⟩, rfl⟩
    · cases hresult : (outside.run world.outside command).1 with
      | error error =>
          rw [hresult] at hanswer
          cases hanswer
      | ok other =>
          rw [hresult] at hanswer
          cases hanswer
          rfl
    · by_contra hne
      rw [requireSuccess, if_neg hne] at hstatus
      cases hstatus
  · rintro ⟨h, rfl⟩
    exact runSuccessful_of_succeeds h

/-! ## The checks before a push -/

variable (outside) (plan : IssueHandoffPlan) (state : σ)

/-- What `git branch --show-current` answers in the worktree. -/
def OnBranch : Prop :=
  (currentBranch outside plan.workspacePath { outside := state, log := [] }).1 = .ok plan.branchName

/-- Publishing pushes the branch of the plan. -/
def PushesBranch : Prop :=
  ∃ answer, .ran (pushCommand plan plan.branchName) answer
    ∈ (publishIssuePullRequest outside plan { outside := state, log := [] }).2.log

/-- The branch of the plan is pushed only with HEAD on it. -/
def PublishesHead : Prop := PushesBranch outside plan state → OnBranch outside plan state

/-- The worktree is clean and ahead of its base. -/
def Publishable : Prop :=
  ∃ status ahead count, Succeeds outside state (statusCommand plan) status
    ∧ Text.isBlank status.stdout = true
    ∧ Succeeds outside (outside.run state (statusCommand plan)).2 (aheadCommand plan) ahead
    ∧ parseU32 (Text.trim ahead.stdout) = some count ∧ count ≠ 0

/-- The state after the checks of the worktree. -/
def checkedState : σ :=
  (outside.run (outside.run state (statusCommand plan)).2 (aheadCommand plan)).2

/-- The branch of a parent, if there is one, is on the remote or has been pushed there; where
it is the branch of the plan itself, that push is one of it. -/
def ParentPublished : Prop :=
  ∀ parent, parentBranch plan = some parent →
    ∃ remote, (outside.run state (lsRemoteCommand plan parent)).1 = .ok remote
      ∧ (remote.status = 0 ∨ parent = plan.branchName
        ∨ ∃ pushed, Succeeds outside (outside.run state (lsRemoteCommand plan parent)).2
          (pushCommand plan parent) pushed)

/-- Every check before the push passes. -/
def ChecksPass : Prop :=
  Publishable outside plan state ∧ ParentPublished outside plan (checkedState outside plan state)

variable {outside plan state}

theorem ensurePublishableBranch_eq_ok_iff {world after : HandoffWorld σ} :
    ensurePublishableBranch outside plan world = (.ok (), after)
      ↔ Publishable outside plan world.outside
        ∧ after = ranWorld outside (aheadCommand plan) (ranWorld outside (statusCommand plan) world) := by
  unfold ensurePublishableBranch Publishable
  constructor
  · intro h
    obtain ⟨status, _, hstatusRun, h⟩ := Program.bind_eq_ok_iff.mp h
    obtain ⟨hstatus, rfl⟩ := runSuccessful_eq_ok_iff.mp hstatusRun
    obtain ⟨_, _, hblankRun, h⟩ := Program.bind_eq_ok_iff.mp h
    obtain ⟨hblank, rfl⟩ := Program.require_eq_ok_iff.mp hblankRun
    obtain ⟨ahead, _, haheadRun, h⟩ := Program.bind_eq_ok_iff.mp h
    obtain ⟨hahead, rfl⟩ := runSuccessful_eq_ok_iff.mp haheadRun
    obtain ⟨count, _, hcountRun, h⟩ := Program.bind_eq_ok_iff.mp h
    obtain ⟨hcount, rfl⟩ := Program.ofExcept_eq_ok_iff.mp hcountRun
    obtain ⟨hpositive, rfl⟩ := Program.require_eq_ok_iff.mp h
    refine ⟨⟨status, ahead, count, hstatus, hblank, hahead, ?_, bne_iff_ne.mp hpositive⟩, rfl⟩
    cases hparse : parseU32 (Text.trim ahead.stdout) with
    | none =>
        rw [hparse] at hcount
        cases hcount
    | some other =>
        rw [hparse] at hcount
        cases hcount
        rfl
  · rintro ⟨⟨status, ahead, count, hstatus, hblank, hahead, hcount, hpositive⟩, rfl⟩
    have hne : (count != 0) = true := bne_iff_ne.mpr hpositive
    rw [Program.bind_ok (runSuccessful_of_succeeds hstatus), hblank, Program.require_true_bind]
    refine (Program.bind_ok (runSuccessful_of_succeeds hahead)).trans ?_
    rw [hcount, Fallible.okOr, Program.ofExcept_ok_bind, hne]
    rfl

/-! ## When the branch is pushed -/

/-- Not a push of the branch of the plan. -/
def NotPush (plan : IssueHandoffPlan) (event : HandoffEvent) : Prop :=
  ∀ answer, event ≠ .ran (pushCommand plan plan.branchName) answer

theorem notPush_ran {command : Command} (h : command ≠ pushCommand plan plan.branchName)
    (answer : Except String CommandOutput) : NotPush plan (.ran command answer) := by
  rintro other heq
  cases heq
  exact h rfl

theorem appends_ensurePublishableBranch :
    Appends (NotPush plan) (ensurePublishableBranch outside plan) := by
  have hstatus : statusCommand plan ≠ pushCommand plan plan.branchName := by
    simp [statusCommand, pushCommand, git]
  have hahead : aheadCommand plan ≠ pushCommand plan plan.branchName := by
    simp [aheadCommand, pushCommand, git]
  exact (appends_runSuccessful (notPush_ran hstatus)).bind fun _ => Appends.require.bind fun _ =>
    (appends_runSuccessful (notPush_ran hahead)).bind fun _ => Appends.ofExcept.bind fun _ =>
      Appends.require

/-- What publishing does behind the checks. -/
def pushAndOpen (outside : HandoffOutside σ) (plan : IssueHandoffPlan) :
    GitProgram σ PullRequestPublication := do
  let _ ← runSuccessful outside (pushCommand plan plan.branchName)
  openPullRequest outside plan

theorem publishIssuePullRequest_eq :
    publishIssuePullRequest outside plan = (do
      ensurePublishableBranch outside plan
      ensureRemoteParentIntegrationBranch outside plan
      pushAndOpen outside plan) := rfl

theorem appends_ensureExistingBody (body : String) (h : ∀ command answer, Q (.ran command answer)) :
    Appends Q (ensureExistingPullRequestBodyLinksIssue outside plan body) := by
  unfold ensureExistingPullRequestBodyLinksIssue
  split
  · exact Appends.pure
  · exact (appends_runSuccessful (h _)).bind fun _ => Appends.pure

theorem appends_openPullRequest (h : ∀ command answer, Q (.ran command answer)) :
    Appends Q (openPullRequest outside plan) := by
  refine (appends_runCommand (h _)).bind fun existing => ?_
  split
  · exact Appends.ofExcept.bind fun view => (appends_ensureExistingBody view.body h).bind fun _ =>
      Appends.pure
  · exact (appends_runSuccessful (h _)).bind fun _ => Appends.ofExcept.bind fun _ => Appends.pure

theorem ran_mem_log (command : Command) (world : HandoffWorld σ) :
    .ran command (outside.run world.outside command).1 ∈ (runSuccessful outside command world).2.log := by
  have hran : HandoffEvent.ran command (outside.run world.outside command).1
      ∈ (runCommand outside command world).2.log := by
    rw [runCommand_eq]
    exact List.mem_append_right _ List.mem_cons_self
  have hrest : ∀ output, Appends (fun _ => True) (do
      Program.ofExcept (requireSuccess command.program output)
      return output : GitProgram σ CommandOutput) :=
    fun output => Appends.ofExcept.bind fun _ => Appends.pure
  exact Appends.bind_mem_log hrest hran

theorem mem_pushAndOpen (world : HandoffWorld σ) :
    ∃ answer, .ran (pushCommand plan plan.branchName) answer ∈ (pushAndOpen outside plan world).2.log :=
  ⟨_, Appends.bind_mem_log (fun _ => appends_openPullRequest (Q := fun _ => True) fun _ _ => trivial)
    (ran_mem_log (pushCommand plan plan.branchName) world)⟩

theorem ensureRemoteParent_error {world : HandoffWorld σ}
    (h : ¬ ParentPublished outside plan world.outside) :
    ∃ error after, ensureRemoteParentIntegrationBranch outside plan world = (.error error, after)
      ∧ ∀ event ∈ after.log, event ∈ world.log ∨ NotPush plan event := by
  obtain ⟨parent, hnot⟩ := not_forall.mp h
  obtain ⟨hparent, hnot⟩ := Classical.not_imp.mp hnot
  have hls : ∀ answer, NotPush plan (.ran (lsRemoteCommand plan parent) answer) :=
    notPush_ran (by simp [lsRemoteCommand, pushCommand, git])
  have hafter : ∀ event ∈ (ranWorld outside (lsRemoteCommand plan parent) world).log,
      event ∈ world.log ∨ NotPush plan event := fun event hevent =>
    (List.mem_append.mp hevent).imp_right fun hmem => by
      rw [List.mem_singleton.mp hmem]
      exact hls _
  unfold ensureRemoteParentIntegrationBranch
  rw [hparent]
  dsimp only
  have hrun := runCommand_eq outside (lsRemoteCommand plan parent) world
  cases hanswer : (outside.run world.outside (lsRemoteCommand plan parent)).1 with
  | error error =>
      rw [hanswer] at hrun
      exact ⟨_, _, Program.bind_error hrun, hafter⟩
  | ok remote =>
      rw [hanswer] at hrun
      have hstatus : ¬ remote.status = 0 := fun hstatus => hnot ⟨remote, hanswer, Or.inl hstatus⟩
      have hother : pushCommand plan parent ≠ pushCommand plan plan.branchName := by
        intro heq
        have hargs := congrArg Command.args heq
        simp only [pushCommand, git, List.cons.injEq, true_and, and_true] at hargs
        exact hnot ⟨remote, hanswer, Or.inr (Or.inl hargs)⟩
      rw [Program.bind_ok hrun, if_neg hstatus]
      have happends : Appends (NotPush plan) (runSuccessful outside (pushCommand plan parent)) :=
        appends_runSuccessful (notPush_ran hother)
      obtain ⟨more, hlog, hmore⟩ := happends (ranWorld outside (lsRemoteCommand plan parent) world)
      cases hpush : runSuccessful outside (pushCommand plan parent)
          (ranWorld outside (lsRemoteCommand plan parent) world) with
      | mk result after =>
          cases result with
          | ok pushed =>
              obtain ⟨hsucceeds, -⟩ := runSuccessful_eq_ok_iff.mp hpush
              exact absurd ⟨remote, hanswer, Or.inr (Or.inr ⟨pushed, hsucceeds⟩)⟩ hnot
          | error error =>
              rw [hpush] at hlog
              refine ⟨_, _, Program.bind_error hpush, fun event hevent => ?_⟩
              rw [hlog] at hevent
              rcases List.mem_append.mp hevent with hmem | hmem
              · exact hafter event hmem
              · exact Or.inr (hmore event hmem)

theorem ensureRemoteParent_ok {world : HandoffWorld σ} (h : ParentPublished outside plan world.outside) :
    (∃ after, ensureRemoteParentIntegrationBranch outside plan world = (.ok (), after))
      ∨ ∃ answer, .ran (pushCommand plan plan.branchName) answer
        ∈ (ensureRemoteParentIntegrationBranch outside plan world).2.log := by
  unfold ensureRemoteParentIntegrationBranch
  cases hparent : parentBranch plan with
  | none => exact Or.inl ⟨world, rfl⟩
  | some parent =>
      obtain ⟨remote, hanswer, hcases⟩ := h parent hparent
      have hrun := runCommand_eq outside (lsRemoteCommand plan parent) world
      rw [hanswer] at hrun
      dsimp only
      rw [Program.bind_ok hrun]
      by_cases hstatus : remote.status = 0
      · rw [if_pos hstatus]
        exact Or.inl ⟨_, rfl⟩
      · rw [if_neg hstatus]
        rcases hcases with hzero | rfl | ⟨pushed, hpushed⟩
        · exact absurd hzero hstatus
        · exact Or.inr ⟨_, Appends.bind_mem_log (fun _ => Appends.pure (Q := fun _ => True))
            (ran_mem_log _ _)⟩
        · exact Or.inl ⟨_, Program.bind_ok (runSuccessful_of_succeeds hpushed)⟩

theorem pushesBranch_iff {state : σ} :
    PushesBranch outside plan state ↔ ChecksPass outside plan state := by
  rw [PushesBranch, publishIssuePullRequest_eq]
  constructor
  · rintro ⟨answer, hmem⟩
    have happends : Appends (NotPush plan) (ensurePublishableBranch outside plan) :=
      appends_ensurePublishableBranch
    obtain ⟨more, hlog, hmore⟩ := happends { outside := state, log := [] }
    rw [List.nil_append] at hlog
    cases hchecks : ensurePublishableBranch outside plan { outside := state, log := [] } with
    | mk result after =>
        rw [hchecks] at hlog
        cases result with
        | error error =>
            rw [Program.bind_error hchecks, hlog] at hmem
            exact absurd rfl (hmore _ hmem answer)
        | ok u =>
            obtain ⟨hpublishable, hafter⟩ := ensurePublishableBranch_eq_ok_iff.mp hchecks
            have hchecked : after.outside = checkedState outside plan state := by rw [hafter]; rfl
            refine ⟨hpublishable, by_contra fun hparent => ?_⟩
            rw [← hchecked] at hparent
            obtain ⟨error, final, herror, hfinal⟩ := ensureRemoteParent_error hparent
            rw [Program.bind_ok hchecks, Program.bind_error herror] at hmem
            rcases hfinal _ hmem with hbefore | hnot
            · rw [hlog] at hbefore
              exact hmore _ hbefore answer rfl
            · exact hnot answer rfl
  · rintro ⟨hpublishable, hparent⟩
    obtain ⟨checked, hchecks, hstate⟩ : ∃ checked,
        ensurePublishableBranch outside plan { outside := state, log := [] } = (.ok (), checked)
          ∧ checked.outside = checkedState outside plan state :=
      ⟨_, ensurePublishableBranch_eq_ok_iff.mpr ⟨hpublishable, rfl⟩, rfl⟩
    rw [Program.bind_ok hchecks]
    rw [← hstate] at hparent
    rcases ensureRemoteParent_ok hparent with ⟨after, hrun⟩ | ⟨answer, hmem⟩
    · rw [Program.bind_ok hrun]
      exact mem_pushAndOpen after
    · exact ⟨answer, Appends.bind_mem_log (fun _ => (appends_runSuccessful (Q := fun _ => True)
        fun _ => trivial).bind fun _ => appends_openPullRequest fun _ _ => trivial) hmem⟩

/-- What is pushed is what HEAD is on exactly where HEAD is on the branch of the plan, or a
check stops the run before the push. -/
theorem publishesHead_iff (outside : HandoffOutside σ) (plan : IssueHandoffPlan) (state : σ) :
    PublishesHead outside plan state ↔ OnBranch outside plan state ∨ ¬ ChecksPass outside plan state := by
  rw [PublishesHead, pushesBranch_iff, imp_iff_or_not]

end

/-! ## A worktree that was left on another branch -/

def samplePlan : IssueHandoffPlan where
  issueRef := "#7"
  issueTitle := "Publish"
  workspaceKey := "issue-7-publish"
  workspacePath := "/work/issue-7-publish"
  branchName := "feature/issue-7-publish"
  pullRequest :=
    { title := "#7: Publish"
      headBranch := "feature/issue-7-publish"
      baseBranch := "main"
      issueRef := "#7"
      body := "Closes #7\n" }
  branchTarget :=
    { role := .singleIssue
      parentIssue := none
      parentTitle := none
      parentIntegrationBranch := none
      pullRequestBaseBranch := "main"
      parentFinalBaseBranch := none }
  continuation := none

/-- Commands in a clean worktree, one commit ahead of its base. -/
def cleanRunner (head : String) (command : Command) : CommandOutput :=
  let stdout :=
    if command.args = ["branch", "--show-current"] then head ++ "\n"
    else if command.args = (aheadCommand samplePlan).args then "1\n"
    else if command.args = (createCommand samplePlan).args then "https://github.com/o/r/pull/9\n"
    else ""
  { status := if command.args = (viewCommand samplePlan).args then 1 else 0, stdout, stderr := "" }

def strayOutside : HandoffOutside Unit where
  run _ command := (.ok (cleanRunner "scratch" command), ())
  pathExists _ _ := (true, ())
  createParent _ _ := (.ok (), ())
  verify _ _ := (.ok (), ())
  listLinkedPullRequests _ _ := (.ok [], ())
  linkPullRequest _ _ _ := (.ok (), ())
  parseJson _ := .error "EOF while parsing a value at line 1 column 0"

/-- The branch of the plan is pushed although HEAD is on another one. -/
theorem stray_branch_published : ¬ PublishesHead strayOutside samplePlan () := by
  intro h
  have hstatus : Succeeds strayOutside () (statusCommand samplePlan)
      { status := 0, stdout := "", stderr := "" } := ⟨by rfl, rfl⟩
  have hahead : Succeeds strayOutside () (aheadCommand samplePlan)
      { status := 0, stdout := "1\n", stderr := "" } := ⟨by rfl, rfl⟩
  have hpush : PushesBranch strayOutside samplePlan () :=
    pushesBranch_iff.mpr ⟨⟨_, _, 1, hstatus, by decide, hahead, by decide, by decide⟩,
      fun parent hparent => by cases hparent⟩
  have hbranch : (currentBranch strayOutside samplePlan.workspacePath { outside := (), log := [] }).1
      = .ok "scratch" := by rfl
  have hon := h hpush
  rw [OnBranch, hbranch] at hon
  exact absurd (Except.ok.inj hon) (by decide)

end SheaSymphony.MainHandoff

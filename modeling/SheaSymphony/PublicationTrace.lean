import SheaSymphony.HandoffStages

/-!
# The commands of a publication

Every run of `publish_issue_pull_request` plays a script: the checks of the worktree, the
branch of a parent, the push, and what comes of the pull request. An event of its trace
stands at a step of the script, behind events that passed the steps before it
(`publishIssuePullRequest_safe`).
-/

namespace SheaSymphony.MainHandoff

open Interrupted (Program)
open Traces (Complete Plays Step)

section
variable {σ : Type} (outside : HandoffOutside σ) (plan : IssueHandoffPlan)

def editCommand (body : String) : Command :=
  gh plan.workspacePath ["pr", "edit", plan.branchName, "--body", body]

/-- The words that say what a command does. -/
def Command.verb (command : Command) : List String := command.args.take 2

@[simp] theorem verb_statusCommand : (statusCommand plan).verb = ["status", "--porcelain"] := rfl

@[simp] theorem verb_aheadCommand : (aheadCommand plan).verb = ["rev-list", "--count"] := rfl

@[simp] theorem verb_lsRemoteCommand (branch : String) :
    (lsRemoteCommand plan branch).verb = ["ls-remote", "--exit-code"] := rfl

@[simp] theorem verb_pushCommand (branch : String) :
    (pushCommand plan branch).verb = ["push", "-u"] := rfl

@[simp] theorem verb_viewCommand : (viewCommand plan).verb = ["pr", "view"] := rfl

@[simp] theorem verb_editCommand (body : String) :
    (editCommand plan body).verb = ["pr", "edit"] := rfl

@[simp] theorem verb_createCommand : (createCommand plan).verb = ["pr", "create"] := rfl

theorem ne_of_verb {command other : Command} (h : command.verb ≠ other.verb) : command ≠ other :=
  fun heq => h (congrArg Command.verb heq)

/-! ## What a publication keeps -/

/-- What a step that succeeds has answered: a probe may answer no. -/
structure StepSucceeds (command : Command) (output : CommandOutput) : Prop where
  status : (∀ branch, command ≠ lsRemoteCommand plan branch) → command ≠ viewCommand plan →
    output.status = 0
  clean : command = statusCommand plan → Text.isBlank output.stdout = true
  ahead : command = aheadCommand plan → Ahead output
  viewed : command = viewCommand plan → output.status = 0 →
    ∃ view, parsePullRequestView outside output.stdout = .ok view
  created : command = createCommand plan → ∃ url, extractUrl output.stdout = .ok url

/-- A command that cannot be run, fails or answers what cannot be read. -/
def Fails (event : HandoffEvent) : Prop :=
  ∃ command answer, event = .ran command answer
    ∧ ∀ output, answer = .ok output → ¬ StepSucceeds outside plan command output

/-- The body of the pull request that is viewed has no closing reference, and the edit adds
one to it. -/
def NeedsEdit (body : String) (output : CommandOutput) : Prop :=
  ∃ view, parsePullRequestView outside output.stdout = .ok view
    ∧ pullRequestBodyHasClosingIssueReference view.body plan.issueRef = false
    ∧ body = appendIssueClosingReference view.body plan.issueRef

structure PublicationSafe (trace : List HandoffEvent)
    (result : Except GitHandoffError PullRequestPublication) : Prop where
  push : ∀ front answer back,
    trace = front ++ .ran (pushCommand plan plan.branchName) answer :: back →
    (∃ event ∈ front,
      Ran (statusCommand plan) (fun output => Text.isBlank output.stdout = true) event)
    ∧ ∃ event ∈ front, Ran (aheadCommand plan) Ahead event
  create : ∀ front answer back, trace = front ++ .ran (createCommand plan) answer :: back →
    (∀ other, .ran (createCommand plan) other ∉ front)
    ∧ (∃ event ∈ front, Ran (pushCommand plan plan.branchName) (fun _ => True) event)
    ∧ ∃ output, .ran (viewCommand plan) (.ok output) ∈ front ∧ output.status ≠ 0
  edit : ∀ front body answer back, trace = front ++ .ran (editCommand plan body) answer :: back →
    (∀ other answer, .ran (editCommand plan other) answer ∉ front)
    ∧ ∃ event ∈ front, Ran (viewCommand plan) (NeedsEdit outside plan body) event
  stops : ∀ front event back, trace = front ++ event :: back → Fails outside plan event → back = []
  parent : ∀ front branch answer back,
    trace = front ++ .ran (pushCommand plan branch) answer :: back →
    if plan.branchTarget.role = .subissue then
      branch = plan.branchName ∨ plan.branchTarget.parentIntegrationBranch = some branch
    else branch = plan.branchName ∧ ∀ other answer, .ran (pushCommand plan other) answer ∉ front
  created : ∀ publication, result = .ok publication →
    (publication.prCreated = true ↔ ∃ event ∈ trace, Ran (createCommand plan) (fun _ => True) event)

/-! ## Scripts -/

/-- A command, and the outputs behind which the run goes on. -/
def answered (command : Command) (goesOn : CommandOutput → Prop) : Step HandoffEvent where
  is event := ∃ answer, event = .ran command answer
  passes event := ∃ output, event = .ran command (.ok output) ∧ goesOn output

def checkScript : List (Step HandoffEvent) :=
  [answered (statusCommand plan) fun output => output.status = 0 ∧ Text.isBlank output.stdout = true,
    answered (aheadCommand plan) fun output => output.status = 0 ∧ Ahead output]

inductive ParentScript : List (Step HandoffEvent) → Prop
  | none : ParentScript []
  | present {parent : String} (hparent : parentBranch plan = some parent) :
      ParentScript [answered (lsRemoteCommand plan parent) fun _ => True]
  | absent {parent : String} (hparent : parentBranch plan = some parent) :
      ParentScript [answered (lsRemoteCommand plan parent) fun _ => True,
        answered (pushCommand plan parent) fun output => output.status = 0]

def pushScript : List (Step HandoffEvent) :=
  [answered (pushCommand plan plan.branchName) fun output => output.status = 0]

/-- What comes of the pull request, and whether it is created. -/
inductive RequestScript : List (Step HandoffEvent) → Bool → Prop
  | linked : RequestScript [answered (viewCommand plan) fun output => output.status = 0
      ∧ ∃ view, parsePullRequestView outside output.stdout = .ok view] false
  | edited (body : String) : RequestScript
      [answered (viewCommand plan) fun output => output.status = 0
          ∧ NeedsEdit outside plan body output,
        answered (editCommand plan body) fun output => output.status = 0] false
  | created : RequestScript [answered (viewCommand plan) fun output => output.status ≠ 0,
      answered (createCommand plan) fun output => output.status = 0
        ∧ ∃ url, extractUrl output.stdout = .ok url] true

end

/-! ## Programs with their traces -/

section
variable {σ ε α β : Type}

/-- What the program adds to the log, with what it returns, if it returns. -/
def Traced (program : Program (HandoffWorld σ) ε α) (T : Option α → List HandoffEvent → Prop) :
    Prop :=
  ∀ world, ∃ more, (program world).2.log = world.log ++ more ∧ T (program world).1.toOption more

namespace Traced

variable {program : Program (HandoffWorld σ) ε α} {T : Option α → List HandoffEvent → Prop}

theorem mono {U : Option α → List HandoffEvent → Prop} (h : Traced program T)
    (hmono : ∀ result more, T result more → U result more) : Traced program U := by
  intro world
  obtain ⟨more, hlog, hmore⟩ := h world
  exact ⟨more, hlog, hmono _ _ hmore⟩

theorem pure {a : α} (h : T (some a) []) :
    Traced (Pure.pure a : Program (HandoffWorld σ) ε α) T :=
  fun _ => ⟨[], (List.append_nil _).symm, h⟩

theorem bind {rest : α → Program (HandoffWorld σ) ε β} {U : Option β → List HandoffEvent → Prop}
    (h : Traced program T) (hstop : ∀ first, T none first → U none first)
    (hrest : ∀ a first, T (some a) first →
      Traced (rest a) fun result second => U result (first ++ second)) :
    Traced (program >>= rest) U := by
  intro world
  obtain ⟨first, hlog, hfirst⟩ := h world
  cases hrun : program world with
  | mk result next =>
      rw [hrun] at hlog hfirst
      cases result with
      | error e =>
          rw [Program.bind_error hrun]
          exact ⟨first, hlog, hstop first hfirst⟩
      | ok a =>
          rw [Program.bind_ok hrun]
          obtain ⟨second, hsecond, hmore⟩ := hrest a first hfirst next
          refine ⟨first ++ second, ?_, hmore⟩
          rw [hsecond, hlog, List.append_assoc]

theorem ofExcept {result : Except ε α} :
    Traced (Program.ofExcept result : Program (HandoffWorld σ) ε α) fun returned more =>
      more = [] ∧ ∀ a, returned = some a → result = .ok a := by
  refine fun _ => ⟨[], (List.append_nil _).symm, rfl, fun a h => ?_⟩
  cases result with
  | error e => cases h
  | ok b => exact congrArg Except.ok (Option.some.inj h)

theorem require {condition : Bool} {e : ε} :
    Traced (Program.require condition e : Program (HandoffWorld σ) ε Unit) fun a more =>
      more = [] ∧ (a.isSome = true → condition = true) := by
  intro world
  cases condition with
  | true => exact ⟨[], (List.append_nil _).symm, rfl, fun _ => rfl⟩
  | false => exact ⟨[], (List.append_nil _).symm, rfl, nofun⟩

theorem runCommand {outside : HandoffOutside σ} {command : Command} :
    Traced (runCommand outside command) fun result more =>
      ∃ answer, more = [.ran command answer]
        ∧ ∀ output, result = some output → answer = .ok output := by
  intro world
  rw [runCommand_eq]
  refine ⟨[.ran command (outside.run world.outside command).1], rfl, _, rfl, fun output h => ?_⟩
  cases hanswer : (outside.run world.outside command).1 with
  | error error =>
      rw [hanswer] at h
      cases h
  | ok other =>
      rw [hanswer] at h
      exact congrArg Except.ok (Option.some.inj h)

theorem runSuccessful {outside : HandoffOutside σ} {command : Command} :
    Traced (runSuccessful outside command) fun result more =>
      ∃ answer, more = [.ran command answer]
        ∧ ∀ output, result = some output → answer = .ok output ∧ output.status = 0 := by
  refine runCommand.bind ?_ ?_
  · rintro first ⟨answer, rfl, -⟩
    exact ⟨answer, rfl, fun _ h => (by cases h)⟩
  · rintro output first ⟨answer, rfl, hanswer⟩
    refine ofExcept.bind ?_ ?_
    · rintro second ⟨rfl, -⟩
      exact ⟨answer, rfl, fun _ h => (by cases h)⟩
    · rintro u second ⟨rfl, hsuccess⟩
      refine pure ⟨answer, rfl, ?_⟩
      intro other hother
      obtain rfl := Option.some.inj hother
      refine ⟨hanswer output rfl, ?_⟩
      by_contra hne
      have hok := hsuccess u rfl
      rw [requireSuccess, if_neg hne] at hok
      cases hok

end Traced

end

/-! ## The scripts are played -/

variable {output : CommandOutput} {front back : List HandoffEvent} {goesOn : CommandOutput → Prop}

section
variable {σ : Type} {outside : HandoffOutside σ} {plan : IssueHandoffPlan}

theorem plays_answered {command : Command} (answer : Except String CommandOutput)
    (rest : List (Step HandoffEvent)) :
    Plays (answered command goesOn :: rest) [.ran command answer] :=
  .last ⟨answer, rfl⟩

theorem complete_answered {command : Command} (h : goesOn output) :
    Complete [answered command goesOn] [.ran command (.ok output)] :=
  .cons ⟨⟨_, rfl⟩, output, rfl, h⟩ .nil

/-- A run plays the script, and where it returns it has passed every step. -/
def PlaysTo (script : List (Step HandoffEvent)) (returned : Bool) (more : List HandoffEvent) :
    Prop :=
  Plays script more ∧ (returned = true → Complete script more)

theorem PlaysTo.append {script later : List (Step HandoffEvent)} {returned : Bool}
    {first second : List HandoffEvent} (h : PlaysTo script true first)
    (hlater : PlaysTo later returned second) : PlaysTo (script ++ later) returned (first ++ second) :=
  ⟨(h.2 rfl).append_plays hlater.1, fun hreturned => (h.2 rfl).append (hlater.2 hreturned)⟩

theorem PlaysTo.stop {script : List (Step HandoffEvent)} {first : List HandoffEvent}
    (h : PlaysTo script false first) (later : List (Step HandoffEvent)) :
    PlaysTo (script ++ later) false first :=
  ⟨h.1.append later, nofun⟩

theorem traced_runSuccessful {command : Command} :
    Traced (runSuccessful outside command) fun result more =>
      PlaysTo [answered command fun output => output.status = 0] result.isSome more := by
  refine Traced.runSuccessful.mono ?_
  rintro result more ⟨answer, rfl, hanswer⟩
  refine ⟨plays_answered answer [], fun hreturned => ?_⟩
  obtain ⟨output, rfl⟩ := Option.isSome_iff_exists.mp hreturned
  obtain ⟨rfl, hstatus⟩ := hanswer output rfl
  exact complete_answered hstatus

theorem traced_ensurePublishableBranch :
    Traced (ensurePublishableBranch outside plan) fun result more =>
      PlaysTo (checkScript plan) result.isSome more := by
  have hstopped : ∀ {answer : Except String CommandOutput},
      PlaysTo (checkScript plan) false [.ran (statusCommand plan) answer] :=
    ⟨plays_answered _ _, nofun⟩
  refine Traced.runSuccessful.bind ?_ ?_
  · rintro first ⟨answer, rfl, -⟩
    exact hstopped
  rintro status first ⟨answer, rfl, hanswer⟩
  obtain ⟨rfl, hstatus⟩ := hanswer status rfl
  refine Traced.require.bind ?_ ?_
  · rintro second ⟨rfl, -⟩
    exact hstopped
  rintro u second ⟨rfl, hblank⟩
  have hfirst : Complete [answered (statusCommand plan) fun output =>
      output.status = 0 ∧ Text.isBlank output.stdout = true] [.ran (statusCommand plan) (.ok status)] :=
    complete_answered ⟨hstatus, hblank rfl⟩
  refine Traced.runSuccessful.bind ?_ ?_
  · rintro third ⟨answer, rfl, -⟩
    exact ⟨hfirst.append_plays (plays_answered answer []), nofun⟩
  rintro ahead third ⟨answer, rfl, hanswer⟩
  obtain ⟨rfl, hahead⟩ := hanswer ahead rfl
  refine Traced.ofExcept.bind ?_ ?_
  · rintro fourth ⟨rfl, -⟩
    exact ⟨hfirst.append_plays (plays_answered _ []), nofun⟩
  rintro count fourth ⟨rfl, hcount⟩
  have hparse : parseU32 (Text.trim ahead.stdout) = some count :=
    Fallible.okOr_eq_ok.mp (hcount count rfl)
  refine Traced.require.mono ?_
  rintro result fifth ⟨rfl, hpositive⟩
  refine ⟨hfirst.append_plays (plays_answered _ []), fun hreturned => ?_⟩
  exact hfirst.append (complete_answered ⟨hahead, count, hparse, bne_iff_ne.mp (hpositive hreturned)⟩)

theorem traced_ensureRemoteParent :
    Traced (ensureRemoteParentIntegrationBranch outside plan) fun result more =>
      ∃ script, ParentScript plan script ∧ PlaysTo script result.isSome more := by
  unfold ensureRemoteParentIntegrationBranch
  cases hparent : parentBranch plan with
  | none => exact Traced.pure ⟨[], .none, .ended, fun _ => .nil⟩
  | some parent =>
      refine Traced.runCommand.bind ?_ ?_
      · rintro first ⟨answer, rfl, -⟩
        exact ⟨_, .present hparent, plays_answered _ _, nofun⟩
      rintro remote first ⟨answer, rfl, hanswer⟩
      obtain rfl := hanswer remote rfl
      have hremote : PlaysTo [answered (lsRemoteCommand plan parent) fun _ => True] true
          [.ran (lsRemoteCommand plan parent) (.ok remote)] :=
        ⟨plays_answered _ [], fun _ => complete_answered trivial⟩
      split
      · exact Traced.pure ⟨_, .present hparent, by rwa [List.append_nil]⟩
      · refine traced_runSuccessful.bind ?_ ?_
        · exact fun second hsecond => ⟨_, .absent hparent, hremote.append hsecond⟩
        · intro pushed second hsecond
          refine Traced.pure ⟨_, .absent hparent, ?_⟩
          rw [List.append_nil]
          exact hremote.append hsecond

def Opens (outside : HandoffOutside σ) (plan : IssueHandoffPlan)
    (result : Option PullRequestPublication) (more : List HandoffEvent) : Prop :=
  ∃ script created, RequestScript outside plan script created
    ∧ PlaysTo script result.isSome more
    ∧ ∀ publication ∈ result, publication.prCreated = created

theorem traced_viewed (hstatus : output.status = 0) :
    Traced (do
      let view ← Program.ofExcept (parsePullRequestView outside output.stdout)
      ensureExistingPullRequestBodyLinksIssue outside plan view.body
      return { branchPushed := true, prUrl := view.url, prCreated := false } :
        GitProgram σ PullRequestPublication) fun result more =>
      Opens outside plan result (.ran (viewCommand plan) (.ok output) :: more) := by
  refine Traced.ofExcept.bind ?_ ?_
  · rintro first ⟨rfl, -⟩
    exact ⟨_, _, .linked, ⟨plays_answered _ [], nofun⟩, by simp⟩
  rintro view first ⟨rfl, hview⟩
  have hparse := hview view rfl
  unfold ensureExistingPullRequestBodyLinksIssue
  split
  · refine Traced.bind (T := fun _ more => more = []) (Traced.pure rfl) ?_ ?_
    · rintro second rfl
      exact ⟨_, _, .linked, ⟨plays_answered _ [], nofun⟩, by simp⟩
    · rintro u second rfl
      exact Traced.pure ⟨_, _, .linked, ⟨plays_answered _ [], fun _ =>
        complete_answered ⟨hstatus, view, hparse⟩⟩, by simp⟩
  · next hreference =>
    have hviewed : PlaysTo [answered (viewCommand plan) fun output => output.status = 0
        ∧ NeedsEdit outside plan (appendIssueClosingReference view.body plan.issueRef) output] true
        [.ran (viewCommand plan) (.ok output)] :=
      ⟨plays_answered _ [], fun _ => complete_answered
        ⟨hstatus, view, hparse, eq_false_of_ne_true hreference, rfl⟩⟩
    have hedit : Traced (do
        let _ ← runSuccessful outside (editCommand plan
          (appendIssueClosingReference view.body plan.issueRef))
        return () : GitProgram σ Unit) fun result more =>
        PlaysTo [answered (editCommand plan (appendIssueClosingReference view.body plan.issueRef))
          fun output => output.status = 0] result.isSome more := by
      refine traced_runSuccessful.bind (fun _ h => h) fun edited second hsecond => Traced.pure ?_
      rwa [List.append_nil]
    refine hedit.bind ?_ ?_
    · exact fun second hsecond => ⟨_, _, .edited _, hviewed.append hsecond, by simp⟩
    · intro u second hsecond
      have hboth := hviewed.append hsecond
      rw [← List.append_nil second] at hboth
      exact Traced.pure ⟨_, _, .edited _, hboth, by simp⟩

theorem traced_openPullRequest :
    Traced (openPullRequest outside plan) (Opens outside plan) := by
  refine Traced.runCommand.bind ?_ ?_
  · rintro first ⟨answer, rfl, -⟩
    exact ⟨_, _, .linked, ⟨plays_answered _ [], nofun⟩, by simp⟩
  rintro output first ⟨answer, rfl, hanswer⟩
  obtain rfl := hanswer output rfl
  split
  · next hstatus => exact traced_viewed hstatus
  · next hstatus =>
    have hviewed : Complete [answered (viewCommand plan) fun output => output.status ≠ 0]
        [.ran (viewCommand plan) (.ok output)] := complete_answered hstatus
    refine Traced.runSuccessful.bind ?_ ?_
    · rintro second ⟨answer, rfl, -⟩
      exact ⟨_, _, .created, ⟨hviewed.append_plays (plays_answered _ []), nofun⟩,
        by simp⟩
    rintro created second ⟨answer, rfl, hcreated⟩
    obtain ⟨rfl, hsuccess⟩ := hcreated created rfl
    refine Traced.ofExcept.bind ?_ ?_
    · rintro third ⟨rfl, -⟩
      exact ⟨_, _, .created, ⟨hviewed.append_plays (plays_answered _ []), nofun⟩,
        by simp⟩
    rintro url third ⟨rfl, hurl⟩
    exact Traced.pure ⟨_, _, .created, ⟨hviewed.append_plays (plays_answered _ []), fun _ =>
      hviewed.append (complete_answered ⟨hsuccess, url, hurl url rfl⟩)⟩, by simp⟩

/-- The whole script, by the parts that depend on the plan and on the answers. -/
def publicationScript (plan : IssueHandoffPlan) (parent request : List (Step HandoffEvent)) :
    List (Step HandoffEvent) :=
  checkScript plan ++ (parent ++ (pushScript plan ++ request))

theorem traced_publishIssuePullRequest :
    Traced (publishIssuePullRequest outside plan) fun result more =>
      ∃ parent request created, ParentScript plan parent ∧ RequestScript outside plan request created
        ∧ PlaysTo (publicationScript plan parent request) result.isSome more
        ∧ ∀ publication ∈ result, publication.prCreated = created := by
  refine traced_ensurePublishableBranch.bind ?_ ?_
  · exact fun first hfirst => ⟨[], _, _, .none, .linked, hfirst.stop _, by simp⟩
  intro u first hfirst
  refine traced_ensureRemoteParent.bind ?_ ?_
  · rintro second ⟨parent, hparent, hsecond⟩
    exact ⟨parent, _, _, hparent, .linked, hfirst.append (hsecond.stop _), by simp⟩
  rintro u second ⟨parent, hparent, hsecond⟩
  refine traced_runSuccessful.bind ?_ ?_
  · exact fun third hthird => ⟨parent, _, _, hparent, .linked,
      hfirst.append (hsecond.append (hthird.stop _)), by simp⟩
  intro pushed third hthird
  refine traced_openPullRequest.mono ?_
  rintro result fourth ⟨request, created, hrequest, hfourth, hcreated⟩
  exact ⟨parent, request, created, hparent, hrequest,
    hfirst.append (hsecond.append (hthird.append hfourth)), hcreated⟩

/-! ## Where a command stands -/

variable {command : Command} {answer : Except String CommandOutput} {step : Step HandoffEvent}
  {script parent request : List (Step HandoffEvent)} {created : Bool} {trace : List HandoffEvent}

@[simp] theorem answered_is_ran {other : Command} :
    (answered other goesOn).is (.ran command answer) ↔ command = other := by
  constructor
  · rintro ⟨_, heq⟩
    exact (HandoffEvent.ran.inj heq).1
  · rintro rfl
    exact ⟨answer, rfl⟩

theorem verb_of_checkScript (h : step ∈ checkScript plan) (his : step.is (.ran command answer)) :
    command.verb = ["status", "--porcelain"] ∨ command.verb = ["rev-list", "--count"] := by
  rcases List.mem_pair.mp h with rfl | rfl
  · exact Or.inl (answered_is_ran.mp his ▸ verb_statusCommand plan)
  · exact Or.inr (answered_is_ran.mp his ▸ verb_aheadCommand plan)

theorem command_of_parentScript (hscript : ParentScript plan script) (h : step ∈ script)
    (his : step.is (.ran command answer)) :
    ∃ branch, parentBranch plan = some branch
      ∧ (command = lsRemoteCommand plan branch ∨ command = pushCommand plan branch) := by
  cases hscript with
  | none => cases h
  | present hparent =>
      obtain rfl := List.mem_singleton.mp h
      exact ⟨_, hparent, Or.inl (answered_is_ran.mp his)⟩
  | absent hparent =>
      rcases List.mem_pair.mp h with rfl | rfl
      · exact ⟨_, hparent, Or.inl (answered_is_ran.mp his)⟩
      · exact ⟨_, hparent, Or.inr (answered_is_ran.mp his)⟩

theorem verb_of_parentScript (hscript : ParentScript plan script) (h : step ∈ script)
    (his : step.is (.ran command answer)) :
    command.verb = ["ls-remote", "--exit-code"] ∨ command.verb = ["push", "-u"] := by
  obtain ⟨branch, -, rfl | rfl⟩ := command_of_parentScript hscript h his
  · exact Or.inl (verb_lsRemoteCommand plan branch)
  · exact Or.inr (verb_pushCommand plan branch)

theorem command_of_pushScript (h : step ∈ pushScript plan) (his : step.is (.ran command answer)) :
    command = pushCommand plan plan.branchName := by
  obtain rfl := List.mem_singleton.mp h
  exact answered_is_ran.mp his

theorem verb_of_requestScript (hscript : RequestScript outside plan script created)
    (h : step ∈ script) (his : step.is (.ran command answer)) :
    command.verb = ["pr", "view"] ∨ command.verb = ["pr", "edit"]
      ∨ command.verb = ["pr", "create"] := by
  cases hscript with
  | linked =>
      obtain rfl := List.mem_singleton.mp h
      exact Or.inl (answered_is_ran.mp his ▸ verb_viewCommand plan)
  | edited body =>
      rcases List.mem_pair.mp h with rfl | rfl
      · exact Or.inl (answered_is_ran.mp his ▸ verb_viewCommand plan)
      · exact Or.inr (Or.inl (answered_is_ran.mp his ▸ verb_editCommand plan body))
  | created =>
      rcases List.mem_pair.mp h with rfl | rfl
      · exact Or.inl (answered_is_ran.mp his ▸ verb_viewCommand plan)
      · exact Or.inr (Or.inr (answered_is_ran.mp his ▸ verb_createCommand plan))

/-- What stands in front of the steps for the pull request. -/
def beforeRequest (plan : IssueHandoffPlan) (parent : List (Step HandoffEvent)) :
    List (Step HandoffEvent) :=
  checkScript plan ++ (parent ++ pushScript plan)

theorem publicationScript_eq :
    publicationScript plan parent request = beforeRequest plan parent ++ request := by
  rw [publicationScript, beforeRequest, List.append_assoc, List.append_assoc]

theorem verb_beforeRequest (hparent : ParentScript plan parent) (h : step ∈ beforeRequest plan parent)
    (his : step.is (.ran command answer)) :
    command.verb ∈ [["status", "--porcelain"], ["rev-list", "--count"],
      ["ls-remote", "--exit-code"], ["push", "-u"]] := by
  rcases List.mem_append.mp h with hcheck | hlater
  · rcases verb_of_checkScript hcheck his with hverb | hverb <;> simp [hverb]
  · rcases List.mem_append.mp hlater with hmem | hpush
    · rcases verb_of_parentScript hparent hmem his with hverb | hverb <;> simp [hverb]
    · simp [command_of_pushScript hpush his]

theorem push_safe (hplays : Plays (publicationScript plan parent request) trace)
    (htrace : trace = front ++ .ran (pushCommand plan plan.branchName) answer :: back) :
    (∃ event ∈ front,
      Ran (statusCommand plan) (fun output => Text.isBlank output.stdout = true) event)
    ∧ ∃ event ∈ front, Ran (aheadCommand plan) Ahead event := by
  subst htrace
  obtain ⟨before, -, -, -, hfront, -⟩ := hplays.at_later fun step hstep his => by
    rcases verb_of_checkScript hstep his with hverb | hverb <;> simp at hverb
  constructor
  · obtain ⟨event, hevent, -, hpasses⟩ := hfront.exists_passed
      (List.mem_append_left _ (List.mem_pair.mpr (Or.inl rfl)))
    exact ⟨event, hevent, hpasses⟩
  · obtain ⟨event, hevent, -, hpasses⟩ := hfront.exists_passed
      (List.mem_append_left _ (List.mem_pair.mpr (Or.inr rfl)))
    exact ⟨event, hevent, hpasses⟩

theorem request_at (hparent : ParentScript plan parent)
    (hplays : Plays (publicationScript plan parent request) trace)
    (htrace : trace = front ++ .ran command answer :: back)
    (hverb : command.verb ∈ [["pr", "view"], ["pr", "edit"], ["pr", "create"]]) :
    ∃ before step after, request = before ++ step :: after
      ∧ Complete (beforeRequest plan parent ++ before) front ∧ step.is (.ran command answer) := by
  subst htrace
  rw [publicationScript_eq] at hplays
  obtain ⟨before, step, after, hrequest, hfront, his, -⟩ := hplays.at_later fun step hstep his => by
    have hother := verb_beforeRequest hparent hstep his
    simp only [List.mem_cons, List.not_mem_nil, or_false] at hverb hother
    rcases hverb with hverb | hverb | hverb <;> simp [hverb] at hother
  exact ⟨before, step, after, hrequest, hfront, his⟩

theorem not_mem_front (hparent : ParentScript plan parent) {before : List (Step HandoffEvent)}
    {front : List HandoffEvent} (hfront : Complete (beforeRequest plan parent ++ before) front)
    (hverb : command.verb ∈ [["pr", "edit"], ["pr", "create"]])
    (hbefore : ∀ step ∈ before, ¬ step.is (.ran command answer)) :
    .ran command answer ∉ front := by
  intro hmem
  obtain ⟨step, hstep, his, -⟩ := hfront.staged hmem
  rcases List.mem_append.mp hstep with hstep | hstep
  · have hother := verb_beforeRequest hparent hstep his
    simp only [List.mem_cons, List.not_mem_nil, or_false] at hverb hother
    rcases hverb with hverb | hverb <;> simp [hverb] at hother
  · exact hbefore step hstep his

theorem create_safe (hparent : ParentScript plan parent)
    (hrequest : RequestScript outside plan request created)
    (hplays : Plays (publicationScript plan parent request) trace)
    (htrace : trace = front ++ .ran (createCommand plan) answer :: back) :
    (∀ other, .ran (createCommand plan) other ∉ front)
    ∧ (∃ event ∈ front, Ran (pushCommand plan plan.branchName) (fun _ => True) event)
    ∧ ∃ output, .ran (viewCommand plan) (.ok output) ∈ front ∧ output.status ≠ 0 := by
  have hview : createCommand plan ≠ viewCommand plan := ne_of_verb (by simp)
  obtain ⟨before, step, after, heq, hfront, his⟩ := request_at hparent hplays htrace (by simp)
  have hpushed : ∃ event ∈ front, Ran (pushCommand plan plan.branchName) (fun _ => True) event := by
    obtain ⟨event, hevent, -, output, rfl, hstatus⟩ := hfront.exists_passed
      (List.mem_append_left _ (List.mem_append_right _ (List.mem_append_right _ List.mem_cons_self)))
    exact ⟨_, hevent, output, rfl, hstatus, trivial⟩
  have hstep : step ∈ request := heq ▸ List.mem_append_right _ List.mem_cons_self
  cases hrequest with
  | linked =>
      obtain rfl := List.mem_singleton.mp hstep
      exact absurd (answered_is_ran.mp his) hview
  | edited body =>
      rcases List.mem_pair.mp hstep with rfl | rfl
      · exact absurd (answered_is_ran.mp his) hview
      · exact absurd (answered_is_ran.mp his) (ne_of_verb (by simp))
  | created =>
      rcases before with _ | ⟨first, _ | ⟨second, before⟩⟩
      · obtain ⟨rfl, -⟩ := List.cons.inj heq
        exact absurd (answered_is_ran.mp his) hview
      · obtain ⟨rfl, -⟩ := List.cons.inj heq
        refine ⟨fun other => not_mem_front hparent hfront (by simp) fun step hmem his => ?_, hpushed, ?_⟩
        · obtain rfl := List.mem_singleton.mp hmem
          exact hview (answered_is_ran.mp his)
        · obtain ⟨event, hevent, -, output, rfl, hstatus⟩ := hfront.exists_passed
            (List.mem_append_right _ List.mem_cons_self)
          exact ⟨output, hevent, hstatus⟩
      · simp at heq

theorem edit_safe (hparent : ParentScript plan parent)
    (hrequest : RequestScript outside plan request created)
    (hplays : Plays (publicationScript plan parent request) trace) {body : String}
    (htrace : trace = front ++ .ran (editCommand plan body) answer :: back) :
    (∀ other answer, .ran (editCommand plan other) answer ∉ front)
    ∧ ∃ event ∈ front, Ran (viewCommand plan) (NeedsEdit outside plan body) event := by
  have hview : ∀ body, editCommand plan body ≠ viewCommand plan := fun body => ne_of_verb (by simp)
  obtain ⟨before, step, after, heq, hfront, his⟩ := request_at hparent hplays htrace (by simp)
  have hstep : step ∈ request := heq ▸ List.mem_append_right _ List.mem_cons_self
  cases hrequest with
  | linked =>
      obtain rfl := List.mem_singleton.mp hstep
      exact absurd (answered_is_ran.mp his) (hview body)
  | created =>
      rcases List.mem_pair.mp hstep with rfl | rfl
      · exact absurd (answered_is_ran.mp his) (hview body)
      · exact absurd (answered_is_ran.mp his) (ne_of_verb (by simp))
  | edited needed =>
      rcases before with _ | ⟨first, _ | ⟨second, before⟩⟩
      · obtain ⟨rfl, -⟩ := List.cons.inj heq
        exact absurd (answered_is_ran.mp his) (hview body)
      · obtain ⟨rfl, hrest⟩ := List.cons.inj heq
        obtain ⟨rfl, -⟩ := List.cons.inj hrest
        have hbody : body = needed := by
          have hargs := congrArg Command.args (answered_is_ran.mp his)
          simpa [editCommand, gh] using hargs
        subst hbody
        refine ⟨fun other answer => not_mem_front hparent hfront (by simp) fun step hmem his => ?_, ?_⟩
        · obtain rfl := List.mem_singleton.mp hmem
          exact hview other (answered_is_ran.mp his)
        · obtain ⟨event, hevent, -, hpasses⟩ := hfront.exists_passed
            (List.mem_append_right _ List.mem_cons_self)
          exact ⟨event, hevent, hpasses⟩
      · simp at heq

/-! ## A step that fails -/

theorem not_fails (h : StepSucceeds outside plan command output) :
    ¬ Fails outside plan (.ran command (.ok output)) := by
  rintro ⟨other, answer, heq, hfails⟩
  obtain ⟨rfl, rfl⟩ := HandoffEvent.ran.inj heq
  exact hfails output rfl h

theorem stepSucceeds_of_status (hstatus : output.status = 0)
    (hverb : command.verb ∈ [["ls-remote", "--exit-code"], ["push", "-u"], ["pr", "edit"]]) :
    StepSucceeds outside plan command output := by
  have hne : ∀ other : Command, other.verb ∉ [["ls-remote", "--exit-code"], ["push", "-u"],
      ["pr", "edit"]] → command ≠ other := by
    rintro other hother rfl
    exact hother hverb
  constructor
  case status => exact fun _ _ => hstatus
  all_goals exact fun h => absurd h (hne _ (by simp))

theorem stepSucceeds_lsRemote (branch : String) (output : CommandOutput) :
    StepSucceeds outside plan (lsRemoteCommand plan branch) output := by
  constructor
  case status => exact fun h => absurd rfl (h branch)
  all_goals exact fun h => absurd h (ne_of_verb (by simp))

theorem stepSucceeds_view
    (h : output.status = 0 → ∃ view, parsePullRequestView outside output.stdout = .ok view) :
    StepSucceeds outside plan (viewCommand plan) output := by
  constructor
  case status => exact fun _ h => absurd rfl h
  case viewed => exact fun _ => h
  all_goals exact fun h => absurd h (ne_of_verb (by simp))

theorem stepSucceeds_status (hstatus : output.status = 0)
    (hblank : Text.isBlank output.stdout = true) :
    StepSucceeds outside plan (statusCommand plan) output := by
  constructor
  case status => exact fun _ _ => hstatus
  case clean => exact fun _ => hblank
  all_goals exact fun h => absurd h (ne_of_verb (by simp))

theorem stepSucceeds_ahead (hstatus : output.status = 0) (hahead : Ahead output) :
    StepSucceeds outside plan (aheadCommand plan) output := by
  constructor
  case status => exact fun _ _ => hstatus
  case ahead => exact fun _ => hahead
  all_goals exact fun h => absurd h (ne_of_verb (by simp))

theorem stepSucceeds_create (hstatus : output.status = 0)
    (hurl : ∃ url, extractUrl output.stdout = .ok url) :
    StepSucceeds outside plan (createCommand plan) output := by
  constructor
  case status => exact fun _ _ => hstatus
  case created => exact fun _ => hurl
  all_goals exact fun h => absurd h (ne_of_verb (by simp))

theorem not_fails_of_passes (hparent : ParentScript plan parent)
    (hrequest : RequestScript outside plan request created)
    (hstep : step ∈ publicationScript plan parent request) {event : HandoffEvent}
    (hpasses : step.passes event) : ¬ Fails outside plan event := by
  rw [publicationScript, List.mem_append, List.mem_append, List.mem_append] at hstep
  rcases hstep with hstep | hstep | hstep | hstep
  · rcases List.mem_pair.mp hstep with rfl | rfl
    · obtain ⟨output, rfl, hstatus, hblank⟩ := hpasses
      exact not_fails (stepSucceeds_status hstatus hblank)
    · obtain ⟨output, rfl, hstatus, hahead⟩ := hpasses
      exact not_fails (stepSucceeds_ahead hstatus hahead)
  · cases hparent with
    | none => cases hstep
    | present _ =>
        obtain rfl := List.mem_singleton.mp hstep
        obtain ⟨output, rfl, -⟩ := hpasses
        exact not_fails (stepSucceeds_lsRemote _ output)
    | absent _ =>
        rcases List.mem_pair.mp hstep with rfl | rfl
        · obtain ⟨output, rfl, -⟩ := hpasses
          exact not_fails (stepSucceeds_lsRemote _ output)
        · obtain ⟨output, rfl, hstatus⟩ := hpasses
          exact not_fails (stepSucceeds_of_status hstatus (by simp))
  · obtain rfl := List.mem_singleton.mp hstep
    obtain ⟨output, rfl, hstatus⟩ := hpasses
    exact not_fails (stepSucceeds_of_status hstatus (by simp))
  · cases hrequest with
    | linked =>
        obtain rfl := List.mem_singleton.mp hstep
        obtain ⟨output, rfl, -, hview⟩ := hpasses
        exact not_fails (stepSucceeds_view fun _ => hview)
    | edited body =>
        rcases List.mem_pair.mp hstep with rfl | rfl
        · obtain ⟨output, rfl, -, view, hview, -⟩ := hpasses
          exact not_fails (stepSucceeds_view fun _ => ⟨view, hview⟩)
        · obtain ⟨output, rfl, hstatus⟩ := hpasses
          exact not_fails (stepSucceeds_of_status hstatus (by simp))
    | created =>
        rcases List.mem_pair.mp hstep with rfl | rfl
        · obtain ⟨output, rfl, hstatus⟩ := hpasses
          exact not_fails (stepSucceeds_view fun h => absurd h hstatus)
        · obtain ⟨output, rfl, hstatus, hurl⟩ := hpasses
          exact not_fails (stepSucceeds_create hstatus hurl)

/-! ## The branch of the parent -/

theorem parent_safe (hparent : ParentScript plan parent)
    (hrequest : RequestScript outside plan request created)
    (hplays : Plays (publicationScript plan parent request) trace) {branch : String}
    (htrace : trace = front ++ .ran (pushCommand plan branch) answer :: back) :
    if plan.branchTarget.role = .subissue then
      branch = plan.branchName ∨ plan.branchTarget.parentIntegrationBranch = some branch
    else branch = plan.branchName ∧ ∀ other answer, .ran (pushCommand plan other) answer ∉ front := by
  subst htrace
  have hbranch : ∀ {other : String}, pushCommand plan branch = pushCommand plan other →
      branch = other := by
    intro other heq
    have hargs := congrArg Command.args heq
    simpa [pushCommand, git] using hargs
  have hcheck : ∀ {other : String} {answer : Except String CommandOutput},
      ∀ step ∈ checkScript plan, ¬ step.is (.ran (pushCommand plan other) answer) := by
    intro other answer step hstep his
    rcases verb_of_checkScript hstep his with hverb | hverb <;> simp at hverb
  have hnotRequest : ∀ step ∈ request, ¬ step.is (.ran (pushCommand plan branch) answer) := by
    intro step hstep his
    rcases verb_of_requestScript hrequest hstep his with hverb | hverb | hverb <;> simp at hverb
  obtain ⟨before, step, after, hlater, hfront, his, -⟩ := hplays.at_later hcheck
  have hstep : step ∈ parent ++ (pushScript plan ++ request) :=
    hlater ▸ List.mem_append_right _ List.mem_cons_self
  split
  · next hrole =>
    rw [List.mem_append, List.mem_append] at hstep
    rcases hstep with hstep | hstep | hstep
    · obtain ⟨other, hother, hls | hpush⟩ := command_of_parentScript hparent hstep his
      · exact absurd hls (ne_of_verb (by simp))
      · rw [parentBranch, if_pos hrole] at hother
        exact Or.inr (hbranch hpush ▸ hother)
    · exact Or.inl (hbranch (command_of_pushScript hstep his))
    · exact absurd his (hnotRequest step hstep)
  · next hrole =>
    -- without a parent the push of the branch comes first behind the checks
    have hnone : parentBranch plan = none := if_neg hrole
    obtain rfl : parent = [] := by
      cases hparent with
      | none => rfl
      | present h => rw [hnone] at h; cases h
      | absent h => rw [hnone] at h; cases h
    rw [List.nil_append, pushScript, List.singleton_append] at hlater
    rcases before with _ | ⟨first, before⟩
    · obtain ⟨rfl, -⟩ := List.cons.inj hlater
      refine ⟨hbranch (answered_is_ran.mp his), fun other answer hmem => ?_⟩
      rw [List.append_nil] at hfront
      obtain ⟨step, hstep, hpush, -⟩ := hfront.staged hmem
      exact hcheck step hstep hpush
    · obtain ⟨-, hrest⟩ := List.cons.inj hlater
      exact absurd his (hnotRequest step (hrest ▸ List.mem_append_right _ List.mem_cons_self))

/-! ## Every run -/

theorem created_iff (hparent : ParentScript plan parent)
    (hrequest : RequestScript outside plan request created)
    (hcomplete : Complete (publicationScript plan parent request) trace) :
    created = true ↔ ∃ event ∈ trace, Ran (createCommand plan) (fun _ => True) event := by
  constructor
  · intro hcreated
    cases hrequest with
    | linked => cases hcreated
    | edited body => cases hcreated
    | created =>
        obtain ⟨event, hevent, -, output, rfl, hstatus, -⟩ := hcomplete.exists_passed
          (publicationScript_eq ▸ List.mem_append_right _ (List.mem_pair.mpr (Or.inr rfl)))
        exact ⟨_, hevent, output, rfl, hstatus, trivial⟩
  · rintro ⟨event, hevent, output, rfl, -⟩
    obtain ⟨step, hstep, his, -⟩ := hcomplete.staged hevent
    rw [publicationScript_eq, List.mem_append] at hstep
    rcases hstep with hstep | hstep
    · have hverb := verb_beforeRequest hparent hstep his
      simp at hverb
    · cases hrequest with
      | created => rfl
      | linked =>
          obtain rfl := List.mem_singleton.mp hstep
          exact absurd (answered_is_ran.mp his) (ne_of_verb (by simp))
      | edited body =>
          rcases List.mem_pair.mp hstep with rfl | rfl
          · exact absurd (answered_is_ran.mp his) (ne_of_verb (by simp))
          · exact absurd (answered_is_ran.mp his) (ne_of_verb (by simp))

theorem publishIssuePullRequest_safe (outside : HandoffOutside σ) (plan : IssueHandoffPlan)
    (world : HandoffWorld σ) :
    ∃ trace, (publishIssuePullRequest outside plan world).2.log = world.log ++ trace
      ∧ PublicationSafe outside plan trace (publishIssuePullRequest outside plan world).1 := by
  have htraced : Traced (publishIssuePullRequest outside plan) _ := traced_publishIssuePullRequest
  obtain ⟨trace, hlog, parent, request, created, hparent, hrequest, hplays, hcreated⟩ :=
    htraced world
  refine ⟨trace, hlog, ?_⟩
  constructor
  case push => exact fun front answer back htrace => push_safe hplays.1 htrace
  case create => exact fun front answer back htrace => create_safe hparent hrequest hplays.1 htrace
  case edit => exact fun front body answer back htrace => edit_safe hparent hrequest hplays.1 htrace
  case stops =>
    rintro front event back rfl hfails
    obtain ⟨before, step, after, hscript, -, -, hpasses⟩ := hplays.1.at
    by_contra hback
    refine not_fails_of_passes hparent hrequest ?_ (hpasses hback) hfails
    exact hscript ▸ List.mem_append_right _ List.mem_cons_self
  case parent => exact fun front branch answer back htrace => parent_safe hparent hrequest hplays.1 htrace
  case created =>
    intro publication hresult
    rw [hresult] at hplays hcreated
    rw [hcreated publication rfl]
    exact created_iff hparent hrequest (hplays.2 rfl)

end

end SheaSymphony.MainHandoff

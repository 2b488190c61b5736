import SheaSymphony.HandoffPlan
import SheaSymphony.Profiles

/-!
# The cleanup of workspaces

Two planners decide which worktrees may go: `workspace_cleanup_plan`, whose entries
`cleanup_workspaces` removes (`commands/workspace/cleanup.rs`), and `cleanup_candidate`
of the artifacts, which also asks for the branch, a clean status and a pull request that is
merged or closed (`artifacts.rs`). What the first accepts the second does exactly where
the worktree is finished (`cleanup_safe_iff`).
-/

namespace SheaSymphony.Cleanup

open Interrupted (Program)
open MainHandoff (CommandOutput HandoffError IssueHandoffPlan LinkedPullRequest MainIssue joinPath
  planIssueHandoffForProfile)
open Model (normalizeState)
open Profiles (InstanceStore ProfileError ProfilesConfig selectedExecutionProfile)
open Workspace (safeIdentifier)

structure CleanupConfig where
  workspaceRoot : String
  terminalStates : List String
  baseBranch : String
  profiles : ProfilesConfig

/-- What the planners see of the worktrees. -/
structure Worktrees where
  pathExists : String → Bool
  /-- `git` with arguments. -/
  git : List String → Except String CommandOutput

def terminalStateSet (case : Text.UnicodeCase) (config : CleanupConfig) : List String :=
  (config.terminalStates.map (normalizeState case)).filter (· != "")

/-! ## The plan of the command -/

inductive WorkspaceCleanupAction where
  | eligible
  | skipped (reason : String)
deriving DecidableEq

structure WorkspaceCleanupEntry where
  issueRef : String
  state : String
  workspaceKey : String
  workspacePath : String
  action : WorkspaceCleanupAction
deriving DecidableEq

section
variable (case : Text.UnicodeCase) (worktrees : Worktrees) (config : CleanupConfig)
  (profileNamespace : Option String)

def plannedHandoff (issue : MainIssue) : Except HandoffError IssueHandoffPlan :=
  planIssueHandoffForProfile case config.workspaceRoot issue config.baseBranch profileNamespace

/-- An entry without a workspace. -/
def skippedEntry (issue : MainIssue) (reason : String) : WorkspaceCleanupEntry where
  issueRef := issue.identifier
  state := issue.state
  workspaceKey := "n/a"
  workspacePath := config.workspaceRoot
  action := .skipped reason

def workspaceCleanupEntry (issue : MainIssue) : WorkspaceCleanupEntry :=
  if !(terminalStateSet case config).contains (issue.normalizedState case) then
    skippedEntry config issue "non_terminal_state"
  else
    match plannedHandoff case config profileNamespace issue with
    | .error error => skippedEntry config issue ("handoff_plan_failed:" ++ error.display)
    | .ok plan =>
        { issueRef := issue.identifier
          state := issue.state
          workspaceKey := plan.workspaceKey
          workspacePath := plan.workspacePath
          action :=
            if worktrees.pathExists plan.workspacePath then .eligible
            else .skipped "workspace_missing" }

end

def workspaceCleanupPlan (case : Text.UnicodeCase) (worktrees : Worktrees) (store : InstanceStore)
    (config : CleanupConfig) (issues : List MainIssue) :
    Except ProfileError (List WorkspaceCleanupEntry) := do
  let profile ← selectedExecutionProfile store config.profiles
  return issues.map (workspaceCleanupEntry case worktrees config
    (profile.map fun profile => profile.workspaceNamespace))

def eligibleEntries (entries : List WorkspaceCleanupEntry) : List WorkspaceCleanupEntry :=
  entries.filter fun entry => entry.action == .eligible

/-- The removal of a workspace by its key, as the file system carries it out. -/
abbrev Removal (σ : Type) := σ → String → Except String Unit × σ

/-- A run that removes workspaces, with the keys it has removed. -/
structure CleanupWorld (σ : Type) where
  files : σ
  removed : List String

def removeEntries {σ : Type} (remove : Removal σ) :
    List WorkspaceCleanupEntry → Program (CleanupWorld σ) String Unit
  | [] => return ()
  | entry :: rest => do
      let result ← Program.step fun world =>
        ((remove world.files entry.workspaceKey).1,
          { files := (remove world.files entry.workspaceKey).2
            removed := world.removed ++ [entry.workspaceKey] })
      Program.ofExcept result
      removeEntries remove rest

/-- `cleanup_workspaces` once it has its plan. -/
def cleanupWorkspaces {σ : Type} (remove : Removal σ) (entries : List WorkspaceCleanupEntry)
    (write : Bool) : Program (CleanupWorld σ) String Unit :=
  if write then removeEntries remove (eligibleEntries entries) else return ()

/-! ## The plan of the artifacts -/

structure CleanupCandidate where
  issueIdentifier : String
  issueState : String
  path : String
  branch : Option String
  linkedPrState : Option String
  removable : Bool
  reasons : List String
  blockers : List String
deriving DecidableEq

def mergedOrClosed (pullRequest : LinkedPullRequest) : Option String :=
  (pullRequest.state.map fun state => Text.toAsciiLowercase (Text.trim state)).filter fun state =>
    state == "merged" || state == "closed"

def mergedOrClosedPrState (issue : MainIssue) : Option String :=
  issue.linkedPullRequests.findSome? mergedOrClosed

/-- A finding of the candidate: a reason for its removal, or what is against it. -/
inductive Finding where
  | reason (text : String)
  | blocker (text : String)
deriving DecidableEq

def Finding.reason? : Finding → Option String
  | .reason text => some text
  | .blocker _ => none

def Finding.blocker? : Finding → Option String
  | .reason _ => none
  | .blocker text => some text

section
variable (case : Text.UnicodeCase) (worktrees : Worktrees) (config : CleanupConfig)
  (profileNamespace : Option String) (issue : MainIssue)

def gitCurrentBranch (path : String) : Option String :=
  match worktrees.git ["-C", path, "branch", "--show-current"] with
  | .error _ => none
  | .ok output =>
      if output.status = 0 then (some (Text.trim output.stdout)).filter (· != "") else none

def workspaceClean (path : String) : Bool :=
  match worktrees.git ["-C", path, "status", "--porcelain"] with
  | .error _ => false
  | .ok output => output.status == 0 && output.stdout == ""

def stateFinding : Finding :=
  if (terminalStateSet case config).contains (normalizeState case issue.state) then
    .reason ("tracker state is terminal: " ++ issue.state)
  else .blocker ("tracker state is not terminal: " ++ issue.state)

def pathFinding (path : String) : Finding :=
  if worktrees.pathExists path then .reason "workspace path exists"
  else .blocker "workspace path does not exist"

def branchFinding (handoff : Except HandoffError IssueHandoffPlan) (branch : Option String) :
    Finding :=
  match handoff, branch with
  | .ok handoff, some branch =>
      if branch = handoff.branchName then .reason ("branch matches issue handoff: " ++ branch)
      else .blocker ("workspace branch \x60" ++ branch ++ "\x60 does not match \x60"
        ++ handoff.branchName ++ "\x60")
  | .ok _, none => .blocker "workspace git branch is unavailable"
  | .error error, _ => .blocker ("handoff plan failed: " ++ error.display)

def cleanFinding (path : String) : Finding :=
  if workspaceClean worktrees path then .reason "workspace has no uncommitted changes"
  else .blocker "workspace has uncommitted changes or git status is unavailable"

def pullRequestFinding : Finding :=
  match mergedOrClosedPrState issue with
  | some state => .reason ("linked PR is " ++ state)
  | none => .blocker "no linked PR in merged or closed state"

def cleanupCandidate : CleanupCandidate :=
  let handoff := plannedHandoff case config profileNamespace issue
  let path :=
    match handoff with
    | .ok plan => plan.workspacePath
    | .error _ => joinPath config.workspaceRoot (safeIdentifier issue.identifier)
  let branch := gitCurrentBranch worktrees path
  let findings := [stateFinding case config issue, pathFinding worktrees path,
    branchFinding handoff branch, cleanFinding worktrees path, pullRequestFinding issue]
  let blockers := findings.filterMap Finding.blocker?
  { issueIdentifier := issue.identifier
    issueState := issue.state
    path
    branch
    linkedPrState := mergedOrClosedPrState issue
    removable := blockers.isEmpty
    reasons := findings.filterMap Finding.reason?
    blockers }

end

/-- The namespace of the profile, where one is selected. -/
def cleanupNamespace (store : InstanceStore) (config : CleanupConfig) : Option String :=
  ((selectedExecutionProfile store config.profiles).toOption.getD none).map fun profile =>
    profile.workspaceNamespace

def cleanupPlan (case : Text.UnicodeCase) (worktrees : Worktrees) (store : InstanceStore)
    (config : CleanupConfig) (issues : List MainIssue) : List CleanupCandidate :=
  issues.map (cleanupCandidate case worktrees config (cleanupNamespace store config))

/-! ## What is removed -/

section
variable {σ : Type} {remove : Removal σ}

theorem removeEntries_removed : ∀ (entries : List WorkspaceCleanupEntry) (world : CleanupWorld σ),
    ∃ keys, (removeEntries remove entries world).2.removed = world.removed ++ keys
      ∧ keys <+: entries.map WorkspaceCleanupEntry.workspaceKey
  | [], world => ⟨[], (List.append_nil _).symm, List.prefix_refl _⟩
  | entry :: rest, world => by
      rw [removeEntries]
      cases hremove : remove world.files entry.workspaceKey with
      | mk answer files =>
          have hstep : (Program.step (fun world : CleanupWorld σ =>
              ((remove world.files entry.workspaceKey).1,
                ({ files := (remove world.files entry.workspaceKey).2
                   removed := world.removed ++ [entry.workspaceKey] } : CleanupWorld σ))) :
                Program (CleanupWorld σ) String (Except String Unit)) world
              = (.ok answer, { files, removed := world.removed ++ [entry.workspaceKey] }) := by
            rw [Program.step, hremove]
          rw [Program.bind_ok hstep]
          cases answer with
          | error error =>
              exact ⟨[entry.workspaceKey], rfl, by simp⟩
          | ok u =>
              obtain ⟨keys, hkeys, hbegins⟩ := removeEntries_removed rest
                { files, removed := world.removed ++ [entry.workspaceKey] }
              refine ⟨entry.workspaceKey :: keys, ?_, List.cons_prefix_cons.mpr ⟨rfl, hbegins⟩⟩
              refine hkeys.trans ?_
              rw [List.append_assoc, List.singleton_append]

/-- Only what is marked eligible is removed, and nothing without `write`. -/
theorem cleanupWorkspaces_removed (entries : List WorkspaceCleanupEntry) (write : Bool)
    (world : CleanupWorld σ) :
    ∃ keys, (cleanupWorkspaces remove entries write world).2.removed = world.removed ++ keys
      ∧ (keys ≠ [] → write = true)
      ∧ keys <+: (eligibleEntries entries).map WorkspaceCleanupEntry.workspaceKey := by
  cases write with
  | false => exact ⟨[], (List.append_nil _).symm, fun h => absurd rfl h, List.nil_prefix⟩
  | true =>
      obtain ⟨keys, hkeys, hbegins⟩ := @removeEntries_removed σ remove (eligibleEntries entries) world
      exact ⟨keys, hkeys, fun _ => rfl, hbegins⟩

end

/-! ## What is accepted -/

section
variable (case : Text.UnicodeCase) (worktrees : Worktrees) (config : CleanupConfig)
  (profileNamespace : Option String) (issue : MainIssue) (plan : IssueHandoffPlan)

/-- The issue is in a terminal state and its planned worktree is there. -/
structure Planned : Prop where
  terminal : (terminalStateSet case config).contains (issue.normalizedState case) = true
  planned : plannedHandoff case config profileNamespace issue = .ok plan
  present : worktrees.pathExists plan.workspacePath = true

/-- The worktree is on the planned branch and clean, and its pull request is merged or closed. -/
structure Finished : Prop where
  branch : gitCurrentBranch worktrees plan.workspacePath = some plan.branchName
  clean : workspaceClean worktrees plan.workspacePath = true
  closed : ∃ pr ∈ issue.linkedPullRequests, (mergedOrClosed pr).isSome = true

/-- A pull request is still open beside a closed one. -/
def OpenBesideClosed : Prop :=
  (∃ pr ∈ issue.linkedPullRequests, MainHandoff.pullRequestIsOpen pr = true)
    ∧ ∃ pr ∈ issue.linkedPullRequests, (mergedOrClosed pr).isSome = true

variable {case worktrees config profileNamespace issue}

theorem eligible_iff :
    (workspaceCleanupEntry case worktrees config profileNamespace issue).action = .eligible
      ↔ ∃ plan, Planned case worktrees config profileNamespace issue plan := by
  unfold workspaceCleanupEntry
  cases hterminal : (terminalStateSet case config).contains (issue.normalizedState case) with
  | false =>
      refine iff_of_false nofun ?_
      rintro ⟨plan, h⟩
      cases hterminal.symm.trans h.terminal
  | true =>
      rw [if_neg (by simp)]
      cases hplan : plannedHandoff case config profileNamespace issue with
      | error error =>
          refine iff_of_false nofun ?_
          rintro ⟨plan, h⟩
          cases hplan.symm.trans h.planned
      | ok plan =>
          dsimp only
          cases hpresent : worktrees.pathExists plan.workspacePath with
          | false =>
              refine iff_of_false nofun ?_
              rintro ⟨other, h⟩
              obtain rfl : plan = other := Except.ok.inj (hplan.symm.trans h.planned)
              cases hpresent.symm.trans h.present
          | true => exact iff_of_true rfl ⟨plan, hterminal, hplan, hpresent⟩

theorem mergedOrClosedPrState_isSome :
    (mergedOrClosedPrState issue).isSome = true
      ↔ ∃ pr ∈ issue.linkedPullRequests, (mergedOrClosed pr).isSome = true :=
  List.findSome?_isSome_iff

theorem blocker_ite {condition : Bool} {reason blocker : String} :
    (if condition then Finding.reason reason else .blocker blocker).blocker? = none
      ↔ condition = true := by
  cases condition with
  | false => exact iff_of_false nofun Bool.false_ne_true
  | true => exact iff_of_true rfl rfl

theorem blocker_branchFinding {handoff : Except HandoffError IssueHandoffPlan}
    {branch : Option String} :
    (branchFinding handoff branch).blocker? = none
      ↔ ∃ plan, handoff = .ok plan ∧ branch = some plan.branchName := by
  unfold branchFinding
  cases handoff with
  | error error => exact iff_of_false nofun (by rintro ⟨plan, h, -⟩; cases h)
  | ok plan =>
      cases branch with
      | none => exact iff_of_false nofun (by rintro ⟨other, -, h⟩; cases h)
      | some branch =>
          dsimp only
          split
          · next h => exact iff_of_true rfl ⟨plan, rfl, congrArg some h⟩
          · next h =>
            refine iff_of_false nofun ?_
            rintro ⟨other, hplan, hbranch⟩
            obtain rfl : plan = other := Except.ok.inj hplan
            exact h (Option.some.inj hbranch)

theorem blocker_pullRequestFinding :
    (pullRequestFinding issue).blocker? = none
      ↔ ∃ pr ∈ issue.linkedPullRequests, (mergedOrClosed pr).isSome = true := by
  rw [← mergedOrClosedPrState_isSome, pullRequestFinding]
  cases mergedOrClosedPrState issue with
  | none => exact iff_of_false nofun Bool.false_ne_true
  | some state => exact iff_of_true rfl rfl

theorem filterMap_blocker_isEmpty {findings : List Finding} :
    (findings.filterMap Finding.blocker?).isEmpty = true
      ↔ ∀ finding ∈ findings, finding.blocker? = none := by
  rw [List.isEmpty_iff, List.filterMap_eq_nil_iff]

theorem removable_iff :
    (cleanupCandidate case worktrees config profileNamespace issue).removable = true
      ↔ ∃ plan, Planned case worktrees config profileNamespace issue plan
        ∧ Finished worktrees issue plan := by
  unfold cleanupCandidate
  dsimp only
  rw [filterMap_blocker_isEmpty]
  simp only [List.forall_mem_cons, stateFinding, pathFinding, cleanFinding, blocker_ite,
    blocker_branchFinding, blocker_pullRequestFinding]
  constructor
  · rintro ⟨hterminal, hpresent, ⟨plan, hplan, hbranch⟩, hclean, hclosed, -⟩
    rw [hplan] at hpresent hbranch hclean
    exact ⟨plan, ⟨hterminal, hplan, hpresent⟩, hbranch, hclean, hclosed⟩
  · rintro ⟨plan, ⟨hterminal, hplan, hpresent⟩, hbranch, hclean, hclosed⟩
    rw [hplan]
    exact ⟨hterminal, hpresent, ⟨plan, rfl, hbranch⟩, hclean, hclosed, List.forall_mem_nil _⟩

end

/-! ## The two planners together -/

section
variable (case : Text.UnicodeCase) (worktrees : Worktrees) (store : InstanceStore)
  (config : CleanupConfig) (issues : List MainIssue)

/-- What the command removes the artifacts' plan removes as well, and neither accepts an
issue with an open pull request beside a closed one. -/
structure CleanupSafe : Prop where
  removable : ∀ entries, workspaceCleanupPlan case worktrees store config issues = .ok entries →
    List.Forall₂ (fun entry candidate => entry.action = .eligible → candidate.removable = true)
      entries (cleanupPlan case worktrees store config issues)
  eligibleClosed : ∀ entries, workspaceCleanupPlan case worktrees store config issues = .ok entries →
    List.Forall₂ (fun issue entry => OpenBesideClosed issue → entry.action ≠ .eligible)
      issues entries
  removableClosed :
    List.Forall₂ (fun issue candidate => OpenBesideClosed issue → candidate.removable = false)
      issues (cleanupPlan case worktrees store config issues)

variable {case worktrees store config issues}

theorem workspaceCleanupPlan_eq_ok_iff {entries : List WorkspaceCleanupEntry} :
    workspaceCleanupPlan case worktrees store config issues = .ok entries
      ↔ (∃ profile, selectedExecutionProfile store config.profiles = .ok profile)
        ∧ entries = issues.map
          (workspaceCleanupEntry case worktrees config (cleanupNamespace store config)) := by
  unfold workspaceCleanupPlan cleanupNamespace
  cases selectedExecutionProfile store config.profiles with
  | error error => exact iff_of_false nofun (by rintro ⟨⟨profile, h⟩, -⟩; cases h)
  | ok profile =>
      constructor
      · intro h
        exact ⟨⟨profile, rfl⟩, (Except.ok.inj h).symm⟩
      · rintro ⟨-, rfl⟩
        rfl

theorem forall₂_map_iff {α β : Type*} {R : α → β → Prop} {f : α → β} {items : List α} :
    List.Forall₂ R items (items.map f) ↔ ∀ a ∈ items, R a (f a) := by
  rw [List.forall₂_map_right_iff, List.forall₂_same]

/-- **The cleanup never destroys unfinished work** exactly where every terminal issue with a
planned worktree has finished it: it is on its branch and clean, a linked pull request is merged or
closed, and none is open. -/
theorem cleanup_safe_iff (case : Text.UnicodeCase) (worktrees : Worktrees) (store : InstanceStore)
    (config : CleanupConfig) (issues : List MainIssue) :
    CleanupSafe case worktrees store config issues
      ↔ ∀ issue ∈ issues, ∀ plan,
        Planned case worktrees config (cleanupNamespace store config) issue plan →
          ((∃ profile, selectedExecutionProfile store config.profiles = .ok profile) →
            Finished worktrees issue plan)
          ∧ (Finished worktrees issue plan →
            ∀ pr ∈ issue.linkedPullRequests, MainHandoff.pullRequestIsOpen pr = false) := by
  constructor
  · intro h issue hissue plan hplanned
    constructor
    · intro hprofile
      have hall := h.removable _ (workspaceCleanupPlan_eq_ok_iff.mpr ⟨hprofile, rfl⟩)
      rw [cleanupPlan, List.forall₂_map_left_iff, forall₂_map_iff] at hall
      obtain ⟨other, hother, hfinished⟩ :=
        removable_iff.mp (hall issue hissue (eligible_iff.mpr ⟨plan, hplanned⟩))
      obtain rfl : plan = other := Except.ok.inj (hplanned.planned.symm.trans hother.planned)
      exact hfinished
    · intro hfinished pr hpr
      by_contra hopen
      have hall := forall₂_map_iff.mp h.removableClosed issue hissue
        ⟨⟨pr, hpr, by simpa using hopen⟩, hfinished.closed⟩
      have hremovable := removable_iff.mpr ⟨plan, hplanned, hfinished⟩
      rw [hall] at hremovable
      cases hremovable
  · intro h
    have hclosed : ∀ issue ∈ issues, OpenBesideClosed issue →
        ∀ plan, Planned case worktrees config (cleanupNamespace store config) issue plan →
          ¬ Finished worktrees issue plan := by
      rintro issue hissue ⟨⟨pr, hpr, hopen⟩, -⟩ plan hplanned hfinished
      rw [(h issue hissue plan hplanned).2 hfinished pr hpr] at hopen
      cases hopen
    refine ⟨?_, ?_, ?_⟩
    · intro entries hentries
      obtain ⟨hprofile, rfl⟩ := workspaceCleanupPlan_eq_ok_iff.mp hentries
      rw [cleanupPlan, List.forall₂_map_left_iff, forall₂_map_iff]
      intro issue hissue heligible
      obtain ⟨plan, hplanned⟩ := eligible_iff.mp heligible
      exact removable_iff.mpr ⟨plan, hplanned, (h issue hissue plan hplanned).1 hprofile⟩
    · intro entries hentries
      obtain ⟨hprofile, rfl⟩ := workspaceCleanupPlan_eq_ok_iff.mp hentries
      refine forall₂_map_iff.mpr fun issue hissue hopen heligible => ?_
      obtain ⟨plan, hplanned⟩ := eligible_iff.mp heligible
      exact hclosed issue hissue hopen plan hplanned ((h issue hissue plan hplanned).1 hprofile)
    · refine forall₂_map_iff.mpr fun issue hissue hopen => Bool.eq_false_iff.mpr fun hremovable => ?_
      obtain ⟨plan, hplanned, hfinished⟩ := removable_iff.mp hremovable
      exact hclosed issue hissue hopen plan hplanned hfinished

end

/-! ## A worktree with uncommitted work -/

def cleanupConfig : CleanupConfig where
  workspaceRoot := "/work"
  terminalStates := ["Done"]
  baseBranch := "main"
  profiles := { default := none, codexInstancesPath := none, entries := [] }

def doneIssue : MainIssue where
  id := "I_7"
  identifier := "#7"
  title := "Publish"
  description := none
  state := "Done"
  priority := none
  blockedBy := []
  projectFields := fun _ => none
  createdAt := none
  branchName := none
  linkedPullRequests := []

/-- Every worktree is on its branch, and has a changed file. -/
def dirtyWorktrees : Worktrees where
  pathExists _ := true
  git args :=
    .ok { status := 0
          stdout := if args.contains "status" then " M src/lib.rs\n" else "feature/issue-7-publish\n"
          stderr := "" }

/-- The worktree of an issue that was moved to a terminal state is removed with what is in it. -/
theorem dirty_worktree_eligible :
    ¬ CleanupSafe Text.UnicodeCase.ascii dirtyWorktrees (fun _ => none) cleanupConfig [doneIssue] := by
  rw [cleanup_safe_iff]
  intro h
  have hplanned : ∃ plan, plannedHandoff Text.UnicodeCase.ascii cleanupConfig none doneIssue = .ok plan :=
    ⟨_, rfl⟩
  obtain ⟨plan, hplan⟩ := hplanned
  have hfinished := (h doneIssue List.mem_cons_self plan ⟨by decide, hplan, rfl⟩).1 ⟨none, rfl⟩
  have hdirty : workspaceClean dirtyWorktrees plan.workspacePath = false := by
    simp [workspaceClean, dirtyWorktrees]
  cases hdirty.symm.trans hfinished.clean

end SheaSymphony.Cleanup

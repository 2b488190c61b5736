import SheaSymphony.IssueWorkspace

/-!
# The workspace of a launch

`run_loop_apply_launch_workspace_report_with_mode` of `lanes/main_loop/handoff.rs`: the plan of
a handoff is changed in place to the one live workspace that discovery has found for the issue.
Either nothing of the plan is changed, or its path and branch are those of that workspace
(`launch_sound`).
-/

namespace SheaSymphony.LaunchWorkspace

open Interrupted (Program Triple)
open IssueWorkspace
open MainHandoff (CommandOutput HandoffError IssueHandoffPlan MainIssue)
open Preflight (compactEvidence)

inductive MainLaunchWorkspaceMode where
  | fresh | recovery
deriving DecidableEq

/-- What the file system and `git status --porcelain` answer for a path. -/
structure Places where
  pathExists : String → Bool
  canonicalize : String → Option String
  gitStatus : String → Except String CommandOutput

/-! ## The issue that a branch or a path names -/

def issueRefFromText (text : String) : Option String :=
  match Text.cut text "issue-" with
  | none => none
  | some (_, behind) =>
      let digits := String.ofList (behind.toList.takeWhile Char.isDigit)
      if digits = "" then none else some ("#" ++ digits)

def inferIssueRefFromBranchOrPath (branch : Option String) (path : String) : Option String :=
  branch.bind issueRefFromText <|> issueRefFromText path

/-! ## Adopting a worktree -/

variable (places : Places) (root : String) (issue : MainIssue)

def canonicalizeOrSelf (path : String) : String := (places.canonicalize path).getD path

def recoveryWorkspaceKey (path : String) : Except String String :=
  let root := canonicalizeOrSelf places root
  let path := canonicalizeOrSelf places path
  if (Paths.ofText root).isPrefixOf (Paths.ofText path) then
    Fallible.okOr (Paths.fileName (Paths.ofText path))
      ("recover cannot derive workspace key from path " ++ path)
  else
    .error ("recover refuses worktree outside configured workspace root: " ++ path
      ++ " not under " ++ root)

/-- A program that changes the plan of a handoff in place. -/
abbrev Launching := Program IssueHandoffPlan

/-- The plan as it is. -/
def planned {ε : Type} : Launching ε IssueHandoffPlan := Program.step fun plan => (plan, plan)

def assign {ε : Type} (f : IssueHandoffPlan → IssueHandoffPlan) : Launching ε Unit :=
  Program.step fun plan => ((), f plan)

/-- The branch or the path names the issue, or the branch is the planned one. -/
def belongs (plan : IssueHandoffPlan) (path branch : String) : Bool :=
  inferIssueRefFromBranchOrPath (some branch) path == some issue.identifier
    || branch == plan.branchName

def applyRecoveryWorktreeToHandoff (path branch : String) : Launching String Unit := do
  let plan ← planned
  Program.require (belongs issue plan path branch)
    ("recover refuses worktree " ++ path ++ " on branch " ++ branch
      ++ "; it does not match issue " ++ issue.identifier)
  let key ← Program.ofExcept (recoveryWorkspaceKey places root path)
  assign fun plan => { plan with workspaceKey := key }
  assign fun plan => { plan with workspacePath := path }
  assign fun plan => { plan with branchName := branch }
  assign fun plan => { plan with pullRequest := { plan.pullRequest with headBranch := branch } }

/-! ## Checks of a candidate -/

def workspacePreflightError (reason : String) : HandoffError :=
  .workspacePreflightBlocked issue.identifier reason

def candidatePathList (candidates : List IssueWorkspaceCandidate) : String :=
  Text.join ", " (candidates.map (·.path))

def candidateEvidenceSummary (candidate : IssueWorkspaceCandidate) : String :=
  Text.join "|" (candidate.evidence.map fun evidence =>
    evidence.source ++ ":" ++ Text.join "_" (Text.splitChar ' ' evidence.detail))

def workspaceNamespaceLabel (path : String) : String :=
  if (Paths.ofText path).contains (.normal ".jade-symphony") then "jade-symphony"
  else if (Paths.ofText path).contains (.normal ".shea-symphony") then "shea-symphony"
  else "unknown"

def gitStatusPorcelain (candidate : IssueWorkspaceCandidate) : Except HandoffError String :=
  match places.gitStatus candidate.path with
  | .error error => .error (workspacePreflightError issue
      ("could not inspect workspace candidate " ++ candidate.path ++ ": " ++ error))
  | .ok output =>
      if output.status ≠ 0 then
        .error (workspacePreflightError issue ("could not inspect workspace candidate "
          ++ candidate.path ++ ": " ++ Text.trim output.stderr))
      else .ok (Text.trim output.stdout)

def detachedError (candidate : IssueWorkspaceCandidate) : HandoffError :=
  workspacePreflightError issue ("workspace candidate " ++ candidate.path
    ++ " is detached and cannot be launched safely")

def dirtyLine (dirty : String) : String := Text.join "; " (Text.splitChar '\n' dirty)

def validateLaunchCandidateClean (candidate : IssueWorkspaceCandidate) :
    Except HandoffError Unit := do
  Fallible.require candidate.branch.isSome (detachedError issue candidate)
  let dirty ← gitStatusPorcelain places issue candidate
  Fallible.require (dirty == "") (workspacePreflightError issue ("workspace candidate "
    ++ candidate.path ++ " is dirty: " ++ dirtyLine dirty
    ++ "; stop before app-server launch and inspect it"))

def validateRecoveryLaunchCandidate (candidate : IssueWorkspaceCandidate) :
    Except HandoffError (Option String) := do
  Fallible.require candidate.branch.isSome (detachedError issue candidate)
  return some (← gitStatusPorcelain places issue candidate)

/-! ## The launch -/

def liveCandidates (report : IssueWorkspaceReport) : List IssueWorkspaceCandidate :=
  report.candidates.filter fun candidate => places.pathExists candidate.path

def strongCandidates (candidates : List IssueWorkspaceCandidate) : List IssueWorkspaceCandidate :=
  candidates.filter fun candidate => candidate.strength == .strong

/-- The one strong candidate, or the only one. -/
def selectLaunchCandidate (live : List IssueWorkspaceCandidate) :
    Except HandoffError (Option IssueWorkspaceCandidate) :=
  match strongCandidates live with
  | [candidate] => .ok (some candidate)
  | strong@(_ :: _ :: _) => .error (workspacePreflightError issue
      ("multiple strong live workspace candidates: " ++ candidatePathList strong
        ++ "; run \x60workspace show\x60 and resolve with \x60workspace adopt\x60"))
  | [] =>
      match live with
      | [] => .ok none
      | [candidate] => .ok (some candidate)
      | live => .error (workspacePreflightError issue
          ("multiple live workspace candidates without a canonical match: "
            ++ candidatePathList live
            ++ "; run \x60workspace show\x60 and resolve with \x60workspace adopt\x60"))

def reuseLine (candidate : IssueWorkspaceCandidate) (branch : String) : Option String → String
  | none => "workspace_preflight action=reuse path=" ++ candidate.path ++ " branch=" ++ branch
      ++ " evidence=" ++ candidateEvidenceSummary candidate
  | some dirty =>
      if dirty = "" then "workspace_preflight action=reuse_recovery path=" ++ candidate.path
        ++ " branch=" ++ branch ++ " evidence=" ++ candidateEvidenceSummary candidate
      else "workspace_preflight action=reuse_dirty_recovery path=" ++ candidate.path
        ++ " branch=" ++ branch ++ " dirty=" ++ dirtyLine dirty ++ " evidence="
        ++ candidateEvidenceSummary candidate

/-- An error of a step, told as one of the preflight. -/
def blocking {α : Type} (program : Launching String α) : Launching HandoffError α := fun plan =>
  ((program plan).1.mapError (workspacePreflightError issue), (program plan).2)

def reuseCandidate (mode : MainLaunchWorkspaceMode) (candidate : IssueWorkspaceCandidate) :
    Launching HandoffError String := do
  let branch ← Program.ofExcept (Fallible.okOr candidate.branch (workspacePreflightError issue
    ("detached workspace candidate " ++ candidate.path
      ++ "; resolve with \x60workspace adopt\x60 after choosing a branch worktree")))
  let dirty ← Program.ofExcept (match mode with
    | .fresh => (validateLaunchCandidateClean places issue candidate).map fun _ => none
    | .recovery => validateRecoveryLaunchCandidate places issue candidate)
  let plan ← planned
  Program.require (belongs issue plan candidate.path branch) (workspacePreflightError issue
    ("workspace candidate " ++ candidate.path ++ " on branch " ++ branch
      ++ " does not match issue " ++ issue.identifier ++ "; run \x60workspace show\x60 before launch"))
  blocking issue (applyRecoveryWorktreeToHandoff places root issue candidate.path branch)
  return reuseLine candidate branch dirty

def runLoopApplyLaunchWorkspaceReportWithMode (report : IssueWorkspaceReport)
    (mode : MainLaunchWorkspaceMode) : Launching HandoffError (List String) := do
  let warnings := report.warnings.map fun warning => "workspace_warning=" ++ compactEvidence warning
  let ignored := (report.candidates.filter fun candidate => !places.pathExists candidate.path).map
    fun candidate => "ignored_missing_workspace path=" ++ candidate.path ++ " namespace="
      ++ workspaceNamespaceLabel candidate.path ++ " evidence="
      ++ candidateEvidenceSummary candidate
      ++ " next=\x60git worktree prune\x60 after operator review or \x60workspace ensure\x60"
  let selected ← Program.ofExcept (selectLaunchCandidate issue (liveCandidates places report))
  match selected with
  | some candidate =>
      let line ← reuseCandidate places root issue mode candidate
      return warnings ++ ignored ++ [line]
  | none =>
      let plan ← planned
      return warnings ++ ignored ++ ["workspace_preflight action=prepare path="
        ++ plan.workspacePath ++ " branch=" ++ plan.branchName ++ " next=\x60workspace ensure "
        ++ issue.identifier ++ "\x60"]

/-! ## What a text names -/

/-- The text has a whole number behind `issue-`, the one of the reference. -/
def Marks (text issueRef : String) : Prop :=
  ∃ front digits back : String, text = front ++ "issue-" ++ digits ++ back ∧ digits ≠ ""
    ∧ (∀ c ∈ digits.toList, c.isDigit = true) ∧ back.toList.head?.any Char.isDigit = false
    ∧ issueRef = "#" ++ digits

variable {places root issue}

theorem marks_of_issueRefFromText {text issueRef : String}
    (h : issueRefFromText text = some issueRef) : Marks text issueRef := by
  unfold issueRefFromText at h
  cases hcut : Text.cut text "issue-" with
  | none =>
      rw [hcut] at h
      cases h
  | some parts =>
      obtain ⟨front, behind⟩ := parts
      rw [hcut] at h
      dsimp only at h
      split at h
      · cases h
      · next hne =>
          have hdigits : ∀ c ∈ behind.toList.takeWhile Char.isDigit, c.isDigit = true :=
            fun c hc => (List.mem_takeWhile_imp hc)
          refine ⟨front, String.ofList (behind.toList.takeWhile Char.isDigit),
            String.ofList (behind.toList.dropWhile Char.isDigit), ?_, hne, ?_, ?_,
            (Option.some.inj h).symm⟩
          · rw [String.append_assoc, ← String.ofList_append, List.takeWhile_append_dropWhile,
              String.ofList_toList, Text.cut_eq_some hcut]
          · rwa [String.toList_ofList]
          · rw [String.toList_ofList]
            cases hrest : behind.toList.dropWhile Char.isDigit with
            | nil => rfl
            | cons c rest =>
                have hhead := List.head_dropWhile_not Char.isDigit (l := behind.toList)
                  (by rw [hrest]; exact List.cons_ne_nil c rest)
                simp only [hrest, List.head_cons] at hhead
                simpa using hhead

theorem marks_of_belongs {plan : IssueHandoffPlan} {path branch : String}
    (h : belongs issue plan path branch = true) :
    Marks branch issue.identifier ∨ Marks path issue.identifier ∨ branch = plan.branchName := by
  rw [belongs, Bool.or_eq_true, beq_iff_eq, beq_iff_eq, inferIssueRefFromBranchOrPath,
    Option.bind_some] at h
  rcases h with hinferred | hbranch
  · cases hmark : issueRefFromText branch with
    | none =>
        rw [hmark] at hinferred
        exact Or.inr (Or.inl (marks_of_issueRefFromText hinferred))
    | some found =>
        rw [hmark] at hinferred
        cases hinferred
        exact Or.inl (marks_of_issueRefFromText hmark)
  · exact Or.inr (Or.inr hbranch)

/-! ## Adopting is all or nothing -/

/-- The plan of the worktree under the key. -/
def adopt (key path branch : String) (plan : IssueHandoffPlan) : IssueHandoffPlan :=
  { plan with
    workspaceKey := key
    workspacePath := path
    branchName := branch
    pullRequest := { plan.pullRequest with headBranch := branch } }

theorem applyRecoveryWorktreeToHandoff_eq (path branch : String) (plan : IssueHandoffPlan) :
    applyRecoveryWorktreeToHandoff places root issue path branch plan =
      if belongs issue plan path branch then
        match recoveryWorkspaceKey places root path with
        | .ok key => (.ok (), adopt key path branch plan)
        | .error error => (.error error, plan)
      else (.error ("recover refuses worktree " ++ path ++ " on branch " ++ branch
        ++ "; it does not match issue " ++ issue.identifier), plan) := by
  have hplanned : (planned : Launching String IssueHandoffPlan) plan = (.ok plan, plan) := rfl
  rw [applyRecoveryWorktreeToHandoff, Program.bind_ok hplanned]
  cases belongs issue plan path branch with
  | false => rfl
  | true =>
      rw [Program.require_true_bind]
      cases recoveryWorkspaceKey places root path with
      | error error => rfl
      | ok key => rfl

theorem prefix_of_recoveryWorkspaceKey {path key : String}
    (h : recoveryWorkspaceKey places root path = .ok key) :
    Paths.ofText (canonicalizeOrSelf places root) <+: Paths.ofText (canonicalizeOrSelf places path)
      ∧ Paths.fileName (Paths.ofText (canonicalizeOrSelf places path)) = some key := by
  unfold recoveryWorkspaceKey at h
  dsimp only at h
  split at h
  · next hunder =>
      refine ⟨List.isPrefixOf_iff_prefix.mp hunder, ?_⟩
      cases hname : Paths.fileName (Paths.ofText (canonicalizeOrSelf places path)) with
      | none =>
          rw [hname] at h
          cases h
      | some name =>
          rw [hname] at h
          exact congrArg some (Except.ok.inj h)
  · cases h

/-! ## One live candidate -/

/-- The candidate is the only strong one, or the only one where none is strong. -/
def Alone (live : List IssueWorkspaceCandidate) (candidate : IssueWorkspaceCandidate) : Prop :=
  strongCandidates live = [candidate] ∨ strongCandidates live = [] ∧ live = [candidate]

variable {candidate : IssueWorkspaceCandidate}

theorem Alone.mem {live : List IssueWorkspaceCandidate} (h : Alone live candidate) : candidate ∈ live := by
  rcases h with hstrong | ⟨-, honly⟩
  · have hmem : candidate ∈ strongCandidates live := by rw [hstrong]; exact List.mem_cons_self
    exact List.mem_of_mem_filter hmem
  · rw [honly]
    exact List.mem_cons_self

theorem selectLaunchCandidate_cases {live : List IssueWorkspaceCandidate}
    {selected : Option IssueWorkspaceCandidate}
    (h : selectLaunchCandidate issue live = .ok selected) :
    (selected = none ∧ live = []) ∨ ∃ candidate, selected = some candidate ∧ Alone live candidate := by
  unfold selectLaunchCandidate at h
  split at h
  · next candidate hstrong =>
      exact Or.inr ⟨candidate, (Except.ok.inj h).symm, Or.inl hstrong⟩
  · cases h
  · next hstrong =>
      split at h
      · exact Or.inl ⟨(Except.ok.inj h).symm, rfl⟩
      · next candidate =>
          exact Or.inr ⟨candidate, (Except.ok.inj h).symm, Or.inr ⟨hstrong, rfl⟩⟩
      · cases h

/-- `git status` has shown nothing at the candidate. -/
def ShowsClean (places : Places) (path : String) : Prop :=
  ∃ output, places.gitStatus path = .ok output ∧ output.status = 0
    ∧ Text.trim output.stdout = ""

theorem showsClean_of_validate (h : validateLaunchCandidateClean places issue candidate = .ok ()) :
    ShowsClean places candidate.path := by
  unfold validateLaunchCandidateClean at h
  obtain ⟨⟨⟩, -, h⟩ := Fallible.bind_eq_ok h
  obtain ⟨dirty, hstatus, hclean⟩ := Fallible.bind_eq_ok h
  have hempty : dirty = "" := beq_iff_eq.mp (Fallible.require_eq_ok.mp hclean)
  unfold gitStatusPorcelain at hstatus
  cases hanswer : places.gitStatus candidate.path with
  | error error =>
      rw [hanswer] at hstatus
      cases hstatus
  | ok output =>
      rw [hanswer] at hstatus
      dsimp only at hstatus
      split at hstatus
      · cases hstatus
      · next hzero =>
          exact ⟨output, hanswer, not_not.mp hzero, (Except.ok.inj hstatus).trans hempty⟩

/-! ## The plan after a launch -/

/-- The plan is the one before with the key, path and branch of the candidate. -/
structure Adopts (places : Places) (root : String) (issue : MainIssue)
    (report : IssueWorkspaceReport) (mode : MainLaunchWorkspaceMode)
    (before after : IssueHandoffPlan) (candidate : IssueWorkspaceCandidate) : Prop where
  listed : candidate ∈ report.candidates
  live : places.pathExists candidate.path = true
  alone : Alone (liveCandidates places report) candidate
  attached : candidate.branch = some after.branchName
  plan : after = adopt after.workspaceKey candidate.path after.branchName before
  underRoot : Paths.ofText (canonicalizeOrSelf places root)
    <+: Paths.ofText (canonicalizeOrSelf places candidate.path)
  named : Marks after.branchName issue.identifier ∨ Marks candidate.path issue.identifier
    ∨ after.branchName = before.branchName
  clean : mode = .fresh → ShowsClean places candidate.path

theorem triple_reuseCandidate {report : IssueWorkspaceReport} {mode : MainLaunchWorkspaceMode}
    {before : IssueHandoffPlan} (halone : Alone (liveCandidates places report) candidate) :
    Triple (· = before) (reuseCandidate places root issue mode candidate)
      (fun _ after => Adopts places root issue report mode before after candidate)
      (· = before) := by
  obtain ⟨hlisted, hlive⟩ := List.mem_filter.mp halone.mem
  unfold reuseCandidate
  refine Triple.bind (m := fun branch plan => candidate.branch = some branch ∧ plan = before)
    (Triple.ofExcept (fun branch hbranch plan hplan => ⟨?_, hplan⟩) fun _ h => h) fun branch => ?_
  · cases hsome : candidate.branch with
    | none =>
        rw [hsome] at hbranch
        cases hbranch
    | some found =>
        rw [hsome] at hbranch
        exact congrArg some (Except.ok.inj hbranch)
  refine Triple.of_fact (fun _ h => h.1) fun hbranch => ?_
  refine Triple.bind (m := fun _ plan => (mode = .fresh → ShowsClean places candidate.path)
    ∧ plan = before) (Triple.ofExcept (fun dirty hdirty plan hplan => ⟨?_, hplan.2⟩)
      fun _ h => h.2) fun dirty => ?_
  · rintro rfl
    obtain ⟨u, hvalid, -⟩ := Fallible.map_eq_ok hdirty
    exact showsClean_of_validate hvalid
  refine Triple.of_fact (fun _ h => h.1) fun hclean => ?_
  refine Triple.of_run fun plan hplan => ?_
  obtain rfl : plan = before := hplan.2
  have hplanned : (planned : Launching HandoffError IssueHandoffPlan) plan = (.ok plan, plan) := rfl
  rw [Program.bind_ok hplanned]
  cases hbelongs : belongs issue plan candidate.path branch with
  | false => exact rfl
  | true =>
      rw [Program.require_true_bind]
      have hrun : blocking issue
          (applyRecoveryWorktreeToHandoff places root issue candidate.path branch) plan
          = match recoveryWorkspaceKey places root candidate.path with
            | .ok key => (.ok (), adopt key candidate.path branch plan)
            | .error error => (.error (workspacePreflightError issue error), plan) := by
        rw [blocking, applyRecoveryWorktreeToHandoff_eq, if_pos hbelongs]
        cases recoveryWorkspaceKey places root candidate.path <;> rfl
      cases hkey : recoveryWorkspaceKey places root candidate.path with
      | error error =>
          rw [hkey] at hrun
          rw [Program.bind_error hrun]
      | ok key =>
          rw [hkey] at hrun
          rw [Program.bind_ok hrun]
          exact ⟨hlisted, hlive, halone, hbranch, rfl, (prefix_of_recoveryWorkspaceKey hkey).1,
            marks_of_belongs hbelongs, hclean⟩

theorem triple_launch {report : IssueWorkspaceReport} {mode : MainLaunchWorkspaceMode}
    (before : IssueHandoffPlan) :
    Triple (· = before) (runLoopApplyLaunchWorkspaceReportWithMode places root issue report mode)
      (fun _ after =>
        ((∀ candidate ∈ report.candidates, places.pathExists candidate.path = false)
            ∧ after = before)
          ∨ ∃ candidate, Adopts places root issue report mode before after candidate)
      (· = before) := by
  unfold runLoopApplyLaunchWorkspaceReportWithMode
  refine Triple.bind (m := fun selected plan =>
    selectLaunchCandidate issue (liveCandidates places report) = .ok selected ∧ plan = before)
    (Triple.ofExcept (fun selected hselected plan hplan => ⟨hselected, hplan⟩) fun _ h => h)
    fun selected => Triple.of_fact (fun _ h => h.1) fun hselected => ?_
  rcases selectLaunchCandidate_cases hselected with ⟨rfl, hnone⟩ | ⟨candidate, rfl, halone⟩
  · refine Triple.of_run fun plan hplan => Or.inl ⟨fun candidate hmem => ?_, hplan.2⟩
    rw [liveCandidates, List.filter_eq_nil_iff] at hnone
    exact Bool.eq_false_iff.mpr (hnone candidate hmem)
  · refine Triple.bind (Triple.weaken (triple_reuseCandidate halone) (fun _ h => h.2)
      (fun _ _ h => h) fun _ h => h) fun line => Triple.pure fun after hafter => ?_
    exact Or.inr ⟨candidate, hafter⟩

/-- A launch that is refused leaves the plan as it was; one that goes on has found no live
workspace and leaves it as well, or has adopted the one live candidate. -/
theorem launch_sound (places : Places) (root : String) (issue : MainIssue)
    (report : IssueWorkspaceReport) (mode : MainLaunchWorkspaceMode) (before : IssueHandoffPlan) :
    match runLoopApplyLaunchWorkspaceReportWithMode places root issue report mode before with
    | (.ok _, after) =>
        ((∀ candidate ∈ report.candidates, places.pathExists candidate.path = false)
            ∧ after = before)
          ∨ ∃ candidate, Adopts places root issue report mode before after candidate
    | (.error _, after) => after = before := by
  have htriple := @triple_launch places root issue report mode before
  have hrun := htriple.run rfl
  cases hresult : runLoopApplyLaunchWorkspaceReportWithMode places root issue report mode before with
  | mk outcome after =>
      rw [hresult] at hrun
      cases outcome with
      | ok evidence => exact hrun
      | error error => exact hrun

end SheaSymphony.LaunchWorkspace

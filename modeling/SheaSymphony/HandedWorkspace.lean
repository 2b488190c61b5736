import SheaSymphony.LaunchWorkspace
import SheaSymphony.Pieces

/-!
# The workspace that is handed on

A plan carries the path of a workspace and the key it is prepared from. The backend runs in
what `prepare_workspace` makes of the key, everything else goes by the path: how a plan comes
by the two, and when they lead to one place (`runs_in_handoff_iff`).
-/

namespace SheaSymphony.LaunchWorkspace

open Interrupted (Program)
open IssueWorkspace Fallible Text Paths
open MainHandoff (HandoffError IssueHandoffPlan MainIssue joinPath planIssueHandoffForProfile
  profileWorkspaceKeyForIssue)
open SheaSymphony.Runtime (RuntimeState)
open Workspace (safeChar safeIdentifier)

/-! ## Preparing -/

inductive WorkspaceError where
  | io (error : String)
  | equalsRoot (workspace : String)
  | outsideRoot (workspace root : String)
deriving DecidableEq

/-- `prepare_workspace`: `created` is what creating the root and asking for its canonical path
gives, `ready` what making the directory and its hook give. -/
def prepareWorkspace (created : Except WorkspaceError String)
    (ready : String → Except WorkspaceError Unit) (identifier : String) :
    Except WorkspaceError String := do
  let root ← created
  let path := joinPath root (safeIdentifier identifier)
  Fallible.require (decide (Paths.ofText path ≠ Paths.ofText root)) (.equalsRoot path)
  Fallible.require ((Paths.ofText root).isPrefixOf (Paths.ofText path)) (.outsideRoot path root)
  ready path
  return path

/-! ## How a plan comes by its workspace -/

/-- The workspace that a rework goes on in, where discovery has one on the branch of the plan. -/
def continuedWorkspace (case : Text.UnicodeCase) (issue : MainIssue)
    (discovered : Option IssueWorkspaceReport) (plan : IssueHandoffPlan) : Option String :=
  if issue.normalizedState case = "rework" then
    ((discovered.bind fun report => report.canonicalIndex.bind (report.candidates[·]?)).filter
      fun candidate => candidate.branch == some plan.branchName).map (·.path)
  else none

/-- `run_loop_handoff_plan`; discovery that fails is passed over. -/
def runLoopHandoffPlan (case : Text.UnicodeCase) (root : String) (issue : MainIssue)
    (baseBranch : String) (profile : Option String) (discovered : Option IssueWorkspaceReport) :
    Except HandoffError IssueHandoffPlan := do
  let plan ← planIssueHandoffForProfile case root issue baseBranch profile
  match continuedWorkspace case issue discovered plan with
  | some path => return { plan with workspacePath := path }
  | none => return plan

section
variable (places : Places) (root : String) (issue : MainIssue)

/-- The workspace of a stored state, with the branch that `git` says it is on. -/
def recordedWorktree (currentBranch : String → Except String (Option String))
    (state : RuntimeState) : Except String (Option (String × String)) :=
  match state.workspacePath with
  | none => .ok none
  | some path => (currentBranch path).map fun branch => branch.map fun branch => (path, branch)

/-- `run_loop_apply_recovery_handoff`: what `git` says of a workspace, and what discovery
reports. -/
def runLoopApplyRecoveryHandoff (currentBranch : String → Except String (Option String))
    (discovered : Except String IssueWorkspaceReport) (state : RuntimeState) :
    Launching String (Option String) :=
  if state.lastEvent.all fun event =>
      !(["SessionRunning", "SessionTerminal", "Resumed"].contains event) then
    return none
  else do
    let found ← Program.ofExcept (recordedWorktree currentBranch state)
    match found with
    | some (path, branch) =>
        applyRecoveryWorktreeToHandoff places root issue path branch
        return some ("source=runtime_state workspace=" ++ path ++ " branch=" ++ branch)
    | none =>
        let report ← Program.ofExcept discovered
        match report.canonicalIndex.bind (report.candidates[·]?) with
        | none => return none
        | some candidate =>
            match candidate.branch with
            | none => return none
            | some branch =>
                applyRecoveryWorktreeToHandoff places root issue candidate.path branch
                return some ("source=workspace_discovery workspace=" ++ candidate.path
                  ++ " branch=" ++ branch)

/-- Where the path of a plan is from. -/
inductive Origin where
  | planned
  | continued (path : String)
  | adopted (path : String)
deriving DecidableEq

/-- The plans that a run of the loop can hand on. -/
inductive Handed (case : Text.UnicodeCase) (baseBranch : String) (profile : Option String) :
    IssueHandoffPlan → Origin → Prop
  | opened {discovered : Option IssueWorkspaceReport} {plan : IssueHandoffPlan}
      (hplan : planIssueHandoffForProfile case root issue baseBranch profile = .ok plan)
      (hnone : continuedWorkspace case issue discovered plan = none) :
      Handed case baseBranch profile plan .planned
  | continued {discovered : Option IssueWorkspaceReport} {plan : IssueHandoffPlan} {path : String}
      (hplan : planIssueHandoffForProfile case root issue baseBranch profile = .ok plan)
      (hsome : continuedWorkspace case issue discovered plan = some path) :
      Handed case baseBranch profile { plan with workspacePath := path } (.continued path)
  | adopted {before after : IssueHandoffPlan} {origin : Origin} {path branch : String}
      (h : Handed case baseBranch profile before origin)
      (hrun : applyRecoveryWorktreeToHandoff places root issue path branch before = (.ok (), after)) :
      Handed case baseBranch profile after (.adopted path)

/-! ## Every step hands on -/

variable {places root issue} {case : Text.UnicodeCase} {baseBranch : String}
  {profile : Option String}

theorem handed_of_plan {discovered : Option IssueWorkspaceReport} {plan : IssueHandoffPlan}
    (h : runLoopHandoffPlan case root issue baseBranch profile discovered = .ok plan) :
    ∃ origin, Handed places root issue case baseBranch profile plan origin := by
  obtain ⟨opened, hopened, h⟩ := Fallible.bind_eq_ok h
  cases hworkspace : continuedWorkspace case issue discovered opened with
  | none =>
      rw [hworkspace] at h
      obtain rfl := Except.ok.inj h
      exact ⟨.planned, .opened hopened hworkspace⟩
  | some path =>
      rw [hworkspace] at h
      obtain rfl := Except.ok.inj h
      exact ⟨.continued path, .continued hopened hworkspace⟩

theorem planned_eq_ok_iff {ε : Type} {plan before after : IssueHandoffPlan} :
    (planned : Launching ε IssueHandoffPlan) before = (.ok plan, after)
      ↔ plan = before ∧ after = before := by
  constructor
  · intro h
    have hplan : (Except.ok before : Except ε IssueHandoffPlan) = .ok plan := congrArg Prod.fst h
    exact ⟨(Except.ok.inj hplan).symm, (congrArg Prod.snd h).symm⟩
  · rintro ⟨rfl, rfl⟩
    rfl

theorem reuseCandidate_applies {mode : MainLaunchWorkspaceMode} {line : String}
    {candidate : IssueWorkspaceCandidate} {before after : IssueHandoffPlan}
    (h : reuseCandidate places root issue mode candidate before = (.ok line, after)) :
    ∃ branch, applyRecoveryWorktreeToHandoff places root issue candidate.path branch before
      = (.ok (), after) := by
  simp only [reuseCandidate, Program.bind_eq_ok_iff, Program.ofExcept_eq_ok_iff,
    Program.require_eq_ok_iff, Program.pure_eq_ok_iff, planned_eq_ok_iff] at h
  obtain ⟨branch, _, ⟨-, rfl⟩, dirty, _, ⟨-, rfl⟩, plan, _, ⟨rfl, rfl⟩, ⟨⟩, _, ⟨-, rfl⟩, ⟨⟩, _, hrun,
    -, rfl⟩ := h
  refine ⟨branch, ?_⟩
  rw [blocking, Prod.mk.injEq, Fallible.mapError_eq_ok] at hrun
  exact Prod.ext hrun.1 hrun.2

theorem handed_of_launch {report : IssueWorkspaceReport} {mode : MainLaunchWorkspaceMode}
    {before after : IssueHandoffPlan} {origin : Origin} {evidence : List String}
    (h : Handed places root issue case baseBranch profile before origin)
    (hrun : runLoopApplyLaunchWorkspaceReportWithMode places root issue report mode before
      = (.ok evidence, after)) :
    ∃ origin, Handed places root issue case baseBranch profile after origin := by
  unfold runLoopApplyLaunchWorkspaceReportWithMode at hrun
  obtain ⟨selected, _, hselected, hrun⟩ := Program.bind_eq_ok_iff.mp hrun
  obtain ⟨_, rfl⟩ := Program.ofExcept_eq_ok_iff.mp hselected
  cases selected with
  | none =>
      obtain ⟨plan, _, hplan, hrun⟩ := Program.bind_eq_ok_iff.mp hrun
      obtain ⟨_, rfl⟩ := Program.pure_eq_ok_iff.mp hrun
      obtain ⟨rfl, rfl⟩ := planned_eq_ok_iff.mp hplan
      exact ⟨origin, h⟩
  | some candidate =>
      obtain ⟨line, _, hline, hrun⟩ := Program.bind_eq_ok_iff.mp hrun
      obtain ⟨_, rfl⟩ := Program.pure_eq_ok_iff.mp hrun
      obtain ⟨branch, happlied⟩ := reuseCandidate_applies hline
      exact ⟨.adopted candidate.path, h.adopted happlied⟩

theorem handed_of_recovery {currentBranch : String → Except String (Option String)}
    {discovered : Except String IssueWorkspaceReport} {state : RuntimeState}
    {before after : IssueHandoffPlan} {origin : Origin} {note : Option String}
    (h : Handed places root issue case baseBranch profile before origin)
    (hrun : runLoopApplyRecoveryHandoff places root issue currentBranch discovered state before
      = (.ok note, after)) :
    ∃ origin, Handed places root issue case baseBranch profile after origin := by
  unfold runLoopApplyRecoveryHandoff at hrun
  split at hrun
  · obtain ⟨_, rfl⟩ := Program.pure_eq_ok_iff.mp hrun
    exact ⟨origin, h⟩
  · rw [Program.bind_eq_ok_iff] at hrun
    obtain ⟨found, _, hfound, hrun⟩ := hrun
    rw [(Program.ofExcept_eq_ok_iff.mp hfound).2] at hrun
    split at hrun
    · next path branch =>
        obtain ⟨⟨⟩, _, happlied, hrun⟩ := Program.bind_eq_ok_iff.mp hrun
        obtain ⟨_, rfl⟩ := Program.pure_eq_ok_iff.mp hrun
        exact ⟨.adopted path, h.adopted happlied⟩
    · rw [Program.bind_eq_ok_iff] at hrun
      obtain ⟨report, _, hreport, hrun⟩ := hrun
      rw [(Program.ofExcept_eq_ok_iff.mp hreport).2] at hrun
      cases hcandidate : report.canonicalIndex.bind (report.candidates[·]?) with
      | none =>
          rw [hcandidate] at hrun
          obtain ⟨_, rfl⟩ := Program.pure_eq_ok_iff.mp hrun
          exact ⟨origin, h⟩
      | some candidate =>
          rw [hcandidate] at hrun
          dsimp only at hrun
          cases hbranch : candidate.branch with
          | none =>
              rw [hbranch] at hrun
              obtain ⟨_, rfl⟩ := Program.pure_eq_ok_iff.mp hrun
              exact ⟨origin, h⟩
          | some branch =>
              rw [hbranch] at hrun
              obtain ⟨⟨⟩, _, happlied, hrun⟩ := Program.bind_eq_ok_iff.mp hrun
              obtain ⟨_, rfl⟩ := Program.pure_eq_ok_iff.mp hrun
              exact ⟨.adopted candidate.path, h.adopted happlied⟩

end

/-! ## Names -/

/-- A name that is one component of a path. -/
def IsName (name : String) : Prop :=
  name ≠ "" ∧ name ≠ "." ∧ name ≠ ".." ∧ '/' ∉ name.toList

theorem names_slash (base name : String) :
    Paths.names (base ++ "/" ++ name) = Paths.names base ++ Paths.names name := by
  have hlist : (base ++ "/" ++ name).toList = base.toList ++ '/' :: name.toList := by
    simp [String.toList_append]
  rw [names, splitChar, hlist, List.splitOn_append_cons_self, List.map_append,
    List.filterMap_append, names, names, splitChar, splitChar]

variable {name : String}

theorem names_of_isName (h : IsName name) : Paths.names name = [.normal name] := by
  rw [names, splitChar_of_not_mem h.2.2.2, List.filterMap_cons, component?,
    if_neg (not_or.mpr ⟨h.1, h.2.1⟩), if_neg h.2.2.1, List.filterMap_nil]

theorem ofText_slash {base : String} (hne : base ≠ "") (name : String) :
    Paths.ofText (base ++ "/" ++ name) = Paths.ofText base ++ Paths.names name := by
  obtain ⟨c, rest, hbase⟩ := List.exists_cons_of_ne_nil (String.toList_eq_nil_iff.not.mpr hne)
  have hlist : (base ++ "/" ++ name).toList = base.toList ++ '/' :: name.toList := by
    simp [String.toList_append]
  have habsolute : isAbsolute (base ++ "/" ++ name) = isAbsolute base := by
    rw [isAbsolute, startsWith, hlist, isAbsolute, startsWith, hbase]
    rfl
  have hhead : (splitChar '/' (base ++ "/" ++ name)).head? = (splitChar '/' base).head? := by
    rw [splitChar, hlist, List.splitOn_append_cons_self, List.map_append,
      List.head?_append_of_ne_nil _ (by simp)]
    rfl
  rw [ofText, habsolute, hhead, names_slash, ofText]
  split
  · rfl
  · split <;> rfl

theorem startsWith_slash_of_not_mem (h : '/' ∉ name.toList) :
    Text.startsWith name "/" = false := by
  rw [startsWith]
  cases hname : name.toList with
  | nil => rfl
  | cons c rest =>
      have hc : '/' ≠ c := fun hc => h (by rw [hname, hc]; exact List.mem_cons_self)
      exact Bool.and_eq_false_iff.mpr (Or.inl (beq_eq_false_iff_ne.mpr hc))

theorem ofText_joinPath_names {base name : String} (hne : base ≠ "") (h : '/' ∉ name.toList) :
    Paths.ofText (joinPath base name) = Paths.ofText base ++ Paths.names name := by
  rw [joinPath, startsWith_slash_of_not_mem h, if_neg Bool.false_ne_true]
  by_cases hlast : base.toList.getLast? = some '/'
  · obtain ⟨front, hfront⟩ := List.getLast?_eq_some_iff.mp hlast
    have hbase : base = String.ofList front ++ "/" := by
      rw [← String.toList_inj, String.toList_append, String.toList_ofList, hfront]
      rfl
    have hnil : names "" = [] := by decide
    rw [if_pos (Or.inr hlast), hbase]
    by_cases hroot : String.ofList front = ""
    · rw [hroot, String.empty_append]
      have hslash : ("/" : String) ++ name = "" ++ "/" ++ name := by rw [String.empty_append]
      have habsolute : isAbsolute ("/" ++ name) = true := by
        rw [isAbsolute, startsWith, String.toList_append]
        rfl
      rw [ofText, habsolute, if_pos rfl, hslash, names_slash, hnil]
      rfl
    · have hself : String.ofList front ++ "/" = String.ofList front ++ "/" ++ "" :=
        (String.append_empty).symm
      rw [ofText_slash hroot, hself, ofText_slash hroot, hnil, List.append_nil]
  · rw [if_neg (not_or.mpr ⟨hne, hlast⟩), ofText_slash hne]

theorem ofText_joinPath (h : IsName name) (base : String) :
    Paths.ofText (joinPath base name) = Paths.ofText base ++ [.normal name] := by
  by_cases hempty : base = ""
  · have hrelative := startsWith_slash_of_not_mem h.2.2.2
    rw [joinPath, hrelative, if_neg Bool.false_ne_true, if_pos (Or.inl hempty), hempty,
      String.empty_append, ofText, isAbsolute, hrelative, if_neg Bool.false_ne_true,
      splitChar_of_not_mem h.2.2.2, if_neg (by simpa using h.2.1), names_of_isName h]
    rfl
  · rw [ofText_joinPath_names hempty h.2.2.2, names_of_isName h]

theorem isName_of_mem_ofText {text name : String}
    (h : Paths.Component.normal name ∈ Paths.ofText text) : IsName name := by
  have hnames : Paths.Component.normal name ∈ names text := by
    unfold ofText at h
    split at h
    · simpa using h
    · split at h
      · simpa using h
      · exact h
  obtain ⟨piece, hpiece, hcomponent⟩ := List.mem_filterMap.mp hnames
  unfold component? at hcomponent
  split at hcomponent
  · cases hcomponent
  · next hplain =>
      split at hcomponent
      · cases hcomponent
      · next hparent =>
          obtain rfl : piece = name := by simpa using hcomponent
          obtain ⟨chars, hchars, rfl⟩ := List.mem_map.mp hpiece
          refine ⟨fun h => hplain (Or.inl h), fun h => hplain (Or.inr h), hparent, fun hslash => ?_⟩
          rw [String.toList_ofList] at hslash
          have hfalse := (mem_of_mem_splitOnP hchars hslash).2
          exact absurd hfalse (by decide)

theorem safeChar_cases (c : Char) : safeChar c = c ∧ c ≠ '/' ∨ safeChar c = '_' := by
  unfold safeChar
  split
  · next h =>
      refine Or.inl ⟨rfl, ?_⟩
      rintro rfl
      exact absurd h (by decide)
  · exact Or.inr rfl

theorem slash_not_mem_safeIdentifier (name : String) : '/' ∉ (safeIdentifier name).toList := by
  rw [safeIdentifier, String.toList_ofList]
  intro hmem
  obtain ⟨c, -, hc⟩ := List.mem_map.mp hmem
  rcases safeChar_cases c with ⟨hsame, hne⟩ | hunder
  · exact hne (hsame.symm.trans hc)
  · exact absurd (hunder.symm.trans hc) (by decide)

theorem safeIdentifier_eq_self (h : '_' ∉ (safeIdentifier name).toList) :
    safeIdentifier name = name := by
  rw [safeIdentifier, String.toList_ofList] at h
  rw [safeIdentifier, ← String.toList_inj, String.toList_ofList]
  refine (List.map_congr_left fun c hc => ?_).trans (List.map_id _)
  rcases safeChar_cases c with ⟨hsame, -⟩ | hunder
  · exact hsame
  · exact absurd (hunder ▸ List.mem_map_of_mem hc) h

theorem isName_safeIdentifier (h : IsName name) : IsName (safeIdentifier name) := by
  have hplain : ∀ text : String, '_' ∉ text.toList → safeIdentifier name = text → name = text :=
    fun text htext heq => (safeIdentifier_eq_self (heq ▸ htext)).symm.trans heq
  exact ⟨fun heq => h.1 (hplain "" (by decide) heq), fun heq => h.2.1 (hplain "." (by decide) heq),
    fun heq => h.2.2.1 (hplain ".." (by decide) heq), slash_not_mem_safeIdentifier name⟩

theorem isName_profileWorkspaceKey (case : Text.UnicodeCase) (profile : Option String)
    (identifier title : String) :
    IsName (profileWorkspaceKeyForIssue case profile identifier title)
      ∧ safeIdentifier (profileWorkspaceKeyForIssue case profile identifier title)
        = profileWorkspaceKeyForIssue case profile identifier title := by
  have hdash : ∀ front back : String, IsName (safeIdentifier (front ++ "-" ++ back)) := by
    intro front back
    have hmem : '-' ∈ (safeIdentifier (front ++ "-" ++ back)).toList := by
      rw [safeIdentifier, String.toList_ofList]
      exact List.mem_map.mpr ⟨'-', by simp [String.toList_append], by decide⟩
    have hother : ∀ text : String, '-' ∉ text.toList → safeIdentifier (front ++ "-" ++ back) ≠ text :=
      fun text htext heq => htext (heq ▸ hmem)
    exact ⟨hother "" (by decide), hother "." (by decide), hother ".." (by decide),
      slash_not_mem_safeIdentifier _⟩
  unfold profileWorkspaceKeyForIssue
  split
  · next profileId _ =>
      have hdashes : ("--" : String) = "-" ++ "-" := by decide
      rw [hdashes, ← String.append_assoc, String.append_assoc]
      exact ⟨hdash _ _, Workspace.safeIdentifier_idem _⟩
  · exact ⟨hdash _ _, Workspace.safeIdentifier_idem _⟩

/-! ## One place -/

/-- Where paths lead, symbolic links resolved; a name is looked up where the path before it
leads. -/
structure Leads (locate : Paths.Path → Paths.Path) : Prop where
  idem : ∀ path, locate (locate path) = locate path
  child : ∀ path name, locate (path ++ [.normal name]) = locate (locate path ++ [.normal name])

/-- The path that the key was read off is where the key leads. -/
def Origin.Fits (places : Places) (root : String) (issue : MainIssue) (case : Text.UnicodeCase)
    (profile : Option String) (locate : Paths.Path → Paths.Path) : Origin → Prop
  | .planned => True
  | .continued path =>
      locate (Paths.ofText root
          ++ [.normal (profileWorkspaceKeyForIssue case profile issue.identifier issue.title)])
        = locate (Paths.ofText path)
  | .adopted path =>
      ∀ name, Paths.fileName (Paths.ofText (canonicalizeOrSelf places path)) = some name →
        locate (Paths.ofText root ++ [.normal (safeIdentifier name)]) = locate (Paths.ofText path)

/-- What a plan says of its workspace, by where it is from. -/
def Origin.Describes (places : Places) (root : String) (issue : MainIssue)
    (case : Text.UnicodeCase) (profile : Option String) (plan : IssueHandoffPlan) : Origin → Prop
  | .planned =>
      plan.workspaceKey = profileWorkspaceKeyForIssue case profile issue.identifier issue.title
        ∧ plan.workspacePath = joinPath root plan.workspaceKey
  | .continued path =>
      plan.workspaceKey = profileWorkspaceKeyForIssue case profile issue.identifier issue.title
        ∧ plan.workspacePath = path
  | .adopted path =>
      Paths.fileName (Paths.ofText (canonicalizeOrSelf places path)) = some plan.workspaceKey
        ∧ plan.workspacePath = path

variable {places : Places} {root : String} {issue : MainIssue} {case : Text.UnicodeCase}
  {baseBranch : String} {profile : Option String} {plan : IssueHandoffPlan} {origin : Origin}

theorem describes_of_plan
    (h : planIssueHandoffForProfile case root issue baseBranch profile = .ok plan) :
    Origin.planned.Describes places root issue case profile plan := by
  obtain ⟨continuation, -, h⟩ := bind_eq_ok h
  obtain ⟨⟨⟩, -, h⟩ := bind_eq_ok h
  obtain ⟨branchName, -, h⟩ := bind_eq_ok h
  obtain rfl := Except.ok.inj h
  exact ⟨rfl, rfl⟩

theorem Handed.describes (h : Handed places root issue case baseBranch profile plan origin) :
    origin.Describes places root issue case profile plan := by
  induction h with
  | opened hplan hnone => exact describes_of_plan hplan
  | continued hplan hsome =>
      have hplanned : Origin.planned.Describes places root issue case profile _ :=
        describes_of_plan hplan
      exact ⟨hplanned.1, rfl⟩
  | @adopted before after origin path branch h hrun ih =>
      rw [applyRecoveryWorktreeToHandoff_eq] at hrun
      split at hrun
      · cases hkey : recoveryWorkspaceKey places root path with
        | error error =>
            rw [hkey] at hrun
            cases congrArg Prod.fst hrun
        | ok key =>
            rw [hkey] at hrun
            obtain rfl : adopt key path branch before = after := congrArg Prod.snd hrun
            exact ⟨(prefix_of_recoveryWorkspaceKey hkey).2, rfl⟩
      · cases congrArg Prod.fst hrun

theorem prepareWorkspace_eq_ok {created : Except WorkspaceError String}
    {ready : String → Except WorkspaceError Unit} {key path : String}
    (h : prepareWorkspace created ready key = .ok path) :
    ∃ canonicalRoot, created = .ok canonicalRoot
      ∧ path = joinPath canonicalRoot (safeIdentifier key) := by
  obtain ⟨canonicalRoot, hcreated, h⟩ := bind_eq_ok h
  obtain ⟨⟨⟩, -, h⟩ := bind_eq_ok h
  obtain ⟨⟨⟩, -, h⟩ := bind_eq_ok h
  obtain ⟨⟨⟩, -, h⟩ := bind_eq_ok h
  exact ⟨canonicalRoot, hcreated, (Except.ok.inj h).symm⟩

theorem isName_of_fileName {path : String}
    (h : Paths.fileName (Paths.ofText path) = some name) : IsName name := by
  unfold fileName at h
  split at h
  · next other hlast =>
      obtain rfl : other = name := Option.some.inj h
      exact isName_of_mem_ofText (List.mem_of_getLast? hlast)
  · cases h

theorem Handed.isName (h : Handed places root issue case baseBranch profile plan origin) :
    IsName plan.workspaceKey := by
  have hdescribes := h.describes
  cases origin with
  | planned =>
      rw [hdescribes.1]
      exact (isName_profileWorkspaceKey case profile issue.identifier issue.title).1
  | continued path =>
      rw [hdescribes.1]
      exact (isName_profileWorkspaceKey case profile issue.identifier issue.title).1
  | adopted path => exact isName_of_fileName hdescribes.1

/-- The backend runs where the rest of the handoff looks exactly when the origin of the plan
fits: always for a planned workspace, and for an adopted one when its own name, made safe, leads
there from the root. -/
theorem runs_in_handoff_iff {locate : Paths.Path → Paths.Path} (hleads : Leads locate)
    (h : Handed places root issue case baseBranch profile plan origin)
    {created : Except WorkspaceError String} {ready : String → Except WorkspaceError Unit}
    {path : String}
    (hroot : ∀ canonicalRoot, created = .ok canonicalRoot →
      Paths.ofText canonicalRoot = locate (Paths.ofText root))
    (hprepared : prepareWorkspace created ready plan.workspaceKey = .ok path) :
    locate (Paths.ofText path) = locate (Paths.ofText plan.workspacePath)
      ↔ origin.Fits places root issue case profile locate := by
  obtain ⟨canonicalRoot, hcreated, rfl⟩ := prepareWorkspace_eq_ok hprepared
  have hname : IsName (safeIdentifier plan.workspaceKey) := isName_safeIdentifier h.isName
  have hplace : locate (Paths.ofText (joinPath canonicalRoot (safeIdentifier plan.workspaceKey)))
      = locate (Paths.ofText root ++ [.normal (safeIdentifier plan.workspaceKey)]) := by
    rw [ofText_joinPath hname, hroot canonicalRoot hcreated, ← hleads.child]
  rw [hplace]
  have hdescribes := h.describes
  cases origin with
  | planned =>
      obtain ⟨hkey, hpath⟩ := hdescribes
      have hsafe : safeIdentifier plan.workspaceKey = plan.workspaceKey := by
        rw [hkey]
        exact (isName_profileWorkspaceKey case profile issue.identifier issue.title).2
      rw [hpath, hsafe, ofText_joinPath h.isName]
      exact iff_of_true rfl trivial
  | continued path =>
      obtain ⟨hkey, hpath⟩ := hdescribes
      have hsafe : safeIdentifier plan.workspaceKey = plan.workspaceKey := by
        rw [hkey]
        exact (isName_profileWorkspaceKey case profile issue.identifier issue.title).2
      rw [hpath, hsafe, hkey]
      rfl
  | adopted path =>
      obtain ⟨hkey, hpath⟩ := hdescribes
      rw [hpath, Origin.Fits, hkey]
      exact ⟨fun hsame name hname => Option.some.inj hname ▸ hsame, fun hfits => hfits _ rfl⟩

theorem planned_runs_in_handoff :
    ∃ plan path, runLoopHandoffPlan .ascii "/w" (titledIssue "#7" "Fix") "main" none none = .ok plan
      ∧ prepareWorkspace (.ok "/w") (fun _ => .ok ()) plan.workspaceKey = .ok path
      ∧ Paths.ofText path = Paths.ofText plan.workspacePath := by
  have hplanned : ∃ plan, planIssueHandoffForProfile .ascii "/w" (titledIssue "#7" "Fix") "main" none
      = .ok plan ∧ prepareWorkspace (.ok "/w") (fun _ => .ok ()) plan.workspaceKey
      = .ok "/w/issue-7-fix" := ⟨_, rfl, rfl⟩
  obtain ⟨plan, hplan, hprepared⟩ := hplanned
  have hdirect : Leads id := ⟨fun _ => rfl, fun _ _ => rfl⟩
  have hhanded : Handed ⟨fun _ => true, some, fun _ => .error ""⟩ "/w" (titledIssue "#7" "Fix")
      .ascii "main" none plan .planned := @Handed.opened _ _ _ _ _ _ none plan hplan rfl
  refine ⟨plan, "/w/issue-7-fix", ?_, hprepared, ?_⟩
  · rw [runLoopHandoffPlan, hplan]
    rfl
  · have hroot : ∀ canonicalRoot, (Except.ok "/w" : Except WorkspaceError String)
        = .ok canonicalRoot → Paths.ofText canonicalRoot = id (Paths.ofText "/w") := by
      rintro canonicalRoot ⟨⟩
      rfl
    exact (runs_in_handoff_iff hdirect hhanded hroot hprepared).mpr trivial

/-- Where no link stands directly under the root, only a worktree that stands there itself, under
a safe name, fits. -/
theorem adopted_fits_iff {locate : Paths.Path → Paths.Path} {path canonical name : String}
    (hcanonical : places.canonicalize path = some canonical)
    (hplace : Paths.ofText canonical = locate (Paths.ofText path))
    (hname : Paths.fileName (Paths.ofText canonical) = some name)
    (hdirect : locate (Paths.ofText root ++ [.normal (safeIdentifier name)])
      = locate (Paths.ofText root) ++ [.normal (safeIdentifier name)]) :
    (Origin.adopted path).Fits places root issue case profile locate
      ↔ Paths.ofText canonical = locate (Paths.ofText root) ++ [.normal name]
        ∧ safeIdentifier name = name := by
  rw [Origin.Fits, canonicalizeOrSelf, hcanonical, Option.getD_some, hname, ← hplace]
  constructor
  · intro hfits
    have hplaced := (hdirect.symm.trans (hfits name rfl)).symm
    rw [hplaced, Paths.fileName, List.getLast?_concat] at hname
    have hsafe : safeIdentifier name = name := Option.some.inj hname
    exact ⟨by rw [hplaced, hsafe], hsafe⟩
  · rintro ⟨hplaced, hsafe⟩ other hother
    obtain rfl : name = other := Option.some.inj hother
    rw [hdirect, hsafe, hplaced]

/-! ## A worktree further down -/

def directPlaces : Places where
  pathExists _ := true
  canonicalize path := some path
  gitStatus _ := .ok { status := 0, stdout := "", stderr := "" }

def deepCandidate : IssueWorkspaceCandidate where
  path := "/w/main/issue-7-fix"
  branch := some "feature/issue-7-fix"
  head := none
  strength := .strong
  evidence := [{ source := "git_worktree", detail := "branch or path names issue `7`" }]

def deepReport : IssueWorkspaceReport where
  issueRef := "#7"
  title := "Fix"
  branchHints := []
  candidates := [deepCandidate]
  canonicalIndex := some 0
  warnings := []

/-- The worktree is adopted, and the backend is started in another directory. -/
theorem deep_worktree_elsewhere :
    ∃ before evidence after path,
      runLoopHandoffPlan .ascii "/w" (titledIssue "#7" "Fix") "main" none none = .ok before
      ∧ runLoopApplyLaunchWorkspaceReportWithMode directPlaces "/w" (titledIssue "#7" "Fix")
          deepReport .fresh before = (.ok evidence, after)
      ∧ prepareWorkspace (.ok "/w") (fun _ => .ok ()) after.workspaceKey = .ok path
      ∧ Paths.ofText path ≠ Paths.ofText after.workspacePath := by
  have hplanned : ∃ before, runLoopHandoffPlan .ascii "/w" (titledIssue "#7" "Fix") "main" none none
      = .ok before := ⟨_, rfl⟩
  obtain ⟨before, hbefore⟩ := hplanned
  have hkey : recoveryWorkspaceKey directPlaces "/w" deepCandidate.path = .ok "issue-7-fix" := by
    decide
  have hmark : issueRefFromText "feature/issue-7-fix" = some "#7" := by decide
  have hbelongs : belongs (titledIssue "#7" "Fix") before deepCandidate.path "feature/issue-7-fix"
      = true := by
    rw [belongs, inferIssueRefFromBranchOrPath, Option.bind_some, hmark]
    rfl
  have hclean : (validateLaunchCandidateClean directPlaces (titledIssue "#7" "Fix") deepCandidate).map
      (fun _ => (none : Option String)) = .ok none := rfl
  have hblocking : blocking (titledIssue "#7" "Fix") (applyRecoveryWorktreeToHandoff directPlaces "/w"
      (titledIssue "#7" "Fix") deepCandidate.path "feature/issue-7-fix") before
      = (.ok (), adopt "issue-7-fix" deepCandidate.path "feature/issue-7-fix" before) := by
    rw [blocking, applyRecoveryWorktreeToHandoff_eq, if_pos hbelongs, hkey]
    rfl
  have hreuse : reuseCandidate directPlaces "/w" (titledIssue "#7" "Fix") .fresh deepCandidate before
      = (.ok (reuseLine deepCandidate "feature/issue-7-fix" none),
        adopt "issue-7-fix" deepCandidate.path "feature/issue-7-fix" before) := by
    simp only [reuseCandidate, Program.bind_eq_ok_iff, Program.ofExcept_eq_ok_iff,
      Program.require_eq_ok_iff, Program.pure_eq_ok_iff, planned_eq_ok_iff]
    exact ⟨_, _, ⟨rfl, rfl⟩, none, _, ⟨hclean, rfl⟩, _, _, ⟨rfl, rfl⟩, (), _, ⟨hbelongs, rfl⟩, (), _,
      hblocking, rfl, rfl⟩
  have hlaunch : ∃ evidence, runLoopApplyLaunchWorkspaceReportWithMode directPlaces "/w"
      (titledIssue "#7" "Fix") deepReport .fresh before = (.ok evidence,
        adopt "issue-7-fix" deepCandidate.path "feature/issue-7-fix" before) := by
    have hselected : (Program.ofExcept (selectLaunchCandidate (titledIssue "#7" "Fix")
        (liveCandidates directPlaces deepReport)) : Launching HandoffError _) before
        = (.ok (some deepCandidate), before) := rfl
    rw [runLoopApplyLaunchWorkspaceReportWithMode, Program.bind_ok hselected]
    exact ⟨_, (Program.bind_ok hreuse).trans rfl⟩
  obtain ⟨evidence, hlaunch⟩ := hlaunch
  have hprepared : prepareWorkspace (.ok "/w") (fun _ => .ok ()) "issue-7-fix"
      = .ok "/w/issue-7-fix" := by decide
  have hdifferent : Paths.ofText "/w/issue-7-fix" ≠ Paths.ofText deepCandidate.path := by
    decide
  exact ⟨before, evidence, _, "/w/issue-7-fix", hbefore, hlaunch, hprepared, hdifferent⟩

end SheaSymphony.LaunchWorkspace

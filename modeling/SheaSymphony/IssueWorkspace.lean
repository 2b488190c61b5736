import SheaSymphony.Delimited
import SheaSymphony.HandoffPlan
import SheaSymphony.Paths

/-!
# Workspaces of an issue

`discover_issue_workspaces_from_parts` of `issue_workspace.rs`: the sessions of an issue, the
paths its workpad tells and the worktrees that seem to be its own are collected under their
paths. What the work of one issue does to the report of another.
-/

namespace SheaSymphony.IssueWorkspace

open MainHandoff (MainIssue branchNameForIssue)
open Sessions (AgentSessionRecord)

inductive WorkspaceMatchStrength where
  | weak | strong
deriving DecidableEq

def WorkspaceMatchStrength.max : WorkspaceMatchStrength → WorkspaceMatchStrength → WorkspaceMatchStrength
  | .weak, .weak => .weak
  | _, _ => .strong

structure WorkspaceEvidence where
  source : String
  detail : String
deriving DecidableEq

structure GitWorktree where
  path : String
  head : Option String
  branch : Option String
deriving DecidableEq

structure IssueWorkspaceCandidate where
  path : String
  branch : Option String
  head : Option String
  strength : WorkspaceMatchStrength
  evidence : List WorkspaceEvidence
deriving DecidableEq

structure IssueWorkspaceReport where
  issueRef : String
  title : String
  branchHints : List String
  candidates : List IssueWorkspaceCandidate
  canonicalIndex : Option Nat
  warnings : List String
deriving DecidableEq

/-! ## What names an issue -/

/-- All digits of a reference, wherever they stand. -/
def issueNumberToken (issueRef : String) : Option String :=
  let number := String.ofList (issueRef.toList.filter Char.isDigit)
  if number = "" then none else some number

def issueSlug (issue : MainIssue) : String :=
  let words := Text.toAsciiLowercase (Text.join "-" ((Text.splitWhitespace issue.title).take 8))
  Text.trimMatches (· == '-')
    (String.ofList (words.toList.filter fun c => c.isAlphanum || c == '-'))

def issueWorkspaceHints (issue : MainIssue) : List String :=
  let numbers := (issueNumberToken issue.identifier).toList
  let slug := issueSlug issue
  let hints := issue.branchName.toList
    ++ issue.linkedPullRequests.filterMap (·.headRefName)
    ++ numbers.flatMap (fun number => ["feature/issue-" ++ number, "issue-" ++ number])
    ++ if slug = "" then [] else numbers.flatMap fun number =>
        ["feature/issue-" ++ number ++ "-" ++ slug, "issue-" ++ number ++ "-" ++ slug]
  hints.dedup.mergeSort fun hint other => decide (hint ≤ other)

def containsIssueMarker (text number : String) : Bool :=
  Delimited.search Char.isAlphanum Char.isAlphanum ("issue-" ++ number).toList 0 none text.toList

def sessionMatchesIssue (session : AgentSessionRecord) (issueRef : String) : Bool :=
  session.issueIdentifier.any fun candidate =>
    issueNumberToken candidate == issueNumberToken issueRef

/-! ## The paths of a workpad -/

def isWorkspacePathHintLine (lowerLine : String) : Bool :=
  Text.contains lowerLine "workspace path:" || Text.contains lowerLine "worktree path:"
    || Text.startsWith (Text.trimStart lowerLine) "- path:"
    || Text.startsWith (Text.trimStart lowerLine) "path:"

def pathTokens (line : String) : List String :=
  ((line.toList.splitOnP fun c => ['\x60', ' ', '\t', ',', ')', '('].contains c).map fun token =>
    Text.trimMatches (fun c => [':', '-', '*'].contains c) (String.ofList token)).filter
      (Text.startsWith · "/")

def workpadWorkspaceHints (description marker : String) : List String :=
  match Text.cut description marker with
  | none => []
  | some (_, behind) =>
      let hinting := (Text.lines (marker ++ behind)).filter fun line =>
        !Text.startsWith (Text.trimStart line) "<!--"
          && isWorkspacePathHintLine (Text.toAsciiLowercase line)
      (Collected.collect Paths.ofText (fun path _ => path) (hinting.flatMap pathTokens)).mergeSort
        fun path other => Paths.le (Paths.ofText path) (Paths.ofText other)

/-! ## Candidates -/

def IssueWorkspaceCandidate.key (candidate : IssueWorkspaceCandidate) : Paths.Path :=
  Paths.ofText candidate.path

/-- What a further mention adds to a candidate. -/
def IssueWorkspaceCandidate.merge (candidate mention : IssueWorkspaceCandidate) :
    IssueWorkspaceCandidate where
  path := candidate.path
  branch := candidate.branch <|> mention.branch
  head := candidate.head <|> mention.head
  strength := candidate.strength.max mention.strength
  evidence := candidate.evidence
    ++ mention.evidence.filter fun evidence => !candidate.evidence.contains evidence

/-- The worktree at a path; the last of the list where several are there. -/
def worktreeByPath (worktrees : List GitWorktree) (path : String) : Option GitWorktree :=
  worktrees.reverse.find? fun worktree => decide (Paths.ofText worktree.path = Paths.ofText path)

def sessionMentions (issue : MainIssue) (sessions : List AgentSessionRecord)
    (worktrees : List GitWorktree) : List IssueWorkspaceCandidate :=
  (sessions.filter fun session => sessionMatchesIssue session issue.identifier
      && decide (session.sessionSource ≠ some "manual-claim")).map fun session =>
    let git := worktreeByPath worktrees session.worktree
    { path := session.worktree
      branch := session.branch <|> git.bind (·.branch)
      head := git.bind (·.head)
      strength := .strong
      evidence := [{ source := "session_registry"
                     detail := session.sessionName ++ " lane=" ++ session.lane ++ " status="
                       ++ session.status.asStr }] }

def workpadMentions (issue : MainIssue) (worktrees : List GitWorktree) (marker : String) :
    List IssueWorkspaceCandidate :=
  issue.description.toList.flatMap fun description =>
    let strong := Text.contains description "shea-symphony-workspace-adoption"
      || Text.contains description "shea-symphony-workspace-ensure"
      || Text.contains description "Workspace adoption"
    (workpadWorkspaceHints description marker).map fun hint =>
      let git := worktreeByPath worktrees hint
      { path := hint
        branch := git.bind (·.branch)
        head := git.bind (·.head)
        strength := if strong then .strong else .weak
        evidence := [{ source := "workpad", detail := "workspace path mentioned in issue workpad" }] }

/-- The branch is one that was put down for the issue. -/
def GitWorktree.hinted (issue : MainIssue) (worktree : GitWorktree) : List String :=
  (issueWorkspaceHints issue).filter fun hint =>
    hint != "" && worktree.branch.getD "" == hint

def GitWorktree.named (issue : MainIssue) (worktree : GitWorktree) : List String :=
  (issueNumberToken issue.identifier).toList.filter fun token =>
    containsIssueMarker (worktree.branch.getD "") token || containsIssueMarker worktree.path token

def GitWorktree.slugged (issue : MainIssue) (worktree : GitWorktree) : Bool :=
  let slug := issueSlug issue
  slug != "" && (Text.contains (worktree.branch.getD "") slug || Text.contains worktree.path slug)

def worktreeMentions (issue : MainIssue) (worktree : GitWorktree) : List IssueWorkspaceCandidate :=
  let sure := (worktree.hinted issue).map (fun hint => "branch matches hint \x60" ++ hint ++ "\x60")
    ++ (worktree.named issue).map fun token => "branch or path names issue \x60" ++ token ++ "\x60"
  let likely := if worktree.slugged issue then
      ["branch or path contains issue slug \x60" ++ issueSlug issue ++ "\x60"] else []
  (sure ++ likely).map fun detail =>
    { path := worktree.path
      branch := worktree.branch
      head := worktree.head
      strength := if sure.isEmpty then .weak else .strong
      evidence := [{ source := "git_worktree", detail := detail }] }

def workspaceMentions (issue : MainIssue) (sessions : List AgentSessionRecord)
    (worktrees : List GitWorktree) (marker : String) : List IssueWorkspaceCandidate :=
  sessionMentions issue sessions worktrees ++ workpadMentions issue worktrees marker
    ++ worktrees.flatMap (worktreeMentions issue)

/-- Strong candidates first, then by path. -/
def IssueWorkspaceCandidate.le (candidate other : IssueWorkspaceCandidate) : Bool :=
  if candidate.strength = other.strength then Paths.le candidate.key other.key
  else candidate.strength == .strong

def issueWorkspaceReport (issue : MainIssue) (mentions : List IssueWorkspaceCandidate) :
    IssueWorkspaceReport :=
  let candidates := (Collected.collect IssueWorkspaceCandidate.key IssueWorkspaceCandidate.merge
    mentions).mergeSort IssueWorkspaceCandidate.le
  let strongCount := candidates.countP fun candidate => candidate.strength == .strong
  { issueRef := issue.identifier
    title := issue.title
    branchHints := issueWorkspaceHints issue
    candidates := candidates
    canonicalIndex :=
      if strongCount = 1 then candidates.findIdx? fun candidate => candidate.strength == .strong
      else if strongCount = 0 ∧ candidates.length = 1 then some 0
      else none
    warnings :=
      if 1 < strongCount then
        ["multiple strong workspace candidates for " ++ issue.identifier
          ++ "; operator choice is required"]
      else [] }

def discoverIssueWorkspacesFromParts (issue : MainIssue) (sessions : List AgentSessionRecord)
    (worktrees : List GitWorktree) (marker : String) : IssueWorkspaceReport :=
  issueWorkspaceReport issue (workspaceMentions issue sessions worktrees marker)

/-! ## What is listed -/

theorem containsIssueMarker_iff {number : String} (h : 'i' ∉ number.toList) (text : String) :
    containsIssueMarker text number = true ↔
      Delimited.Alone Char.isAlphanum Char.isAlphanum ("issue-" ++ number).toList none
        text.toList := by
  have hmarker : ("issue-" ++ number).toList = 'i' :: ("ssue-".toList ++ number.toList) := by
    rw [String.toList_append]
    rfl
  rw [containsIssueMarker, hmarker]
  refine Delimited.search_iff ?_ _
  rw [List.mem_append]
  exact not_or.mpr ⟨by decide, h⟩

/-- The report has a candidate at the path. -/
def IssueWorkspaceReport.Lists (report : IssueWorkspaceReport) (path : Paths.Path) : Prop :=
  ∃ candidate ∈ report.candidates, candidate.key = path

theorem lists_report_iff {issue : MainIssue} {mentions : List IssueWorkspaceCandidate}
    {path : Paths.Path} :
    (issueWorkspaceReport issue mentions).Lists path
      ↔ path ∈ mentions.map IssueWorkspaceCandidate.key := by
  have hkeep : ∀ candidate mention : IssueWorkspaceCandidate,
      (candidate.merge mention).key = candidate.key := fun _ _ => rfl
  rw [← Collected.mem_map_key_collect hkeep, List.mem_map]
  constructor
  · rintro ⟨candidate, hmem, hkey⟩
    exact ⟨candidate, List.mem_mergeSort.mp hmem, hkey⟩
  · rintro ⟨candidate, hmem, hkey⟩
    exact ⟨candidate, List.mem_mergeSort.mpr hmem, hkey⟩

/-- The branch or the path of the worktree looks like one of the issue: the branch is a hint,
the number stands alone behind `issue-`, or the slug of the title is in one of them. -/
def GitWorktree.LooksOf (issue : MainIssue) (worktree : GitWorktree) : Prop :=
  (∃ hint ∈ issueWorkspaceHints issue, hint ≠ "" ∧ worktree.branch.getD "" = hint)
    ∨ (∃ token, issueNumberToken issue.identifier = some token
        ∧ (containsIssueMarker (worktree.branch.getD "") token = true
          ∨ containsIssueMarker worktree.path token = true))
    ∨ (issueSlug issue ≠ "" ∧ (Text.contains (worktree.branch.getD "") (issueSlug issue) = true
        ∨ Text.contains worktree.path (issueSlug issue) = true))

/-- Something names the path as a workspace of the issue. -/
def NamesPath (issue : MainIssue) (sessions : List AgentSessionRecord)
    (worktrees : List GitWorktree) (marker : String) (path : Paths.Path) : Prop :=
  (∃ session ∈ sessions, sessionMatchesIssue session issue.identifier = true
      ∧ session.sessionSource ≠ some "manual-claim" ∧ Paths.ofText session.worktree = path)
    ∨ (∃ description, issue.description = some description
        ∧ ∃ hint ∈ workpadWorkspaceHints description marker, Paths.ofText hint = path)
    ∨ ∃ worktree ∈ worktrees, worktree.LooksOf issue ∧ Paths.ofText worktree.path = path

section
variable {issue : MainIssue} {sessions : List AgentSessionRecord} {worktrees : List GitWorktree}
  {marker : String} {path : Paths.Path}

theorem looksOf_iff {worktree : GitWorktree} :
    worktree.LooksOf issue ↔
      worktree.hinted issue ≠ [] ∨ worktree.named issue ≠ [] ∨ worktree.slugged issue = true := by
  refine or_congr ?_ (or_congr ?_ ?_)
  · simp only [GitWorktree.hinted, ne_eq, List.filter_eq_nil_iff, not_forall, Bool.and_eq_true,
      bne_iff_ne, beq_iff_eq, exists_prop, not_not]
  · simp only [GitWorktree.named, ne_eq, List.filter_eq_nil_iff, not_forall, Option.mem_toList,
      Bool.or_eq_true, exists_prop, not_not]
  · simp only [GitWorktree.slugged, Bool.and_eq_true, Bool.or_eq_true, bne_iff_ne]

theorem mem_worktreeMentions_iff {worktree : GitWorktree} :
    path ∈ (worktreeMentions issue worktree).map IssueWorkspaceCandidate.key
      ↔ worktree.LooksOf issue ∧ Paths.ofText worktree.path = path := by
  have hkeys : ∀ mention ∈ worktreeMentions issue worktree,
      mention.key = Paths.ofText worktree.path := by
    intro mention hmem
    obtain ⟨detail, -, rfl⟩ := List.mem_map.mp hmem
    rfl
  have hsome : worktreeMentions issue worktree ≠ [] ↔ worktree.LooksOf issue := by
    rw [looksOf_iff, worktreeMentions]
    cases hslug : worktree.slugged issue <;> simp [List.append_eq_nil_iff, or_iff_not_imp_left]
  constructor
  · intro hmem
    obtain ⟨mention, hmention, rfl⟩ := List.mem_map.mp hmem
    exact ⟨hsome.mp (List.ne_nil_of_mem hmention), (hkeys mention hmention).symm⟩
  · rintro ⟨hlooks, rfl⟩
    obtain ⟨mention, hmention⟩ := List.exists_mem_of_ne_nil _ (hsome.mpr hlooks)
    exact List.mem_map.mpr ⟨mention, hmention, hkeys mention hmention⟩

theorem lists_iff :
    (discoverIssueWorkspacesFromParts issue sessions worktrees marker).Lists path
      ↔ NamesPath issue sessions worktrees marker path := by
  rw [discoverIssueWorkspacesFromParts, lists_report_iff, workspaceMentions, List.append_assoc,
    List.map_append, List.map_append, List.mem_append, List.mem_append]
  refine or_congr ?_ (or_congr ?_ ?_)
  · rw [sessionMentions, List.map_map, List.mem_map]
    simp only [List.mem_filter, Bool.and_eq_true, decide_eq_true_eq, and_assoc]
    rfl
  · rw [workpadMentions, List.map_flatMap, List.mem_flatMap]
    simp only [Option.mem_toList, List.map_map, List.mem_map]
    rfl
  · rw [List.map_flatMap, List.mem_flatMap]
    simp only [mem_worktreeMentions_iff]

end

/-! ## The work of another issue -/

def isSessionOf (other : MainIssue) (session : AgentSessionRecord) : Bool :=
  session.issueIdentifier == some other.identifier

/-- The worktree is on the branch that was made for the issue. -/
def isWorktreeOf (case : Text.UnicodeCase) (other : MainIssue) (worktree : GitWorktree) : Bool :=
  worktree.branch == some (branchNameForIssue case other.identifier other.title)

/-- The report has no candidate for the work of the other issue, and would be the same without
that work. -/
structure Undisturbed (case : Text.UnicodeCase) (issue other : MainIssue)
    (sessions : List AgentSessionRecord) (worktrees : List GitWorktree) (marker : String) : Prop where
  noSession : ∀ session ∈ sessions, isSessionOf other session = true →
    ¬ (discoverIssueWorkspacesFromParts issue sessions worktrees marker).Lists
      (Paths.ofText session.worktree)
  noWorktree : ∀ worktree ∈ worktrees, isWorktreeOf case other worktree = true →
    ¬ (discoverIssueWorkspacesFromParts issue sessions worktrees marker).Lists
      (Paths.ofText worktree.path)
  report : discoverIssueWorkspacesFromParts issue (sessions.filter (!isSessionOf other ·))
      (worktrees.filter (!isWorktreeOf case other ·)) marker
    = discoverIssueWorkspacesFromParts issue sessions worktrees marker

section
variable {issue : MainIssue} {sessions : List AgentSessionRecord} {worktrees : List GitWorktree}
  {marker : String}

theorem worktreeByPath_filter {keep : GitWorktree → Bool} {path : String}
    (h : ∀ worktree ∈ worktrees, Paths.ofText worktree.path = Paths.ofText path →
      keep worktree = true) :
    worktreeByPath (worktrees.filter keep) path = worktreeByPath worktrees path := by
  rw [worktreeByPath, worktreeByPath, ← List.filter_reverse, List.find?_filter,
    ← List.head?_filter, ← List.head?_filter]
  refine congrArg List.head? (List.filter_congr fun worktree hmem => ?_)
  by_cases hpath : Paths.ofText worktree.path = Paths.ofText path
  · simp [h worktree (List.mem_reverse.mp hmem) hpath]
  · simp [hpath]

theorem flatMap_filter_of_nil {α β : Type} {keep : α → Bool} {f : α → List β} {l : List α}
    (h : ∀ a ∈ l, keep a = false → f a = []) : (l.filter keep).flatMap f = l.flatMap f := by
  induction l with
  | nil => rfl
  | cons a l ih =>
      obtain ⟨ha, hl⟩ := List.forall_mem_cons.mp h
      cases hkeep : keep a with
      | true =>
          rw [List.filter_cons_of_pos hkeep, List.flatMap_cons, List.flatMap_cons, ih hl]
      | false =>
          rw [List.filter_cons_of_neg (by simp [hkeep]), List.flatMap_cons, ha hkeep, ih hl,
            List.nil_append]

theorem workspaceMentions_filter {keepSession : AgentSessionRecord → Bool}
    {keep : GitWorktree → Bool}
    (hsessions : ∀ session ∈ sessions, keepSession session = false →
      ¬ NamesPath issue sessions worktrees marker (Paths.ofText session.worktree))
    (hworktrees : ∀ worktree ∈ worktrees, keep worktree = false →
      ¬ NamesPath issue sessions worktrees marker (Paths.ofText worktree.path)) :
    workspaceMentions issue (sessions.filter keepSession) (worktrees.filter keep) marker
      = workspaceMentions issue sessions worktrees marker := by
  have hfound : ∀ path, NamesPath issue sessions worktrees marker (Paths.ofText path) →
      worktreeByPath (worktrees.filter keep) path = worktreeByPath worktrees path := by
    intro path hnames
    refine worktreeByPath_filter fun worktree hmem hpath => ?_
    by_contra hdropped
    exact hworktrees worktree hmem (Bool.eq_false_iff.mpr hdropped) (hpath.symm ▸ hnames)
  have hsession : sessionMentions issue (sessions.filter keepSession) (worktrees.filter keep)
      = sessionMentions issue sessions worktrees := by
    unfold sessionMentions
    rw [List.filter_filter, List.filter_congr (q := fun session =>
      sessionMatchesIssue session issue.identifier
        && decide (session.sessionSource ≠ some "manual-claim"))]
    · refine List.map_congr_left fun session hmem => ?_
      obtain ⟨hmem, hmatch⟩ := List.mem_filter.mp hmem
      rw [Bool.and_eq_true, decide_eq_true_eq] at hmatch
      rw [hfound session.worktree (Or.inl ⟨session, hmem, hmatch.1, hmatch.2, rfl⟩)]
    · intro session hmem
      cases hkeep : keepSession session with
      | true => exact Bool.and_true _
      | false =>
          rw [Bool.and_false]
          refine (Bool.eq_false_iff.mpr fun hmatch => ?_).symm
          rw [Bool.and_eq_true, decide_eq_true_eq] at hmatch
          exact hsessions session hmem hkeep (Or.inl ⟨session, hmem, hmatch.1, hmatch.2, rfl⟩)
  have hworkpad : workpadMentions issue (worktrees.filter keep) marker
      = workpadMentions issue worktrees marker := by
    unfold workpadMentions
    cases hdescription : issue.description with
    | none => rfl
    | some description =>
        rw [Option.toList_some, List.flatMap_singleton, List.flatMap_singleton]
        refine List.map_congr_left fun hint hmem => ?_
        rw [hfound hint (Or.inr (Or.inl ⟨description, hdescription, hint, hmem, rfl⟩))]
  have hworktree : (worktrees.filter keep).flatMap (worktreeMentions issue)
      = worktrees.flatMap (worktreeMentions issue) := by
    refine flatMap_filter_of_nil fun worktree hmem hkeep => ?_
    refine List.eq_nil_iff_forall_not_mem.mpr fun mention hmention => ?_
    obtain ⟨hlooks, -⟩ := mem_worktreeMentions_iff.mp
      (List.mem_map_of_mem (f := IssueWorkspaceCandidate.key) hmention)
    exact hworktrees worktree hmem hkeep (Or.inr (Or.inr ⟨worktree, hmem, hlooks, rfl⟩))
  rw [workspaceMentions, workspaceMentions, hsession, hworkpad, hworktree]

/-- The work of the other issue does not matter exactly where nothing names its paths: no
session with the same digits in its reference that is not a manual claim, no workpad, and no
worktree whose branch or path looks like one of the issue. -/
theorem undisturbed_iff (case : Text.UnicodeCase) (issue other : MainIssue)
    (sessions : List AgentSessionRecord) (worktrees : List GitWorktree) (marker : String) :
    Undisturbed case issue other sessions worktrees marker ↔
      (∀ session ∈ sessions, isSessionOf other session = true →
        ¬ NamesPath issue sessions worktrees marker (Paths.ofText session.worktree))
      ∧ ∀ worktree ∈ worktrees, isWorktreeOf case other worktree = true →
        ¬ NamesPath issue sessions worktrees marker (Paths.ofText worktree.path) := by
  constructor
  · intro h
    exact ⟨fun session hmem hof hnames => h.noSession session hmem hof (lists_iff.mpr hnames),
      fun worktree hmem hof hnames => h.noWorktree worktree hmem hof (lists_iff.mpr hnames)⟩
  · rintro ⟨hsessions, hworktrees⟩
    refine ⟨fun session hmem hof hlists => hsessions session hmem hof (lists_iff.mp hlists),
      fun worktree hmem hof hlists => hworktrees worktree hmem hof (lists_iff.mp hlists), ?_⟩
    refine congrArg (issueWorkspaceReport issue) (workspaceMentions_filter ?_ ?_)
    · exact fun session hmem hkeep => hsessions session hmem (by simpa using hkeep)
    · exact fun worktree hmem hkeep => hworktrees worktree hmem (by simpa using hkeep)

end

/-! ## A short title -/

def titledIssue (identifier title : String) : MainIssue where
  id := "I" ++ identifier
  identifier := identifier
  title := title
  description := none
  state := "Todo"
  priority := none
  blockedBy := []
  projectFields := fun _ => none
  createdAt := none
  branchName := none
  linkedPullRequests := []

def loginWorktree : GitWorktree where
  path := "/work/issue-8-fix-login"
  head := some "8ab12f0"
  branch := some "feature/issue-8-fix-login"

/-- The worktree of `#8` is listed for `#7`, whose title is one word of the other title. -/
theorem login_worktree_listed :
    ¬ Undisturbed .ascii (titledIssue "#7" "Fix") (titledIssue "#8" "Fix login") [] [loginWorktree]
      "<!-- shea-symphony-workpad -->" := by
  intro h
  have hlooks : loginWorktree.LooksOf (titledIssue "#7" "Fix") :=
    Or.inr (Or.inr ⟨by decide, Or.inl (by decide)⟩)
  exact h.noWorktree loginWorktree List.mem_cons_self (by decide)
    (lists_iff.mpr (Or.inr (Or.inr ⟨loginWorktree, List.mem_cons_self, hlooks, rfl⟩)))

end SheaSymphony.IssueWorkspace

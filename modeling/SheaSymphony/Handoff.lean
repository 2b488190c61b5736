import SheaSymphony.Lines
import SheaSymphony.Model

/-!
# Branch targets

`handoff.rs` decides from an issue's native metadata which branch its pull
request is made against: a subissue targets the integration branch of its
parent, a parent issue owns such a branch, any other issue targets the default
one. It reads the parent and the subissues off one text field each, where
`model.rs`, which the review and the merge lane ask, also reads the linked
values of the tracker. The two agree on an issue exactly when its metadata is
consistent (`classifiedAlike_iff`).
-/

namespace SheaSymphony.Handoff

open Model Text

def titleSlugLimit : Nat := 64

inductive BranchTargetRole where
  | singleIssue | subissue | parentIssue
deriving DecidableEq

structure BranchTargetEvidence where
  role : BranchTargetRole
  parentIssue : Option String
  parentTitle : Option String
  parentIntegrationBranch : Option String
  pullRequestBaseBranch : String
  parentFinalBaseBranch : Option String
deriving DecidableEq

/-! ## Slugs -/

def digitsOnly (value : String) : Option String :=
  if value.toList.all Char.isDigit && value != "" then some value else none

/-- The first run of digits. -/
def issueNumber (issueIdentifier : String) : Option String :=
  ((issueIdentifier.toList.splitOnP fun c => !c.isDigit).map String.ofList).findSome? digitsOnly

/-- Letters and digits are kept, every other run becomes one dash, and the slug
stops growing at its limit. -/
def titleSlugFrom (slug : List Char) (previousWasDash : Bool) : List Char → List Char
  | [] => slug
  | c :: rest =>
      let (slug, previousWasDash) :=
        if c.isAlphanum then (slug ++ [c], false)
        else if !previousWasDash && !slug.isEmpty then (slug ++ ['-'], true)
        else (slug, previousWasDash)
      if titleSlugLimit ≤ slug.length then slug else titleSlugFrom slug previousWasDash rest

def titleSlug (case : Text.UnicodeCase) (title : String) : String :=
  let lower := title.toList.flatMap fun c => (case.toLowercase (String.singleton c)).toList
  let slug := Text.trimMatches (· == '-') (String.ofList (titleSlugFrom [] false lower))
  if slug = "" then "untitled" else slug

def issueSlug (case : Text.UnicodeCase) (issueIdentifier : String) : String :=
  match issueNumber issueIdentifier with
  | some number => "issue-" ++ number
  | none => titleSlug case issueIdentifier

def parentIntegrationBranchName (case : Text.UnicodeCase) (parentIssue : String)
    (parentTitle : Option String) : String :=
  let slug := ((parentTitle.map (titleSlug case)).filter fun slug => slug != "untitled").getD
    "parent-integration"
  "integration/" ++ issueSlug case parentIssue ++ "-" ++ slug

/-! ## Reading the metadata -/

def projectFieldString (issue : TrackerIssue) (name : String) : Option String :=
  (((issue.projectFields name).bind Json.asStr).map Text.trim).filter fun value => value != ""

def nativeParentIssue (issue : TrackerIssue) : Option String :=
  (projectFieldString issue "Native Parent Issue").filter fun value => !Text.isBlank value

def nativeParentTitle (issue : TrackerIssue) : Option String :=
  (projectFieldString issue "Native Parent Title").filter fun value => !Text.isBlank value

def hasNativeSubissues (issue : TrackerIssue) : Bool :=
  (projectFieldString issue "Native Subissues").any fun value => !Text.isBlank value

def isTokenSeparator (c : Char) : Bool :=
  Text.isWhitespace c || c == '\x60' || c == '"' || c == '\''

/-- The first token of a text that names an integration branch. -/
def parentIntegrationBranchFromText (text : String) : Option String :=
  (((text.toList.splitOnP isTokenSeparator).map String.ofList).find? fun token =>
      Text.startsWith token "integration/issue-").map
    (Text.trimMatches fun c => [',', '.', ')', ']', '}'].contains c)

def explicitParentIntegrationBranch (issue : TrackerIssue) : Option String :=
  projectFieldString issue "Parent Integration Branch"
    <|> projectFieldString issue "parent_integration_branch"
    <|> parentIntegrationBranchFromText (issue.description.getD "")

def branchTargetEvidence (case : Text.UnicodeCase) (issue : TrackerIssue)
    (defaultBaseBranch : String) : BranchTargetEvidence :=
  match nativeParentIssue issue with
  | some parentIssue =>
      let parentTitle := nativeParentTitle issue
      let parentIntegrationBranch := (explicitParentIntegrationBranch issue).getD
        (parentIntegrationBranchName case parentIssue parentTitle)
      { role := .subissue
        parentIssue := some parentIssue
        parentTitle
        parentIntegrationBranch := some parentIntegrationBranch
        pullRequestBaseBranch := parentIntegrationBranch
        parentFinalBaseBranch := some defaultBaseBranch }
  | none =>
      if hasNativeSubissues issue then
        { role := .parentIssue
          parentIssue := some issue.identifier
          parentTitle := some issue.title
          parentIntegrationBranch := some ((explicitParentIntegrationBranch issue).getD
            (parentIntegrationBranchName case issue.identifier (some issue.title)))
          pullRequestBaseBranch := defaultBaseBranch
          parentFinalBaseBranch := some defaultBaseBranch }
      else
        { role := .singleIssue
          parentIssue := none
          parentTitle := none
          parentIntegrationBranch := none
          pullRequestBaseBranch := defaultBaseBranch
          parentFinalBaseBranch := none }

/-! ## Consistent metadata -/

def IsText (issue : TrackerIssue) (name : String) : Prop :=
  ∃ text, issue.projectFields name = some (.str text)

def HasText (issue : TrackerIssue) (name : String) : Prop :=
  ∃ text, issue.projectFields name = some (.str text) ∧ Text.isBlank text = false

/-- The tracker's parent value names an issue. -/
def LinksParent (issue : TrackerIssue) : Prop :=
  ∃ value, issue.projectFields "GitHub Native Parent" = some value
    ∧ (issueRefFromValue value).isSome = true

/-- A linked subissue or a subissue with its state is named. -/
def LinksSubissues (issue : TrackerIssue) : Prop :=
  (∃ values, issue.projectFields "GitHub Native Subissues" = some (.arr values)
      ∧ ∃ value ∈ values, (issueRefFromValue value).isSome = true)
    ∨ ∃ states, issue.projectFields "Native Subissue Project States" = some (.str states)
      ∧ parseIssueStatePairs states ≠ []

/-- The list of subissues has an entry that is not blank. -/
def ListsSubissues (issue : TrackerIssue) : Prop :=
  ∃ subissues, issue.projectFields "Native Subissues" = some (.str subissues)
    ∧ ∃ identifier ∈ Text.splitChar ',' subissues, Text.isBlank identifier = false

/-- A parent that is linked or mentioned is also written out, and so are, on an
issue without a parent, subissues that are linked; and what is written out as
the list of its subissues names one. -/
structure ConsistentTopology (issue : TrackerIssue) : Prop where
  parent : LinksParent issue ∨ IsText issue "Native Parent Issue" →
    HasText issue "Native Parent Issue"
  linked : ¬ HasText issue "Native Parent Issue" → LinksSubissues issue →
    HasText issue "Native Subissues"
  listed : ¬ HasText issue "Native Parent Issue" → HasText issue "Native Subissues" →
    LinksSubissues issue ∨ ListsSubissues issue

/-- The review and the merge lane take an issue for what the handoff takes it. -/
structure ClassifiedAlike (case : Text.UnicodeCase) (issue : TrackerIssue)
    (defaultBaseBranch : String) : Prop where
  subissue : isNativeSubissue issue = true ↔
    (branchTargetEvidence case issue defaultBaseBranch).role = .subissue
  parentIssue : isNativeSubissue issue = false ∧ nativeSubissueStatuses issue ≠ [] ↔
    (branchTargetEvidence case issue defaultBaseBranch).role = .parentIssue

/-! ## What either side reads -/

theorem bind_asStr_eq_some {field : Option Json} {text : String} :
    field.bind Json.asStr = some text ↔ field = some (.str text) := by
  cases field with
  | none => simp
  | some value => cases value <;> simp [Json.asStr]

theorem filterMap_items_ne_nil {α : Type} {field : Option Json} {read : Json → Option α} :
    ((field.bind Json.asArray).getD []).filterMap read ≠ [] ↔
      ∃ values, field = some (.arr values) ∧ ∃ value ∈ values, (read value).isSome = true := by
  cases field with
  | none => simp
  | some value => cases value <;> simp [Json.asArray, Option.isSome_iff_ne_none]

theorem elim_text_ne_nil {α : Type} {field : Option Json} {read : String → List α} :
    (field.bind Json.asStr).elim [] read ≠ [] ↔
      ∃ text, field = some (.str text) ∧ read text ≠ [] := by
  cases field with
  | none => simp
  | some value => cases value <;> simp [Json.asStr]

variable {issue : TrackerIssue}

theorem projectFieldString_visible_iff {name : String} :
    (∃ value, projectFieldString issue name = some value ∧ Text.isBlank value = false)
      ↔ HasText issue name := by
  constructor
  · rintro ⟨value, hvalue, hblank⟩
    obtain ⟨hread, -⟩ := Option.filter_eq_some_iff.mp hvalue
    obtain ⟨text, htext, rfl⟩ := Option.map_eq_some_iff.mp hread
    exact ⟨text, bind_asStr_eq_some.mp htext, by simpa [isBlank] using hblank⟩
  · rintro ⟨text, hfield, hblank⟩
    refine ⟨trim text, ?_, by simpa [isBlank] using hblank⟩
    have hne : trim text ≠ "" := by
      intro hempty
      rw [isBlank, hempty] at hblank
      cases hblank
    simp [projectFieldString, hfield, Json.asStr, hne]

theorem nativeParentIssue_isSome_iff :
    (nativeParentIssue issue).isSome = true ↔ HasText issue "Native Parent Issue" := by
  rw [← projectFieldString_visible_iff, Option.isSome_iff_exists]
  simp [nativeParentIssue, Option.filter_eq_some_iff]

theorem hasNativeSubissues_iff :
    hasNativeSubissues issue = true ↔ HasText issue "Native Subissues" := by
  rw [← projectFieldString_visible_iff]
  simp [hasNativeSubissues, Option.any_eq_true]

theorem role_eq_subissue_iff {case : Text.UnicodeCase} {base : String} :
    (branchTargetEvidence case issue base).role = .subissue ↔
      HasText issue "Native Parent Issue" := by
  rw [← nativeParentIssue_isSome_iff, branchTargetEvidence]
  cases nativeParentIssue issue with
  | some parent => simp
  | none => cases hasNativeSubissues issue <;> simp

theorem role_eq_parentIssue_iff {case : Text.UnicodeCase} {base : String} :
    (branchTargetEvidence case issue base).role = .parentIssue ↔
      ¬ HasText issue "Native Parent Issue" ∧ HasText issue "Native Subissues" := by
  rw [← nativeParentIssue_isSome_iff, ← hasNativeSubissues_iff, branchTargetEvidence]
  cases nativeParentIssue issue with
  | some parent => simp
  | none => cases hasNativeSubissues issue <;> simp

theorem nativeParentIdentifier_eq (issue : TrackerIssue) :
    nativeParentIdentifier issue =
      ((issue.projectFields "GitHub Native Parent").bind issueRefFromValue
        <|> (issue.projectFields "Native Parent Issue").bind Json.asStr) := by
  have href : ∀ value : Json,
      (((value.get "identifier").bind Json.asStr) <|> issueRefFromValue value)
        = issueRefFromValue value := by
    intro value
    rw [issueRefFromValue]
    cases (value.get "identifier").bind Json.asStr <;> rfl
  rw [nativeParentIdentifier]
  simp only [href]

theorem isNativeSubissue_iff :
    isNativeSubissue issue = true ↔ LinksParent issue ∨ IsText issue "Native Parent Issue" := by
  have hlinks : ((issue.projectFields "GitHub Native Parent").bind issueRefFromValue).isSome = true
      ↔ LinksParent issue := by
    simp [LinksParent, Option.isSome_iff_exists, Option.bind_eq_some_iff, exists_comm]
  have htext : ((issue.projectFields "Native Parent Issue").bind Json.asStr).isSome = true
      ↔ IsText issue "Native Parent Issue" := by
    rw [Option.isSome_iff_exists]
    constructor
    · rintro ⟨text, htext⟩
      exact ⟨text, bind_asStr_eq_some.mp htext⟩
    · rintro ⟨text, hfield⟩
      exact ⟨text, bind_asStr_eq_some.mpr hfield⟩
  rw [isNativeSubissue, nativeParentIdentifier_eq, ← hlinks, ← htext]
  cases (issue.projectFields "GitHub Native Parent").bind issueRefFromValue <;> simp

theorem pushNativeSubissueStatus_ne_nil (statuses : List NativeSubissueStatus)
    (candidate : NativeSubissueStatus) : pushNativeSubissueStatus statuses candidate ≠ [] := by
  cases statuses with
  | nil => exact List.cons_ne_nil _ _
  | cons status rest =>
      rw [pushNativeSubissueStatus]
      split <;> exact List.cons_ne_nil _ _

theorem foldl_push_eq_nil {mentions : List NativeSubissueStatus} :
    ∀ {statuses : List NativeSubissueStatus},
      mentions.foldl pushNativeSubissueStatus statuses = [] ↔ statuses = [] ∧ mentions = [] := by
  induction mentions with
  | nil => simp
  | cons mention mentions ih =>
      intro statuses
      rw [List.foldl_cons, ih]
      simp [pushNativeSubissueStatus_ne_nil]

theorem nativeSubissueStatuses_ne_nil_iff :
    nativeSubissueStatuses issue ≠ [] ↔ LinksSubissues issue ∨ ListsSubissues issue := by
  have hlisted : ∀ subissues : String,
      ((splitChar ',' subissues).map trim).filter (fun value => value != "") ≠ []
        ↔ ∃ identifier ∈ splitChar ',' subissues, isBlank identifier = false := by
    intro subissues
    simp [List.filter_eq_nil_iff, isBlank]
  have helim : ∀ field : Option String, ((field.elim [] (splitChar ',')).map trim).filter
      (fun value => value != "") = field.elim [] fun subissues =>
        ((splitChar ',' subissues).map trim).filter fun value => value != "" := by
    intro field
    cases field <;> rfl
  rw [nativeSubissueStatuses, Ne, foldl_push_eq_nil, nativeSubissueMentions, LinksSubissues,
    ListsSubissues]
  simp only [true_and, List.append_eq_nil_iff, List.map_eq_nil_iff, not_and_or]
  rw [helim, ← Ne, ← Ne, ← Ne, filterMap_items_ne_nil, elim_text_ne_nil, elim_text_ne_nil]
  simp only [Option.isSome_map, hlisted]

theorem hasText_of_listsSubissues (h : ListsSubissues issue) :
    HasText issue "Native Subissues" := by
  obtain ⟨subissues, hfield, identifier, hmem, hblank⟩ := h
  refine ⟨subissues, hfield, ?_⟩
  obtain ⟨piece, hpiece, rfl⟩ := List.mem_map.mp hmem
  obtain ⟨c, hc, hvisible⟩ := isBlank_eq_false_iff.mp hblank
  rw [String.toList_ofList] at hc
  exact isBlank_eq_false_iff.mpr ⟨c, (mem_of_mem_splitOnP hpiece hc).1, hvisible⟩

/-- The two sides classify an issue alike exactly when its metadata is
consistent. -/
theorem classifiedAlike_iff (case : Text.UnicodeCase) (issue : TrackerIssue)
    (defaultBaseBranch : String) :
    ClassifiedAlike case issue defaultBaseBranch ↔ ConsistentTopology issue := by
  have hmentions : HasText issue "Native Parent Issue" → IsText issue "Native Parent Issue" := by
    rintro ⟨text, hfield, -⟩
    exact ⟨text, hfield⟩
  have hlists := @hasText_of_listsSubissues issue
  have hsubissue := @isNativeSubissue_iff issue
  have hstatuses := @nativeSubissueStatuses_ne_nil_iff issue
  constructor
  · rintro ⟨hchild, hparent⟩
    rw [role_eq_subissue_iff, hsubissue] at hchild
    rw [role_eq_parentIssue_iff, ← Bool.not_eq_true, hsubissue, hstatuses, hchild] at hparent
    constructor
    · exact hchild.mp
    · intro hsingle hlinks
      exact (hparent.mp ⟨hsingle, Or.inl hlinks⟩).2
    · intro hsingle hshown
      exact (hparent.mpr ⟨hsingle, hshown⟩).2
  · rintro ⟨hparent, hlinked, hlisted⟩
    have hchild : LinksParent issue ∨ IsText issue "Native Parent Issue" ↔
        HasText issue "Native Parent Issue" := ⟨hparent, fun h => Or.inr (hmentions h)⟩
    constructor
    · rw [role_eq_subissue_iff, hsubissue, hchild]
    · rw [role_eq_parentIssue_iff, ← Bool.not_eq_true, hsubissue, hstatuses, hchild]
      refine and_congr_right fun hsingle => ⟨?_, hlisted hsingle⟩
      rintro (hlinks | hlist)
      · exact hlinked hsingle hlinks
      · exact hlists hlist

/-- A subissue whose parent is linked and not written out. -/
def linkedChild : TrackerIssue where
  id := "I_272"
  identifier := "#272"
  title := "Linked child"
  description := none
  state := "Agent Review"
  priority := none
  blockedBy := []
  projectFields name :=
    if name = "GitHub Native Parent" then
      some (.obj [("identifier", .str "#243"), ("state", .str "OPEN")])
    else none
  createdAt := none

/-- Its review goes to the merge lane, its branch targets the default one. -/
theorem linkedChild_divides :
    isNativeSubissue linkedChild = true
      ∧ (branchTargetEvidence .ascii linkedChild "main").role = .singleIssue
      ∧ (branchTargetEvidence .ascii linkedChild "main").pullRequestBaseBranch = "main"
      ∧ ¬ ClassifiedAlike .ascii linkedChild "main" := by
  have hchild : isNativeSubissue linkedChild = true := by decide
  have hparent : nativeParentIssue linkedChild = none := by decide
  have hsubissues : hasNativeSubissues linkedChild = false := by decide
  have hrole : (branchTargetEvidence .ascii linkedChild "main").role = .singleIssue := by
    simp [branchTargetEvidence, hparent, hsubissues]
  refine ⟨hchild, hrole, by simp [branchTargetEvidence, hparent, hsubissues], ?_⟩
  intro halike
  rw [halike.subissue.mp hchild] at hrole
  cases hrole

end SheaSymphony.Handoff

import SheaSymphony.Delimited
import SheaSymphony.PublicationTrace
import SheaSymphony.SubissueFields

/-!
# Closing references

The body of a pull request closes its issue where a closing keyword stands right in front
of the reference. `pull_request_body_has_closing_issue_reference` asks for a keyword and a
reference somewhere on one line, so a body that has both apart counts as linked though it
closes nothing (`linksIssue_iff`).
-/

namespace SheaSymphony.MainHandoff

open Text Codes
open Interrupted (Program)

/-! ## What closes an issue -/

def hashReference (number : Nat) : List Char := '#' :: Codes.decimal number

/-- A keyword that no letter goes on to the left, and behind nothing but a colon and spaces
the reference, which no digit goes on. -/
def ClosesIssue (body : String) (number : Nat) : Prop :=
  ∃ front keyword colon spaces back : List Char,
    body.toList = front ++ keyword ++ colon ++ spaces ++ hashReference number ++ back
      ∧ String.ofList (keyword.map Text.toAsciiLowercaseChar) ∈ closingKeywords
      ∧ front.getLast?.any Char.isAlpha = false
      ∧ (colon = [] ∨ colon = [':']) ∧ (∀ c ∈ spaces, c = ' ')
      ∧ back.head?.any Char.isDigit = false

def KeywordWord (text : List Char) : Prop :=
  ∃ keyword ∈ closingKeywords, Delimited.Alone Char.isAlpha Char.isAlpha keyword.toList none text

/-- The reference, whatever stands in front of it. -/
def Refers (number : Nat) (text : List Char) : Prop :=
  Delimited.Alone (fun _ => false) Char.isDigit (hashReference number) none text

/-- Some line has a closing keyword and the reference, in whatever order. -/
def MentionsBoth (body : String) (number : Nat) : Prop :=
  ∃ line ∈ Text.lines body, KeywordWord (Text.toAsciiLowercase line).toList
    ∧ Refers number (Text.toAsciiLowercase line).toList

/-! ## What is detected -/

theorem lineContainsIssueRef_eq (issueRef : List Char) (text : List Char) :
    ∀ (skip : Nat) (previous : Option Char), lineContainsIssueRef issueRef skip text
      = Delimited.search (fun _ => false) Char.isDigit issueRef skip previous text := by
  induction text with
  | nil => exact fun skip _ => by cases skip <;> rfl
  | cons c text ih =>
      intro skip previous
      cases skip with
      | succ skip => exact ih skip (some c)
      | zero =>
          have hleft : previous.any (fun _ => false) = false := by cases previous <;> rfl
          rw [lineContainsIssueRef, Delimited.search, ih _ (some c), ih _ (some c), hleft,
            Bool.not_false, Bool.true_and]

theorem refers_iff (number : Nat) (text : List Char) :
    lineContainsIssueRef (hashReference number) 0 text = true ↔ Refers number text := by
  rw [lineContainsIssueRef_eq _ _ 0 none]
  exact Delimited.search_iff (not_mem_decimal (by decide)) text

theorem keywordWord_iff (text : List Char) :
    ((text.splitOnP fun c => !c.isAlpha).any fun token =>
      closingKeywords.contains (String.ofList token)) = true ↔ KeywordWord text := by
  have hletters : ∀ keyword ∈ closingKeywords, ∀ c ∈ keyword.toList, c.isAlpha = true := by
    intro keyword hkeyword c hc
    have hall : closingKeywords.all (fun keyword => keyword.toList.all Char.isAlpha) = true := by
      decide
    exact List.all_eq_true.mp (List.all_eq_true.mp hall keyword hkeyword) c hc
  rw [List.any_eq_true]
  constructor
  · rintro ⟨token, htoken, hkeyword⟩
    have hmem : String.ofList token ∈ closingKeywords := List.contains_iff_mem.mp hkeyword
    have hall := hletters _ hmem
    rw [String.toList_ofList] at hall
    refine ⟨_, hmem, ?_⟩
    rw [String.toList_ofList]
    exact (Delimited.mem_splitOnP_iff hall text).mp htoken
  · rintro ⟨keyword, hmem, halone⟩
    refine ⟨keyword.toList, (Delimited.mem_splitOnP_iff (hletters keyword hmem) text).mpr halone, ?_⟩
    rw [String.ofList_toList]
    exact List.contains_iff_mem.mpr hmem

theorem toAsciiLowercaseChar_of_isDigit {c : Char} (h : c.isDigit = true) :
    Text.toAsciiLowercaseChar c = c := by
  rw [toAsciiLowercaseChar, if_neg]
  rintro ⟨hlow, -⟩
  simp only [Char.isDigit, Bool.and_eq_true, decide_eq_true_eq] at h
  have hdigit : c.val ≤ 57 := h.2
  have hletter : (65 : UInt32) ≤ c.val := hlow
  exact absurd (UInt32.le_trans hletter hdigit) (by decide)

theorem map_hashReference (number : Nat) :
    (hashReference number).map Text.toAsciiLowercaseChar = hashReference number := by
  rw [hashReference, List.map_cons]
  congr 1
  refine (List.map_congr_left fun c hc => ?_).trans (List.map_id _)
  exact toAsciiLowercaseChar_of_isDigit (isDigit_of_mem_decimal hc)

theorem toList_hash (number : Nat) : ("#" ++ toString number).toList = hashReference number := by
  rw [String.toList_append, Topology.toList_number]
  rfl

theorem mentionsBoth_iff (body : String) (number : Nat) :
    pullRequestBodyHasClosingIssueReference body ("#" ++ toString number) = true ↔
      MentionsBoth body number := by
  have href : toAsciiLowercase (trim ("#" ++ toString number)) = "#" ++ toString number := by
    rw [trim_of_isTrimmed (Topology.isTrimmed_hash number), toAsciiLowercase, toList_hash,
      map_hashReference, ← toList_hash, String.ofList_toList]
  have hne : ("#" ++ toString number != "") = true := by
    rw [bne_iff_ne, ← String.toList_inj.ne, toList_hash]
    exact List.cons_ne_nil _ _
  simp only [pullRequestBodyHasClosingIssueReference, href, hne, Bool.true_and, List.any_eq_true,
    Bool.and_eq_true, toList_hash, refers_iff]
  simp only [← List.any_eq_true, keywordWord_iff]
  rfl

/-! ## The body with a reference -/

theorem appendIssueClosingReference_eq (body : String) (number : Nat) :
    ∃ front, appendIssueClosingReference body ("#" ++ toString number)
        = front ++ ("Closes #" ++ toString number) ++ "\n"
      ∧ (front = "" ∨ ∃ lines, front = lines ++ "\n")
      ∧ (Text.trimEnd body).toList <+: front.toList := by
  have href : trim ("#" ++ toString number) = "#" ++ toString number :=
    trim_of_isTrimmed (Topology.isTrimmed_hash number)
  have hline : ("Closes " ++ ("#" ++ toString number) : String) = "Closes #" ++ toString number := by
    rw [← String.append_assoc]
    rfl
  rw [appendIssueClosingReference, href]
  split
  · next hempty =>
    refine ⟨"", ?_, Or.inl rfl, ?_⟩
    · rw [hline, String.empty_append]
    · rw [hempty]
  · refine ⟨trimEnd body ++ "\n\n## Issue Link\n\n", ?_,
      Or.inr ⟨trimEnd body ++ "\n\n## Issue Link\n", ?_⟩, ?_⟩
    · rw [← hline]
      simp only [String.append_assoc]
      rfl
    · rw [String.append_assoc]
      rfl
    · rw [String.toList_append]
      exact List.prefix_append _ _

theorem mem_lines_closing {front : String} (hfront : front = "" ∨ ∃ lines, front = lines ++ "\n")
    {line : String} (hline : Text.IsLine line) (hchomp : Text.chomp line = line) :
    line ∈ Text.lines (front ++ line ++ "\n") := by
  have hlast : line ∈ terminated line := by
    rw [terminated, splitChar_of_isLine hline, List.map_singleton, hchomp]
    exact List.mem_cons_self
  rw [lines_feed]
  rcases hfront with rfl | ⟨lines, rfl⟩
  · rwa [String.empty_append]
  · rw [terminated_append]
    exact List.mem_append_right _ hlast

theorem toList_closing (number : Nat) :
    ("Closes #" ++ toString number).toList = "Closes ".toList ++ hashReference number := by
  rw [String.toList_append, Topology.toList_number]
  rfl

theorem isLine_closing (number : Nat) : Text.IsLine ("Closes #" ++ toString number) := by
  rw [Text.IsLine, toList_closing, hashReference, List.mem_append, List.mem_cons]
  have hdigits : '\n' ∉ decimal number := not_mem_decimal (by decide)
  exact not_or.mpr ⟨by decide, not_or.mpr ⟨by decide, hdigits⟩⟩

theorem chomp_closing (number : Nat) :
    Text.chomp ("Closes #" ++ toString number) = "Closes #" ++ toString number := by
  have hne : decimal number ≠ [] := Nat.toDigits_ne_nil
  obtain ⟨digits, last, hlast⟩ := (List.eq_nil_or_concat (decimal number)).resolve_left hne
  have hmem : last ∈ decimal number := by
    rw [hlast]
    simp
  have hvisible : isWhitespace last = false :=
    isWhitespace_of_isDigit (isDigit_of_mem_decimal hmem)
  have hlist : ("Closes #" ++ toString number).toList
      = ("Closes #".toList ++ digits) ++ [last] := by
    rw [toList_closing, hashReference, hlast]
    simp
  rw [chomp, hlist, chompList_concat_of_visible hvisible, ← hlist, String.ofList_toList]

theorem mentionsBoth_append (body : String) (number : Nat) :
    MentionsBoth (appendIssueClosingReference body ("#" ++ toString number)) number := by
  obtain ⟨front, heq, hfront, -⟩ := appendIssueClosingReference_eq body number
  have hlower : (toAsciiLowercase ("Closes #" ++ toString number)).toList
      = "closes ".toList ++ hashReference number := by
    rw [toAsciiLowercase, String.toList_ofList, toList_closing, List.map_append,
      map_hashReference]
    rfl
  refine ⟨_, heq ▸ mem_lines_closing hfront (isLine_closing number) (chomp_closing number), ?_, ?_⟩
  · rw [hlower]
    exact ⟨"closes", by decide, [], ' ' :: hashReference number, rfl, rfl, rfl⟩
  · rw [hlower]
    exact ⟨"closes ".toList, [], (List.append_nil _).symm, rfl, rfl⟩

theorem closesIssue_append (body : String) (number : Nat) :
    ClosesIssue (appendIssueClosingReference body ("#" ++ toString number)) number := by
  obtain ⟨front, heq, hfront, -⟩ := appendIssueClosingReference_eq body number
  refine ⟨front.toList, "Closes".toList, [], [' '], ['\n'], ?_, by decide, ?_, Or.inl rfl,
    by simp, rfl⟩
  · rw [heq, String.toList_append, String.toList_append, toList_closing]
    simp
  · rcases hfront with rfl | ⟨lines, rfl⟩
    · rfl
    · rw [String.toList_append]
      simp

theorem prefix_append (body : String) (number : Nat) :
    (Text.trimEnd body).toList
      <+: (appendIssueClosingReference body ("#" ++ toString number)).toList := by
  obtain ⟨front, heq, -, hprefix⟩ := appendIssueClosingReference_eq body number
  rw [heq, String.append_assoc, String.toList_append]
  exact hprefix.trans (List.prefix_append _ _)

/-! ## What the step leaves -/

section
variable {σ : Type} (outside : HandoffOutside σ) (plan : IssueHandoffPlan) (number : Nat)

/-- The body of the pull request behind what has been done: the one that was there, or the
one of a successful edit. -/
inductive BodyAfter (body : String) : List HandoffEvent → String → Prop
  | kept : BodyAfter body [] body
  | edited (edited : String) {output : CommandOutput} (hstatus : output.status = 0) :
      BodyAfter body [.ran (editCommand plan edited) (.ok output)] edited

/-- Where the step returns, the pull request closes its issue, has the text it had, and is
left alone when the step comes again. -/
def LinksIssue (state : σ) (body : String) : Prop :=
  ∀ log after, ensureExistingPullRequestBodyLinksIssue outside plan body { outside := state, log }
      = (.ok (), after) →
    ∃ more published, after.log = log ++ more ∧ BodyAfter plan body more published
      ∧ ClosesIssue published number
      ∧ (Text.trimEnd body).toList <+: published.toList
      ∧ ∀ again, ensureExistingPullRequestBodyLinksIssue outside plan published again
          = (.ok (), again)

variable {outside plan number}

theorem ensureExisting_of_mentionsBoth (hplan : plan.issueRef = "#" ++ toString number)
    {body : String} (h : MentionsBoth body number) (world : HandoffWorld σ) :
    ensureExistingPullRequestBodyLinksIssue outside plan body world = (.ok (), world) := by
  rw [ensureExistingPullRequestBodyLinksIssue, hplan, if_pos ((mentionsBoth_iff body number).mpr h)]
  rfl

theorem ensureExisting_of_not_mentionsBoth (hplan : plan.issueRef = "#" ++ toString number)
    {body : String} (h : ¬ MentionsBoth body number) {world after : HandoffWorld σ}
    (hrun : ensureExistingPullRequestBodyLinksIssue outside plan body world = (.ok (), after)) :
    ∃ output : CommandOutput, output.status = 0 ∧ after.log = world.log
      ++ [.ran (editCommand plan (appendIssueClosingReference body ("#" ++ toString number)))
        (.ok output)] := by
  rw [ensureExistingPullRequestBodyLinksIssue, hplan,
    if_neg (fun hdetected => h ((mentionsBoth_iff body number).mp hdetected))] at hrun
  obtain ⟨output, middle, hedit, hreturn⟩ := Program.bind_eq_ok_iff.mp hrun
  obtain ⟨-, rfl⟩ := Program.pure_eq_ok_iff.mp hreturn
  obtain ⟨⟨hanswer, hstatus⟩, rfl⟩ := runSuccessful_eq_ok_iff.mp hedit
  refine ⟨output, hstatus, ?_⟩
  rw [ranWorld, hanswer]
  rfl

theorem linksIssue_iff (hplan : plan.issueRef = "#" ++ toString number) (state : σ)
    (body : String) :
    LinksIssue outside plan number state body ↔
      ClosesIssue body number ∨ ¬ MentionsBoth body number := by
  constructor
  · intro h
    refine or_iff_not_imp_right.mpr fun hmentions => ?_
    -- a body that is detected is what the pull request has behind the step
    have hkept : ensureExistingPullRequestBodyLinksIssue outside plan body
        { outside := state, log := [] } = (.ok (), _) :=
      ensureExisting_of_mentionsBoth hplan (not_not.mp hmentions) _
    obtain ⟨more, published, hlog, hafter, hcloses, -⟩ := h [] _ hkept
    cases hafter with
    | kept => exact hcloses
    | edited => cases hlog
  · intro h log after hrun
    by_cases hmentions : MentionsBoth body number
    · have hkept : ∀ world : HandoffWorld σ,
          ensureExistingPullRequestBodyLinksIssue outside plan body world = (.ok (), world) :=
        ensureExisting_of_mentionsBoth hplan hmentions
      obtain ⟨-, rfl⟩ := Prod.mk.inj ((hkept _).symm.trans hrun)
      exact ⟨[], body, (List.append_nil _).symm, .kept, h.resolve_right (not_not.mpr hmentions),
        Text.trimEnd_isPrefix body, hkept⟩
    · obtain ⟨output, hstatus, hlog⟩ := ensureExisting_of_not_mentionsBoth hplan hmentions hrun
      exact ⟨_, _, hlog, .edited _ hstatus, closesIssue_append body number,
        prefix_append body number,
        ensureExisting_of_mentionsBoth hplan (mentionsBoth_append body number)⟩

end

/-! ## A mention -/

/-- A body without a reference gets one. -/
theorem plain_body_linked : LinksIssue strayOutside samplePlan 7 () "Adds the publication." := by
  refine (linksIssue_iff rfl () _).mpr (Or.inr fun h => ?_)
  exact absurd ((mentionsBoth_iff _ 7).mpr h) (by decide)

/-- A keyword behind the reference closes nothing, and the body is taken as linked. -/
theorem mention_counts_as_linked :
    ¬ LinksIssue strayOutside samplePlan 7 () "#7 is not fixed by this" := by
  intro h
  have hmentions : MentionsBoth "#7 is not fixed by this" 7 :=
    (mentionsBoth_iff _ 7).mp (by decide)
  rcases (linksIssue_iff rfl () _).mp h with hcloses | hnone
  · obtain ⟨front, keyword, colon, spaces, back, hbody, hkeyword, -⟩ := hcloses
    have hcut : [] ++ '#' :: "7 is not fixed by this".toList
        = (front ++ keyword ++ colon ++ spaces) ++ '#' :: (Codes.decimal 7 ++ back) := by
      rw [← List.cons_append, ← hashReference, ← List.append_assoc, ← hbody]
      rfl
    -- the reference is the one the body begins with
    have hfront : '#' ∉ front ++ keyword ++ colon ++ spaces := by
      have hcount := congrArg (List.count '#') hcut
      rw [List.nil_append, List.count_append, List.count_cons_self, List.count_cons_self] at hcount
      have hrest : "7 is not fixed by this".toList.count '#' = 0 := by decide
      exact List.count_eq_zero.mp (by omega)
    have hstart := (Codes.terminated_inj List.not_mem_nil hfront hcut).1
    obtain rfl : keyword = [] := by
      simp only [List.nil_eq, List.append_eq_nil_iff] at hstart
      exact hstart.1.1.2
    exact absurd hkeyword (by decide)
  · exact hnone hmentions

end SheaSymphony.MainHandoff

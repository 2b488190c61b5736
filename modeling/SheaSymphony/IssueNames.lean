import Mathlib.Data.List.Chain
import Mathlib.Data.List.TakeWhile
import SheaSymphony.HandoffPlan

/-!
# The names of an issue's worktree and branch

`workspace_key_for_issue`, `branch_name_for_issue` and `guard_branch_for_issue` tell issues
apart by the first digits of their identifiers (`handoff.rs`). Issues whose first digits
differ never share a name, whatever their titles and the profiles are; a key with a digit in
it hides the number behind it (`separate_iff`).
-/

namespace SheaSymphony

/-! ## Words between single dashes -/

section Spaced

variable {α : Type*} {d : α}

/-- Neither in front nor twice in a row. -/
structure Spaced (d : α) (l : List α) : Prop where
  front : l.head? ≠ some d
  apart : l.IsChain fun a b => a ≠ d ∨ b ≠ d

theorem Spaced.of_not_mem {l : List α} (h : d ∉ l) : Spaced d l where
  front hfront := h (List.mem_of_head? hfront)
  apart := by
    induction l with
    | nil => exact List.isChain_nil
    | cons a l ih =>
        rw [List.isChain_cons]
        exact ⟨fun b hb => Or.inl fun ha => h (ha ▸ List.mem_cons_self),
          ih fun hmem => h (List.mem_cons_of_mem _ hmem)⟩

theorem Spaced.append {l r : List α} (hl : Spaced d l) (hne : l ≠ [])
    (hlast : l.getLast? ≠ some d) (hr : r.IsChain fun a b => a ≠ d ∨ b ≠ d) :
    Spaced d (l ++ r) where
  front := by
    rw [List.head?_append_of_ne_nil _ hne]
    exact hl.front
  apart := hl.apart.append hr fun a ha _ _ =>
    Or.inl fun had => hlast (had ▸ Option.mem_def.mp ha)

theorem Spaced.word_append {word l : List α} (hword : d ∉ word) (hne : word ≠ [])
    (hl : Spaced d l) : Spaced d (word ++ d :: l) := by
  refine (Spaced.of_not_mem hword).append hne (fun hlast => hword (List.mem_of_getLast? hlast)) ?_
  rw [List.isChain_cons]
  exact ⟨fun b hb => Or.inr fun hbd => hl.front (hbd ▸ Option.mem_def.mp hb), hl.apart⟩

theorem Spaced.prefix {l r : List α} (h : Spaced d (l ++ r)) : Spaced d l where
  front := by
    cases l with
    | nil => simp
    | cons a l => simpa using h.front
  apart := h.apart.left_of_append

theorem Spaced.ne_doubled {l : List α} (h : Spaced d l) (front back : List α) :
    front ++ d :: d :: back ≠ l := by
  rintro rfl
  have htwice := h.apart.right_of_append
  rw [List.isChain_cons_cons] at htwice
  rcases htwice.1 with hne | hne
  · exact hne rfl
  · exact hne rfl

theorem Spaced.behind_unique {front front' l l' : List α} (h : Spaced d l) (h' : Spaced d l')
    (heq : front ++ d :: d :: l = front' ++ d :: d :: l') : l = l' := by
  -- the longer front would put its dashes into the other list or in front of it
  rcases List.append_eq_append_iff.mp heq with ⟨between, -, hbetween⟩ | ⟨between, -, hbetween⟩
  · match between, hbetween with
    | [], hbetween => simpa using hbetween
    | [a], hbetween =>
        obtain ⟨-, rfl⟩ : a = d ∧ l = d :: l' := by simpa [eq_comm] using hbetween
        exact absurd rfl h.front
    | a :: b :: rest, hbetween =>
        have hl : l = rest ++ d :: d :: l' := by simpa using (congrArg (List.drop 2) hbetween)
        exact absurd hl.symm (h.ne_doubled rest l')
  · match between, hbetween with
    | [], hbetween => simpa using hbetween.symm
    | [a], hbetween =>
        obtain ⟨-, rfl⟩ : a = d ∧ l' = d :: l := by simpa [eq_comm] using hbetween
        exact absurd rfl h'.front
    | a :: b :: rest, hbetween =>
        have hl : l' = rest ++ d :: d :: l := by simpa using (congrArg (List.drop 2) hbetween)
        exact absurd hl.symm (h'.ne_doubled rest l)

end Spaced

variable {slug : List Char}

namespace MainHandoff

open Handoff (digitsOnly issueNumber issueSlug titleSlug titleSlugFrom titleSlugLimit)
open Workspace (safeChar safeIdentifier)

/-! ## Slugs -/

/-- Letters and digits between single dashes. -/
structure IsSlug (slug : List Char) : Prop where
  chars : ∀ c ∈ slug, c.isAlphanum = true ∨ c = '-'
  spaced : Spaced '-' slug

theorem dash_not_mem {word : List Char} (h : ∀ c ∈ word, c.isAlphanum = true) : '-' ∉ word :=
  fun hmem => absurd (h _ hmem) (by decide)

theorem IsSlug.of_word {word : List Char} (h : ∀ c ∈ word, c.isAlphanum = true) : IsSlug word where
  chars c hc := Or.inl (h c hc)
  spaced := Spaced.of_not_mem (dash_not_mem h)

theorem IsSlug.word_append {word slug : List Char} (hword : ∀ c ∈ word, c.isAlphanum = true)
    (hne : word ≠ []) (h : IsSlug slug) : IsSlug (word ++ '-' :: slug) where
  chars c hc := by
    rcases List.mem_append.mp hc with hc | hc
    · exact Or.inl (hword c hc)
    · rcases List.mem_cons.mp hc with hdash | hc
      · exact Or.inr hdash
      · exact h.chars c hc
  spaced := Spaced.word_append (dash_not_mem hword) hne h.spaced

theorem IsSlug.concat (h : IsSlug slug) {c : Char}
    (hc : c.isAlphanum = true ∨ c = '-' ∧ slug ≠ [] ∧ slug.getLast? ≠ some '-') :
    IsSlug (slug ++ [c]) where
  chars a ha := by
    rcases List.mem_append.mp ha with ha | ha
    · exact h.chars a ha
    · rw [List.mem_singleton.mp ha]
      exact hc.imp id And.left
  spaced := by
    rcases hc with hc | ⟨rfl, hne, hlast⟩
    · have hdash : c ≠ '-' := by
        rintro rfl
        exact absurd hc (by decide)
      refine ⟨?_, h.spaced.apart.append (List.isChain_singleton c) fun _ _ b hb => Or.inr ?_⟩
      · cases slug with
        | nil => simpa using hdash
        | cons a slug => simpa using h.spaced.front
      · obtain rfl : c = b := by simpa using hb
        exact hdash
    · exact h.spaced.append hne hlast (List.isChain_singleton '-')

theorem IsSlug.prefix {slug rest : List Char} (h : IsSlug (slug ++ rest)) : IsSlug slug where
  chars c hc := h.chars c (List.mem_append_left _ hc)
  spaced := h.spaced.prefix

/-- A slug that grows, and whether its last character was a dash. -/
def Growing (slug : List Char × Bool) : Prop :=
  IsSlug slug.1 ∧ (slug.2 = false → slug.1.getLast? ≠ some '-')

theorem growing_step {previousWasDash : Bool} (h : Growing (slug, previousWasDash)) (c : Char) :
    Growing (if c.isAlphanum then (slug ++ [c], false)
      else if !previousWasDash && !slug.isEmpty then (slug ++ ['-'], true)
      else (slug, previousWasDash)) := by
  split
  · next hc =>
      refine ⟨h.1.concat (Or.inl hc), fun _ hlast => ?_⟩
      rw [List.getLast?_concat, Option.some_inj] at hlast
      exact absurd (hlast ▸ hc) (by decide)
  · split
    · next hput =>
        simp only [Bool.and_eq_true, Bool.not_eq_true', List.isEmpty_eq_false_iff] at hput
        exact ⟨h.1.concat (Or.inr ⟨rfl, hput.2, h.2 hput.1⟩), nofun⟩
    · exact h

theorem isSlug_titleSlugFrom {previousWasDash : Bool} (h : Growing (slug, previousWasDash))
    (title : List Char) :
    IsSlug (titleSlugFrom slug previousWasDash title) := by
  induction title generalizing slug previousWasDash with
  | nil => exact h.1
  | cons c title ih =>
      rw [titleSlugFrom]
      have hstep := growing_step h c
      split
      next grown dash hgrown =>
        rw [hgrown] at hstep
        split
        · exact hstep.1
        · exact ih hstep

theorem isSlug_trimMatches (h : IsSlug slug) :
    IsSlug (Text.trimMatches (· == '-') (String.ofList slug)).toList := by
  have hfront : slug.dropWhile (· == '-') = slug := by
    cases slug with
    | nil => rfl
    | cons c rest =>
        have hc : c ≠ '-' := by simpa using h.spaced.front
        rw [List.dropWhile_cons_of_neg (by simpa using hc)]
  obtain ⟨dashes, hdashes⟩ := List.rdropWhile_prefix (· == '-') slug
  rw [← hdashes] at h
  rw [Text.trimMatches, String.toList_ofList, String.toList_ofList, hfront]
  exact h.prefix

theorem isSlug_titleSlug (case : Text.UnicodeCase) (title : String) :
    IsSlug (titleSlug case title).toList := by
  unfold titleSlug
  extract_lets lower slug
  split
  · exact .of_word (List.all_eq_true.mp (by decide))
  · exact isSlug_trimMatches (isSlug_titleSlugFrom ⟨.of_word (by simp), by simp⟩ lower)

/-! ## The first digits -/

/-- The first run of digits of an identifier. -/
def firstDigits (identifier : String) : String :=
  String.ofList ((identifier.toList.dropWhile fun c => !c.isDigit).takeWhile Char.isDigit)

def IsNumber (number : String) : Prop := number ≠ "" ∧ ∀ c ∈ number.toList, c.isDigit = true

instance : DecidablePred IsNumber := fun number =>
  decidable_of_iff (number ≠ "" ∧ number.toList.all Char.isDigit = true)
    (and_congr_right' List.all_eq_true)

theorem digitsOnly_eq_some {number : String} (h : IsNumber number) :
    digitsOnly number = some number := by
  rw [digitsOnly, if_pos]
  simpa using ⟨h.2, h.1⟩

theorem splitOnP_of_digits (l : List Char) :
    ∃ pieces, (l.splitOnP fun c => !c.isDigit) = l.takeWhile Char.isDigit :: pieces := by
  induction l with
  | nil => exact ⟨[], List.splitOnP_nil⟩
  | cons c rest ih =>
      rw [List.splitOnP_cons_eq_if_modifyHead]
      cases hc : c.isDigit with
      | true =>
          obtain ⟨pieces, hpieces⟩ := ih
          rw [if_neg (by simp), hpieces, List.takeWhile_cons_of_pos hc]
          exact ⟨pieces, rfl⟩
      | false =>
          rw [if_pos (by simp), List.takeWhile_cons_of_neg (by simp [hc])]
          exact ⟨_, rfl⟩

theorem firstDigits_spec {identifier : String} (h : ∃ c ∈ identifier.toList, c.isDigit = true) :
    IsNumber (firstDigits identifier)
      ∧ issueNumber identifier = some (firstDigits identifier) := by
  obtain ⟨digit, hmem, hdigit⟩ := h
  rw [issueNumber, firstDigits]
  generalize identifier.toList = l at hmem
  induction l with
  | nil => exact absurd hmem List.not_mem_nil
  | cons c rest ih =>
      cases hc : c.isDigit with
      | true =>
          rw [List.dropWhile_cons_of_neg (by simp [hc])]
          obtain ⟨pieces, hpieces⟩ := splitOnP_of_digits (c :: rest)
          have hnumber : IsNumber (String.ofList ((c :: rest).takeWhile Char.isDigit)) := by
            constructor
            · rw [ne_eq, ← String.toList_inj, String.toList_ofList, List.takeWhile_cons_of_pos hc]
              exact List.cons_ne_nil _ _
            · rw [String.toList_ofList]
              exact fun c hc => List.mem_takeWhile_imp hc
          refine ⟨hnumber, ?_⟩
          rw [hpieces, List.map_cons, List.findSome?_cons, digitsOnly_eq_some hnumber]
      | false =>
          have hrest : digit ∈ rest := by
            rcases List.mem_cons.mp hmem with rfl | hrest
            · exact absurd hdigit (by simp [hc])
            · exact hrest
          rw [List.dropWhile_cons_of_pos (by simp [hc]), List.splitOnP_cons_eq_if_modifyHead,
            if_pos (by simp [hc]), List.map_cons, List.findSome?_cons]
          exact ih hrest

/-! ## What is read back from the names -/

/-- The slug of an issue with a number. -/
def numberedSlug (number slug : List Char) : List Char :=
  "issue".toList ++ '-' :: (number ++ '-' :: slug)

theorem isAlphanum_of_isDigit {c : Char} (h : c.isDigit = true) : c.isAlphanum = true := by
  rw [Char.isAlphanum, h, Bool.or_true]

theorem isSlug_numberedSlug {number : String} (hnumber : IsNumber number) (hslug : IsSlug slug) : IsSlug (numberedSlug number.toList slug) := by
  have hword : ∀ c ∈ number.toList, c.isAlphanum = true := fun c hc =>
    isAlphanum_of_isDigit (hnumber.2 c hc)
  refine IsSlug.word_append (List.all_eq_true.mp (by decide)) (by decide) ?_
  exact IsSlug.word_append hword (fun hnil => hnumber.1 (String.toList_eq_nil_iff.mp hnil)) hslug

theorem numberedSlug_inj {number number' slug slug' : List Char}
    (hnumber : ∀ c ∈ number, c.isDigit = true) (hnumber' : ∀ c ∈ number', c.isDigit = true)
    (heq : numberedSlug number slug = numberedSlug number' slug') : number = number' := by
  have htail : number ++ '-' :: slug = number' ++ '-' :: slug' := by
    simpa [numberedSlug] using heq
  have htake : ∀ {number slug : List Char}, (∀ c ∈ number, c.isDigit = true) →
      (number ++ '-' :: slug).takeWhile Char.isDigit = number := by
    intro number slug hnumber
    rw [List.takeWhile_append_of_pos hnumber, List.takeWhile_cons_of_neg (by decide), List.append_nil]
  rw [← htake hnumber, htail, htake hnumber']

theorem safeIdentifier_of_safe {name : String} (h : ∀ c ∈ name.toList, safeChar c = c) :
    safeIdentifier name = name := by
  rw [safeIdentifier, List.map_congr_left h, List.map_id', String.ofList_toList]

theorem safeChar_of_isSlug (h : IsSlug slug) : ∀ c ∈ slug, safeChar c = c := by
  intro c hc
  rcases h.chars c hc with hword | rfl
  · rw [safeChar, hword, Bool.true_or, Bool.true_or, Bool.true_or, if_pos rfl]
  · decide

/-- A word in front of a slug that is not taken for the issue. -/
structure IsBranchFront (front : String) : Prop where
  word : front.toList.all Char.isAlphanum = true
  nonempty : front ≠ ""
  other : Text.eqIgnoreAsciiCase front "issue" = false
  unprefixed : Text.stripPrefix (Text.toAsciiLowercase front) "issue" = none

theorem branchIssueNumber_of_numberedSlug {front branch number : String}
    (hfront : IsBranchFront front) (hnumber : IsNumber number)
    (h : branch.toList = front.toList ++ '/' :: numberedSlug number.toList slug) :
    branchIssueNumber branch = some number := by
  have hword : ∀ {word : List Char}, word.all Char.isAlphanum = true →
      ∀ c ∈ word, (!c.isAlphanum) = false := fun hword c hc => by
    rw [List.all_eq_true.mp hword c hc, Bool.not_true]
  have hissue : "issue".toList.all Char.isAlphanum = true := by decide
  rw [branchIssueNumber, h, numberedSlug,
    List.splitOnP_append_cons_of_forall_mem (hword hfront.word) '/' (by decide),
    List.splitOnP_append_cons_of_forall_mem (hword hissue) '-' (by decide),
    List.splitOnP_append_cons_of_forall_mem
      (hword (List.all_eq_true.mpr fun c hc => isAlphanum_of_isDigit (hnumber.2 c hc))) '-'
      (by decide)]
  simp only [List.map_cons, String.ofList_toList]
  rw [List.filter_cons_of_pos (by simpa using hfront.nonempty), List.filter_cons_of_pos (by decide),
    List.filter_cons_of_pos (by simpa using hnumber.1), issueNumberOfTokens, issueNumberOfTokens]
  simp [digitsOnly_eq_some hnumber, hfront.other, hfront.unprefixed,
    show Text.eqIgnoreAsciiCase "issue" "issue" = true by decide]

section Names

variable (case : Text.UnicodeCase) {identifier : String}

theorem toList_issueSlug (h : ∃ c ∈ identifier.toList, c.isDigit = true) (slug : String) :
    (issueSlug case identifier ++ "-" ++ slug).toList
      = numberedSlug (firstDigits identifier).toList slug.toList := by
  rw [issueSlug, (firstDigits_spec h).2, numberedSlug]
  simp [String.toList_append]

theorem toList_workspaceKey (h : ∃ c ∈ identifier.toList, c.isDigit = true) (title : String) :
    (workspaceKeyForIssue case identifier title).toList
      = numberedSlug (firstDigits identifier).toList (titleSlug case title).toList := by
  have hslug := isSlug_numberedSlug (firstDigits_spec h).1 (isSlug_titleSlug case title)
  rw [workspaceKeyForIssue, safeIdentifier_of_safe, toList_issueSlug case h]
  rw [toList_issueSlug case h]
  exact safeChar_of_isSlug hslug

theorem profileWorkspaceKey_cases (h : ∃ c ∈ identifier.toList, c.isDigit = true)
    (profile : Option String) (title : String) :
    (profileWorkspaceKeyForIssue case profile identifier title).toList
        = numberedSlug (firstDigits identifier).toList (titleSlug case title).toList
      ∨ ∃ front, (profileWorkspaceKeyForIssue case profile identifier title).toList
        = front ++ '-' :: '-' ::
          numberedSlug (firstDigits identifier).toList (titleSlug case title).toList := by
  unfold profileWorkspaceKeyForIssue
  split
  · next profileId _ =>
      refine Or.inr ⟨(safeIdentifier profileId).toList, ?_⟩
      have hslug := isSlug_numberedSlug (firstDigits_spec h).1 (isSlug_titleSlug case title)
      rw [safeIdentifier_of_safe]
      · simp [String.toList_append, toList_workspaceKey case h]
      · intro c hc
        simp only [String.toList_append, toList_workspaceKey case h, List.mem_append] at hc
        rcases hc with (hc | hc) | hc
        · rw [safeIdentifier, String.toList_ofList] at hc
          obtain ⟨b, -, rfl⟩ := List.mem_map.mp hc
          exact Workspace.safeChar_safeChar b
        · obtain rfl : c = '-' := by simpa using hc
          decide
        · exact safeChar_of_isSlug hslug c hc
  · exact Or.inl (toList_workspaceKey case h title)

theorem toList_branchName (h : ∃ c ∈ identifier.toList, c.isDigit = true) (title : String) :
    (branchNameForIssue case identifier title).toList
      = "feature".toList ++ '/' ::
        numberedSlug (firstDigits identifier).toList (titleSlug case title).toList := by
  have hslug := toList_issueSlug case h (titleSlug case title)
  rw [branchNameForIssue, defaultBranchPrefix, String.append_assoc, String.append_assoc,
    String.toList_append, ← String.append_assoc, hslug]
  simp

theorem branchIssueNumber_branchName (h : ∃ c ∈ identifier.toList, c.isDigit = true)
    (title : String) :
    branchIssueNumber (branchNameForIssue case identifier title) = some (firstDigits identifier) :=
  branchIssueNumber_of_numberedSlug ⟨by decide, by decide, by decide, by decide⟩
    (firstDigits_spec h).1 (toList_branchName case h title)

end Names

/-! ## Names of two issues -/

/-- `#n`, or `KEY-n`. -/
inductive IsIssueIdentifier : String → Prop where
  | numbered {number : String} (hnumber : IsNumber number) : IsIssueIdentifier ("#" ++ number)
  | keyed {key number : String} (hne : key ≠ "") (hkey : ∀ c ∈ key.toList, c.isAlphanum = true)
      (hnumber : IsNumber number) : IsIssueIdentifier (key ++ "-" ++ number)

theorem IsNumber.exists_digit {number : String} (h : IsNumber number) :
    ∃ c ∈ number.toList, c.isDigit = true := by
  obtain ⟨c, hc⟩ := List.exists_mem_of_ne_nil _ fun hnil => h.1 (String.toList_eq_nil_iff.mp hnil)
  exact ⟨c, hc, h.2 c hc⟩

theorem IsIssueIdentifier.exists_digit {identifier : String} (h : IsIssueIdentifier identifier) :
    ∃ c ∈ identifier.toList, c.isDigit = true := by
  cases h with
  | numbered hnumber =>
      obtain ⟨c, hc, hdigit⟩ := hnumber.exists_digit
      exact ⟨c, by simp [String.toList_append, hc], hdigit⟩
  | keyed _ _ hnumber =>
      obtain ⟨c, hc, hdigit⟩ := hnumber.exists_digit
      exact ⟨c, by simp [String.toList_append, hc], hdigit⟩

/-- No digit of the key, or of `#`, comes before the number. -/
theorem firstDigits_append {front number : String} (hfront : ∀ c ∈ front.toList, c.isDigit = false)
    (hnumber : IsNumber number) : firstDigits (front ++ number) = number := by
  have hstart : number.toList.dropWhile (fun c => !c.isDigit) = number.toList := by
    cases hlist : number.toList with
    | nil => rfl
    | cons c rest =>
        have hc := hnumber.2 c (hlist ▸ List.mem_cons_self)
        rw [List.dropWhile_cons_of_neg (by simp [hc])]
  rw [firstDigits, String.toList_append, List.dropWhile_append_of_pos
    (fun c hc => by rw [hfront c hc, Bool.not_false]), hstart,
    List.takeWhile_eq_self_iff.mpr hnumber.2, String.ofList_toList]

theorem firstDigits_keyed {key number : String} (hkey : ∃ c ∈ key.toList, c.isDigit = true) :
    firstDigits (key ++ "-" ++ number) = firstDigits key := by
  obtain ⟨c, hc, hdigit⟩ := hkey
  rw [firstDigits, firstDigits, String.append_assoc, String.toList_append, List.dropWhile_append,
    if_neg]
  · rw [String.toList_append, show "-".toList = ['-'] from rfl, List.singleton_append,
      List.takeWhile_append]
    split
    · next hlength =>
        rw [List.takeWhile_cons_of_neg (by decide), List.append_nil,
          (List.takeWhile_prefix Char.isDigit).eq_of_length hlength]
    · rfl
  · rw [List.isEmpty_iff, List.dropWhile_eq_nil_iff]
    intro hall
    exact absurd (hall c hc) (by simp [hdigit])

theorem guardBranch_matching_iff {case : Text.UnicodeCase} {own other : String}
    (hown : ∃ c ∈ own.toList, c.isDigit = true) (hother : ∃ c ∈ other.toList, c.isDigit = true)
    (title : String) :
    (∃ number, guardBranchForIssue (branchNameForIssue case own title) other
      = .ok (.matching number)) ↔ firstDigits own = firstDigits other := by
  rw [guardBranchForIssue, checkBranchIssue, (firstDigits_spec hother).2,
    branchIssueNumber_branchName case hown]
  by_cases hsame : firstDigits own = firstDigits other
  · simp [hsame]
  · simp [hsame, Ne.symm hsame]

section SharedNames

variable {case : Text.UnicodeCase} {own other : String}

theorem firstDigits_of_slug (hown : ∃ c ∈ own.toList, c.isDigit = true)
    (hother : ∃ c ∈ other.toList, c.isDigit = true) {slug slug' : List Char}
    (heq : numberedSlug (firstDigits own).toList slug = numberedSlug (firstDigits other).toList slug') :
    firstDigits own = firstDigits other :=
  String.toList_inj.mp
    (numberedSlug_inj (firstDigits_spec hown).1.2 (firstDigits_spec hother).1.2 heq)

theorem firstDigits_of_branch (hown : ∃ c ∈ own.toList, c.isDigit = true)
    (hother : ∃ c ∈ other.toList, c.isDigit = true) {title title' : String}
    (heq : branchNameForIssue case own title = branchNameForIssue case other title') :
    firstDigits own = firstDigits other := by
  have hlist := congrArg String.toList heq
  rw [toList_branchName case hown, toList_branchName case hother] at hlist
  exact firstDigits_of_slug hown hother (by simpa using hlist)

theorem firstDigits_of_key (hown : ∃ c ∈ own.toList, c.isDigit = true)
    (hother : ∃ c ∈ other.toList, c.isDigit = true) {profile profile' : Option String}
    {title title' : String}
    (heq : profileWorkspaceKeyForIssue case profile own title
      = profileWorkspaceKeyForIssue case profile' other title') :
    firstDigits own = firstDigits other := by
  have hslug := isSlug_numberedSlug (firstDigits_spec hown).1 (isSlug_titleSlug case title)
  have hslug' := isSlug_numberedSlug (firstDigits_spec hother).1 (isSlug_titleSlug case title')
  have hlist := congrArg String.toList heq
  suffices hsame : numberedSlug (firstDigits own).toList (titleSlug case title).toList
      = numberedSlug (firstDigits other).toList (titleSlug case title').toList from
    firstDigits_of_slug hown hother hsame
  rcases profileWorkspaceKey_cases case hown profile title with hkey | ⟨front, hkey⟩
  · rcases profileWorkspaceKey_cases case hother profile' title' with hkey' | ⟨front', hkey'⟩
    · rwa [hkey, hkey'] at hlist
    · rw [hkey, hkey'] at hlist
      exact absurd hlist.symm (hslug.spaced.ne_doubled front' _)
  · rcases profileWorkspaceKey_cases case hother profile' title' with hkey' | ⟨front', hkey'⟩
    · rw [hkey, hkey'] at hlist
      exact absurd hlist (hslug'.spaced.ne_doubled front _)
    · rw [hkey, hkey'] at hlist
      exact hslug.spaced.behind_unique hslug'.spaced hlist

end SharedNames

/-- An issue under a title and a profile. -/
structure NamedIssue where
  profile : Option String
  identifier : String
  title : String

/-- Neither a worktree nor a branch is shared, and no branch passes for the other's. -/
structure Separate (case : Text.UnicodeCase) (one other : NamedIssue) : Prop where
  keys : profileWorkspaceKeyForIssue case one.profile one.identifier one.title
    ≠ profileWorkspaceKeyForIssue case other.profile other.identifier other.title
  branches : branchNameForIssue case one.identifier one.title
    ≠ branchNameForIssue case other.identifier other.title
  guarded : ¬ ∃ number, guardBranchForIssue (branchNameForIssue case one.identifier one.title)
    other.identifier = .ok (.matching number)
  guards : ¬ ∃ number, guardBranchForIssue (branchNameForIssue case other.identifier other.title)
    one.identifier = .ok (.matching number)

theorem separate_iff (case : Text.UnicodeCase) {one other : NamedIssue}
    (hone : IsIssueIdentifier one.identifier) (hother : IsIssueIdentifier other.identifier) :
    Separate case one other ↔ firstDigits one.identifier ≠ firstDigits other.identifier := by
  have hdigits := hone.exists_digit
  have hdigits' := hother.exists_digit
  constructor
  · exact fun h hsame => h.guarded ((guardBranch_matching_iff hdigits hdigits' one.title).mpr hsame)
  · intro hdiffer
    exact
      { keys := fun heq => hdiffer (firstDigits_of_key hdigits hdigits' heq)
        branches := fun heq => hdiffer (firstDigits_of_branch hdigits hdigits' heq)
        guarded := fun hguard =>
          hdiffer ((guardBranch_matching_iff hdigits hdigits' one.title).mp hguard)
        guards := fun hguard =>
          hdiffer ((guardBranch_matching_iff hdigits' hdigits other.title).mp hguard).symm }

/-- Two issues of one project share a worktree, and the guard takes the other's branch. -/
theorem numbers_hidden_by_key :
    IsIssueIdentifier "K1-2" ∧ IsIssueIdentifier "K1-3" ∧ ("K1-2" : String) ≠ "K1-3"
      ∧ profileWorkspaceKeyForIssue .ascii none "K1-2" "Fix" = "issue-1-fix"
      ∧ profileWorkspaceKeyForIssue .ascii none "K1-3" "Fix" = "issue-1-fix"
      ∧ ¬ Separate .ascii ⟨none, "K1-2", "Fix"⟩ ⟨none, "K1-3", "Fix"⟩ := by
  have hkeyed : ∀ number : String, IsNumber number → IsIssueIdentifier ("K1" ++ "-" ++ number) :=
    fun number hnumber => .keyed (by decide) (List.all_eq_true.mp (by decide)) hnumber
  have htwo : profileWorkspaceKeyForIssue .ascii none "K1-2" "Fix" = "issue-1-fix" := by
    decide
  have hthree : profileWorkspaceKeyForIssue .ascii none "K1-3" "Fix" = "issue-1-fix" := by
    decide
  exact ⟨hkeyed "2" (by decide), hkeyed "3" (by decide), by decide, htwo, hthree,
    fun h => h.keys (htwo.trans hthree.symm)⟩

/-- The numbers of one project tell its issues apart. -/
theorem numbers_separate :
    Separate .ascii ⟨some "a--issue-2", "#1", "Fix"⟩ ⟨none, "ENG-2", "Fix"⟩ := by
  have hnumbered : IsIssueIdentifier ("#" ++ "1") := .numbered (by decide)
  have hkeyed : IsIssueIdentifier ("ENG" ++ "-" ++ "2") :=
    .keyed (by decide) (List.all_eq_true.mp (by decide)) (by decide)
  exact (separate_iff .ascii hnumbered hkeyed).mpr (by decide)

end MainHandoff

end SheaSymphony

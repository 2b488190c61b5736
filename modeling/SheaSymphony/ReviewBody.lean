import Mathlib.Data.List.Forall2
import SheaSymphony.Pieces
import SheaSymphony.ReviewChecklist

/-!
# The body of a reviewed issue

What is left of a description when the attached evidence is taken away, and what
ticking its boxes makes of it: ticking writes an `x` for a blank here and there, so
it shows no marker that was not there before. A second ticking finds nothing to do
unless a line of the body ends in two carriage returns.
-/

namespace SheaSymphony.Review

open Text

/-! ## In front of a marker -/

section

variable {pattern s t : String}

theorem toList_ne_nil (h : pattern ≠ "") : pattern.toList ≠ [] :=
  fun hnil => h (String.toList_inj.mp hnil)

theorem toList_beforeFirst (pattern s : String) :
    (beforeFirst pattern s).toList = ((cutList pattern.toList s.toList).map Prod.fst).getD s.toList := by
  rw [beforeFirst, cut]
  cases cutList pattern.toList s.toList with
  | none => rfl
  | some cut => exact String.toList_ofList

theorem beforeFirst_of_not_contains (hne : pattern ≠ "") (h : contains s pattern = false) :
    beforeFirst pattern s = s := by
  have hnone : cutList pattern.toList s.toList = none :=
    (cutList_eq_none_iff (toList_ne_nil hne)).mpr (of_decide_eq_false h)
  rw [← String.toList_inj, toList_beforeFirst, hnone]
  rfl

theorem not_contains_beforeFirst (hne : pattern ≠ "") (s : String) :
    contains (beforeFirst pattern s) pattern = false := by
  rw [contains, decide_eq_false_iff_not, toList_beforeFirst]
  cases hcut : cutList pattern.toList s.toList with
  | none => exact (cutList_eq_none_iff (toList_ne_nil hne)).mp hcut
  | some cut => exact not_infix_of_cutList (toList_ne_nil hne) hcut

theorem beforeFirst_isPrefix (pattern s : String) : (beforeFirst pattern s).toList <+: s.toList := by
  rw [toList_beforeFirst]
  cases hcut : cutList pattern.toList s.toList with
  | none => exact List.prefix_refl _
  | some cut =>
      rw [← cutList_eq_some hcut, List.append_assoc]
      exact List.prefix_append _ _

theorem beforeFirst_line (hne : pattern ≠ "") (hline : IsLine pattern) (s t : String) :
    beforeFirst pattern (s ++ "\n" ++ t) =
      if contains s pattern then beforeFirst pattern s else s ++ "\n" ++ beforeFirst pattern t := by
  have hfeed : ("\n" : String).toList = ['\n'] := rfl
  have hcut := cutList_line (toList_ne_nil hne) hline s.toList t.toList
  have hnone := cutList_eq_none_iff (toList_ne_nil hne) (l := s.toList)
  rw [← String.toList_inj, toList_beforeFirst, String.toList_append, String.toList_append, hfeed,
    List.append_assoc, List.singleton_append, hcut]
  by_cases hcontains : contains s pattern = true
  · rw [if_pos hcontains, toList_beforeFirst]
    cases hfound : cutList pattern.toList s.toList with
    | none => exact absurd (of_decide_eq_true hcontains) (hnone.mp hfound)
    | some cut => rfl
  · rw [if_neg hcontains, hnone.mpr (by simpa [contains] using hcontains)]
    dsimp only
    rw [String.toList_append, String.toList_append, hfeed, toList_beforeFirst]
    cases cutList pattern.toList t.toList with
    | none => simp
    | some cut => simp

theorem beforeFirst_self (hne : pattern ≠ "") (t : String) : beforeFirst pattern (pattern ++ t) = "" := by
  obtain ⟨c, rest, hpattern⟩ := List.exists_cons_of_ne_nil (toList_ne_nil hne)
  have hfront : (c :: rest).isPrefixOf (c :: (rest ++ t.toList)) = true :=
    List.isPrefixOf_iff_prefix.mpr (List.prefix_append (c :: rest) t.toList)
  rw [← String.toList_inj, toList_beforeFirst, String.toList_append, hpattern, List.cons_append,
    cutList, if_pos hfront]
  rfl

end

/-! ## The body in a description -/

theorem attachedEvidenceMarker_ne : attachedEvidenceMarker ≠ "" := by decide

theorem workpadMarker_ne : workpadMarker ≠ "" := by decide

theorem isLine_attachedEvidenceMarker : IsLine attachedEvidenceMarker := by
  show '\n' ∉ attachedEvidenceMarker.toList
  decide

theorem isLine_workpadMarker : IsLine workpadMarker := by
  show '\n' ∉ workpadMarker.toList
  decide

theorem trimEnd_of_isSpace {s : String} (h : IsSpace s) : trimEnd s = "" := by
  have hlist : s.toList.rdropWhile isWhitespace = [] := List.rdropWhile_eq_nil_iff.mpr h
  rw [trimEnd, hlist]

theorem trimEnd_append_space {s space : String} (h : IsSpace space) :
    trimEnd (s ++ space) = trimEnd s := by
  rw [trimEnd_append, if_pos (trimEnd_of_isSpace h)]

theorem not_contains_of_isSpace {s pattern : String} (hs : IsSpace s)
    (hpattern : ∃ c ∈ pattern.toList, isWhitespace c = false) : contains s pattern = false := by
  obtain ⟨c, hc, hvisible⟩ := hpattern
  rw [contains, decide_eq_false_iff_not]
  intro hin
  rw [hs c (hin.subset hc)] at hvisible
  cases hvisible

variable {body : String}

theorem canonical_of_isSpace (h : IsSpace body) :
    canonicalIssueBodyWithoutWorkpad body = "" := by
  have hattached : contains body attachedEvidenceMarker = false :=
    not_contains_of_isSpace h ⟨'<', by decide, by decide⟩
  have hworkpad : contains body workpadMarker = false :=
    not_contains_of_isSpace h ⟨'<', by decide, by decide⟩
  rw [canonicalIssueBodyWithoutWorkpad, beforeFirst_of_not_contains attachedEvidenceMarker_ne hattached,
    beforeFirst_of_not_contains workpadMarker_ne hworkpad, trimEnd_of_isSpace h]

theorem canonical_attached (rest : String) :
    canonicalIssueBodyWithoutWorkpad (attachedEvidenceMarker ++ rest) = "" := by
  rw [canonicalIssueBodyWithoutWorkpad, beforeFirst_self attachedEvidenceMarker_ne,
    beforeFirst_of_not_contains workpadMarker_ne (contains_empty workpadMarker_ne)]
  exact trimEnd_of_isSpace (by simp [IsSpace])

theorem canonical_append_attached (body rest : String) :
    canonicalIssueBodyWithoutWorkpad (body ++ "\n\n" ++ (attachedEvidenceMarker ++ rest))
      = canonicalIssueBodyWithoutWorkpad body := by
  have hempty : contains "" attachedEvidenceMarker = false := contains_empty attachedEvidenceMarker_ne
  rw [canonicalIssueBodyWithoutWorkpad, canonicalIssueBodyWithoutWorkpad, blank_line_eq,
    beforeFirst_line attachedEvidenceMarker_ne isLine_attachedEvidenceMarker]
  by_cases hattached : contains body attachedEvidenceMarker = true
  · rw [if_pos hattached]
  · rw [if_neg hattached, beforeFirst_line attachedEvidenceMarker_ne isLine_attachedEvidenceMarker,
      hempty, if_neg Bool.false_ne_true, beforeFirst_self attachedEvidenceMarker_ne,
      beforeFirst_of_not_contains attachedEvidenceMarker_ne (by simpa using hattached),
      beforeFirst_line workpadMarker_ne isLine_workpadMarker]
    by_cases hworkpad : contains body workpadMarker = true
    · rw [if_pos hworkpad]
    · have hfeeds : IsSpace ("\n" ++ ("" ++ "\n" ++ "")) :=
        isSpace_newline.append (by simpa using isSpace_newline)
      have hfree : contains ("" ++ "\n" ++ "") workpadMarker = false :=
        not_contains_of_isSpace (by simpa using isSpace_newline) ⟨'<', by decide, by decide⟩
      rw [if_neg hworkpad, beforeFirst_of_not_contains workpadMarker_ne hfree,
        beforeFirst_of_not_contains workpadMarker_ne (by simpa using hworkpad), String.append_assoc,
        trimEnd_append_space hfeeds]

/-- A body that is all that is left of a description. -/
structure PlainBody (body : String) : Prop where
  attached : contains body attachedEvidenceMarker = false
  workpad : contains body workpadMarker = false
  trimmed : trimEnd body = body

theorem PlainBody.canonical (h : PlainBody body) :
    canonicalIssueBodyWithoutWorkpad body = body := by
  rw [canonicalIssueBodyWithoutWorkpad, beforeFirst_of_not_contains attachedEvidenceMarker_ne h.attached,
    beforeFirst_of_not_contains workpadMarker_ne h.workpad, h.trimmed]

theorem not_contains_of_isPrefix {s t pattern : String} (hfront : s.toList <+: t.toList)
    (h : contains t pattern = false) : contains s pattern = false := by
  rw [contains, decide_eq_false_iff_not] at h ⊢
  exact fun hin => h (hin.trans hfront.isInfix)

theorem trimEnd_trimEnd (s : String) : trimEnd (trimEnd s) = trimEnd s := by
  rw [trimEnd, trimEnd, String.toList_ofList, List.rdropWhile_idempotent]

theorem plainBody_canonical (description : String) :
    PlainBody (canonicalIssueBodyWithoutWorkpad description) := by
  have hattached := not_contains_beforeFirst attachedEvidenceMarker_ne description
  generalize hbefore : beforeFirst attachedEvidenceMarker description = before at hattached
  have hworkpad := not_contains_beforeFirst workpadMarker_ne before
  have hcut : (trimEnd (beforeFirst workpadMarker before)).toList <+: before.toList :=
    (trimEnd_isPrefix _).trans (beforeFirst_isPrefix workpadMarker before)
  rw [canonicalIssueBodyWithoutWorkpad, hbefore]
  exact ⟨not_contains_of_isPrefix hcut hattached, not_contains_of_isPrefix (trimEnd_isPrefix _) hworkpad,
    trimEnd_trimEnd _⟩

/-! ## Ticked boxes -/

/-- Characters of which some blanks have become an `x`. -/
def Ticks (before after : List Char) : Prop :=
  List.Forall₂ (fun c d => d = c ∨ c = ' ' ∧ d = 'x') before after

namespace Ticks

variable {before after front back : List Char}

theorem refl (l : List Char) : Ticks l l := List.forall₂_same.mpr fun _ _ => Or.inl rfl

theorem append {front' back' : List Char} (hfront : Ticks front front') (hback : Ticks back back') :
    Ticks (front ++ back) (front' ++ back') :=
  List.rel_append hfront hback

theorem tick (l : List Char) : Ticks (' ' :: l) ('x' :: l) := .cons (Or.inr ⟨rfl, rfl⟩) (refl l)

theorem split_after (h : Ticks before (front ++ back)) :
    ∃ front' back', before = front' ++ back' ∧ Ticks front' front ∧ Ticks back' back :=
  ⟨before.take front.length, before.drop front.length, (List.take_append_drop _ _).symm,
    List.forall₂_take_append _ _ _ h, List.forall₂_drop_append _ _ _ h⟩

theorem split_before (h : Ticks (front ++ back) after) :
    ∃ front' back', after = front' ++ back' ∧ Ticks front front' ∧ Ticks back back' :=
  ⟨after.take front.length, after.drop front.length, (List.take_append_drop _ _).symm,
    (List.forall₂_take_append _ _ _ h.flip).flip, (List.forall₂_drop_append _ _ _ h.flip).flip⟩

theorem eq_of_after (h : Ticks before after) (hfree : 'x' ∉ after) : before = after := by
  induction h with
  | nil => rfl
  | cons hchar _ ih =>
      rw [List.mem_cons, not_or] at hfree
      rcases hchar with rfl | ⟨-, rfl⟩
      · rw [ih hfree.2]
      · exact absurd rfl hfree.1

theorem eq_of_before (h : Ticks before after) (hfree : ' ' ∉ before) : before = after := by
  induction h with
  | nil => rfl
  | cons hchar _ ih =>
      rw [List.mem_cons, not_or] at hfree
      rcases hchar with rfl | ⟨rfl, -⟩
      · rw [ih hfree.2]
      · exact absurd rfl hfree.1

/-- What shows no `x` is not made by ticking. -/
theorem infix_before {pattern : List Char} (h : Ticks before after) (hfree : 'x' ∉ pattern)
    (hin : pattern <:+: after) : pattern <:+: before := by
  obtain ⟨front, back, rfl⟩ := hin
  obtain ⟨frontPattern', back', rfl, hfront, -⟩ := h.split_after
  obtain ⟨front', pattern', rfl, -, hpattern⟩ := hfront.split_after
  exact ⟨front', back', by rw [hpattern.eq_of_after hfree]⟩

theorem infix_after {pattern : List Char} (h : Ticks before after) (hfree : ' ' ∉ pattern)
    (hin : pattern <:+: before) : pattern <:+: after := by
  obtain ⟨front, back, rfl⟩ := hin
  obtain ⟨frontPattern', back', rfl, hfront, -⟩ := h.split_before
  obtain ⟨front', pattern', rfl, -, hpattern⟩ := hfront.split_before
  exact ⟨front', back', by rw [hpattern.eq_of_before hfree]⟩

end Ticks

theorem checkMarkdownCheckboxLine_box {line : String} {space rest : List Char} {bullet : Char}
    (hspace : ∀ c ∈ space, isWhitespace c = true) (hbullet : bullet = '-' ∨ bullet = '*')
    (hline : line.toList = space ++ bullet :: ' ' :: '[' :: ' ' :: ']' :: rest) :
    (checkMarkdownCheckboxLine line).toList
      = space ++ bullet :: ' ' :: '[' :: 'x' :: ']' :: rest := by
  have hvisible : ¬ isWhitespace bullet = true := by rcases hbullet with rfl | rfl <;> decide
  have hstart : (startsWith (trimStart line) "- [ ]" || startsWith (trimStart line) "* [ ]")
      = true := by
    rw [trimStart, hline, List.dropWhile_append_of_pos hspace, List.dropWhile_cons_of_neg hvisible]
    simp only [startsWith, String.toList_ofList]
    rcases hbullet with rfl | rfl <;> rfl
  have hopen : '[' ∉ space ++ [bullet, ' '] := by
    intro hmem
    rcases List.mem_append.mp hmem with hmem | hmem
    · exact absurd (hspace _ hmem) (by decide)
    · rcases hbullet with rfl | rfl <;> exact absurd hmem (by decide)
  have hcut : cutList ['[', ' ', ']'] line.toList = some (space ++ [bullet, ' '], rest) := by
    have hskip := cutList_skip (p := [' ', ']']) (s := '[' :: ' ' :: ']' :: rest) hopen
    have hbox : cutList ['[', ' ', ']'] ('[' :: ' ' :: ']' :: rest) = some ([], rest) := by
      rw [cutList, if_pos (by simp [List.isPrefixOf])]
      rfl
    rw [hbox] at hskip
    rw [hline]
    simpa using hskip
  have hpattern : "[ ]".toList = ['[', ' ', ']'] := by decide
  have hticked : "[x]".toList = ['[', 'x', ']'] := by decide
  rw [checkMarkdownCheckboxLine, if_pos hstart, replaceFirst, cut, hpattern, hcut]
  simp [String.toList_append, hticked]

theorem checkMarkdownCheckboxLine_cases (line : String) :
    checkMarkdownCheckboxLine line = line ∨
      ∃ (space : List Char) (bullet : Char) (rest : List Char),
        (∀ c ∈ space, isWhitespace c = true) ∧ (bullet = '-' ∨ bullet = '*')
        ∧ line.toList = space ++ bullet :: ' ' :: '[' :: ' ' :: ']' :: rest
        ∧ (checkMarkdownCheckboxLine line).toList
          = space ++ bullet :: ' ' :: '[' :: 'x' :: ']' :: rest := by
  by_cases hbox : (startsWith (trimStart line) "- [ ]" || startsWith (trimStart line) "* [ ]") = true
  · have hstart : ∃ bullet rest, (bullet = '-' ∨ bullet = '*')
        ∧ line.toList.dropWhile isWhitespace = bullet :: ' ' :: '[' :: ' ' :: ']' :: rest := by
      simp only [Bool.or_eq_true, startsWith, trimStart, String.toList_ofList,
        List.isPrefixOf_iff_prefix] at hbox
      rcases hbox with ⟨rest, hrest⟩ | ⟨rest, hrest⟩
      · exact ⟨'-', rest, Or.inl rfl, hrest.symm⟩
      · exact ⟨'*', rest, Or.inr rfl, hrest.symm⟩
    obtain ⟨bullet, rest, hbullet, hdrop⟩ := hstart
    have hspace : ∀ c ∈ line.toList.takeWhile isWhitespace, isWhitespace c = true := fun c hc =>
      List.mem_takeWhile_imp hc
    have hline : line.toList = line.toList.takeWhile isWhitespace
        ++ bullet :: ' ' :: '[' :: ' ' :: ']' :: rest := by
      conv_lhs => rw [← List.takeWhile_append_dropWhile (p := isWhitespace) (l := line.toList), hdrop]
    exact Or.inr ⟨_, bullet, rest, hspace, hbullet, hline,
      checkMarkdownCheckboxLine_box hspace hbullet hline⟩
  · left
    rw [checkMarkdownCheckboxLine]
    exact if_neg hbox

theorem ticks_checkMarkdownCheckboxLine (line : String) :
    Ticks line.toList (checkMarkdownCheckboxLine line).toList := by
  rcases checkMarkdownCheckboxLine_cases line with h | ⟨space, bullet, rest, -, -, hline, hticked⟩
  · rw [h]
    exact Ticks.refl _
  · have htick : Ticks (' ' :: ']' :: rest) ('x' :: ']' :: rest) := Ticks.tick _
    have happend := (Ticks.refl (space ++ [bullet, ' ', '['])).append htick
    rw [hline, hticked]
    simpa using happend

theorem checkMarkdownCheckboxLine_again (line : String) :
    let ticked := checkMarkdownCheckboxLine line
    startsWith (trimStart ticked) "```" = startsWith (trimStart line) "```"
      ∧ markdownHeadingTitle (trimStart ticked) = markdownHeadingTitle (trimStart line)
      ∧ checkMarkdownCheckboxLine ticked = ticked := by
  dsimp only
  rcases checkMarkdownCheckboxLine_cases line with
    h | ⟨space, bullet, rest, hspace, hbullet, hline, hticked⟩
  · simp only [h, and_self]
  · have htrim : ∀ (s : String) (tail : List Char), s.toList = space ++ bullet :: tail →
        trimStart s = String.ofList (bullet :: tail) := by
      intro s tail hs
      have hvisible : ¬ isWhitespace bullet = true := by rcases hbullet with rfl | rfl <;> decide
      rw [trimStart, hs, List.dropWhile_append_of_pos hspace, List.dropWhile_cons_of_neg hvisible]
    have hfence : ∀ tail, startsWith (String.ofList (bullet :: tail)) "```" = false := by
      intro tail
      have hpattern : "```".toList = ['`', '`', '`'] := by decide
      rw [startsWith, hpattern, String.toList_ofList]
      rcases hbullet with rfl | rfl <;> rfl
    have hheading : ∀ tail, markdownHeadingTitle (String.ofList (bullet :: tail)) = none := by
      intro tail
      have hmark : (bullet == '#') = false := by rcases hbullet with rfl | rfl <;> decide
      rw [markdownHeadingTitle, String.toList_ofList, List.takeWhile_cons, hmark]
      rfl
    have hdone : ∀ tail, (startsWith (String.ofList (bullet :: ' ' :: '[' :: 'x' :: tail)) "- [ ]"
        || startsWith (String.ofList (bullet :: ' ' :: '[' :: 'x' :: tail)) "* [ ]") = false := by
      intro tail
      have hdash : "- [ ]".toList = ['-', ' ', '[', ' ', ']'] := by decide
      have hstar : "* [ ]".toList = ['*', ' ', '[', ' ', ']'] := by decide
      rw [startsWith, startsWith, hdash, hstar, String.toList_ofList]
      rcases hbullet with rfl | rfl <;> rfl
    refine ⟨?_, ?_, ?_⟩
    · rw [htrim _ _ hline, htrim _ _ hticked, hfence, hfence]
    · rw [htrim _ _ hline, htrim _ _ hticked, hheading, hheading]
    · generalize checkMarkdownCheckboxLine line = ticked at hticked
      rw [checkMarkdownCheckboxLine]
      rw [htrim _ _ hticked, hdone, if_neg Bool.false_ne_true]

/-- Is what follows a line outside of a fence in a section of the agents? -/
def inReviewSectionBehind (inFence inReviewSection : Bool) (line : String) : Bool :=
  if inFence then inReviewSection
  else
    match markdownHeadingTitle (trimStart line) with
    | some title => reviewChecklistSectionIsAgentOwned title
    | none => inReviewSection

theorem checkLines_fence {line : String} (h : startsWith (trimStart line) "```" = true)
    (inFence inReviewSection : Bool) (lines : List String) :
    checkLines inFence inReviewSection (line :: lines)
      = line :: checkLines (!inFence) inReviewSection lines := by
  rw [checkLines]
  exact if_pos h

theorem checkLines_cons {line : String} (h : ¬ startsWith (trimStart line) "```" = true)
    (inFence inReviewSection : Bool) (lines : List String) :
    checkLines inFence inReviewSection (line :: lines)
      = (if inReviewSectionBehind inFence inReviewSection line && !inFence then
          checkMarkdownCheckboxLine line else line)
        :: checkLines inFence (inReviewSectionBehind inFence inReviewSection line) lines := by
  unfold inReviewSectionBehind
  cases inFence with
  | true => simp only [checkLines, if_neg h, if_true]
  | false =>
      cases htitle : markdownHeadingTitle (trimStart line) <;>
        simp only [checkLines, if_neg h, htitle, Bool.false_eq_true, if_false]

theorem ticks_checkLines (lines : List String) : ∀ inFence inReviewSection : Bool,
    List.Forall₂ (fun line ticked => Ticks line.toList ticked.toList) lines
      (checkLines inFence inReviewSection lines) := by
  induction lines with
  | nil => exact fun _ _ => .nil
  | cons line lines ih =>
      intro inFence inReviewSection
      by_cases hmark : startsWith (trimStart line) "```" = true
      · rw [checkLines_fence hmark]
        exact .cons (Ticks.refl _) (ih _ _)
      · rw [checkLines_cons hmark]
        refine .cons ?_ (ih _ _)
        split
        · exact ticks_checkMarkdownCheckboxLine line
        · exact Ticks.refl _

theorem checkLines_again (lines : List String) : ∀ inFence inReviewSection : Bool,
    checkLines inFence inReviewSection (checkLines inFence inReviewSection lines)
      = checkLines inFence inReviewSection lines := by
  induction lines with
  | nil => exact fun _ _ => rfl
  | cons line lines ih =>
      intro inFence inReviewSection
      by_cases hmark : startsWith (trimStart line) "```" = true
      · rw [checkLines_fence hmark, checkLines_fence hmark, ih]
      · rw [checkLines_cons hmark]
        generalize hsection : inReviewSectionBehind inFence inReviewSection line = inSection
        by_cases hticks : (inSection && !inFence) = true
        · obtain ⟨hfence, hheading, hagain⟩ := checkMarkdownCheckboxLine_again line
          have hsame : inReviewSectionBehind inFence inReviewSection (checkMarkdownCheckboxLine line)
              = inSection := by
            rw [← hsection, inReviewSectionBehind, hheading, inReviewSectionBehind]
          have hopen : ¬ startsWith (trimStart (checkMarkdownCheckboxLine line)) "```" = true := by
            rw [hfence]
            exact hmark
          rw [if_pos hticks, checkLines_cons hopen, hsame, if_pos hticks, hagain, ih]
        · rw [if_neg hticks, checkLines_cons hmark, hsection, if_neg hticks, ih]

theorem isLine_of_mem_checkLines {lines : List String} (h : ∀ line ∈ lines, IsLine line)
    {inFence inReviewSection : Bool} :
    ∀ ticked ∈ checkLines inFence inReviewSection lines, IsLine ticked := by
  intro ticked hticked
  have hticks := ticks_checkLines lines inFence inReviewSection
  generalize checkLines inFence inReviewSection lines = tickedLines at hticks hticked
  induction hticks with
  | nil => exact absurd hticked List.not_mem_nil
  | cons hline _ ih =>
      rcases List.mem_cons.mp hticked with rfl | hrest
      · intro hfeed
        have hfree : 'x' ∉ ['\n'] := by decide
        have hin := hline.infix_before hfree ((List.singleton_infix_iff _ _).mpr hfeed)
        exact h _ List.mem_cons_self ((List.singleton_infix_iff _ _).mp hin)
      · exact ih (fun line hmem => h line (List.mem_cons_of_mem _ hmem)) hrest

/-! ## A ticked body -/

theorem ticks_join {lines ticked : List String}
    (h : List.Forall₂ (fun line ticked => Ticks line.toList ticked.toList) lines ticked) :
    Ticks (join "\n" lines).toList (join "\n" ticked).toList := by
  induction h with
  | nil => exact Ticks.refl _
  | @cons line ticked lines tickedLines hline hlines ih =>
      cases hlines with
      | nil => simpa using hline
      | cons hnext hlines =>
          rw [join_cons _ (List.cons_ne_nil _ _), join_cons _ (List.cons_ne_nil _ _)]
          simp only [String.toList_append]
          exact (hline.append (Ticks.refl _)).append ih

theorem getLast?_of_trimEnd {s : String} (h : trimEnd s = s) : s.toList.getLast? ≠ some '\n' := by
  intro hlast
  have hdrop : s.toList.rdropWhile isWhitespace = s.toList := by
    conv_rhs => rw [← h]
    rw [trimEnd, String.toList_ofList]
  obtain ⟨front, hfront⟩ := List.getLast?_eq_some_iff.mp hlast
  have hvisible := List.rdropWhile_eq_self_iff.mp hdrop (by simp [hfront])
  have hfeed : isWhitespace '\n' = false := by simpa [hfront] using hvisible
  exact absurd hfeed (by decide)

theorem check_of_trimEnd (h : trimEnd body = body) :
    checkReviewVerifiedIssueBodyCheckboxes body
      = join "\n" (checkLines false false (terminated body)) := by
  by_cases hne : body = ""
  · rw [hne]
    decide
  · rw [checkReviewVerifiedIssueBodyCheckboxes, if_neg (getLast?_of_trimEnd h),
      lines_of_trimEnd h hne]

theorem ticks_check (h : trimEnd body = body) :
    Ticks (relay body).toList (checkReviewVerifiedIssueBodyCheckboxes body).toList := by
  rw [check_of_trimEnd h]
  exact ticks_join (ticks_checkLines _ _ _)

theorem Ticks.trimEnd {s t : String} (h : Ticks s.toList t.toList) (hs : trimEnd s = s) :
    trimEnd t = t := by
  by_cases hne : s = ""
  · rw [hne, String.toList_empty] at h
    have ht : t = "" := String.toList_inj.mp (List.forall₂_nil_left_iff.mp h)
    rw [ht]
    decide
  · obtain ⟨init, last, c, hc, hsplit⟩ := splitChar_of_trimEnd hs hne
    have hsuffix := suffix_join_concat "\n" (init.map String.ofList) (String.ofList (last ++ [c]))
    have hpieces : splitChar '\n' s = init.map String.ofList ++ [String.ofList (last ++ [c])] := by
      rw [splitChar, hsplit, List.map_append, List.map_singleton]
    rw [← hpieces, join_splitChar, String.toList_ofList] at hsuffix
    obtain ⟨front, hfront⟩ := hsuffix
    rw [← hfront, ← List.append_assoc] at h
    obtain ⟨front', last', ht, -, hlast⟩ := h.split_before
    have hblank : ' ' ∉ [c] := by
      rw [List.mem_singleton]
      rintro rfl
      exact absurd hc (by decide)
    rw [← hlast.eq_of_before hblank] at ht
    exact @trimEnd_eq_self_of_suffix _ [] _ hc ⟨front', by rw [ht]; rfl⟩

theorem trimEnd_check (h : trimEnd body = body) :
    trimEnd (checkReviewVerifiedIssueBodyCheckboxes body)
      = checkReviewVerifiedIssueBodyCheckboxes body :=
  (ticks_check h).trimEnd (trimEnd_relay h)

/-- A marker on a line without an `x` is not made by ticking. -/
theorem contains_of_contains_check {body marker : String} (h : trimEnd body = body)
    (hline : IsLine marker) (hne : marker ≠ "") (hfree : 'x' ∉ marker.toList)
    (hmarker : contains (checkReviewVerifiedIssueBodyCheckboxes body) marker = true) :
    contains body marker = true := by
  have hrelay : contains (relay body) marker = true :=
    decide_eq_true ((ticks_check h).infix_before hfree (of_decide_eq_true hmarker))
  obtain ⟨line, hmem, hcontains⟩ :=
    exists_contains_of_join hne (fun _ _ => contains_line hline) hrelay
  obtain ⟨piece, hpiece, rfl⟩ := List.mem_map.mp hmem
  obtain ⟨space, -, happend⟩ := chomp_append piece
  refine contains_trans (contains_of_mem_splitChar hpiece) ?_
  rw [← happend]
  exact contains_append_left hcontains space

theorem PlainBody.check (h : PlainBody body) :
    PlainBody (checkReviewVerifiedIssueBodyCheckboxes body) where
  attached := by
    rw [← Bool.not_eq_true]
    intro hmarker
    have hfree : 'x' ∉ attachedEvidenceMarker.toList := by decide
    have hbody := contains_of_contains_check h.trimmed isLine_attachedEvidenceMarker
      attachedEvidenceMarker_ne hfree hmarker
    rw [h.attached] at hbody
    cases hbody
  workpad := by
    rw [← Bool.not_eq_true]
    intro hmarker
    have hfree : 'x' ∉ workpadMarker.toList := by decide
    have hbody := contains_of_contains_check h.trimmed isLine_workpadMarker workpadMarker_ne hfree
      hmarker
    rw [h.workpad] at hbody
    cases hbody
  trimmed := trimEnd_check h.trimmed

/-- A second ticking finds nothing to do exactly when no line of the body ends in two
carriage returns. -/
theorem check_check_iff (h : trimEnd body = body) :
    checkReviewVerifiedIssueBodyCheckboxes (checkReviewVerifiedIssueBodyCheckboxes body)
        = checkReviewVerifiedIssueBodyCheckboxes body ↔
      contains body "\r\r\n" = false := by
  have hticked := trimEnd_check h
  have hticks := ticks_check h
  have hdef := check_of_trimEnd h
  generalize hbody : checkReviewVerifiedIssueBodyCheckboxes body = ticked at *
  have hreturns : contains ticked "\r\n" = contains body "\r\r\n" := by
    have hpattern : "\r\n".toList = ['\r', '\n'] := by decide
    rw [← contains_relay_return, contains, contains, hpattern, decide_eq_decide]
    exact ⟨hticks.infix_before (by decide), hticks.infix_after (by decide)⟩
  rw [← hreturns, ← relay_eq_self_iff hticked]
  constructor
  · intro hsame
    have hlength := (ticks_check hticked).length_eq
    rw [hsame] at hlength
    exact String.toList_inj.mp ((relay_sublist ticked).eq_of_length hlength)
  · intro hrelay
    have hlines : ∀ line ∈ checkLines false false (terminated body), IsLine line :=
      isLine_of_mem_checkLines fun _ => isLine_of_mem_terminated
    have hne : checkLines false false (terminated body) ≠ [] := by
      intro hnil
      have hlength := (ticks_checkLines (terminated body) false false).length_eq
      rw [hnil] at hlength
      exact terminated_ne_nil body (List.eq_nil_of_length_eq_zero hlength)
    have hterminated : terminated ticked = checkLines false false (terminated body) := by
      have hsplit := congrArg (splitChar '\n') hrelay
      rw [relay, splitChar_join (terminated_ne_nil ticked) fun _ => isLine_of_mem_terminated] at hsplit
      rw [hsplit, hdef, splitChar_join hne hlines]
    rw [check_of_trimEnd hticked, hterminated, checkLines_again, hdef]

end SheaSymphony.Review

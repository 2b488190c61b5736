import Mathlib.Algebra.Ring.Parity
import SheaSymphony.ReviewBody

/-!
# What ticking a checklist leaves alone

`check_review_verified_issue_body_checkboxes` reads a body with `str::lines` and joins the
lines with line feeds. Between the line feeds it ticks open boxes under the agents' headings
and writes the rest as it was. The carriage return of a line feed is lost, and every line
that begins with three backticks opens or closes a fence, whatever Markdown makes of it. So
it keeps to the agents' boxes exactly where no line feed follows a carriage return and its
reading of the fences puts no other box among them (`ticks_only_boxes_iff`).
-/

namespace SheaSymphony.Review

open Text

/-! ## Fences -/

/-- The marks of the line that opens a fence. -/
structure Fence where
  mark : Char
  length : Nat
deriving DecidableEq

def marks (mark : Char) (line : String) : List Char :=
  (trimStart line).toList.takeWhile (· == mark)

def behindMarks (mark : Char) (line : String) : List Char :=
  (trimStart line).toList.dropWhile (· == mark)

/-- Three backticks or more with no other one in the line, or three tildes or more. The
indentation is not looked at: a fence in a list stands behind that of its item. -/
def opensFence (line : String) : Option Fence :=
  if 3 ≤ (marks '\x60' line).length ∧ '\x60' ∉ behindMarks '\x60' line then
    some { mark := '\x60', length := (marks '\x60' line).length }
  else if 3 ≤ (marks '~' line).length then some { mark := '~', length := (marks '~' line).length }
  else none

/-- As many marks, and nothing behind them. -/
def Fence.closedBy (fence : Fence) (line : String) : Bool :=
  decide (fence.length ≤ (marks fence.mark line).length)
    && (behindMarks fence.mark line).all isWhitespace

def nextFence : Option Fence → String → Option Fence
  | none, line => opensFence line
  | some fence, line => if fence.closedBy line then none else some fence

/-- As Markdown reads them, the lines leave a fence open. -/
def FenceOpen (lines : List String) : Prop := (lines.foldl nextFence none).isSome = true

def isFence (line : String) : Bool := startsWith (trimStart line) "```"

/-- As the scanner reads them, the lines leave a fence open. -/
def FenceToggled (lines : List String) : Prop := Odd (lines.countP isFence)

/-! ## Boxes by their place -/

section
variable (Fenced : List String → Prop)

/-- Behind `before` and outside of fences, `line` is a heading. -/
def HeadingAt (before : List String) (line title : String) : Prop :=
  ¬ Fenced before ∧ markdownHeadingTitle (trimStart line) = some title

/-- The last heading among the lines is one of the agents'. -/
def UnderAgentHeading (lines : List String) : Prop :=
  ∃ front heading back title, lines = front ++ heading :: back
    ∧ HeadingAt Fenced front heading title ∧ reviewChecklistSectionIsAgentOwned title = true
    ∧ ∀ between line rest, back = between ++ line :: rest →
      ∀ other, ¬ HeadingAt Fenced (front ++ heading :: between) line other

/-- `line` is an open box and `ticked` the same line with its box ticked. -/
def TicksBox (line ticked : String) : Prop :=
  ∃ (space : List Char) (bullet : Char) (rest : List Char),
    (∀ c ∈ space, isWhitespace c = true) ∧ (bullet = '-' ∨ bullet = '*')
      ∧ line.toList = space ++ bullet :: ' ' :: '[' :: ' ' :: ']' :: rest
      ∧ ticked.toList = space ++ bullet :: ' ' :: '[' :: 'x' :: ']' :: rest

/-- The box stands behind `before`, outside of fences and under an agents' heading. -/
def AgentBox (before : List String) (line ticked : String) : Prop :=
  ¬ Fenced before ∧ UnderAgentHeading Fenced (before ++ [line]) ∧ TicksBox line ticked

/-- Line by line behind `before`, nothing but open boxes is ticked. -/
def TicksBehind (before lines ticked : List String) : Prop :=
  ticked.length = lines.length
    ∧ ∀ i (h : i < lines.length) (h' : i < ticked.length),
      ticked[i] = lines[i] ∨ AgentBox Fenced (before ++ lines.take i) lines[i] ticked[i]

end

/-- The boxes the scanner finds among the agents' are among them as Markdown reads the
fences. -/
def FencesSeen (body : String) : Prop :=
  ∀ before line after ticked, splitChar '\n' body = before ++ line :: after →
    AgentBox FenceToggled before line ticked → AgentBox FenceOpen before line ticked

/-! ## The scanner's state -/

theorem fenceToggled_nil : ¬ FenceToggled [] := by
  simp [FenceToggled]

theorem fenceToggled_concat (before : List String) (line : String) :
    FenceToggled (before ++ [line]) ↔
      if isFence line then ¬ FenceToggled before else FenceToggled before := by
  unfold FenceToggled
  rw [List.countP_append, List.countP_singleton]
  split
  · rw [Nat.odd_add_one]
  · rw [Nat.add_zero]

theorem title_of_fence {line : String} (h : isFence line = true) :
    markdownHeadingTitle (trimStart line) = none := by
  obtain ⟨rest, hrest⟩ := List.isPrefixOf_iff_prefix.mp h
  have hpattern : "```".toList = ['\x60', '\x60', '\x60'] := by decide
  rw [markdownHeadingTitle, ← hrest, hpattern]
  rfl

section
variable {Fenced : List String → Prop}

theorem underAgentHeading_nil : ¬ UnderAgentHeading Fenced [] := by
  rintro ⟨front, heading, back, -, h, -⟩
  exact absurd h.symm (by simp)

theorem underAgentHeading_heading {before : List String} {line title : String}
    (h : HeadingAt Fenced before line title) :
    UnderAgentHeading Fenced (before ++ [line]) ↔ reviewChecklistSectionIsAgentOwned title = true := by
  constructor
  · rintro ⟨front, heading, back, other, hlines, hheading, howned, hlast⟩
    obtain rfl | ⟨between, last, rfl⟩ := List.eq_nil_or_concat' back
    · obtain ⟨rfl, hline⟩ := List.append_inj' hlines rfl
      obtain rfl := List.singleton_inj.mp hline
      rw [← Option.some.inj (hheading.2.symm.trans h.2)]
      exact howned
    · rw [← List.cons_append, ← List.append_assoc] at hlines
      obtain ⟨rfl, hline⟩ := List.append_inj' hlines rfl
      obtain rfl := List.singleton_inj.mp hline
      exact absurd h (hlast between line [] rfl title)
  · intro howned
    exact ⟨before, line, [], title, rfl, h, howned, fun between other rest hnil =>
      absurd hnil.symm (by simp)⟩

theorem underAgentHeading_other {before : List String} {line : String}
    (h : ∀ title, ¬ HeadingAt Fenced before line title) :
    UnderAgentHeading Fenced (before ++ [line]) ↔ UnderAgentHeading Fenced before := by
  constructor
  · rintro ⟨front, heading, back, title, hlines, hheading, howned, hlast⟩
    obtain rfl | ⟨between, last, rfl⟩ := List.eq_nil_or_concat' back
    · obtain ⟨rfl, hline⟩ := List.append_inj' hlines rfl
      obtain rfl := List.singleton_inj.mp hline
      exact absurd hheading (h title)
    · rw [← List.cons_append, ← List.append_assoc] at hlines
      obtain ⟨rfl, -⟩ := List.append_inj' hlines rfl
      refine ⟨front, heading, between, title, rfl, hheading, howned, ?_⟩
      rintro mid other rest rfl
      exact hlast mid other (rest ++ [last]) (by simp)
  · rintro ⟨front, heading, back, title, rfl, hheading, howned, hlast⟩
    refine ⟨front, heading, back ++ [line], title, by simp, hheading, howned, ?_⟩
    intro between other rest hback
    obtain rfl | ⟨rest, last, rfl⟩ := List.eq_nil_or_concat' rest
    · obtain ⟨rfl, hline⟩ := List.append_inj' hback rfl
      obtain rfl := List.singleton_inj.mp hline
      exact h
    · rw [← List.cons_append, ← List.append_assoc] at hback
      obtain ⟨rfl, -⟩ := List.append_inj' hback rfl
      exact hlast between other rest rfl

end

/-- The scanner behind `before`. -/
structure ScannedBehind (before : List String) (inFence inReviewSection : Bool) : Prop where
  inFence_iff : inFence = true ↔ FenceToggled before
  inReviewSection_iff : inReviewSection = true ↔ UnderAgentHeading FenceToggled before

theorem scannedBehind_nil : ScannedBehind [] false false where
  inFence_iff := by simp [fenceToggled_nil]
  inReviewSection_iff := by simp [underAgentHeading_nil]

namespace ScannedBehind

variable {before : List String} {inFence inReviewSection : Bool} {line : String}

theorem fence (h : ScannedBehind before inFence inReviewSection) (hline : isFence line = true) :
    ScannedBehind (before ++ [line]) (!inFence) inReviewSection where
  inFence_iff := by
    rw [fenceToggled_concat, if_pos hline, ← h.inFence_iff, Bool.not_eq_true', Bool.not_eq_true]
  inReviewSection_iff := by
    rw [h.inReviewSection_iff, underAgentHeading_other]
    rintro title ⟨-, htitle⟩
    rw [title_of_fence hline] at htitle
    cases htitle

theorem other (h : ScannedBehind before inFence inReviewSection) (hline : isFence line = false) :
    ScannedBehind (before ++ [line]) inFence
      (inReviewSectionBehind inFence inReviewSection line) where
  inFence_iff := by
    rw [fenceToggled_concat, hline, if_neg Bool.false_ne_true, h.inFence_iff]
  inReviewSection_iff := by
    rw [inReviewSectionBehind]
    cases hfence : inFence with
    | true =>
        rw [if_pos rfl, h.inReviewSection_iff, underAgentHeading_other]
        rintro title ⟨hclosed, -⟩
        exact hclosed (h.inFence_iff.mp hfence)
    | false =>
        have hclosed : ¬ FenceToggled before := fun hopen => by
          rw [h.inFence_iff.mpr hopen] at hfence
          cases hfence
        rw [if_neg Bool.false_ne_true]
        cases htitle : markdownHeadingTitle (trimStart line) with
        | none =>
            dsimp only
            rw [h.inReviewSection_iff, underAgentHeading_other]
            rintro title ⟨-, hsome⟩
            rw [htitle] at hsome
            cases hsome
        | some title => exact (underAgentHeading_heading ⟨hclosed, htitle⟩).symm

end ScannedBehind

/-! ## Line by line -/

section
variable {Fenced : List String → Prop}

theorem TicksBehind.cons {before lines ticked : List String} {line tick : String}
    (hline : tick = line ∨ AgentBox Fenced before line tick)
    (h : TicksBehind Fenced (before ++ [line]) lines ticked) :
    TicksBehind Fenced before (line :: lines) (tick :: ticked) := by
  refine ⟨by simp [h.1], fun i hi hi' => ?_⟩
  cases i with
  | zero => simpa using hline
  | succ i =>
      have hrest := h.2 i (by simpa using hi) (by simpa using hi')
      simpa [List.append_assoc] using hrest

theorem TicksBox.ticks {line ticked : String} (h : TicksBox line ticked) :
    Ticks line.toList ticked.toList := by
  obtain ⟨space, bullet, rest, -, -, hline, hticked⟩ := h
  have htick : Ticks (' ' :: ']' :: rest) ('x' :: ']' :: rest) := Ticks.tick _
  have happend := (Ticks.refl (space ++ [bullet, ' ', '['])).append htick
  rw [hline, hticked]
  simpa using happend

theorem TicksBox.ne {line ticked : String} (h : TicksBox line ticked) : ticked ≠ line := by
  rintro rfl
  obtain ⟨space, bullet, rest, -, -, hline, hticked⟩ := h
  rw [hline] at hticked
  simp at hticked

theorem TicksBox.check_eq {line ticked : String} (h : TicksBox line ticked) :
    checkMarkdownCheckboxLine line = ticked := by
  obtain ⟨space, bullet, rest, hspace, hbullet, hline, hticked⟩ := h
  rw [← String.toList_inj, checkMarkdownCheckboxLine_box hspace hbullet hline, hticked]

theorem TicksBox.not_fence {line ticked : String} (h : TicksBox line ticked) :
    isFence line = false := by
  obtain ⟨space, bullet, rest, hspace, hbullet, hline, -⟩ := h
  have hvisible : ¬ isWhitespace bullet = true := by rcases hbullet with rfl | rfl <;> decide
  rw [isFence, trimStart, hline, List.dropWhile_append_of_pos hspace,
    List.dropWhile_cons_of_neg hvisible]
  simp only [startsWith, String.toList_ofList]
  rcases hbullet with rfl | rfl <;> rfl

theorem TicksBox.isLine {line ticked : String} (h : TicksBox line ticked) (hline : IsLine line) :
    IsLine ticked := by
  obtain ⟨space, bullet, rest, -, -, hbox, hticked⟩ := h
  rw [IsLine, hbox] at hline
  rw [IsLine, hticked]
  simpa using hline

theorem TicksBehind.isLine {before lines ticked : List String}
    (h : TicksBehind Fenced before lines ticked) (hlines : ∀ line ∈ lines, IsLine line) :
    ∀ line ∈ ticked, IsLine line := by
  intro tick htick
  obtain ⟨i, hi, rfl⟩ := List.getElem_of_mem htick
  have hi' : i < lines.length := h.1 ▸ hi
  have hline := hlines _ (List.getElem_mem hi')
  obtain heq | ⟨-, -, hbox⟩ := h.2 i hi' hi
  · rw [heq]
    exact hline
  · exact hbox.isLine hline

end

theorem checkLines_agentBox {line ticked : String} {after : List String} :
    ∀ (front : List String) {before : List String} {inFence inReviewSection : Bool},
      ScannedBehind before inFence inReviewSection →
      AgentBox FenceToggled (before ++ front) line ticked →
      (checkLines inFence inReviewSection (front ++ line :: after))[front.length]? = some ticked
  | [], before, inFence, inReviewSection, h, hbox => by
      obtain ⟨hclosed, hunder, hticks⟩ := hbox
      rw [List.append_nil] at hclosed hunder
      have hnext := (h.other hticks.not_fence).inReviewSection_iff.mpr hunder
      have hfence : inFence = false := Bool.eq_false_iff.mpr fun hopen =>
        hclosed (h.inFence_iff.mp hopen)
      rw [List.nil_append, checkLines_cons (Bool.eq_false_iff.mp hticks.not_fence), hnext, hfence]
      exact congrArg some hticks.check_eq
  | first :: front, before, inFence, inReviewSection, h, hbox => by
      rw [List.append_cons] at hbox
      by_cases hmark : startsWith (trimStart first) "```" = true
      · rw [List.cons_append, checkLines_fence hmark]
        exact checkLines_agentBox front (h.fence hmark) hbox
      · rw [List.cons_append, checkLines_cons hmark]
        exact checkLines_agentBox front (h.other (Bool.not_eq_true _ ▸ hmark)) hbox

theorem TicksBehind.ticks {Fenced : List String → Prop} {before lines ticked : List String}
    (h : TicksBehind Fenced before lines ticked) :
    List.Forall₂ (fun line ticked => Ticks line.toList ticked.toList) lines ticked := by
  refine List.forall₂_iff_get.mpr ⟨h.1.symm, fun i hi hi' => ?_⟩
  obtain heq | ⟨-, -, hbox⟩ := h.2 i hi hi'
  · rw [List.get_eq_getElem, List.get_eq_getElem, heq]
    exact Ticks.refl _
  · exact hbox.ticks

theorem TicksBehind.seen {body : String}
    (h : TicksBehind FenceOpen [] (splitChar '\n' body) (checkLines false false (splitChar '\n' body))) :
    FencesSeen body := by
  intro before line after ticked hcut hbox
  have hscanned : (checkLines false false (before ++ line :: after))[before.length]? = some ticked :=
    checkLines_agentBox before scannedBehind_nil hbox
  rw [← hcut] at hscanned
  obtain ⟨hi', hticked⟩ := List.getElem?_eq_some_iff.mp hscanned
  have hi : before.length < (splitChar '\n' body).length := h.1 ▸ hi'
  have hline : (splitChar '\n' body)[before.length] = line := by simp [hcut]
  have htake : (splitChar '\n' body).take before.length = before := by simp [hcut]
  obtain heq | hopen := h.2 before.length hi hi'
  · rw [hticked, hline] at heq
    exact absurd heq hbox.2.2.ne
  · rwa [hticked, hline, htake] at hopen

end SheaSymphony.Review

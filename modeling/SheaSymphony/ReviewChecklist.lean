import SheaSymphony.Lines

/-!
# The checklist of a reviewed issue

The body of `lanes/review/automatic.rs` that a review is about, and the boxes a
passed review ticks in it: those in the sections that belong to the agents,
outside of code fences.
-/

namespace SheaSymphony.Review

/-- `str::split(pattern).next()`. -/
def beforeFirst (pattern s : String) : String :=
  match Text.cut s pattern with
  | some (before, _) => before
  | none => s

def attachedEvidenceMarker : String := "<!-- shea-symphony-attached-evidence -->"

def workpadMarker : String := "<!-- shea-symphony-workpad -->"

/-- The description without what is attached to it. -/
def canonicalIssueBodyWithoutWorkpad (description : String) : String :=
  Text.trimEnd (beforeFirst workpadMarker (beforeFirst attachedEvidenceMarker description))

/-! ## Boxes -/

def markdownHeadingTitle (line : String) : Option String :=
  let marks := line.toList.takeWhile (· == '#')
  let rest := line.toList.dropWhile (· == '#')
  if marks.length = 0 ∨ 6 < marks.length then none
  else if rest.head?.any Text.isWhitespace then
    some (Text.trim (Text.trimMatches (· == '#') (Text.trim (String.ofList rest))))
  else none

def reviewChecklistSectionIsAgentOwned (title : String) : Bool :=
  ["expected outcome", "completion criteria", "functional verification", "context verification"].contains
    (Text.toAsciiLowercase title)

def checkMarkdownCheckboxLine (line : String) : String :=
  let trimmed := Text.trimStart line
  if Text.startsWith trimmed "- [ ]" || Text.startsWith trimmed "* [ ]" then
    Text.replaceFirst line "[ ]" "[x]"
  else line

/-- The lines behind, in or out of a fence and of an agents' section. -/
def checkLines : Bool → Bool → List String → List String
  | _, _, [] => []
  | inFence, inReviewSection, line :: lines =>
      let trimmed := Text.trimStart line
      if Text.startsWith trimmed "```" then line :: checkLines (!inFence) inReviewSection lines
      else
        let inReviewSection :=
          if inFence then inReviewSection
          else
            match markdownHeadingTitle trimmed with
            | some title => reviewChecklistSectionIsAgentOwned title
            | none => inReviewSection
        (if inReviewSection && !inFence then checkMarkdownCheckboxLine line else line)
          :: checkLines inFence inReviewSection lines

def checkReviewVerifiedIssueBodyCheckboxes (body : String) : String :=
  let updated := Text.join "\n" (checkLines false false (Text.lines body))
  if body.toList.getLast? = some '\n' then updated ++ "\n" else updated

end SheaSymphony.Review

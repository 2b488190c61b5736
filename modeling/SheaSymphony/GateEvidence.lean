import SheaSymphony.GithubThread
import SheaSymphony.Occurrences
import SheaSymphony.QualityGate

/-!
# The gate and the evidence of an issue

The description the gate looks at is put together from the text of an issue and from what
has been posted on it (`tracker/github/evidence.rs`). What is posted may be too long and may
show what the gate looks for, so two lists of comments on one issue may be judged apart.
When they are not is said here.
-/

namespace SheaSymphony.QualityGate

open Text
open Github (Repository Thread canonicalWorkpadCommentBody sheaSymphonyTimelineCommentBodies)
open Review (attachedEvidenceMarker)

/-! ## What the gate finds -/

def containsNul (text : String) : Bool := text.toList.contains '\x00'

def tooLong (text : String) : Bool := decide (maxCandidateBytes < Text.byteLength text)

def blankText : String := "non-empty executable issue candidate"

def limitText : String :=
  "candidate body within the " ++ toString maxCandidateBytes ++ "-byte safety limit"

def nulText : String := "candidate body without NUL bytes"

def liquidText : String := "candidate body without unresolved Liquid syntax"

theorem texts_distinct :
    (blankText ≠ limitText ∧ blankText ≠ nulText ∧ blankText ≠ liquidText)
      ∧ (limitText ≠ nulText ∧ limitText ≠ liquidText) ∧ nulText ≠ liquidText := by decide

theorem mem_missingCandidate {text description : String} :
    text ∈ missingCandidate description ↔
      if description = "" then text = blankText
      else (tooLong description = true ∧ text = limitText)
        ∨ (containsNul description = true ∧ text = nulText)
        ∨ (containsUnresolvedLiquid description = true ∧ text = liquidText) := by
  have hfound : ∀ (found : Prop) [Decidable found] (name : String),
      text ∈ (if found then [name] else []) ↔ found ∧ text = name := by
    intro found _ name
    split <;> simp [*]
  unfold missingCandidate
  split
  · exact List.mem_singleton
  · rw [List.mem_append, List.mem_append, hfound, hfound, hfound, or_assoc, tooLong,
      decide_eq_true_iff]
    rfl

theorem missing_evaluateIssue (issue : Model.TrackerIssue) :
    (evaluateIssue issue).missing
      = missingTitle issue ++ missingCandidate (Text.trim (issue.description.getD "")) := by
  unfold evaluateIssue
  cases missingTitle issue ++ missingCandidate (trim (issue.description.getD "")) <;> rfl

theorem evaluateIssue_eq_iff {issue issue' : Model.TrackerIssue} :
    evaluateIssue issue = evaluateIssue issue' ↔
      (evaluateIssue issue).missing = (evaluateIssue issue').missing := by
  constructor
  · exact fun h => congrArg GateDecision.missing h
  · intro h
    rw [missing_evaluateIssue, missing_evaluateIssue] at h
    rw [evaluateIssue, evaluateIssue, h]

theorem blankText_mem {description : String} :
    blankText ∈ missingCandidate description ↔ description = "" := by
  obtain ⟨⟨hlimit, hnul, hliquid⟩, -, -⟩ := texts_distinct
  rw [mem_missingCandidate]
  split
  · next hblank => exact iff_of_true rfl hblank
  · next hsome => simp [hlimit, hnul, hliquid, hsome]

section

variable {description : String} (hsome : description ≠ "")

include hsome

theorem limitText_mem : limitText ∈ missingCandidate description ↔ tooLong description = true := by
  obtain ⟨-, ⟨hnul, hliquid⟩, -⟩ := texts_distinct
  rw [mem_missingCandidate, if_neg hsome]
  simp [hnul, hliquid]

theorem nulText_mem : nulText ∈ missingCandidate description ↔ containsNul description = true := by
  obtain ⟨-, ⟨hlimit, -⟩, hliquid⟩ := texts_distinct
  rw [mem_missingCandidate, if_neg hsome]
  simp [hlimit.symm, hliquid]

theorem liquidText_mem :
    liquidText ∈ missingCandidate description ↔ containsUnresolvedLiquid description = true := by
  obtain ⟨-, ⟨-, hlimit⟩, hnul⟩ := texts_distinct
  rw [mem_missingCandidate, if_neg hsome]
  simp [hlimit.symm, hnul.symm]

end

theorem missingCandidate_eq_iff {description description' : String} :
    missingCandidate description = missingCandidate description' ↔
      (description = "" ↔ description' = "") ∧ tooLong description = tooLong description'
        ∧ containsNul description = containsNul description'
        ∧ containsUnresolvedLiquid description = containsUnresolvedLiquid description' := by
  constructor
  · intro h
    have hblank : description = "" ↔ description' = "" := by
      rw [← blankText_mem, h, blankText_mem]
    by_cases hsome : description = ""
    · rw [hsome, hblank.mp hsome]
      exact ⟨Iff.rfl, rfl, rfl, rfl⟩
    · have hsome' := mt hblank.mpr hsome
      refine ⟨hblank, ?_, ?_, ?_⟩
      · rw [Bool.eq_iff_iff, ← limitText_mem hsome, h, limitText_mem hsome']
      · rw [Bool.eq_iff_iff, ← nulText_mem hsome, h, nulText_mem hsome']
      · rw [Bool.eq_iff_iff, ← liquidText_mem hsome, h, liquidText_mem hsome']
  · rintro ⟨hblank, hlong, hnul, hliquid⟩
    rw [tooLong, tooLong, decide_eq_decide] at hlong
    rw [containsNul, containsNul] at hnul
    simp only [missingCandidate, hblank, hlong, hnul, hliquid]

theorem evaluateIssue_cases (issue : Model.TrackerIssue) :
    evaluateIssue issue = .ready ∨ (evaluateIssue issue).kind = .needToClarify := by
  unfold evaluateIssue
  split
  · exact Or.inl rfl
  · exact Or.inr rfl

theorem preflight_eq_iff {case : Text.UnicodeCase} {terminalStates : List String}
    {issue issue' : Model.TrackerIssue} (hblockers : issue.blockedBy = issue'.blockedBy) :
    evaluateIssueWithDependencyPreflight case issue terminalStates
        = evaluateIssueWithDependencyPreflight case issue' terminalStates
      ↔ evaluateIssue issue = evaluateIssue issue' := by
  have hsame : unresolvedTrackerBlocker case issue terminalStates
      = unresolvedTrackerBlocker case issue' terminalStates := by
    rw [unresolvedTrackerBlocker, unresolvedTrackerBlocker, hblockers]
  have hready : ∀ {i : Model.TrackerIssue}, evaluateIssue i = .ready →
      (evaluateIssueWithDependencyPreflight case i terminalStates).kind ≠ .needToClarify := by
    intro i hi
    simp only [evaluateIssueWithDependencyPreflight, hi]
    cases unresolvedTrackerBlocker case i terminalStates <;> rintro ⟨⟩
  have hunclear : ∀ {i : Model.TrackerIssue}, (evaluateIssue i).kind = .needToClarify →
      evaluateIssueWithDependencyPreflight case i terminalStates = evaluateIssue i := by
    intro i hi
    simp only [evaluateIssueWithDependencyPreflight, GateDecision.isDispatchable, hi,
      Bool.not_false, if_true]
  constructor
  · intro h
    rcases evaluateIssue_cases issue with hi | hi <;> rcases evaluateIssue_cases issue' with hi' | hi'
    · rw [hi, hi']
    · rw [hunclear hi'] at h
      exact absurd ((congrArg GateDecision.kind h).trans hi') (hready hi)
    · rw [hunclear hi] at h
      exact absurd ((congrArg GateDecision.kind h).symm.trans hi) (hready hi')
    · exact (hunclear hi).symm.trans (h.trans (hunclear hi'))
  · intro h
    rw [evaluateIssueWithDependencyPreflight, evaluateIssueWithDependencyPreflight, h, hsame]

/-! ## What the gate looks at -/

/-- What is read back with an issue: its workpad and the evidence of its timeline. -/
def attachedEvidence (marker : String) (thread : Thread) : List String :=
  (canonicalWorkpadCommentBody marker thread.commentBodies).toList
    ++ sheaSymphonyTimelineCommentBodies marker thread.commentBodies

def describedText (marker : String) (thread : Thread) : String :=
  (thread.descriptionWithWorkpad marker).getD ""

section

variable {marker pattern : String} {thread : Thread}

theorem sections_eq : thread.sections marker
    = (if Text.trim thread.body = "" then [] else [thread.body])
      ++ (if attachedEvidence marker thread = [] then []
        else attachedEvidenceMarker :: attachedEvidence marker thread) := by
  unfold Thread.sections attachedEvidence
  dsimp only
  cases canonicalWorkpadCommentBody marker thread.commentBodies with
  | some workpad => simp
  | none => cases sheaSymphonyTimelineCommentBodies marker thread.commentBodies <;> simp

theorem describedText_eq :
    describedText marker thread = Text.join "\n\n" (thread.sections marker) := by
  unfold describedText Thread.descriptionWithWorkpad
  cases thread.sections marker <;> rfl

theorem trim_eq_empty_iff {s : String} : Text.trim s = "" ↔ Text.IsSpace s := by
  refine ⟨fun h c hc => ?_, trim_of_isSpace⟩
  by_contra hvisible
  have hblank := isBlank_eq_false_iff.mpr ⟨c, hc, Bool.not_eq_true _ ▸ hvisible⟩
  rw [isBlank, h] at hblank
  cases hblank

theorem contains_describedText (hne : pattern ≠ "")
    (hvisible : ∀ c ∈ pattern.toList, Text.isWhitespace c = false)
    (hmarker : Text.contains attachedEvidenceMarker pattern = false) :
    Text.contains (Text.trim (describedText marker thread)) pattern = true ↔
      Text.contains thread.body pattern = true
        ∨ ∃ evidence ∈ attachedEvidence marker thread, Text.contains evidence pattern = true := by
  have hbreak : ∀ c ∈ pattern.toList, c ∉ "\n\n".toList := by
    intro c hc hmem
    have hspace : "\n\n".toList.all isWhitespace = true := by decide
    exact Bool.false_ne_true ((hvisible c hc).symm.trans (List.all_eq_true.mp hspace c hmem))
  have hbody : trim thread.body = "" → contains thread.body pattern = false := by
    intro hblank
    rw [← contains_trim_of_visible _ hne hvisible, hblank]
    exact contains_empty hne
  rw [contains_trim_of_visible _ hne hvisible, describedText_eq,
    contains_join_iff hne (by decide) hbreak, sections_eq]
  by_cases hblank : trim thread.body = "" <;>
    by_cases hnone : attachedEvidence marker thread = []
  · simp [hblank, hnone, hbody hblank]
  · simp [hblank, hnone, hbody hblank, hmarker]
  · simp [hblank, hnone]
  · simp [hblank, hnone, hmarker]

theorem trim_describedText_eq_empty :
    Text.trim (describedText marker thread) = "" ↔
      Text.trim thread.body = "" ∧ attachedEvidence marker thread = [] := by
  have hseen : ∀ {part : String} {c : Char}, part ∈ thread.sections marker → c ∈ part.toList →
      isWhitespace c = false → trim (describedText marker thread) ≠ "" := by
    intro part c hpart hc hvisible hempty
    have hmem : c ∈ (describedText marker thread).toList := by
      rw [describedText_eq]
      exact (of_decide_eq_true (contains_join hpart)).subset hc
    exact Bool.false_ne_true (hvisible.symm.trans (trim_eq_empty_iff.mp hempty c hmem))
  rw [sections_eq] at hseen
  constructor
  · intro hempty
    refine ⟨?_, ?_⟩
    · by_contra hblank
      have hnot := mt trim_eq_empty_iff.mpr hblank
      rw [Text.IsSpace] at hnot
      push Not at hnot
      obtain ⟨c, hc, hvisible⟩ := hnot
      refine hseen (List.mem_append_left _ ?_) hc (Bool.eq_false_iff.mpr hvisible) hempty
      rw [if_neg hblank]
      exact List.mem_singleton_self _
    · by_contra hattached
      have hfirst : '<' ∈ attachedEvidenceMarker.toList := by decide
      refine hseen (List.mem_append_right _ ?_) hfirst (by decide) hempty
      rw [if_neg hattached]
      exact List.mem_cons_self
  · rintro ⟨hblank, hnone⟩
    rw [describedText_eq, sections_eq, if_pos hblank, if_pos hnone]
    rfl

theorem containsNul_eq (text : String) : containsNul text = Text.contains text "\x00" := by
  rw [containsNul, Bool.eq_iff_iff, List.contains_iff_mem, contains, decide_eq_true_iff]
  exact (List.singleton_infix_iff '\x00' text.toList).symm

theorem containsNul_describedText :
    containsNul (Text.trim (describedText marker thread))
      = (containsNul thread.body || (attachedEvidence marker thread).any containsNul) := by
  rw [Bool.eq_iff_iff, Bool.or_eq_true, List.any_eq_true, containsNul_eq, containsNul_eq,
    contains_describedText (by decide) (visible_of_any (by decide)) (by decide)]
  simp only [containsNul_eq]

theorem containsUnresolvedLiquid_iff {text : String} :
    containsUnresolvedLiquid text = true ↔ ∃ sign ∈ liquidMarkers, Text.contains text sign = true :=
  List.any_eq_true

theorem liquidMarkers_visible : ∀ sign ∈ liquidMarkers, sign ≠ ""
    ∧ sign.toList.any Text.isWhitespace = false
    ∧ Text.contains attachedEvidenceMarker sign = false := by decide

theorem containsUnresolvedLiquid_describedText :
    containsUnresolvedLiquid (Text.trim (describedText marker thread))
      = (containsUnresolvedLiquid thread.body
        || (attachedEvidence marker thread).any containsUnresolvedLiquid) := by
  have hsign : ∀ sign ∈ liquidMarkers,
      (contains (trim (describedText marker thread)) sign = true ↔
        contains thread.body sign = true
          ∨ ∃ evidence ∈ attachedEvidence marker thread, contains evidence sign = true) := by
    intro sign hmem
    obtain ⟨hne, hvisible, hmarker⟩ := liquidMarkers_visible sign hmem
    exact contains_describedText hne (visible_of_any hvisible) hmarker
  rw [Bool.eq_iff_iff, Bool.or_eq_true, List.any_eq_true]
  simp only [containsUnresolvedLiquid_iff]
  constructor
  · rintro ⟨sign, hmem, hfound⟩
    rcases (hsign sign hmem).mp hfound with hbody | ⟨evidence, hevidence, hshown⟩
    · exact Or.inl ⟨sign, hmem, hbody⟩
    · exact Or.inr ⟨evidence, hevidence, sign, hmem, hshown⟩
  · rintro (⟨sign, hmem, hbody⟩ | ⟨evidence, hevidence, sign, hmem, hshown⟩)
    · exact ⟨sign, hmem, (hsign sign hmem).mpr (Or.inl hbody)⟩
    · exact ⟨sign, hmem, (hsign sign hmem).mpr (Or.inr ⟨evidence, hevidence, hshown⟩)⟩

end

/-! ## Two lists of comments -/

def judged (repository : Repository) (thread : Thread) : Model.TrackerIssue :=
  (repository.readIssue thread).toTrackerIssue

section

variable (repository : Repository) (thread : Thread)

theorem judged_title : (judged repository thread).title = thread.issue.title := by
  rw [judged, Repository.readIssue]

theorem judged_blockedBy : (judged repository thread).blockedBy = thread.issue.blockedBy := by
  rw [judged, Repository.readIssue]

theorem judged_description : (judged repository thread).description
    = thread.descriptionWithWorkpad repository.workpadMarker := by
  rw [judged, Repository.readIssue]

end

/-- What the gate finds in the evidence of two threads of one text is the same, as far as
the text does not decide it. -/
structure EvidenceAlike (marker : String) (thread thread' : Thread) : Prop where
  some : Text.trim thread.body = "" →
    (attachedEvidence marker thread = [] ↔ attachedEvidence marker thread' = [])
  long : tooLong (Text.trim (describedText marker thread))
    = tooLong (Text.trim (describedText marker thread'))
  nul : containsNul thread.body = false →
    (attachedEvidence marker thread).any containsNul = (attachedEvidence marker thread').any containsNul
  liquid : containsUnresolvedLiquid thread.body = false →
    (attachedEvidence marker thread).any containsUnresolvedLiquid
      = (attachedEvidence marker thread').any containsUnresolvedLiquid

theorem or_eq_or_iff {own first second : Bool} :
    (own || first) = (own || second) ↔ (own = false → first = second) := by
  cases own <;> simp

theorem same_missing_iff {marker : String} {thread thread' : Thread}
    (hbody : thread'.body = thread.body) :
    missingCandidate (Text.trim (describedText marker thread))
        = missingCandidate (Text.trim (describedText marker thread'))
      ↔ EvidenceAlike marker thread thread' := by
  rw [missingCandidate_eq_iff, trim_describedText_eq_empty, trim_describedText_eq_empty,
    containsNul_describedText, containsNul_describedText, containsUnresolvedLiquid_describedText,
    containsUnresolvedLiquid_describedText, hbody, or_eq_or_iff, or_eq_or_iff]
  constructor
  · rintro ⟨hempty, hlong, hnul, hliquid⟩
    exact {
      some := fun hblank => by
        rw [and_iff_right hblank, and_iff_right hblank] at hempty
        exact hempty
      long := hlong
      nul := hnul
      liquid := hliquid }
  · intro h
    exact ⟨and_congr_right h.some, h.long, h.nul, h.liquid⟩

theorem same_decision_iff (repository : Repository) (thread : Thread)
    (comments comments' terminalStates : List String) :
    (evaluateIssue (judged repository { thread with comments })
          = evaluateIssue (judged repository { thread with comments := comments' })
        ∧ evaluateIssueWithDependencyPreflight repository.case
            (judged repository { thread with comments }) terminalStates
          = evaluateIssueWithDependencyPreflight repository.case
            (judged repository { thread with comments := comments' }) terminalStates)
      ↔ EvidenceAlike repository.workpadMarker { thread with comments }
          { thread with comments := comments' } := by
  have htitle : missingTitle (judged repository { thread with comments })
      = missingTitle (judged repository { thread with comments := comments' }) := by
    rw [missingTitle, missingTitle, judged_title, judged_title]
  have hblockers : (judged repository { thread with comments }).blockedBy
      = (judged repository { thread with comments := comments' }).blockedBy := by
    rw [judged_blockedBy, judged_blockedBy]
  rw [preflight_eq_iff hblockers, and_self, evaluateIssue_eq_iff, missing_evaluateIssue,
    missing_evaluateIssue, htitle, List.append_cancel_left_eq, judged_description,
    judged_description]
  exact same_missing_iff rfl

def gatedRepository : Repository where
  case := .ascii
  stateMap :=
    { backlog := "Backlog", todo := "Todo", needToClarify := "Need to Clarify"
      inProgress := "In Progress", needHumanInput := "Need Human Input"
      agentReview := "Agent Review", humanReview := "Human Review", rework := "Rework"
      merging := "Merging", done := "Done" }
  workpadMarker := "<!-- shea-symphony-workpad -->"
  linkedPullRequestsFromWorkpads _ := []
  unstated _ _ h := absurd h List.not_mem_nil

def gatedThread : Thread where
  issue :=
    { id := "I_7", identifier := "#7", title := "Do it", description := none
      state := "In Progress", priority := none, blockedBy := [], projectFields := fun _ => none
      createdAt := none, linkedPullRequests := [] }
  body := "Do it."
  comments := []

/-- A workpad that quotes a template turns an issue away that is in progress. -/
theorem workpad_turns_issue_away :
    ¬ ∀ (repository : Repository) (thread : Thread) (comments comments' : List String),
      evaluateIssue (judged repository { thread with comments })
        = evaluateIssue (judged repository { thread with comments := comments' }) := by
  intro h
  have hkind := congrArg GateDecision.kind (h gatedRepository gatedThread []
    ["<!-- shea-symphony-workpad -->\nPrinted \x7b\x7b name \x7d\x7d."])
  revert hkind
  decide +kernel

end SheaSymphony.QualityGate

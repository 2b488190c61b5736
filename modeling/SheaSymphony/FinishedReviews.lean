import SheaSymphony.ReviewEligibility

/-!
# Finished reviews and activity

The evidence of a review that has ended is added to the description its successor
is decided from. Whether it makes a worker look active is decided by what it adds:
the lines of its own, and the blocks from the last one of the description on, which
the evidence may run on. Everything else that shows activity stays as it was.
-/

namespace SheaSymphony.Review

open Model Text

/-- Lowercasing does not look across a line feed. -/
structure LineCase extends UnicodeCase where
  toLowercase_line : ∀ s t, toLowercase (s ++ "\n" ++ t) = toLowercase s ++ "\n" ++ toLowercase t

def LineCase.ascii : LineCase where
  toUnicodeCase := .ascii
  toLowercase_line s t := by
    show toAsciiLowercase (s ++ "\n" ++ t) = toAsciiLowercase s ++ "\n" ++ toAsciiLowercase t
    rw [← String.toList_inj]
    simp [toAsciiLowercase, String.toList_append, toAsciiLowercaseChar]

/-! ## Lines -/

theorem markdownScalar_trim (value : String) : markdownScalar (trim value) = markdownScalar value := by
  rw [markdownScalar, markdownScalar, trim_trim]

theorem any_lines_line {p : String → Bool} (htrim : ∀ line, p (trim line) = p line)
    (hblank : p "" = false) (s t : String) :
    (lines (s ++ "\n" ++ t)).any p = ((lines s).any p || (lines t).any p) := by
  have hmap : (fun lines : List String => lines.any p) = fun lines => (lines.map trim).any p := by
    funext lines
    rw [List.any_map]
    exact congrArg (lines.any ·) (funext fun line => (htrim line).symm)
  have hblockwise : Blockwise fun lines : List String => lines.any p := by
    rw [hmap]
    refine Blockwise.of_map_trim (fun lines => lines.any p) (fun lines => ?_) (fun lines => ?_)
    · rw [List.any_cons, hblank, Bool.false_or]
    · rw [List.any_append, List.any_cons, hblank, Bool.false_or, List.any_nil, Bool.or_false]
  have hlines : ∀ s, (lines s).any p = (terminated s).any p := hblockwise.lines
  rw [hlines, hlines, hlines, terminated_append, List.any_append]

section

variable {case : UnicodeCase} {workerKey : String}

theorem legacy_trim (line : String) :
    legacyActiveReviewMarkerMatches case (trim line) workerKey
      = legacyActiveReviewMarkerMatches case line workerKey := by
  rw [legacyActiveReviewMarkerMatches, legacyActiveReviewMarkerMatches, markdownScalar_trim]

theorem legacy_blank : legacyActiveReviewMarkerMatches case "" workerKey = false := by
  have hlower : case.toLowercase (markdownScalar "") = "" := by
    rw [case.toLowercase_ascii _ (by decide)]
    decide
  have hne : ∀ s : String, s ≠ "" → s ++ workerKey ≠ "" := by
    intro s hs h
    have hchars := congrArg String.toList h
    rw [String.toList_append, String.toList_empty, List.append_eq_nil_iff] at hchars
    exact hs (String.toList_inj.mp hchars.1)
  rw [legacyActiveReviewMarkerMatches, hlower]
  simp only [List.contains_cons, List.contains_nil, Bool.or_false, Bool.or_eq_false_iff,
    beq_eq_false_iff_ne, ne_eq]
  exact ⟨(hne _ (by decide)).symm, (hne _ (by decide)).symm, (hne _ (by decide)).symm⟩

theorem forall_legacy_line (s t : String) :
    (∀ line ∈ lines (s ++ "\n" ++ t), legacyActiveReviewMarkerMatches case line workerKey = false) ↔
      (∀ line ∈ lines s, legacyActiveReviewMarkerMatches case line workerKey = false)
        ∧ ∀ line ∈ lines t, legacyActiveReviewMarkerMatches case line workerKey = false := by
  have hany := any_lines_line (p := fun line => legacyActiveReviewMarkerMatches case line workerKey)
    legacy_trim legacy_blank s t
  have hnone : ∀ s, (∀ line ∈ lines s, legacyActiveReviewMarkerMatches case line workerKey = false) ↔
      ((lines s).any fun line => legacyActiveReviewMarkerMatches case line workerKey) = false := by
    intro s
    simp only [List.any_eq_false, Bool.not_eq_true]
  rw [hnone, hnone, hnone, hany, Bool.or_eq_false_iff]

/-! ## Blocks -/

theorem heading_ne_empty : agentReviewHeading ≠ "" := by decide

theorem heading_isLine : IsLine agentReviewHeading := by
  show '\n' ∉ agentReviewHeading.toList
  decide

theorem activeReviewEvidenceBlocks_line (s t : String) :
    ∃ rest, activeReviewEvidenceBlocks (s ++ "\n" ++ t)
      = (activeReviewEvidenceBlocks s).dropLast ++ rest := by
  obtain ⟨init, last, head, tail, hs, -, hst⟩ :=
    splitText_line heading_ne_empty heading_isLine s t
  rw [activeReviewEvidenceBlocks, activeReviewEvidenceBlocks, hs, hst]
  cases init with
  | nil => exact ⟨_, rfl⟩
  | cons first init =>
      refine ⟨((last ++ "\n" ++ head) :: tail).map (beforeFirst "\n## "), ?_⟩
      simp only [List.cons_append, List.drop_succ_cons, List.drop_zero, List.map_append,
        List.map_cons, List.map_nil, List.dropLast_concat]

/-! ## What is added -/

/-- Nothing that is added looks active: no line of its own, and no block from the last one
of the description on. -/
structure Quiet (case : UnicodeCase) (workerKey : String) (description : Option String)
    (added : String) : Prop where
  blocks : ∀ block ∈ (activeReviewEvidenceBlocks (descriptionWithSection description added)).drop
      ((activeReviewEvidenceBlocks (description.getD "")).length - 1),
    blockIsActive (case.toLowercase workerKey) block = false
  lines : ∀ line ∈ lines added,
    legacyActiveReviewMarkerMatches case line (case.toLowercase workerKey) = false

theorem activeReviewMarkerMatches_eq_false_iff {value : String} :
    activeReviewMarkerMatches case value workerKey = false ↔
      (∀ block ∈ activeReviewEvidenceBlocks value,
          blockIsActive (case.toLowercase workerKey) block = false)
        ∧ ∀ line ∈ lines value,
          legacyActiveReviewMarkerMatches case line (case.toLowercase workerKey) = false := by
  rw [activeReviewMarkerMatches, Bool.or_eq_false_iff, List.any_eq_false, List.any_eq_false]
  simp only [Bool.not_eq_true]

theorem quiet_iff {description : Option String} {added : String}
    (hinactive : (description.any fun description =>
      activeReviewMarkerMatches case description workerKey) = false) :
    activeReviewMarkerMatches case (descriptionWithSection description added) workerKey = false ↔
      Quiet case workerKey description added := by
  rw [activeReviewMarkerMatches_eq_false_iff]
  cases description with
  | none =>
      have hempty : activeReviewEvidenceBlocks "" = [] := by decide
      constructor
      · rintro ⟨hblocks, hlines⟩
        exact ⟨fun block hblock => hblocks block (List.mem_of_mem_drop hblock), hlines⟩
      · rintro ⟨hblocks, hlines⟩
        rw [Option.getD_none, hempty] at hblocks
        exact ⟨hblocks, hlines⟩
  | some description =>
      obtain ⟨hold, hlegacy⟩ := activeReviewMarkerMatches_eq_false_iff.mp hinactive
      have htext : descriptionWithSection (some description) added
          = description ++ "\n" ++ ("" ++ "\n" ++ added) := blank_line_eq description added
      obtain ⟨rest, hrest⟩ := activeReviewEvidenceBlocks_line description ("" ++ "\n" ++ added)
      have hdrop : (activeReviewEvidenceBlocks (descriptionWithSection (some description) added)).drop
          ((activeReviewEvidenceBlocks description).length - 1) = rest := by
        rw [htext, hrest, ← List.length_dropLast, List.drop_left]
      have hlines : (∀ line ∈ lines (descriptionWithSection (some description) added),
          legacyActiveReviewMarkerMatches case line (case.toLowercase workerKey) = false) ↔
          ∀ line ∈ lines added,
            legacyActiveReviewMarkerMatches case line (case.toLowercase workerKey) = false := by
        have hnil : lines "" = [] := by decide
        rw [htext, forall_legacy_line, forall_legacy_line, hnil]
        exact ⟨fun h => h.2.2, fun h => ⟨hlegacy, nofun, h⟩⟩
      rw [hlines]
      constructor
      · rintro ⟨hblocks, hadded⟩
        exact ⟨fun block hblock => hblocks block (List.mem_of_mem_drop hblock), hadded⟩
      · rintro ⟨hblocks, hadded⟩
        rw [Option.getD_some, hdrop] at hblocks
        refine ⟨fun block hblock => ?_, hadded⟩
        rw [htext, hrest] at hblock
        rcases List.mem_append.mp hblock with hblock | hblock
        · exact hold block (List.mem_of_mem_dropLast hblock)
        · exact hblocks block hblock

end

/-! ## Everything else -/

theorem ListedIssue.withSection_identifier (issue : ListedIssue) (added : String) :
    (issue.withSection added).identifier = issue.identifier := rfl

theorem terminalReviewFailureMarkerMatches_line (case : LineCase) {workerKey s : String}
    (h : terminalReviewFailureMarkerMatches case.toUnicodeCase s workerKey = true) (t : String) :
    terminalReviewFailureMarkerMatches case.toUnicodeCase (s ++ "\n" ++ t) workerKey = true := by
  have hmono : ∀ phrase, contains (case.toLowercase s) phrase = true →
      contains (case.toLowercase (s ++ "\n" ++ t)) phrase = true := by
    intro phrase hphrase
    rw [case.toLowercase_line]
    exact contains_append_left (contains_append_left hphrase _) _
  rw [terminalReviewFailureMarkerMatches, Bool.and_eq_true, Bool.and_eq_true, List.any_eq_true,
    List.any_eq_true] at h ⊢
  obtain ⟨⟨hkey, state, hstate, hstateShown⟩, phrase, hphrase, hphraseShown⟩ := h
  exact ⟨⟨hmono _ hkey, state, hstate, hmono _ hstateShown⟩, phrase, hphrase,
    hmono _ hphraseShown⟩

variable {render : Json → String} {issue : ListedIssue}

/-- A field that shows a worker although a failure is told shows it all the more where none
is. -/
theorem fieldShowsReviewWorker_of_marker {case : UnicodeCase} {workerKey : String}
    {told told' : Bool} {field : String × Json} (htold : told = true → told' = true)
    (h : fieldShowsReviewWorker case render workerKey told field = false) :
    fieldShowsReviewWorker case render workerKey told' field = false := by
  cases told' with
  | false =>
      cases told with
      | false => exact h
      | true => exact absurd (htold rfl) Bool.false_ne_true
  | true =>
      cases told with
      | true => exact h
      | false =>
          rw [fieldShowsReviewWorker] at h ⊢
          simp only [Bool.and_eq_false_iff, Bool.or_eq_false_iff, Bool.not_false, Bool.not_true,
            Bool.and_true, Bool.and_false, Bool.false_and, and_true] at h ⊢
          exact h.imp id fun h => h.1

theorem description_inactive {case : UnicodeCase} {workerKey : String}
    (h : hasActiveReviewWorker case render issue workerKey = false) :
    (issue.description.any fun description =>
      activeReviewMarkerMatches case description workerKey) = false := by
  rw [hasActiveReviewWorker, Bool.or_eq_false_iff] at h
  exact h.2

theorem hasActiveReviewWorker_withSection (case : LineCase) {workerKey added : String}
    (h : hasActiveReviewWorker case.toUnicodeCase render issue workerKey = false) :
    hasActiveReviewWorker case.toUnicodeCase render (issue.withSection added) workerKey =
      activeReviewMarkerMatches case.toUnicodeCase
        (descriptionWithSection issue.description added) workerKey := by
  rw [hasActiveReviewWorker, Bool.or_eq_false_iff] at h
  have hfields : (issue.fields.any (fieldShowsReviewWorker case.toUnicodeCase render workerKey
      (terminalReviewFailureMarkerMatches case.toUnicodeCase
        (descriptionWithSection issue.description added) workerKey))) = false := by
    rw [List.any_eq_false] at h ⊢
    intro field hfield
    rw [Bool.not_eq_true]
    refine fieldShowsReviewWorker_of_marker ?_ (Bool.not_eq_true _ ▸ h.1 field hfield)
    cases hdescription : issue.description with
    | none => exact nofun
    | some description =>
        intro htold
        rw [descriptionWithSection, blank_line_eq]
        exact terminalReviewFailureMarkerMatches_line case htold _
  show (issue.fields.any (fieldShowsReviewWorker case.toUnicodeCase render workerKey
      (terminalReviewFailureMarkerMatches case.toUnicodeCase
        (descriptionWithSection issue.description added) workerKey))
    || activeReviewMarkerMatches case.toUnicodeCase
        (descriptionWithSection issue.description added) workerKey) = _
  rw [hfields, Bool.false_or]

/-! ## Eligibility -/

/-- The issue is in the lane, with pull requests of which none is a draft. -/
structure Reviewable (case : UnicodeCase) (issue : ListedIssue) (agentReviewState : String) :
    Prop where
  inLane : issue.normalizedState case = normalizeState case agentReviewState
  linked : issue.linkedPullRequests.isEmpty = false
  ready : (issue.linkedPullRequests.any fun pr => pr.isDraft == some true) = false

theorem reviewRunEligibility_eq_alreadyQueued_iff {case : UnicodeCase}
    {agentReviewState backend workerKey : String} :
    reviewRunEligibility case render issue agentReviewState backend = .alreadyQueued workerKey ↔
      Reviewable case issue agentReviewState
        ∧ hasActiveReviewWorker case render issue (reviewWorkerKey case issue.identifier backend) = true
        ∧ reviewWorkerKey case issue.identifier backend = workerKey := by
  rw [reviewRunEligibility]
  by_cases hlane : issue.normalizedState case = normalizeState case agentReviewState
  · rw [if_neg (not_not.mpr hlane)]
    cases hlinked : issue.linkedPullRequests.isEmpty with
    | true =>
        refine ⟨nofun, fun h => ?_⟩
        rw [h.1.linked] at hlinked
        cases hlinked
    | false =>
        cases hready : issue.linkedPullRequests.any fun pr => pr.isDraft == some true with
        | true =>
            refine ⟨nofun, fun h => ?_⟩
            rw [h.1.ready] at hready
            cases hready
        | false =>
            rw [if_neg Bool.false_ne_true, if_neg Bool.false_ne_true]
            dsimp only
            cases hactive : hasActiveReviewWorker case render issue
                (reviewWorkerKey case issue.identifier backend) with
            | true =>
                rw [if_pos rfl]
                refine ⟨fun h => ⟨⟨hlane, hlinked, hready⟩, rfl, ?_⟩, fun h => ?_⟩
                · exact ReviewRunEligibility.alreadyQueued.inj h
                · exact congrArg ReviewRunEligibility.alreadyQueued h.2.2
            | false =>
                rw [if_neg Bool.false_ne_true]
                exact ⟨nofun, fun h => absurd h.2.1 Bool.false_ne_true⟩
  · rw [if_pos hlane]
    exact ⟨nofun, fun h => absurd h.1.inLane hlane⟩

/-- A section that is added makes the issue look queued exactly where the issue could be
reviewed and the section is not quiet. -/
theorem queued_withSection_iff (case : LineCase) (render : Json → String) (issue : ListedIssue)
    (agentReviewState backend added : String) :
    (∀ workerKey,
        reviewRunEligibility case.toUnicodeCase render (issue.withSection added) agentReviewState
            backend = .alreadyQueued workerKey →
          reviewRunEligibility case.toUnicodeCase render issue agentReviewState backend
            = .alreadyQueued workerKey) ↔
      ¬ Reviewable case.toUnicodeCase issue agentReviewState
        ∨ hasActiveReviewWorker case.toUnicodeCase render issue
            (reviewWorkerKey case.toUnicodeCase issue.identifier backend) = true
        ∨ Quiet case.toUnicodeCase (reviewWorkerKey case.toUnicodeCase issue.identifier backend)
            issue.description added := by
  have hsame : Reviewable case.toUnicodeCase (issue.withSection added) agentReviewState ↔
      Reviewable case.toUnicodeCase issue agentReviewState :=
    ⟨fun h => ⟨h.inLane, h.linked, h.ready⟩, fun h => ⟨h.inLane, h.linked, h.ready⟩⟩
  simp only [reviewRunEligibility_eq_alreadyQueued_iff, hsame, ListedIssue.withSection_identifier]
  generalize hkey : reviewWorkerKey case.toUnicodeCase issue.identifier backend = key
  by_cases hreviewable : Reviewable case.toUnicodeCase issue agentReviewState
  · cases hactive : hasActiveReviewWorker case.toUnicodeCase render issue key with
    | true => exact ⟨fun _ => Or.inr (Or.inl rfl), fun _ workerKey h => ⟨h.1, rfl, h.2.2⟩⟩
    | false =>
        rw [hasActiveReviewWorker_withSection case hactive, ← quiet_iff (description_inactive hactive)]
        constructor
        · intro h
          refine Or.inr (Or.inr ?_)
          rw [← Bool.not_eq_true]
          exact fun hmatches => Bool.false_ne_true (h key ⟨hreviewable, hmatches, rfl⟩).2.1
        · rintro (h | h | h) workerKey ⟨-, hmatches, -⟩
          · exact absurd hreviewable h
          · cases h
          · rw [h] at hmatches
            cases hmatches
  · exact ⟨fun _ => Or.inl hreviewable, fun _ workerKey h => absurd h.1 hreviewable⟩

/-- Adding the evidence of a job to the description does not make the issue look queued. -/
def NeverWedges (case : UnicodeCase) (render : Json → String) (renderer : Renderer)
    (template : Template) (issue : ListedIssue) (job : ReviewRun) (attached : Bool)
    (agentReviewState backend : String) : Prop :=
  ∀ evidence ∈ renderer.renderReviewWorkpad template issue.toReviewedIssue job, ∀ workerKey,
    reviewRunEligibility case render (issue.withSection (addedSection attached evidence))
        agentReviewState backend = .alreadyQueued workerKey →
      reviewRunEligibility case render issue agentReviewState backend = .alreadyQueued workerKey

/-- Evidence wedges the lane exactly where the issue could be reviewed and what is added is
not quiet. -/
theorem neverWedges_iff (case : LineCase) (render : Json → String) (renderer : Renderer)
    (template : Template) (issue : ListedIssue) (job : ReviewRun) (attached : Bool)
    (agentReviewState backend : String) :
    NeverWedges case.toUnicodeCase render renderer template issue job attached agentReviewState
        backend ↔
      ∀ evidence ∈ renderer.renderReviewWorkpad template issue.toReviewedIssue job,
        ¬ Reviewable case.toUnicodeCase issue agentReviewState
          ∨ hasActiveReviewWorker case.toUnicodeCase render issue
              (reviewWorkerKey case.toUnicodeCase issue.identifier backend) = true
          ∨ Quiet case.toUnicodeCase (reviewWorkerKey case.toUnicodeCase issue.identifier backend)
              issue.description (addedSection attached evidence) :=
  forall₂_congr fun evidence _ =>
    queued_withSection_iff case render issue agentReviewState backend (addedSection attached evidence)

/-! ## A printed marker -/

def printedMarkerIssue : ListedIssue where
  id := "I_1"
  identifier := "#1"
  title := "Review me"
  description := some "Do it."
  state := "Agent Review"
  priority := none
  blockedBy := []
  projectFields _ := none
  createdAt := none
  linkedPullRequests :=
    [{ number := some 7, url := some "https://github.com/o/r/pull/7", state := some "OPEN"
       isDraft := some false, baseRefName := some "main", headSha := some "abc" }]
  fields := []
  listed _ := rfl

def printedMarkerJob : ReviewRun where
  backend := "codex"
  state := .completed
  report := some
    { reviewerBackend := "codex", findings := [], summary := none
      stdout := some "queued review:#1:codex", stderr := none, exitStatus := none
      sessionId := none }
  error := none
  id := "codex-1"
  issueRef := "#1"
  artifactPath := none
  ledgerPath := none
  backendSessionId := none

/-- A completed review has printed the line that marks a queued one. -/
theorem printed_marker_wedges :
    ¬ NeverWedges .ascii (fun _ => "") plainRenderer agentReviewTemplate printedMarkerIssue
      printedMarkerJob false "Agent Review" "codex" := by
  intro h
  have hsome : (reviewUsageLimitPause printedMarkerJob.toReviewJob).isSome = true := by
    decide +kernel
  obtain ⟨evidence, hevidence⟩ := Option.isSome_iff_exists.mp
    (@Renderer.renderReviewWorkpad_isSome plainRenderer printedMarkerIssue.toReviewedIssue _ hsome)
  obtain ⟨front, back, hprinted⟩ := plainRenderer.renderReviewWorkpad_stdout hevidence rfl rfl
    (by decide +kernel) (by decide +kernel) (by decide +kernel)
  have hkey : reviewWorkerKey .ascii printedMarkerIssue.identifier "codex" = "review:#1:codex" := by
    decide +kernel
  have hbefore : hasActiveReviewWorker .ascii (fun _ => "") printedMarkerIssue "review:#1:codex"
      = false := by
    decide +kernel
  have hcases := (queued_withSection_iff .ascii (fun _ => "") printedMarkerIssue "Agent Review"
    "codex" (addedSection false evidence)).mp (h evidence hevidence)
  rw [show LineCase.ascii.toUnicodeCase = UnicodeCase.ascii from rfl, hkey, hbefore] at hcases
  rcases hcases with hnot | hactive | hquiet
  · exact hnot ⟨rfl, rfl, by decide +kernel⟩
  · cases hactive
  · have hlines := hquiet.lines
    rw [addedSection, if_neg Bool.false_ne_true, blank_line_eq, ← hprinted, forall_legacy_line,
      forall_legacy_line, forall_legacy_line, forall_legacy_line] at hlines
    have hline := hlines.2.2.1.2 "queued review:#1:codex" (by decide +kernel)
    have hlegacy : legacyActiveReviewMarkerMatches .ascii "queued review:#1:codex"
        (UnicodeCase.ascii.toLowercase "review:#1:codex") = true := by
      decide +kernel
    rw [hlegacy] at hline
    cases hline

end SheaSymphony.Review

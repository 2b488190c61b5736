import SheaSymphony.IssueNames

/-!
# Planned branches and their guard

`plan_issue_handoff_for_profile` guards the branches it is given, an existing one and the one of a
pull request to continue, and makes up names that pass. The integration branch of a parent it takes
as the issue names it, so a plan is refused by the guard where that name bears the number of another
issue (`plan_guarded_iff`).
-/

namespace SheaSymphony.MainHandoff

open Handoff (branchTargetEvidence explicitParentIntegrationBranch hasNativeSubissues issueNumber
  issueSlug nativeParentIssue parentIntegrationBranchName titleSlug)

def PassesGuard (branchName issueIdentifier : String) : Prop :=
  ∃ check, guardBranchForIssue branchName issueIdentifier = .ok check

theorem passesGuard_iff {branchName issueIdentifier : String} :
    PassesGuard branchName issueIdentifier ↔
      ∀ expected found, issueNumber issueIdentifier = some expected →
        branchIssueNumber branchName = some found → found = expected := by
  rw [PassesGuard, guardBranchForIssue, checkBranchIssue]
  cases hexpected : issueNumber issueIdentifier with
  | none => simp
  | some expected =>
      cases hfound : branchIssueNumber branchName with
      | none => simp
      | some found =>
          by_cases hsame : expected = found
          · subst hsame
            simp
          · simp [hsame, Ne.symm hsame]

section

variable {case : Text.UnicodeCase} {identifier : String}

theorem exists_digit_of_issueNumber {number : String} (h : issueNumber identifier = some number) :
    ∃ c ∈ identifier.toList, c.isDigit = true := by
  obtain ⟨piece, hpiece, hdigits⟩ := List.exists_of_findSome?_eq_some h
  obtain ⟨run, hrun, rfl⟩ := List.mem_map.mp hpiece
  rw [Handoff.digitsOnly] at hdigits
  split at hdigits
  · next hcond =>
    obtain ⟨hall, hne⟩ := Bool.and_eq_true_iff.mp hcond
    rw [String.toList_ofList] at hall
    cases run with
    | nil => simp at hne
    | cons c run =>
        exact ⟨c, (Text.mem_of_mem_splitOnP hrun List.mem_cons_self).1,
          List.all_eq_true.mp hall c List.mem_cons_self⟩
  · cases hdigits

theorem passesGuard_of_numberedSlug (case : Text.UnicodeCase) {branch front : String}
    (slug : String) (hfront : IsBranchFront front)
    (hbranch : branch = front ++ "/" ++ (issueSlug case identifier ++ "-" ++ slug)) :
    PassesGuard branch identifier := by
  refine passesGuard_iff.mpr fun expected found hexpected hfound => ?_
  have hdigit := exists_digit_of_issueNumber hexpected
  obtain ⟨hnumber, hfirst⟩ := firstDigits_spec hdigit
  have hlist : branch.toList
      = front.toList ++ '/' :: numberedSlug (firstDigits identifier).toList slug.toList := by
    rw [hbranch, String.toList_append, toList_issueSlug case hdigit]
    simp
  rw [branchIssueNumber_of_numberedSlug hfront hnumber hlist] at hfound
  rw [hfirst] at hexpected
  exact (Option.some.inj hfound).symm.trans (Option.some.inj hexpected)

theorem passesGuard_branchName (title : String) :
    PassesGuard (branchNameForIssue case identifier title) identifier := by
  have hfront : IsBranchFront "feature" := ⟨by decide, by decide, by decide, by decide⟩
  refine passesGuard_of_numberedSlug case (titleSlug case title) hfront ?_
  simp [branchNameForIssue, defaultBranchPrefix, String.append_assoc]

theorem passesGuard_parentIntegrationBranchName (title : Option String) :
    PassesGuard (parentIntegrationBranchName case identifier title) identifier := by
  have hfront : IsBranchFront "integration" := ⟨by decide, by decide, by decide, by decide⟩
  refine passesGuard_of_numberedSlug case
    (((title.map (titleSlug case)).filter fun slug => slug != "untitled").getD "parent-integration")
    hfront ?_
  simp [parentIntegrationBranchName, String.append_assoc]

end

/-! ## The planned branch -/

/-- Neither an existing branch nor a pull request says which branch to go on with. -/
def PlansOwnBranch (case : Text.UnicodeCase) (issue : MainIssue) : Prop :=
  issue.normalizedState case ≠ "rework" ∨ issue.branchName = none ∧ issue.linkedPullRequests = []

/-- A parent names an integration branch that bears the number of another issue. -/
structure NamesAnotherIssue (issue : MainIssue) : Prop where
  root : nativeParentIssue issue.toTrackerIssue = none
  parent : hasNativeSubissues issue.toTrackerIssue = true
  other : ∃ branch expected found, explicitParentIntegrationBranch issue.toTrackerIssue = some branch
    ∧ issueNumber issue.identifier = some expected ∧ branchIssueNumber branch = some found
    ∧ found ≠ expected

theorem ownBranch_passesGuard_iff (case : Text.UnicodeCase) (issue : MainIssue)
    (baseBranch : String) :
    PassesGuard (ownBranch case issue (branchTargetEvidence case issue.toTrackerIssue baseBranch))
      issue.identifier ↔ ¬ NamesAnotherIssue issue := by
  rw [branchTargetEvidence, ownBranch]
  split
  · next parentIssue hnative =>
    refine iff_of_true (passesGuard_branchName _) fun hother => ?_
    rw [hother.root] at hnative
    cases hnative
  · next hroot =>
    cases hparent : hasNativeSubissues issue.toTrackerIssue with
    | false =>
        refine iff_of_true (passesGuard_branchName _) fun hother => ?_
        rw [hother.parent] at hparent
        cases hparent
    | true =>
        show PassesGuard ((explicitParentIntegrationBranch issue.toTrackerIssue).getD _) _ ↔ _
        cases hexplicit : explicitParentIntegrationBranch issue.toTrackerIssue with
        | none =>
            refine iff_of_true (passesGuard_parentIntegrationBranchName _) fun hother => ?_
            obtain ⟨branch, _, _, hbranch, -⟩ := hother.other
            rw [hexplicit] at hbranch
            cases hbranch
        | some branch =>
            rw [Option.getD_some, passesGuard_iff]
            constructor
            · rintro hsame ⟨-, -, other, expected, found, hother, hexpected, hfound, hne⟩
              obtain rfl := Option.some.inj (hexplicit.symm.trans hother)
              exact hne (hsame expected found hexpected hfound)
            · intro hsame expected found hexpected hfound
              by_contra hne
              exact hsame ⟨hroot, hparent, branch, expected, found, hexplicit, hexpected, hfound, hne⟩

theorem passesGuard_of_map_eq_ok {α : Type} {branchName identifier : String}
    {f : BranchIssueCheck → α} {result : α}
    (h : (guardBranchForIssue branchName identifier).map f = .ok result) :
    PassesGuard branchName identifier := by
  cases hguard : guardBranchForIssue branchName identifier with
  | error error =>
      rw [hguard] at h
      cases h
  | ok check => exact ⟨check, hguard⟩

theorem continuedBranch_passesGuard {issue : MainIssue} {continuation : ReworkContinuationEvidence}
    {branchName : String} (h : continuedBranch issue continuation = .ok branchName) :
    PassesGuard branchName issue.identifier := by
  rw [continuedBranch] at h
  split at h
  · next found _ =>
    have hpasses := passesGuard_of_map_eq_ok h
    obtain ⟨check, hcheck⟩ := hpasses
    rw [hcheck] at h
    obtain rfl := Except.ok.inj h
    exact ⟨check, hcheck⟩
  · cases h

theorem continuation_eq_none_iff {case : Text.UnicodeCase} {issue : MainIssue}
    {continuation : Option ReworkContinuationEvidence}
    (h : reworkContinuationEvidence case issue = .ok continuation) :
    continuation = none ↔ issue.normalizedState case ≠ "rework" ∨ issue.linkedPullRequests = [] := by
  rw [reworkContinuationEvidence] at h
  split at h
  · next hstate => exact iff_of_true (Except.ok.inj h).symm (Or.inl hstate)
  · next hstate =>
    split at h
    · next hlinked => exact iff_of_true (Except.ok.inj h).symm (Or.inr hlinked)
    · next hlinked =>
      have hopen : ¬ (issue.normalizedState case ≠ "rework" ∨ issue.linkedPullRequests = []) := by
        rintro (hother | hnil)
        · exact hstate hother
        · rw [hlinked] at hnil
          cases hnil
      split at h
      · cases h
      · refine iff_of_false ?_ hopen
        rw [← Except.ok.inj h]
        exact nofun
      · cases h

/-- The planner's own choice is refused where a parent names an integration branch of another
issue, and nowhere else. -/
theorem plan_guarded_iff {case : Text.UnicodeCase} {workspaceRoot baseBranch : String}
    {issue : MainIssue} {profileId : Option String} {plan : IssueHandoffPlan}
    (h : planIssueHandoffForProfile case workspaceRoot issue baseBranch profileId = .ok plan) :
    PassesGuard plan.branchName issue.identifier ↔
      ¬ (PlansOwnBranch case issue ∧ NamesAnotherIssue issue) := by
  obtain ⟨continuation, hcontinuation, h⟩ := Fallible.bind_eq_ok h
  obtain ⟨⟨⟩, hexisting, h⟩ := Fallible.bind_eq_ok h
  obtain ⟨branchName, hplanned, h⟩ := Fallible.bind_eq_ok h
  obtain rfl := Except.ok.inj h
  show PassesGuard branchName issue.identifier ↔ _
  have hown : branchName = ownBranch case issue
      (branchTargetEvidence case issue.toTrackerIssue baseBranch) → PlansOwnBranch case issue →
      (PassesGuard branchName issue.identifier ↔
        ¬ (PlansOwnBranch case issue ∧ NamesAnotherIssue issue)) := by
    rintro rfl hplans
    rw [ownBranch_passesGuard_iff, and_iff_right hplans]
  unfold plannedBranch at hplanned
  split at hplanned
  · next existing hbranch =>
    split at hplanned
    · next hrework =>
      obtain rfl := Except.ok.inj hplanned
      rw [guardExistingBranch, hbranch] at hexisting
      refine iff_of_true (passesGuard_of_map_eq_ok hexisting) ?_
      rintro ⟨hstate | ⟨hnone, -⟩, -⟩
      · exact hstate hrework
      · rw [hbranch] at hnone
        cases hnone
    · next hstate => exact hown (Except.ok.inj hplanned).symm (Or.inl hstate)
  · next hbranch =>
    split at hplanned
    · next continued =>
      refine iff_of_true (continuedBranch_passesGuard hplanned) ?_
      rintro ⟨hplans, -⟩
      have hnone := (continuation_eq_none_iff hcontinuation).mpr (hplans.imp_right And.right)
      cases hnone
    · refine hown (Except.ok.inj hplanned).symm ?_
      exact ((continuation_eq_none_iff hcontinuation).mp rfl).imp_right fun hlinked =>
        ⟨hbranch, hlinked⟩

def parentIssue (description : String) : MainIssue where
  id := "I_7"
  identifier := "#7"
  title := "Parent"
  description := some description
  state := "Todo"
  priority := none
  blockedBy := []
  projectFields name := if name = "Native Subissues" then some (.str "#8") else none
  createdAt := none
  branchName := none
  linkedPullRequests := []

theorem plan_guarded_plain : ∃ plan,
    planIssueHandoffForProfile .ascii "/w" (parentIssue "") "main" none = .ok plan
      ∧ (PassesGuard plan.branchName "#7" ↔
        ¬ (PlansOwnBranch .ascii (parentIssue "") ∧ NamesAnotherIssue (parentIssue ""))) := by
  have hplan : ∃ plan,
      planIssueHandoffForProfile .ascii "/w" (parentIssue "") "main" none = .ok plan := ⟨_, rfl⟩
  obtain ⟨plan, hplan⟩ := hplan
  exact ⟨plan, hplan, plan_guarded_iff hplan⟩

/-- The integration branch that the description names is planned and refused. -/
theorem otherIntegrationBranch_refused : ∃ plan,
    planIssueHandoffForProfile .ascii "/w" (parentIssue "on integration/issue-243-x") "main" none
        = .ok plan
      ∧ plan.branchName = "integration/issue-243-x" ∧ ¬ PassesGuard plan.branchName "#7" := by
  refine ⟨_, rfl, by decide, ?_⟩
  rw [passesGuard_iff]
  intro hsame
  exact absurd (hsame "7" "243" (by decide) (by decide)) (by decide)

end SheaSymphony.MainHandoff

import SheaSymphony.ReviewResume

/-!
# Publications that can be resumed

Calls come one after the other, each cut off wherever it is. What they leave behind is
an invariant of the calls where the review reads back, and one call that lives long
enough shows that it does. So a publication can be resumed exactly where its evidence
stays visible, its boxes are ticked once and its target has one name.
-/

namespace SheaSymphony.Github

open Interrupted Lanes Model Review Tracker

namespace ReviewedThread

variable {review : ReviewedThread} {evidence : String} {thread : Thread}
  {saved : Option ReviewPublication}

/-! ## Calls one after the other -/

variable (review) in
/-- The calls so far. -/
def after (calls : List Call) : System Thread :=
  Runs.run (System.call review.publication review.repository.adapter)
    { tracker := review.start, receipt := none, history := [] } calls

variable (review) in
/-- Cut off anywhere and called again, the publication accepts what it has written, is not
superseded by it and completes once a call lives long enough. -/
structure Resumable : Prop where
  fresh : ∀ calls, (∀ call ∈ calls, review.renders call.render) →
    review.publication.Fresh (review.repository.readIssue (review.after calls).tracker)
  notSuperseded : ∀ calls, (∀ call ∈ calls, review.renders call.render) →
    ∀ receipt, (review.after calls).receipt = some receipt → receipt.state ≠ .superseded
  completes : ∀ calls, (∀ call ∈ calls, review.renders call.render) →
    ∃ enough, ∀ call, review.renders call.render → enough < call.budget →
      ∃ receipt, (review.after (calls ++ [call])).receipt = some receipt
        ∧ receipt.state = .complete

/-! ## At the start -/

theorem start_body : review.start.body = review.captured.body := by
  rw [start]
  cases review.claim <;> rfl

theorem start_state : review.start.issue.state = review.captured.issue.state := by
  rw [start]
  cases review.claim <;> rfl

theorem hasClaim_start : review.HasClaim review.start := by
  intro claim hclaim
  refine Or.inl ?_
  rw [start, hclaim, projectTextField_readIssue]
  exact (isFieldText_render claim).read review.captured "Review Agent"

theorem once_iff (review : ReviewedThread) :
    checkReviewVerifiedIssueBodyCheckboxes
        (checkReviewVerifiedIssueBodyCheckboxes (canonicalIssueBodyWithoutWorkpad review.captured.body))
      = checkReviewVerifiedIssueBodyCheckboxes (canonicalIssueBodyWithoutWorkpad review.captured.body) ↔
      Text.contains (canonicalIssueBodyWithoutWorkpad review.captured.body) "\r\r\n" = false :=
  check_check_iff (plainBody_canonical review.captured.body).trimmed

theorem ReadsBack.ready (h : review.ReadsBack) (hrenders : review.renders evidence) :
    review.Ready evidence review.start where
  follows := follows_start
  isOpen := h.isOpen
  inReview := h.inReview
  hasBody := by
    rw [HasBody, start_body]
    exact Or.inl rfl
  hasClaim := hasClaim_start
  once hpassed := review.once_iff.mpr (h.once hpassed)
  shown := (h.shown evidence hrenders).1
  tickedShown := (h.shown evidence hrenders).2
  moves := by
    rw [start_state]
    exact h.moves

/-- Ticking behind the evidence leaves it visible: nothing is ticked, or what is ticked is
accepted. -/
theorem Done.tickedShown (h : review.Done evidence review.start) :
    review.shows (review.ticked (review.posted evidence review.start)) = true := by
  have hcongr : review.shows (review.ticked (review.claimed (review.posted evidence review.start)))
      = review.shows (review.ticked (review.posted evidence review.start)) :=
    shows_ticked_congr claimed_body claimed_comments
  rw [← hcongr]
  have hticks := h.ticked
  have hfollows : Follows review.captured (review.claimed (review.posted evidence review.start)) :=
    follows_claimed (follows_start.of_issue posted_issue)
  have hshown : review.shows (review.claimed (review.posted evidence review.start)) = true :=
    shows_claimed.trans h.shown
  have hbody : (review.claimed (review.posted evidence review.start)).body = review.captured.body := by
    rw [claimed_body, posted_body, start_body]
  generalize review.claimed (review.posted evidence review.start) = claimed at hticks hfollows hshown hbody ⊢
  cases hpassed : review.publication.decision.outcome.isPassed with
  | false => rw [ticked_of_not_passed hpassed, hshown]
  | true =>
      have hfresh := (fresh_iff (hfollows.of_issue ticked_issue)).mp (hticks hpassed).1
      rcases hfresh.2.2.1 with hsame | ⟨hshown, -, -⟩
      · rw [canonical_ticked hpassed, ← hbody] at hsame
        rw [ticked_of_passed hpassed, if_pos hsame, hshown]
      · exact hshown

theorem Done.once (h : review.Done evidence review.start)
    (hpassed : review.publication.decision.outcome.isPassed = true) :
    Text.contains (canonicalIssueBodyWithoutWorkpad review.captured.body) "\r\r\n" = false := by
  have hdone := (h.ticked hpassed).2
  rw [canonical_ticked hpassed, claimed_body, posted_body, start_body] at hdone
  exact review.once_iff.mp hdone

theorem Left.working (hback : review.ReadsBack) (h : review.Left thread saved)
    (hincomplete : (review.found saved).state ≠ .complete) {render : String}
    (hrenders : review.renders render) :
    ∃ evidence, review.Working True evidence thread (review.opened saved render) := by
  cases h with
  | nothing => exact ⟨render, working_start fun _ => ⟨hrenders, hback.ready hrenders⟩⟩
  | @receipt evidence thread receipt renders ready receiptOf state =>
      refine ⟨evidence, working_receipt renders ready receiptOf ?_⟩
      rcases state with hresult | hpublished | hcomplete
      · exact Or.inl hresult
      · exact Or.inr hpublished
      · exact absurd hcomplete hincomplete

theorem call_of_left (hback : review.ReadsBack) {system : System Thread} {call : Call}
    (h : review.Left system.tracker system.receipt) (hrenders : review.renders call.render) :
    review.Left (system.call review.publication review.repository.adapter call).tracker
        (system.call review.publication review.repository.adapter call).receipt
      ∧ (22 < call.budget →
        ∃ receipt, (system.call review.publication review.repository.adapter call).receipt = some receipt
          ∧ receipt.state = .complete) := by
  have hopens := h.opens
  have hspends := review.publication.spends_applyReviewResult review.repository.adapter call.render
    { tracker := system.tracker, receipt := system.receipt, log := [], budget := call.budget }
  have hat : At system.tracker system.receipt
      { tracker := system.tracker, receipt := system.receipt, log := [], budget := call.budget } :=
    ⟨rfl, rfl⟩
  rw [System.call]
  by_cases hcomplete : (review.found system.receipt).state = .complete
  · have hrun := (triple_applyReviewResult_complete hopens hcomplete call.render).run hat
    have hsame : At system.tracker system.receipt
        (review.publication.applyReviewResult review.repository.adapter call.render
          { tracker := system.tracker, receipt := system.receipt, log := [],
            budget := call.budget }).2 := by
      split at hrun
      · next hresult => rwa [hresult]
      · next hresult => rwa [hresult]
    dsimp only
    rw [hsame.tracker, hsame.receipt]
    refine ⟨h, fun _ => ?_⟩
    cases hreceipt : system.receipt with
    | none =>
        rw [hreceipt] at hcomplete
        cases hcomplete
    | some receipt =>
        rw [hreceipt, found, Option.getD_some] at hcomplete
        exact ⟨receipt, rfl, hcomplete⟩
  · obtain ⟨evidence, hworking⟩ := h.working hback hcomplete hrenders
    have hrun := (triple_applyReviewResult hopens hcomplete (fun _ => h) hworking).run hat
    dsimp only at hspends ⊢
    split at hrun
    · next hresult =>
      rw [hresult]
      obtain ⟨-, hleft, hreceipt⟩ := hrun
      exact ⟨hleft trivial, fun _ => hreceipt⟩
    · next hresult =>
      rw [hresult] at hspends ⊢
      obtain ⟨hbudget, hleft⟩ := hrun.cut trivial
      refine ⟨hleft, fun henough => ?_⟩
      dsimp only at hspends
      omega

theorem left_after (hback : review.ReadsBack) {calls : List Call}
    (hrenders : ∀ call ∈ calls, review.renders call.render) :
    review.Left (review.after calls).tracker (review.after calls).receipt := by
  induction calls using List.reverseRecOn with
  | nil => exact .nothing
  | append_singleton calls call ih =>
      have hleft := ih fun other hother => hrenders other (List.mem_append_left _ hother)
      have hcall := hrenders call (List.mem_append_right _ List.mem_cons_self)
      rw [after, Runs.run_concat]
      exact (call_of_left hback hleft hcall).1

theorem Left.fresh (hback : review.ReadsBack) (h : review.Left thread saved) :
    review.publication.Fresh (review.repository.readIssue thread) := by
  cases h with
  | nothing =>
      obtain ⟨evidence, hrenders⟩ := review.rendered
      exact (hback.ready hrenders).fresh
  | receipt renders ready receiptOf state => exact ready.fresh

theorem ReadsBack.resumable (h : review.ReadsBack) : review.Resumable where
  fresh calls hrenders := (left_after h hrenders).fresh h
  notSuperseded := by
    intro calls hrenders receipt hreceipt
    have hopens := (left_after h hrenders).opens
    rw [hreceipt, found, Option.getD_some] at hopens
    exact hopens.notSuperseded
  completes := by
    intro calls hrenders
    refine ⟨22, fun call hcall henough => ?_⟩
    rw [after, Runs.run_concat]
    exact (call_of_left h (left_after h hrenders) hcall).2 henough

theorem Resumable.done (h : review.Resumable) (hrenders : review.renders evidence) :
    review.Done evidence review.start := by
  obtain ⟨enough, hcompletes⟩ := h.completes [] (by simp)
  obtain ⟨receipt, hreceipt, hcomplete⟩ :=
    hcompletes { budget := enough + 1, render := evidence } hrenders (Nat.lt_succ_self enough)
  have hincomplete : (review.found none).state ≠ .complete := by
    show PublicationState.starting ≠ .complete
    decide
  have hworking : review.Working False evidence review.start (review.opened none evidence) :=
    working_start False.elim
  have hat : At review.start none
      { tracker := review.start, receipt := none, log := [], budget := enough + 1 } := ⟨rfl, rfl⟩
  have hrun := (triple_applyReviewResult (Opens.new review) hincomplete False.elim hworking).run hat
  rw [after, List.nil_append, Runs.run_cons, Runs.run_nil, System.call] at hreceipt
  dsimp only at hreceipt
  split at hrun
  · exact hrun.1
  · next hresult =>
    rw [hresult] at hreceipt
    exact absurd hcomplete (hrun.incomplete receipt hreceipt)

/-- A publication can be resumed exactly when its review reads back. -/
theorem resumable_iff (review : ReviewedThread) : review.Resumable ↔ review.ReadsBack := by
  refine ⟨fun h => ?_, ReadsBack.resumable⟩
  obtain ⟨evidence, hrenders⟩ := review.rendered
  have hdone := h.done hrenders
  obtain ⟨hopen, hreview, -, -⟩ := (fresh_iff follows_start).mp hdone.fresh
  constructor
  case isOpen => exact hopen
  case inReview => exact hreview
  case moves =>
    rw [← start_state]
    exact hdone.moves
  case once => exact hdone.once
  case shown =>
    intro other hother
    exact ⟨(h.done hother).shown, (h.done hother).tickedShown⟩

end ReviewedThread

/-! ## Two carriage returns -/

def twoReturnsJob : ReviewRun where
  backend := "codex"
  state := .completed
  report := some
    { reviewerBackend := "codex", findings := [], summary := some "No blocking findings."
      stdout := none, stderr := none, exitStatus := none, sessionId := none }
  error := none
  id := "codex-1"
  issueRef := "#1"
  artifactPath := none
  ledgerPath := none
  backendSessionId := none

def twoReturnsThread : Thread where
  issue := { quotedMarkerIssue with
    linkedPullRequests :=
      [{ number := some 7, url := some "https://github.com/o/r/pull/7", state := some "OPEN"
         isDraft := some false, baseRefName := some "main", headSha := some "abc" }] }
  body := "Do it.\r\r\nSoon."
  comments := []

/-- A passing review of an issue with a line that ends in two carriage returns. -/
def twoReturnsReview : ReviewedThread where
  repository := quotedMarkerRepository
  captured := twoReturnsThread
  health _ := none
  claim := none
  job := twoReturnsJob
  renders evidence :=
    plainRenderer.renderReviewWorkpad agentReviewTemplate
      (quotedMarkerRepository.readIssue twoReturnsThread) twoReturnsJob = some evidence
  rendered := Option.isSome_iff_exists.mp (plainRenderer.renderReviewWorkpad_isSome (by decide))
  terminal := by decide
  ofIssue := by decide
  pullRequest :=
    ⟨(some "https://github.com/o/r/pull/7", some "abc", some false, some "main"), by decide,
      by decide⟩
  distinct := by decide

/-- Each ticking takes one of the two carriage returns, and the second one is not expected. -/
theorem two_returns_not_resumable : ¬ twoReturnsReview.Resumable := by
  intro h
  obtain ⟨evidence, hrenders⟩ := twoReturnsReview.rendered
  have hpassed : twoReturnsReview.publication.decision.outcome.isPassed = true := by decide +kernel
  have honce := (h.done hrenders).once hpassed
  have hreturns : Text.contains (canonicalIssueBodyWithoutWorkpad twoReturnsReview.captured.body)
      "\r\r\n" = true := by
    decide +kernel
  rw [hreturns] at honce
  cases honce

end SheaSymphony.Github

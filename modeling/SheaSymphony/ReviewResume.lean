import SheaSymphony.ReviewBudget
import SheaSymphony.ReviewedThread

/-!
# Resuming a publication

A publication is cut off anywhere and called again, and nothing else writes to the
thread. Each part of a call makes its step on the thread; where the thread is ready for
the evidence, it stays ready and a call stops only where it is cut off. What a call
leaves behind is what the next one goes on from.
-/

namespace SheaSymphony.Github

open Interrupted Lanes Model Review Tracker

namespace ReviewedThread

/-! ## Calls on a thread -/

/-- The receipt of an evidence. -/
structure ReceiptOf (review : ReviewedThread) (evidence : String) (receipt : ReviewPublication) :
    Prop where
  schema : receipt.schemaVersion = 1
  issue : receipt.issue.id = review.publication.issue.id
  claim : receipt.claim = review.publication.claim.map LaneClaim.render
  job : ∀ saved, receipt.job = some saved → saved.id = review.publication.job.id
  evidence : receipt.evidence = some evidence

/-- What calls may leave behind. -/
inductive Left (review : ReviewedThread) : Thread → Option ReviewPublication → Prop
  | nothing : Left review review.start none
  | receipt {evidence : String} {thread : Thread} {receipt : ReviewPublication}
      (renders : review.renders evidence) (ready : review.Ready evidence thread)
      (receiptOf : review.ReceiptOf evidence receipt)
      (state : receipt.state = .resultReady
        ∨ receipt.state = .evidencePublished ∧ review.shows thread = true
        ∨ receipt.state = .complete) : Left review thread (some receipt)

/-- The call has the thread and the receipt before it. -/
structure At (thread : Thread) (receipt : Option ReviewPublication) (world : World Thread) : Prop where
  tracker : world.tracker = thread
  receipt : world.receipt = receipt

/-- A call that has stopped is not complete, and where all is well it was cut off. -/
structure Stopped (review : ReviewedThread) (well : Prop) (world : World Thread) : Prop where
  incomplete : ∀ receipt, world.receipt = some receipt → receipt.state ≠ .complete
  cut : well → world.budget = 0 ∧ review.Left world.tracker world.receipt

/-- A call at work for an evidence, on a thread that is ready where all is well. -/
structure Working (review : ReviewedThread) (well : Prop) (evidence : String) (thread : Thread)
    (receipt : ReviewPublication) : Prop where
  follows : Follows review.captured thread
  receiptOf : review.ReceiptOf evidence receipt
  state : receipt.state = .resultReady ∨ receipt.state = .evidencePublished
  ready : well → review.renders evidence ∧ review.Ready evidence thread
    ∧ (receipt.state = .evidencePublished → review.shows thread = true)

variable {review : ReviewedThread} {well : Prop} {evidence : String} {thread next : Thread}
  {receipt : ReviewPublication} {saved : Option ReviewPublication}

theorem Working.incomplete (h : review.Working well evidence thread receipt) :
    receipt.state ≠ .complete := by
  rcases h.state with hstate | hstate <;> rw [hstate] <;> decide

theorem Working.left (h : review.Working well evidence thread receipt) (hwell : well) :
    review.Left thread (some receipt) := by
  obtain ⟨hrenders, hready, hpublished⟩ := h.ready hwell
  refine .receipt hrenders hready h.receiptOf ?_
  rcases h.state with hstate | hstate
  · exact Or.inl hstate
  · exact Or.inr (Or.inl ⟨hstate, hpublished hstate⟩)

theorem Working.stopped (h : review.Working well evidence thread receipt) {world : World Thread}
    (hworld : At thread (some receipt) world) (hbudget : well → world.budget = 0) :
    review.Stopped well world where
  incomplete := by
    intro stored hstored
    rw [hworld.receipt] at hstored
    rw [← Option.some.inj hstored]
    exact h.incomplete
  cut := by
    intro hwell
    rw [hworld.tracker, hworld.receipt]
    exact ⟨hbudget hwell, h.left hwell⟩

/-! ## Accesses -/

theorem triple_spend
    (hcut : ∀ world, At thread saved world → world.budget = 0 → review.Stopped well world) :
    Triple (At thread saved) spend (fun _ => At thread saved) (review.Stopped well) := by
  refine Triple.of_run fun world hworld => ?_
  unfold spend
  by_cases hbudget : world.budget = 0
  · rw [if_pos hbudget]
    exact hcut world hworld hbudget
  · rw [if_neg hbudget]
    exact ⟨hworld.tracker, hworld.receipt⟩

theorem triple_save
    (hcut : ∀ world, At thread saved world → world.budget = 0 → review.Stopped well world)
    (receipt : ReviewPublication) :
    Triple (At thread saved) receipt.save (fun _ => At thread (some receipt)) (review.Stopped well) :=
  Triple.bind (triple_spend hcut) fun _ => Triple.step fun _ hworld => ⟨hworld.tracker, rfl⟩

theorem getIssue_adapter (repository : Repository) {issueRef : String}
    (h : issueRef = thread.issue.identifier) :
    repository.adapter.getIssue thread issueRef
      = (.ok (some (repository.readIssue thread)), thread) := by
  rw [Repository.adapter]
  dsimp only
  rw [if_pos h]

theorem Follows.issueRef (h : Follows review.captured thread) :
    review.publication.issue.identifier = thread.issue.identifier := by
  rw [h.identifier]
  exact identifier_readIssue review.repository review.captured

variable (h : review.Working well evidence thread receipt)
include h

theorem triple_getIssue (missing : String) :
    Triple (At thread (some receipt))
      (getIssue review.repository.adapter review.publication.issue.identifier missing)
      (fun current world => current = review.repository.readIssue thread ∧ True
        ∧ At thread (some receipt) world)
      (review.Stopped well) := by
  have hread : Triple (At thread (some receipt))
      (readIssue review.repository.adapter review.publication.issue.identifier)
      (fun answer world => answer = .ok (some (review.repository.readIssue thread)) ∧ True
        ∧ At thread (some receipt) world)
      (review.Stopped well) := by
    refine Triple.bind (triple_spend fun world hworld hbudget => h.stopped hworld fun _ => hbudget)
      fun _ => Triple.step fun world hworld => ?_
    have hanswer := getIssue_adapter review.repository (Follows.issueRef h.follows)
    simp only [hworld.tracker, hanswer]
    exact ⟨trivial, trivial, rfl, hworld.receipt⟩
  refine Triple.bind_known hread fun _ => Triple.pure fun world hworld => ?_
  exact ⟨rfl, trivial, hworld⟩

theorem triple_fresh (saved : ReviewPublication) :
    Triple (At thread (some receipt))
      (review.publication.fresh review.repository.adapter saved)
      (fun current world => current = review.repository.readIssue thread
        ∧ review.publication.Fresh (review.repository.readIssue thread)
        ∧ At thread (some receipt) world)
      (review.Stopped well) := by
  refine Triple.bind_known (triple_getIssue h _) fun _ => ?_
  cases hfresh : review.publication.freshness (review.repository.readIssue thread) with
  | ok u =>
      exact Triple.pure fun world hworld => ⟨rfl, review.publication.freshness_eq_ok.mp hfresh, hworld⟩
  | error reason =>
      have hnever : ¬ well := by
        intro hwell
        obtain ⟨-, hready, -⟩ := h.ready hwell
        rw [review.publication.freshness_eq_ok.mpr hready.fresh] at hfresh
        cases hfresh
      refine Triple.bind (triple_save (fun world hworld hbudget =>
        h.stopped hworld fun _ => hbudget) _) fun _ => Triple.halt fun world hworld => ?_
      refine ⟨fun stored hstored => ?_, fun hwell => absurd hwell hnever⟩
      rw [hworld.receipt] at hstored
      rw [← Option.some.inj hstored]
      show PublicationState.superseded ≠ .complete
      decide

theorem triple_write
    {call : Thread → Written × Thread} {event : Bool → Event} {written : Written}
    (hcall : call thread = (written, next)) :
    Triple (At thread (some receipt)) (write call event)
      (fun result world => result = written.result ∧ True ∧ At next (some receipt) world)
      (review.Stopped well) := by
  refine Triple.bind (triple_spend fun world hworld hbudget => h.stopped hworld fun _ => hbudget)
    fun _ => Triple.step fun world hworld => ?_
  dsimp only
  rw [hworld.tracker, hcall]
  exact ⟨rfl, trivial, rfl, hworld.receipt⟩

theorem triple_done
    {call : Thread → Written × Thread} {event : Bool → Event}
    (hcall : call thread = Repository.done next) :
    Triple (At thread (some receipt)) (write call event)
      (fun result world => result = .ok () ∧ True ∧ At next (some receipt) world)
      (review.Stopped well) :=
  triple_write h hcall

omit h in
theorem triple_withRecovery {pre : World Thread → Prop} {issueRef mutationType : String}
    {expected : ReviewedIssue → Bool} {mutation : Publish Thread (Except TrackerError Unit)}
    (h : Triple pre mutation
      (fun result world => result = .ok () ∧ True ∧ At next (some receipt) world)
      (review.Stopped well)) :
    Triple pre (withRecovery review.repository.adapter issueRef mutationType expected mutation)
      (fun _ => At next (some receipt)) (review.Stopped well) :=
  Triple.bind_known h fun _ => Triple.pure fun _ hworld => hworld

/-! ## The evidence -/

theorem Working.posted :
    review.Working well evidence (review.posted evidence thread) receipt where
  follows := h.follows.of_issue posted_issue
  receiptOf := h.receiptOf
  state := h.state
  ready := by
    intro hwell
    obtain ⟨hrenders, hready, -⟩ := h.ready hwell
    exact ⟨hrenders, hready.posted, fun _ => hready.shown⟩

theorem triple_addTimelineComment :
    Triple (At thread (some receipt))
      (addTimelineCommentWithRecovery review.repository.adapter review.publication.issue.identifier
        (review.repository.readIssue thread) evidence review.publication.key "timeline_comment")
      (fun _ => At (review.posted evidence thread) (some receipt)) (review.Stopped well) := by
  unfold Review.addTimelineCommentWithRecovery
  dsimp only
  cases hshows : review.shows thread with
  | true =>
      have hpresent : evidencePresent (trackerRecoveryMarker review.publication.key)
          (review.repository.readIssue thread) = true := hshows
      rw [posted_of_shows hshows, hpresent, if_pos rfl]
      exact Triple.pure fun _ hworld => hworld
  | false =>
      have hpresent : evidencePresent (trackerRecoveryMarker review.publication.key)
          (review.repository.readIssue thread) = false := hshows
      rw [posted_eq, hshows, hpresent, if_neg Bool.false_ne_true, if_neg Bool.false_ne_true]
      refine triple_withRecovery (triple_done h ?_)
      rw [Repository.adapter]
      dsimp only
      rw [if_pos (Follows.issueRef h.follows)]

theorem triple_publishEvidence :
    Triple (At thread (some receipt))
      (review.publication.publishEvidence review.repository.adapter receipt)
      (fun current world => current = review.repository.readIssue (review.posted evidence thread)
        ∧ (review.publication.Fresh (review.repository.readIssue thread)
          ∧ review.shows (review.posted evidence thread) = true)
        ∧ At (review.posted evidence thread) (some receipt) world)
      (review.Stopped well) := by
  unfold Publication.publishEvidence
  refine Triple.bind_known (triple_fresh h _) fun hfresh => ?_
  refine Triple.require_bind_known (fun _ => ?_) fun hhidden => ?_
  · rw [h.receiptOf.evidence, Option.getD_some]
    refine Triple.bind (triple_addTimelineComment h) fun _ => ?_
    refine Triple.bind_known (triple_fresh h.posted _) fun _ => ?_
    refine Triple.require_bind_known (fun hshown => ?_) fun hhidden => ?_
    · exact Triple.pure fun world hworld => ⟨rfl, ⟨hfresh, hshown⟩, hworld⟩
    · refine fun world hworld => h.posted.stopped hworld fun hwell => ?_
      obtain ⟨-, hready, -⟩ := h.ready hwell
      have hshown := hready.shown
      rw [shows, hhidden] at hshown
      cases hshown
  · refine fun world hworld => h.stopped hworld fun hwell => ?_
    obtain ⟨-, -, hpublished⟩ := h.ready hwell
    rcases h.state with hstate | hstate
    · rw [hstate] at hhidden
      cases hhidden
    · have hshows := hpublished hstate
      rw [Bool.or_eq_false_iff] at hhidden
      rw [shows, hhidden.2] at hshows
      cases hshows

/-! ## The claim -/

theorem Working.shows
    (hstate : receipt.state = .evidencePublished) (hwell : well) : review.shows thread = true := by
  obtain ⟨-, -, hpublished⟩ := h.ready hwell
  exact hpublished hstate

theorem Working.claimed
    (hstate : receipt.state = .evidencePublished) :
    review.Working well evidence (review.claimed thread) receipt where
  follows := follows_claimed h.follows
  receiptOf := h.receiptOf
  state := h.state
  ready := by
    intro hwell
    obtain ⟨hrenders, hready, -⟩ := h.ready hwell
    have hshows := h.shows hstate hwell
    exact ⟨hrenders, hready.claimed hshows, fun _ => shows_claimed.trans hshows⟩

omit h in
theorem issueProjectFieldMatches_state (name value state : String) (issue : ReviewedIssue) :
    issueProjectFieldMatches name value { issue with state }
      = issueProjectFieldMatches name value issue := by
  rw [issueProjectFieldMatches, issueProjectFieldMatches, projectTextField, projectTextField]

theorem triple_writeTerminalReviewClaim
    {value : String} (hvalue : review.publication.terminalClaim = some value) (fromState : String) :
    Triple (At thread (some receipt))
      (review.publication.writeTerminalReviewClaim review.repository.adapter fromState value)
      (fun _ => At (review.claimed thread) (some receipt)) (review.Stopped well) := by
  unfold Publication.writeTerminalReviewClaim
  refine Triple.bind_known (triple_getIssue h _) fun _ => ?_
  unfold Review.setProjectFieldWithRecovery
  rw [issueProjectFieldMatches_state, ReviewedThread.claimed, hvalue]
  dsimp only
  cases hmatches : issueProjectFieldMatches "Review Agent" value (review.repository.readIssue thread) with
  | true =>
      rw [if_pos rfl, if_pos rfl]
      exact Triple.pure fun _ hworld => hworld
  | false =>
      rw [if_neg Bool.false_ne_true, if_neg Bool.false_ne_true, identifier_readIssue]
      refine triple_withRecovery (triple_done h ?_)
      rw [Repository.adapter]
      dsimp only
      rw [if_pos rfl]

theorem triple_publishClaim
    (hstate : receipt.state = .evidencePublished) (saved : ReviewPublication) :
    Triple (At thread (some receipt))
      (review.publication.publishClaim review.repository.adapter saved
        (review.repository.readIssue thread))
      (fun current world => current = review.repository.readIssue (review.claimed thread) ∧ True
        ∧ At (review.claimed thread) (some receipt) world)
      (review.Stopped well) := by
  unfold Publication.publishClaim
  cases hvalue : review.publication.terminalClaim with
  | none =>
      have hclaimed : review.claimed thread = thread := by rw [ReviewedThread.claimed, hvalue]
      rw [hclaimed]
      exact Triple.pure fun world hworld => ⟨rfl, trivial, hworld⟩
  | some value =>
      refine Triple.bind (triple_writeTerminalReviewClaim h hvalue _) fun _ => ?_
      refine Triple.bind_known (triple_fresh (h.claimed hstate) _) fun _ => ?_
      have hmatches : issueProjectFieldMatches "Review Agent" value
          (review.repository.readIssue (review.claimed thread)) = true := by
        rw [issueProjectFieldMatches, field_claimed hvalue, beq_self_eq_true]
      rw [hmatches]
      refine Triple.require_bind_known (fun _ => ?_) (by rintro ⟨⟩)
      exact Triple.pure fun world hworld => ⟨rfl, trivial, hworld⟩

/-! ## The checklist -/

theorem Working.ticked
    (hstate : receipt.state = .evidencePublished) :
    review.Working well evidence (review.ticked thread) receipt where
  follows := h.follows.of_issue ticked_issue
  receiptOf := h.receiptOf
  state := h.state
  ready := by
    intro hwell
    obtain ⟨hrenders, hready, -⟩ := h.ready hwell
    have hshows := h.shows hstate hwell
    have hticked := (hready.ticked hshows).shown
    refine ⟨hrenders, hready.ticked hshows, fun _ => ?_⟩
    rw [← hready.tickedShown, posted_of_shows hshows]

theorem triple_updateReviewChecklistForPass
    (hpassed : review.publication.decision.outcome.isPassed = true) :
    Triple (At thread (some receipt))
      (Publication.updateReviewChecklistForPass review.repository.adapter (review.repository.readIssue thread))
      (fun _ => At (review.ticked thread) (some receipt)) (review.Stopped well) := by
  have hcanonical := canonicalBody_readIssue review.repository thread
  unfold Publication.updateReviewChecklistForPass
  rw [ticked_of_passed hpassed]
  rw [canonicalBody] at hcanonical
  cases hdescription : (review.repository.readIssue thread).description with
  | none =>
      have hempty : canonicalIssueBodyWithoutWorkpad "" = "" :=
        canonical_of_isSpace (by simp [Text.IsSpace])
      have hnothing : checkReviewVerifiedIssueBodyCheckboxes "" = "" := by decide
      rw [hdescription, Option.getD_none, hempty] at hcanonical
      rw [← hcanonical, hnothing, if_pos rfl]
      exact Triple.pure fun _ hworld => hworld
  | some description =>
      rw [hdescription, Option.getD_some] at hcanonical
      dsimp only
      rw [hcanonical, identifier_readIssue, title_readIssue]
      generalize checkReviewVerifiedIssueBodyCheckboxes _ = updated
      by_cases hsame : updated = canonicalIssueBodyWithoutWorkpad thread.body
      · rw [if_pos hsame, if_pos hsame]
        exact Triple.pure fun _ hworld => hworld
      · rw [if_neg hsame, if_neg hsame]
        have hcall : review.repository.adapter.updateIssueContent thread thread.issue.identifier
            thread.issue.title updated
              = Repository.done (Repository.updateIssueContent thread thread.issue.title updated) := by
          rw [Repository.adapter]
          dsimp only
          rw [if_pos rfl]
        exact Triple.bind_known (triple_done h hcall) fun _ => Triple.pure fun _ hworld => hworld

theorem triple_publishChecklist
    (hstate : receipt.state = .evidencePublished) (saved : ReviewPublication) :
    Triple (At thread (some receipt))
      (review.publication.publishChecklist review.repository.adapter saved
        (review.repository.readIssue thread))
      (fun current world => current = review.repository.readIssue (review.ticked thread)
        ∧ (review.publication.decision.outcome.isPassed = true →
          review.publication.Fresh (review.repository.readIssue (review.ticked thread))
            ∧ checkReviewVerifiedIssueBodyCheckboxes
                (canonicalIssueBodyWithoutWorkpad (review.ticked thread).body)
              = canonicalIssueBodyWithoutWorkpad (review.ticked thread).body)
        ∧ At (review.ticked thread) (some receipt) world)
      (review.Stopped well) := by
  unfold Publication.publishChecklist
  cases hpassed : review.publication.decision.outcome.isPassed with
  | false =>
      rw [ticked_of_not_passed hpassed, if_neg Bool.false_ne_true]
      exact Triple.pure fun world hworld => ⟨rfl, nofun, hworld⟩
  | true =>
      rw [if_pos rfl]
      refine Triple.bind (triple_updateReviewChecklistForPass h hpassed) fun _ => ?_
      refine Triple.bind_known (triple_fresh (h.ticked hstate) _) fun hfresh => ?_
      rw [canonicalBody_readIssue]
      refine Triple.require_bind_known (fun hdone => ?_) fun hopen => ?_
      · refine Triple.pure fun world hworld => ⟨rfl, fun _ => ⟨hfresh, beq_iff_eq.mp hdone⟩, hworld⟩
      · refine fun world hworld => (h.ticked hstate).stopped hworld fun hwell => ?_
        obtain ⟨-, hready, -⟩ := h.ready hwell
        rw [canonical_ticked hpassed, hready.again hpassed, beq_self_eq_true] at hopen
        cases hopen

/-! ## The state -/

theorem Working.moved
    (hstate : receipt.state = .evidencePublished) :
    review.Working well evidence (review.moved thread) receipt where
  follows := follows_moved h.follows
  receiptOf := h.receiptOf
  state := h.state
  ready := by
    intro hwell
    obtain ⟨hrenders, hready, -⟩ := h.ready hwell
    have hshows := h.shows hstate hwell
    exact ⟨hrenders, hready.moved hshows, fun _ => shows_moved.trans hshows⟩

theorem triple_setStateWithRecovery
    {target : String} (htarget : review.publication.decision.targetState = some target) :
    Triple (At thread (some receipt))
      (setStateWithRecovery review.repository.adapter review.repository.case
        review.publication.issue.identifier (review.repository.readIssue thread) target "state_change")
      (fun _ world => (issueStateMatches review.repository.case target
            (review.repository.readIssue thread) = true
          ∨ ∃ option, resolveConfiguredTrackerState review.repository.case review.repository.stateMap
            target = .ok option)
        ∧ At (review.moved thread) (some receipt) world)
      (review.Stopped well) := by
  unfold Review.setStateWithRecovery
  rw [moved_of_target htarget]
  cases hmatches : issueStateMatches review.repository.case target
      (review.repository.readIssue thread) with
  | true =>
      rw [if_pos rfl, if_pos rfl]
      exact Triple.pure fun world hworld => ⟨Or.inl rfl, hworld⟩
  | false =>
      rw [if_neg Bool.false_ne_true, if_neg Bool.false_ne_true]
      cases hset : review.repository.setState thread target with
      | ok after =>
          have hcall : review.repository.adapter.setState thread
              review.publication.issue.identifier target = Repository.done after := by
            rw [Repository.adapter]
            dsimp only
            rw [hset]
            exact if_pos (Follows.issueRef h.follows)
          refine (triple_withRecovery (triple_done h hcall)).weaken (fun _ hworld => hworld)
            (fun _ world hworld => ⟨Or.inr ?_, hworld⟩) fun _ hworld => hworld
          exact setState_eq_ok_iff.mp ⟨after, hset⟩
      | error error =>
          have hcall : review.repository.adapter.setState thread
              review.publication.issue.identifier target
                = Repository.missing thread review.publication.issue.identifier := by
            rw [Repository.adapter]
            dsimp only
            rw [hset]
            exact if_pos (Follows.issueRef h.follows)
          refine Triple.bind_known (triple_write h hcall) fun _ => ?_
          refine Triple.require_bind_known (by rintro ⟨⟩) fun _ world hworld => h.stopped hworld fun hwell => ?_
          obtain ⟨-, hready, -⟩ := h.ready hwell
          have hmoves := hready.moves target htarget
          rw [issueStateMatches, beq_eq_false_iff_ne, state_readIssue] at hmatches
          rw [if_neg hmatches] at hmoves
          obtain ⟨after, hok⟩ := setState_eq_ok_iff.mpr hmoves
          rw [hset] at hok
          cases hok

theorem triple_publishState
    (hstate : receipt.state = .evidencePublished) (saved : ReviewPublication) :
    Triple (At thread (some receipt))
      (review.publication.publishState review.repository.adapter saved
        (review.repository.readIssue thread))
      (fun _ world => review.Moves thread.issue.state ∧ At (review.moved thread) (some receipt) world)
      (review.Stopped well) := by
  obtain ⟨target, hroute, htarget, -⟩ := routes_decision review.health review.repository.case
    review.job.toReviewJob (review.repository.readIssue review.captured).toTrackerIssue
  have hdecision : review.publication.decision.targetState = some target := htarget
  unfold Publication.publishState
  rw [hdecision]
  dsimp only
  refine Triple.bind (triple_setStateWithRecovery h hdecision) fun _ => ?_
  refine Triple.of_fact (fun _ hworld => hworld.1) fun hreached => ?_
  refine Triple.weaken (Triple.bind_known (triple_fresh (h.moved hstate) _) fun _ => ?_)
    (fun _ hworld => hworld.2) (fun _ _ hpost => hpost) fun _ hstop => hstop
  refine Triple.require_known (fun hkey world hworld => ⟨fun other hother => ?_, hworld⟩)
    fun hkey world hworld => (h.moved hstate).stopped hworld fun hwell => ?_
  · obtain rfl : target = other := Option.some.inj (hdecision.symm.trans hother)
    rw [beq_iff_eq, state_readIssue, moved_of_target hdecision] at hkey
    cases hmatches : issueStateMatches review.repository.case target
        (review.repository.readIssue thread) with
    | true =>
        rw [hmatches, if_pos rfl] at hkey
        rw [issueStateMatches, beq_iff_eq, state_readIssue] at hmatches
        rw [if_pos hmatches]
        exact hkey
    | false =>
        have hresolves := hreached.resolve_left (by rw [hmatches]; exact Bool.false_ne_true)
        rw [issueStateMatches, beq_eq_false_iff_ne, state_readIssue] at hmatches
        rw [if_neg hmatches]
        exact hresolves
  · obtain ⟨-, hready, -⟩ := h.ready hwell
    rw [beq_eq_false_iff_ne, state_readIssue] at hkey
    exact absurd (stateKey_moved hready.moves hdecision hroute) hkey

/-! ## A call -/

omit h

/-- What a call has read back when it is done. -/
structure Done (review : ReviewedThread) (evidence : String) (thread : Thread) : Prop where
  fresh : review.publication.Fresh (review.repository.readIssue thread)
  shown : review.shows (review.posted evidence thread) = true
  ticked : review.publication.decision.outcome.isPassed = true →
    review.publication.Fresh
        (review.repository.readIssue (review.ticked (review.claimed (review.posted evidence thread))))
      ∧ checkReviewVerifiedIssueBodyCheckboxes (canonicalIssueBodyWithoutWorkpad
          (review.ticked (review.claimed (review.posted evidence thread))).body)
        = canonicalIssueBodyWithoutWorkpad
          (review.ticked (review.claimed (review.posted evidence thread))).body
  moves : review.Moves thread.issue.state

/-- The receipt a call finds, or starts with. -/
def found (review : ReviewedThread) (saved : Option ReviewPublication) : ReviewPublication :=
  saved.getD (.new review.publication.issue review.publication.claim)

/-- The receipt a call opens. -/
def opened (review : ReviewedThread) (saved : Option ReviewPublication) (render : String) :
    ReviewPublication :=
  { review.found saved with
    job := some review.publication.job
    state :=
      if (review.found saved).state = .evidencePublished then .evidencePublished else .resultReady
    evidence := some ((review.found saved).evidence.getD render) }

theorem Working.published (h : review.Working well evidence thread receipt)
    (hshows : review.shows thread = true) :
    review.Working well evidence thread { receipt with state := .evidencePublished } where
  follows := h.follows
  receiptOf := ⟨h.receiptOf.schema, h.receiptOf.issue, h.receiptOf.claim, h.receiptOf.job,
    h.receiptOf.evidence⟩
  state := Or.inr rfl
  ready := by
    intro hwell
    obtain ⟨hrenders, hready, -⟩ := h.ready hwell
    exact ⟨hrenders, hready, fun _ => hshows⟩

theorem triple_published (h : review.Working well evidence thread receipt) :
    Triple (At thread (some receipt))
      (do
        let current ← review.publication.publishEvidence review.repository.adapter receipt
        let receipt := { receipt with state := .evidencePublished }
        receipt.save
        let current ← review.publication.publishClaim review.repository.adapter receipt current
        let current ← review.publication.publishChecklist review.repository.adapter receipt current
        review.publication.publishState review.repository.adapter receipt current
        ReviewPublication.save { receipt with state := .complete })
      (fun _ world => review.Done evidence thread
        ∧ (well → review.Left world.tracker world.receipt)
        ∧ world.receipt = some { receipt with state := .complete })
      (review.Stopped well) := by
  refine Triple.bind_known (triple_publishEvidence h) fun ⟨hfresh, hshown⟩ => ?_
  have hposted := h.posted.published hshown
  refine Triple.bind (triple_save (fun world hworld hbudget =>
    h.posted.stopped hworld fun _ => hbudget) _) fun _ => ?_
  refine Triple.bind_known (triple_publishClaim hposted rfl _) fun _ => ?_
  have hclaimed := hposted.claimed rfl
  refine Triple.bind_known (triple_publishChecklist hclaimed rfl _) fun hticks => ?_
  have hticked := hclaimed.ticked rfl
  refine Triple.bind (triple_publishState hticked rfl _) fun _ => ?_
  refine Triple.of_fact (fun _ hworld => hworld.1) fun hmoves => ?_
  rw [ticked_issue, claimed_state, posted_issue] at hmoves
  have hmoved := hticked.moved rfl
  refine Triple.weaken (triple_save (fun world hworld hbudget =>
    hmoved.stopped hworld fun _ => hbudget) _) (fun _ hworld => hworld.2)
    (fun _ world hworld => ⟨⟨hfresh, hshown, hticks, hmoves⟩, fun hwell => ?_, hworld.receipt⟩)
    fun _ hstop => hstop
  obtain ⟨hrenders, hready, -⟩ := hmoved.ready hwell
  rw [hworld.tracker, hworld.receipt]
  exact .receipt hrenders hready ⟨h.receiptOf.schema, h.receiptOf.issue, h.receiptOf.claim,
    h.receiptOf.job, h.receiptOf.evidence⟩ (Or.inr (Or.inr rfl))

/-- A receipt of this run, which has not been superseded. -/
structure Opens (review : ReviewedThread) (receipt : ReviewPublication) : Prop where
  schema : receipt.schemaVersion = 1
  issue : receipt.issue.id = review.publication.issue.id
  claim : receipt.claim = review.publication.claim.map LaneClaim.render
  job : ∀ saved, receipt.job = some saved → saved.id = review.publication.job.id
  notSuperseded : receipt.state ≠ .superseded

theorem Opens.new (review : ReviewedThread) : review.Opens (review.found none) where
  schema := rfl
  issue := rfl
  claim := rfl
  job := fun saved hsaved => by cases hsaved
  notSuperseded := by
    show PublicationState.starting ≠ .superseded
    decide

theorem Left.opens (h : review.Left thread saved) : review.Opens (review.found saved) := by
  cases h with
  | nothing => exact .new review
  | receipt renders ready receiptOf state =>
      refine ⟨receiptOf.schema, receiptOf.issue, receiptOf.claim, receiptOf.job, ?_⟩
      rcases state with hstate | ⟨hstate, -⟩ | hstate <;> rw [found, Option.getD_some, hstate] <;> decide

theorem triple_readReceipt {stop : World Thread → Prop}
    (hcut : ∀ world, At thread saved world → world.budget = 0 → stop world) :
    Triple (At thread saved) readReceipt
      (fun receipt world => receipt = saved ∧ True ∧ At thread saved world) stop := by
  have hspend : Triple (At thread saved) spend (fun _ => At thread saved) stop := by
    refine Triple.of_run fun world hworld => ?_
    unfold spend
    by_cases hbudget : world.budget = 0
    · rw [if_pos hbudget]
      exact hcut world hworld hbudget
    · rw [if_neg hbudget]
      exact ⟨hworld.tracker, hworld.receipt⟩
  exact Triple.bind hspend fun _ => Triple.step fun world hworld => ⟨hworld.receipt, trivial, hworld⟩

theorem triple_openReceipt {stop : World Thread → Prop}
    (h : review.Opens (review.found saved)) (render : String)
    (hcut : ∀ world, At thread saved world → world.budget = 0 → stop world)
    {post : Option ReviewPublication → World Thread → Prop}
    (hrest : Triple (At thread saved)
      (if (review.found saved).state = .complete then return none
      else do
        Program.require ((review.found saved).state != .superseded)
          (.message "Review result was superseded; inspect the retained receipt")
        (review.opened saved render).save
        return some (review.opened saved render))
      post stop) :
    Triple (At thread saved) (review.publication.openReceipt render) post stop := by
  obtain ⟨target, -, htarget, hallowed⟩ := routes_decision review.health review.repository.case
    review.job.toReviewJob (review.repository.readIssue review.captured).toTrackerIssue
  have hdecision : review.publication.decision.targetState = some target := htarget
  have hissue : review.publication.job.issueRef = review.publication.issue.identifier :=
    review.ofIssue.trans (identifier_readIssue review.repository review.captured).symm
  have hrun : (reviewJobIsTerminal review.publication.job.toReviewJob
      && review.publication.job.issueRef == review.publication.issue.identifier) = true := by
    rw [hissue, beq_self_eq_true, Bool.and_true]
    exact review.terminal
  have hroute : (review.publication.decision.targetState.all fun target =>
      transitionAllowedForReviewAgent target review.publication.decision) = true := by
    rw [hdecision, Option.all_some]
    exact hallowed
  have hschema : ((review.found saved).schemaVersion == 1) = true := by
    rw [h.schema, beq_self_eq_true]
  have hjob : ((review.found saved).job.all fun saved => saved.id == review.publication.job.id)
      = true := by
    cases hjob : (review.found saved).job with
    | none => rfl
    | some job => rw [Option.all_some, h.job job hjob, beq_self_eq_true]
  have hidentity : ((review.found saved).issue.id == review.publication.issue.id
      && (review.found saved).claim == review.publication.claim.map LaneClaim.render
      && (review.found saved).job.all fun saved => saved.id == review.publication.job.id) = true := by
    rw [h.issue, h.claim, hjob, beq_self_eq_true, beq_self_eq_true, Bool.and_true, Bool.and_true]
  unfold Publication.openReceipt
  rw [hrun]
  refine Triple.require_bind_known (fun _ => ?_) nofun
  rw [hroute]
  refine Triple.require_bind_known (fun _ => ?_) nofun
  refine Triple.bind_known (triple_readReceipt hcut) fun _ => ?_
  refine Triple.require_bind_known (fun _ => ?_) fun hrefused => ?_
  · refine Triple.require_bind_known (fun _ => hrest) fun hrefused => ?_
    exact absurd (hidentity.symm.trans hrefused) Bool.true_eq_false.mp
  · exact absurd (hschema.symm.trans hrefused) Bool.true_eq_false.mp

theorem follows_start : Follows review.captured review.start := by
  rw [start]
  cases review.claim with
  | none => exact .refl _
  | some claim => exact (Follows.refl _).setProjectField claim.render

theorem opened_none (render : String) : review.ReceiptOf render (review.opened none render) where
  schema := rfl
  issue := rfl
  claim := rfl
  job := fun saved hsaved => by rw [← Option.some.inj hsaved]
  evidence := rfl

theorem opened_state (saved : Option ReviewPublication) (render : String) :
    (review.opened saved render).state = .resultReady
      ∨ (review.opened saved render).state = .evidencePublished := by
  rw [opened]
  dsimp only
  split
  · exact Or.inr rfl
  · exact Or.inl rfl

theorem working_start {render : String}
    (hready : well → review.renders render ∧ review.Ready render review.start) :
    review.Working well render review.start (review.opened none render) where
  follows := follows_start
  receiptOf := opened_none render
  state := opened_state none render
  ready := by
    intro hwell
    obtain ⟨hrenders, hready⟩ := hready hwell
    refine ⟨hrenders, hready, fun hpublished => ?_⟩
    have hnew : (review.opened none render).state = .resultReady := rfl
    rw [hnew] at hpublished
    cases hpublished

theorem working_receipt {render : String} (hrenders : review.renders evidence)
    (hready : review.Ready evidence thread) (hreceipt : review.ReceiptOf evidence receipt)
    (hstate : receipt.state = .resultReady
      ∨ receipt.state = .evidencePublished ∧ review.shows thread = true) :
    review.Working well evidence thread (review.opened (some receipt) render) where
  follows := hready.follows
  receiptOf := by
    refine ⟨hreceipt.schema, hreceipt.issue, hreceipt.claim,
      fun saved hsaved => by rw [← Option.some.inj hsaved], ?_⟩
    show some (receipt.evidence.getD render) = some evidence
    rw [hreceipt.evidence, Option.getD_some]
  state := opened_state (some receipt) render
  ready := by
    refine fun _ => ⟨hrenders, hready, fun hpublished => ?_⟩
    rcases hstate with hresult | ⟨-, hshows⟩
    · have hopened : (review.opened (some receipt) render).state = .resultReady := by
        rw [opened, found, Option.getD_some]
        dsimp only
        rw [hresult]
        rfl
      rw [hopened] at hpublished
      cases hpublished
    · exact hshows

theorem Stopped.of_at (hincomplete : (review.found saved).state ≠ .complete)
    (hleft : well → review.Left thread saved) {world : World Thread} (hworld : At thread saved world)
    (hbudget : world.budget = 0) : review.Stopped well world where
  incomplete := by
    intro stored hstored
    rw [hworld.receipt] at hstored
    rwa [hstored, found, Option.getD_some] at hincomplete
  cut := by
    intro hwell
    rw [hworld.tracker, hworld.receipt]
    exact ⟨hbudget, hleft hwell⟩

theorem triple_applyReviewResult {render : String} (h : review.Opens (review.found saved))
    (hincomplete : (review.found saved).state ≠ .complete) (hleft : well → review.Left thread saved)
    (hworking : review.Working well evidence thread (review.opened saved render)) :
    Triple (At thread saved) (review.publication.applyReviewResult review.repository.adapter render)
      (fun _ world => review.Done evidence thread
        ∧ (well → review.Left world.tracker world.receipt)
        ∧ ∃ receipt, world.receipt = some receipt ∧ receipt.state = .complete)
      (review.Stopped well) := by
  have hcut : ∀ world, At thread saved world → world.budget = 0 → review.Stopped well world :=
    fun world hworld hbudget => Stopped.of_at hincomplete hleft hworld hbudget
  have hnotSuperseded : ((review.found saved).state != .superseded) = true := by
    rw [bne_iff_ne]
    exact h.notSuperseded
  have hopen : Triple (At thread saved) (review.publication.openReceipt render)
      (fun answer world => answer = some (review.opened saved render) ∧ True
        ∧ At thread (some (review.opened saved render)) world) (review.Stopped well) := by
    refine triple_openReceipt h render hcut ?_
    rw [if_neg hincomplete, hnotSuperseded]
    refine Triple.require_bind_known (fun _ => ?_) nofun
    exact Triple.bind (triple_save hcut _) fun _ => Triple.pure fun world hworld =>
      ⟨rfl, trivial, hworld⟩
  refine Triple.bind_known hopen fun _ => ?_
  exact (triple_published hworking).weaken (fun _ hworld => hworld)
    (fun _ world hpost => ⟨hpost.1, hpost.2.1, _, hpost.2.2, rfl⟩) fun _ hstop => hstop

theorem triple_applyReviewResult_complete (h : review.Opens (review.found saved))
    (hcomplete : (review.found saved).state = .complete) (render : String) :
    Triple (At thread saved) (review.publication.applyReviewResult review.repository.adapter render)
      (fun _ => At thread saved) (At thread saved) := by
  have hopen : Triple (At thread saved) (review.publication.openReceipt render)
      (fun answer world => answer = none ∧ True ∧ At thread saved world) (At thread saved) := by
    refine triple_openReceipt h render (fun _ hworld _ => hworld) ?_
    rw [if_pos hcomplete]
    exact Triple.pure fun world hworld => ⟨rfl, trivial, hworld⟩
  exact Triple.bind_known hopen fun _ => Triple.pure fun _ hworld => hworld

end ReviewedThread

end SheaSymphony.Github

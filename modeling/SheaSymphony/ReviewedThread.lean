import SheaSymphony.EvidenceReadback
import SheaSymphony.ReviewBody
import SheaSymphony.ReviewPublicationSafety

/-!
# The thread of a review

A publication writes to four places of a thread: a comment, the field of the claim,
the body and the state. Each write is a step on the thread that does nothing where it
has been made, and leaves a readback that the publication may go on from, as long as
the evidence stays visible, the boxes stay ticked and the state has one name.
-/

namespace SheaSymphony.Github

open Lanes Model Review Tracker Text

/-! ## The steps -/

/-- A review of the issue of a thread, with what rendering its evidence may give. The
issue has one pull request that is open and ready, and its states have different names. -/
structure ReviewedThread where
  repository : Repository
  captured : Thread
  health : ReviewJob → Option GeminiReviewHealthDiagnostic
  claim : Option LaneClaim
  job : ReviewRun
  renders : String → Prop
  rendered : ∃ evidence, renders evidence
  terminal : reviewJobIsTerminal job.toReviewJob = true
  ofIssue : job.issueRef = captured.issue.identifier
  pullRequest : ∃ pr, readyPrs (repository.readIssue captured) = [pr] ∧ prIsReady pr = true
  distinct : ((configuredStates repository.stateMap).map Prod.snd).Nodup

namespace ReviewedThread

variable (review : ReviewedThread)

def publication : Publication where
  case := review.repository.case
  health := review.health
  stateMap := review.repository.stateMap
  issue := review.repository.readIssue review.captured
  claim := review.claim
  job := review.job

/-- The run owns the thread by its claim. -/
def start : Thread :=
  match review.claim with
  | none => review.captured
  | some claim => Repository.setProjectField review.captured "Review Agent" claim.render

def shows (thread : Thread) : Bool :=
  evidencePresent review.publication.marker (review.repository.readIssue thread)

def posted (evidence : String) (thread : Thread) : Thread :=
  postEvidence review.repository thread evidence review.publication.key

def claimed (thread : Thread) : Thread :=
  match review.publication.terminalClaim with
  | none => thread
  | some value =>
      if issueProjectFieldMatches "Review Agent" value (review.repository.readIssue thread) then
        thread
      else Repository.setProjectField thread "Review Agent" value

def ticked (thread : Thread) : Thread :=
  if review.publication.decision.outcome.isPassed then
    let body := canonicalIssueBodyWithoutWorkpad thread.body
    let updated := checkReviewVerifiedIssueBodyCheckboxes body
    if updated = body then thread
    else Repository.updateIssueContent thread thread.issue.title updated
  else thread

def moved (thread : Thread) : Thread :=
  match review.publication.decision.targetState with
  | none => thread
  | some target =>
      if issueStateMatches review.repository.case target (review.repository.readIssue thread) then
        thread
      else
        match review.repository.setState thread target with
        | .ok thread => thread
        | .error _ => thread

/-! ## Publications that read back -/

/-- From a state the target is reached: it is the state already when its key is, and else
it has one name. -/
def Moves (state : String) : Prop :=
  ∀ target, review.publication.decision.targetState = some target →
    if stateKey review.repository.case state = stateKey review.repository.case target then
      stateKey review.repository.case state
        = mappedStateKey review.repository.case review.repository.stateMap target
    else
      ∃ option, resolveConfiguredTrackerState review.repository.case review.repository.stateMap target
        = .ok option

/-- The state of the issue before the review, or the one this publication brings. -/
def InReview (thread : Thread) : Prop :=
  stateKey review.repository.case (review.repository.readIssue thread).state
      = stateKey review.repository.case review.repository.stateMap.agentReview
    ∨ review.shows thread = true
      ∧ ∃ target, review.publication.decision.targetState = some target
        ∧ stateKey review.repository.case (review.repository.readIssue thread).state
          = mappedStateKey review.repository.case review.repository.stateMap target

/-- What publishing a review comes down to: the issue is open and in review, its target
can be reached, a second ticking finds nothing to do, and the evidence is visible where
it has been posted and where the boxes have been ticked behind it. -/
structure ReadsBack : Prop where
  isOpen : issueIsClosed review.repository.case (review.repository.readIssue review.captured) = false
  inReview : review.InReview review.start
  moves : review.Moves review.captured.issue.state
  once : review.publication.decision.outcome.isPassed = true →
    Text.contains (canonicalIssueBodyWithoutWorkpad review.captured.body) "\r\r\n" = false
  shown : ∀ evidence, review.renders evidence →
    review.shows (review.posted evidence review.start) = true
      ∧ review.shows (review.ticked (review.posted evidence review.start)) = true

end ReviewedThread

/-! ## Reading -/

section

variable {repository : Repository} {thread : Thread}

theorem id_readIssue (repository : Repository) (thread : Thread) :
    (repository.readIssue thread).id = thread.issue.id := by
  rw [Repository.readIssue]

theorem identifier_readIssue (repository : Repository) (thread : Thread) :
    (repository.readIssue thread).identifier = thread.issue.identifier := by
  rw [Repository.readIssue]

theorem title_readIssue (repository : Repository) (thread : Thread) :
    (repository.readIssue thread).title = thread.issue.title := by
  rw [Repository.readIssue]

theorem state_readIssue (repository : Repository) (thread : Thread) :
    (repository.readIssue thread).state = thread.issue.state := by
  rw [Repository.readIssue]

theorem exists_join_cons (separator part : String) (parts : List String) :
    ∃ rest, Text.join separator (part :: parts) = part ++ rest := by
  cases parts with
  | nil => exact ⟨"", by rw [join_singleton, String.append_empty]⟩
  | cons next parts =>
      refine ⟨separator ++ join separator (next :: parts), ?_⟩
      rw [join_cons part (List.cons_ne_nil next parts), String.append_assoc]

theorem canonical_descriptionWithWorkpad (marker : String) (thread : Thread) :
    canonicalIssueBodyWithoutWorkpad ((thread.descriptionWithWorkpad marker).getD "")
      = canonicalIssueBodyWithoutWorkpad thread.body := by
  have hempty : canonicalIssueBodyWithoutWorkpad "" = "" := canonical_of_isSpace (by simp [Text.IsSpace])
  have hblank : trim thread.body = "" → canonicalIssueBodyWithoutWorkpad thread.body = "" :=
    fun h => canonical_of_isSpace (isSpace_of_trim_eq h)
  rw [Thread.descriptionWithWorkpad, Thread.sections]
  generalize canonicalWorkpadCommentBody marker thread.commentBodies = workpad
  generalize sheaSymphonyTimelineCommentBodies marker thread.commentBodies = timeline
  by_cases hattached : (workpad.isSome || !timeline.isEmpty) = true
  · obtain ⟨rest, hrest⟩ :=
      exists_join_cons "\n\n" attachedEvidenceMarker (workpad.toList ++ timeline)
    rw [if_pos hattached]
    by_cases hbody : trim thread.body = ""
    · have hsections : [] ++ [attachedEvidenceMarker] ++ workpad.toList ++ timeline
          = attachedEvidenceMarker :: (workpad.toList ++ timeline) := by simp
      rw [if_pos hbody, hblank hbody, hsections, List.isEmpty_cons, if_neg Bool.false_ne_true,
        Option.getD_some, hrest, canonical_attached]
    · have hsections : [thread.body] ++ [attachedEvidenceMarker] ++ workpad.toList ++ timeline
          = thread.body :: attachedEvidenceMarker :: (workpad.toList ++ timeline) := by simp
      rw [if_neg hbody, hsections, List.isEmpty_cons, if_neg Bool.false_ne_true, Option.getD_some,
        join_cons _ (List.cons_ne_nil _ _), hrest, canonical_append_attached]
  · have hnone : workpad = none ∧ timeline = [] := by simpa using hattached
    rw [if_neg hattached, hnone.1, hnone.2]
    by_cases hbody : trim thread.body = ""
    · rw [if_pos hbody, hblank hbody]
      exact hempty
    · rw [if_neg hbody]
      simp

theorem canonicalBody_readIssue (repository : Repository) (thread : Thread) :
    canonicalBody (repository.readIssue thread) = canonicalIssueBodyWithoutWorkpad thread.body := by
  rw [canonicalBody, description_readIssue]
  exact canonical_descriptionWithWorkpad repository.workpadMarker thread

/-- The body is read back from the description, and writing it ticked changes no more than
boxes and the ends of lines. -/
structure BodySurvives (marker : String) (thread : Thread) : Prop where
  extracted : canonicalIssueBodyWithoutWorkpad ((thread.descriptionWithWorkpad marker).getD "")
    = Text.trimEnd thread.body
  ticked : Ticks (Text.relay (Text.trimEnd thread.body)).toList
    (checkReviewVerifiedIssueBodyCheckboxes
      (canonicalIssueBodyWithoutWorkpad ((thread.descriptionWithWorkpad marker).getD ""))).toList

/-- A body survives a review pass exactly when it mentions neither marker. -/
theorem bodySurvives_iff (marker : String) (thread : Thread) :
    BodySurvives marker thread ↔
      Text.contains thread.body attachedEvidenceMarker = false
        ∧ Text.contains thread.body workpadMarker = false := by
  have hextract := canonical_descriptionWithWorkpad marker thread
  constructor
  · intro h
    have hplain := plainBody_canonical thread.body
    rw [← hextract, h.extracted] at hplain
    constructor
    · rw [← Bool.not_eq_true]
      intro hmarker
      have hkept := Text.contains_trimEnd hmarker (by decide)
      rw [hplain.attached] at hkept
      cases hkept
    · rw [← Bool.not_eq_true]
      intro hmarker
      have hkept := Text.contains_trimEnd hmarker (by decide)
      rw [hplain.workpad] at hkept
      cases hkept
  · rintro ⟨hattached, hworkpad⟩
    have hbody : canonicalIssueBodyWithoutWorkpad thread.body = Text.trimEnd thread.body := by
      rw [canonicalIssueBodyWithoutWorkpad,
        beforeFirst_of_not_contains attachedEvidenceMarker_ne hattached,
        beforeFirst_of_not_contains workpadMarker_ne hworkpad]
    refine ⟨hextract.trans hbody, ?_⟩
    rw [hextract, hbody]
    exact ticks_check (Review.trimEnd_trimEnd thread.body)

def quotedBodyThread : Thread where
  issue :=
    { id := "I_1", identifier := "#1", title := "Review me", description := none
      state := "Agent Review", priority := none, blockedBy := [], projectFields := fun _ => none
      createdAt := none, linkedPullRequests := [] }
  body := "## Expected Outcome\n\n- [ ] `<!-- shea-symphony-attached-evidence -->` is written\n\nSoon."
  comments := []

/-- Of a body that quotes the marker only what stands before it is read back. -/
theorem quoted_body_cut_off :
    ¬ BodySurvives "<!-- shea-symphony-workpad -->" quotedBodyThread := by
  intro h
  have hextracted := h.extracted
  rw [canonical_descriptionWithWorkpad] at hextracted
  revert hextracted
  decide +kernel

theorem mergeLinkedPullRequests_subset (prs : List LinkedPullRequest) : ∀ seen : List String,
    ∀ pr ∈ mergeLinkedPullRequests seen prs, pr ∈ prs := by
  induction prs with
  | nil => exact fun _ _ h => h
  | cons first prs ih =>
      intro seen pr hpr
      rw [mergeLinkedPullRequests] at hpr
      split at hpr
      · rcases List.mem_cons.mp hpr with rfl | hpr
        · exact List.mem_cons_self
        · exact List.mem_cons_of_mem _ (ih _ _ hpr)
      · split at hpr
        · exact List.mem_cons_of_mem _ (ih _ _ hpr)
        · rcases List.mem_cons.mp hpr with rfl | hpr
          · exact List.mem_cons_self
          · exact List.mem_cons_of_mem _ (ih _ _ hpr)

def isOpenPullRequest (pr : LinkedPullRequest) : Bool :=
  pr.state.any (Text.eqIgnoreAsciiCase "open")

theorem filter_mergeLinkedPullRequests {mentioned : List LinkedPullRequest}
    (h : ∀ pr ∈ mentioned, pr.state = none) (prs : List LinkedPullRequest) : ∀ seen : List String,
    (mergeLinkedPullRequests seen (prs ++ mentioned)).filter isOpenPullRequest
      = (mergeLinkedPullRequests seen prs).filter isOpenPullRequest := by
  induction prs with
  | nil =>
      intro seen
      refine List.filter_eq_nil_iff.mpr fun pr hpr => ?_
      have hstate := h pr (mergeLinkedPullRequests_subset mentioned seen pr hpr)
      rw [isOpenPullRequest, hstate]
      exact Bool.false_ne_true
  | cons first prs ih =>
      intro seen
      rw [List.cons_append, mergeLinkedPullRequests, mergeLinkedPullRequests]
      cases first.url with
      | none => simp only [List.filter_cons, ih]
      | some url =>
          dsimp only
          split
          · exact ih seen
          · simp only [List.filter_cons, ih]

theorem readyPrs_readIssue {thread after : Thread}
    (h : after.issue.linkedPullRequests = thread.issue.linkedPullRequests) :
    readyPrs (repository.readIssue after) = readyPrs (repository.readIssue thread) := by
  have hfilter : ∀ thread : Thread, readyPrs (repository.readIssue thread)
      = ((mergeLinkedPullRequests [] thread.issue.linkedPullRequests).filter isOpenPullRequest).map
          fun pr => (pr.url, pr.headSha, pr.isDraft, pr.baseRefName) := by
    intro thread
    rw [← filter_mergeLinkedPullRequests (repository.unstated thread.commentBodies)]
    rfl
  rw [hfilter, hfilter, h]

end

/-! ## Claims -/

theorem renderClaimValue_last (value : String) :
    ∃ front c, Text.isWhitespace c = false ∧ (renderClaimValue value).toList = front ++ [c] := by
  rw [renderClaimValue]
  split
  · exact ⟨'"' :: value.toList.flatMap escapeClaimChar, '"', by decide, String.toList_ofList⟩
  · next hbare =>
    rw [Bool.or_eq_true, not_or, List.any_eq_true] at hbare
    have hne : value.toList ≠ [] := fun h => hbare.1 (by rw [h]; rfl)
    obtain ⟨front, c, hvalue⟩ := List.eq_nil_or_concat value.toList |>.resolve_left hne
    rw [List.concat_eq_append] at hvalue
    refine ⟨front, c, ?_, hvalue⟩
    by_contra hspace
    refine hbare.2 ⟨c, by rw [hvalue]; simp, ?_⟩
    rw [needsQuotes, Bool.eq_true_of_not_eq_false hspace]
    rfl

theorem render_front (claim : LaneClaim) : ∃ rest, claim.render = "v=1" ++ rest :=
  exists_join_cons " " "v=1" _

theorem render_last (claim : LaneClaim) :
    ∃ c, Text.isWhitespace c = false ∧ claim.render.toList.getLast? = some c := by
  obtain ⟨front, c, hc, hvalue⟩ := renderClaimValue_last claim.registry
  refine ⟨c, hc, ?_⟩
  have hsuffix := suffix_join_concat " "
    (["v=1", claimToken "lane" claim.lane.asStr, claimToken "actor" claim.actor.asStr]
      ++ (claim.worker.map (claimToken "worker")).toList
      ++ [claimToken "source" claim.source.asStr, claimToken "issue" claim.issue,
        claimToken "run" claim.run, claimToken "state" claim.state.asStr,
        claimToken "thread" claim.thread])
    (claimToken "registry" claim.registry)
  have hrender : claim.render = join " "
      ((["v=1", claimToken "lane" claim.lane.asStr, claimToken "actor" claim.actor.asStr]
        ++ (claim.worker.map (claimToken "worker")).toList
        ++ [claimToken "source" claim.source.asStr, claimToken "issue" claim.issue,
          claimToken "run" claim.run, claimToken "state" claim.state.asStr,
          claimToken "thread" claim.thread]) ++ [claimToken "registry" claim.registry]) := by
    rw [LaneClaim.render, List.append_assoc, List.append_assoc, List.append_assoc]
    rfl
  rw [← hrender, claimToken, String.toList_append, hvalue] at hsuffix
  obtain ⟨before, hbefore⟩ := hsuffix
  rw [← hbefore, ← List.append_assoc, ← List.append_assoc]
  exact List.getLast?_concat

/-- A value of a claim is read from its field as it is. -/
structure IsFieldText (value : String) : Prop where
  trimmed : Text.trim value = value
  ne_empty : value ≠ ""

theorem isFieldText_of_ends {value rest : String} {c : Char} (hfront : value = "v=1" ++ rest)
    (hc : Text.isWhitespace c = false) (hlast : value.toList.getLast? = some c) :
    IsFieldText value where
  trimmed := by
    refine trim_of_isTrimmed ⟨fun d hd => ?_, fun d hd => ?_⟩
    · rw [hfront, String.toList_append] at hd
      obtain rfl : 'v' = d := Option.some.inj hd
      decide
    · obtain rfl := Option.some.inj (hlast.symm.trans hd)
      exact hc
  ne_empty := by
    rintro rfl
    cases hlast

theorem isFieldText_render (claim : LaneClaim) : IsFieldText claim.render := by
  obtain ⟨rest, hfront⟩ := render_front claim
  obtain ⟨c, hc, hlast⟩ := render_last claim
  exact isFieldText_of_ends hfront hc hlast

theorem isFieldText_terminal {claim : Option LaneClaim} {job : ReviewJob}
    {decision : ReviewGateDecision} {value : String}
    (h : terminalReviewLoopClaimValue claim job decision = some value) : IsFieldText value := by
  have hresult : ∃ claim state result, value = terminalReviewClaimValue claim state result
      ∧ result ∈ ["passed", "rejected", "inconclusive", "blocked", "unavailable", "cancelled"] := by
    cases claim with
    | none => cases h
    | some claim =>
        have hvalue : ∀ state result, some (terminalReviewClaimValue claim state result) = some value →
            result ∈ ["passed", "rejected", "inconclusive", "blocked", "unavailable", "cancelled"] →
            ∃ claim state result, value = terminalReviewClaimValue claim state result
              ∧ result ∈ ["passed", "rejected", "inconclusive", "blocked", "unavailable",
                "cancelled"] :=
          fun state result hsome hmem => ⟨claim, state, result, (Option.some.inj hsome).symm, hmem⟩
        unfold terminalReviewLoopClaimValue at h
        cases houtcome : decision.outcome with
        | stillRunning =>
            rw [houtcome] at h
            cases hstate : job.state with
            | queued | running | completed => rw [hstate] at h; cases h
            | failed | timedOut | cancelled =>
                rw [hstate] at h
                exact hvalue _ _ h (by decide)
        | _ =>
            rw [houtcome] at h
            exact hvalue _ _ h (by decide)
  obtain ⟨claim, state, result, rfl, hmem⟩ := hresult
  have hends : ∀ result ∈ ["passed", "rejected", "inconclusive", "blocked", "unavailable",
      "cancelled"], result.toList.getLast?.any (fun c => !isWhitespace c) = true := by decide
  obtain ⟨c, hlast, hvisible⟩ := (Option.any_eq_true _ _).mp (hends result hmem)
  have hc : isWhitespace c = false := by simpa using hvisible
  obtain ⟨rest, hfront⟩ := render_front (claim.withState state)
  refine @isFieldText_of_ends _ (rest ++ " result=" ++ result) _ ?_ hc ?_
  · rw [terminalReviewClaimValue, hfront]
    simp only [String.append_assoc]
  · rw [terminalReviewClaimValue, String.toList_append, List.getLast?_append, hlast]
    rfl

theorem IsFieldText.read {value : String} (h : IsFieldText value) (thread : Thread) (name : String) :
    projectTextField (Repository.setProjectField thread name value).issue.toTrackerIssue name
      = some value := by
  rw [projectTextField, Repository.setProjectField]
  simp [Json.asStr, h.trimmed, h.ne_empty]

/-! ## States -/

def reviewTargets : List String :=
  ["agent_review", "rework", "need_human_input", "human_review", "merging"]

/-- A decision has a target that a review may move the issue to. -/
def Routes (decision : ReviewGateDecision) : Prop :=
  ∃ target ∈ reviewTargets, decision.targetState = some target
    ∧ transitionAllowedForReviewAgent target decision = true

theorem routes_completed (case : Text.UnicodeCase) (report : Option AgentReviewReport) :
    Routes (completedReviewDecision case report) := by
  cases report with
  | none => exact ⟨"need_human_input", by decide, rfl, rfl⟩
  | some report =>
      rw [completedReviewDecision]
      split
      · exact ⟨"agent_review", by decide, rfl, rfl⟩
      · split
        · exact ⟨"rework", by decide, rfl, rfl⟩
        · split
          · exact ⟨"need_human_input", by decide, rfl, rfl⟩
          · exact ⟨"human_review", by decide, rfl, rfl⟩

theorem routes_failed (health : ReviewJob → Option GeminiReviewHealthDiagnostic) (job : ReviewJob) :
    Routes (failedReviewDecision health job) := by
  unfold failedReviewDecision
  split
  · split
    · exact ⟨"agent_review", by decide, rfl, rfl⟩
    · exact ⟨"need_human_input", by decide, rfl, rfl⟩
  · split
    · exact ⟨"agent_review", by decide, rfl, rfl⟩
    · exact ⟨"need_human_input", by decide, rfl, rfl⟩

theorem routes_decision (health : ReviewJob → Option GeminiReviewHealthDiagnostic)
    (case : Text.UnicodeCase) (job : ReviewJob) (issue : TrackerIssue) :
    Routes (reviewGateDecisionForIssue health case job issue) := by
  unfold reviewGateDecisionForIssue
  dsimp only
  split
  · exact ⟨"merging", by decide, rfl, rfl⟩
  · have hne : ReviewActor.independentReviewAgent ≠ .mainImplementationAgent := by decide
    simp only [reviewGateDecision, reviewGateDecisionForActor, if_neg hne]
    cases job.state with
    | queued | running | cancelled => exact ⟨"agent_review", by decide, rfl, rfl⟩
    | completed => exact routes_completed case job.report
    | failed | timedOut => exact routes_failed health job

theorem mem_configuredStates {stateMap : StateMap} {target : String} (h : target ∈ reviewTargets) :
    ∃ display, (target, display) ∈ configuredStates stateMap
      ∧ ∀ case, mappedStateKey case stateMap target = stateKey case display := by
  simp only [reviewTargets, List.mem_cons, List.not_mem_nil, or_false] at h
  rcases h with rfl | rfl | rfl | rfl | rfl
  · exact ⟨stateMap.agentReview, by simp [configuredStates, configuredStateKeys], fun _ => rfl⟩
  · exact ⟨stateMap.rework, by simp [configuredStates, configuredStateKeys], fun _ => rfl⟩
  · exact ⟨stateMap.needHumanInput, by simp [configuredStates, configuredStateKeys], fun _ => rfl⟩
  · exact ⟨stateMap.humanReview, by simp [configuredStates, configuredStateKeys], fun _ => rfl⟩
  · exact ⟨stateMap.merging, by simp [configuredStates, configuredStateKeys], fun _ => rfl⟩

theorem displayValue_of_resolve {case : Text.UnicodeCase} {stateMap : StateMap} {target : String}
    {option : ResolvedTrackerState} (htarget : target ∈ reviewTargets)
    (h : resolveConfiguredTrackerState case stateMap target = .ok option) :
    stateKey case option.displayValue = mappedStateKey case stateMap target := by
  obtain ⟨display, hmem, hmapped⟩ := @mem_configuredStates stateMap _ htarget
  have hnames : (target, display) ∈ (configuredStates stateMap).filter (namesState case target) := by
    rw [List.mem_filter]
    exact ⟨hmem, by simp [namesState]⟩
  rw [hmapped]
  unfold resolveConfiguredTrackerState at h
  split at h
  · cases h
  · next canonicalKey displayValue hfilter =>
    rw [hfilter, List.mem_singleton] at hnames
    obtain ⟨-, rfl⟩ := Prod.mk.inj hnames
    rw [← Except.ok.inj h]
  · cases h

theorem setState_eq_ok_iff {repository : Repository} {thread : Thread} {target : String} :
    (∃ after, repository.setState thread target = .ok after) ↔
      ∃ option, resolveConfiguredTrackerState repository.case repository.stateMap target
        = .ok option := by
  unfold Repository.setState
  cases resolveConfiguredTrackerState repository.case repository.stateMap target with
  | error error => exact ⟨nofun, nofun⟩
  | ok option =>
      rw [Fallible.ok_bind]
      refine ⟨fun _ => ⟨option, rfl⟩, fun _ => ?_⟩
      split
      · exact ⟨_, rfl⟩
      · exact ⟨_, rfl⟩

theorem stateKey_setState {repository : Repository} {thread after : Thread} {target : String}
    (htarget : target ∈ reviewTargets) (h : repository.setState thread target = .ok after) :
    stateKey repository.case after.issue.state
      = mappedStateKey repository.case repository.stateMap target := by
  unfold Repository.setState at h
  cases hresolve : resolveConfiguredTrackerState repository.case repository.stateMap target with
  | error error => rw [hresolve] at h; cases h
  | ok option =>
      rw [hresolve, Fallible.ok_bind] at h
      rw [← displayValue_of_resolve htarget hresolve]
      split at h
      · rw [← Except.ok.inj h]
      · next hsame =>
        have hinput : normalizeConfiguredStateInput repository.case thread.issue.state
            = normalizeConfiguredStateInput repository.case option.displayValue := by
          simpa [Repository.statusUpdateRequired] using hsame
        have hstate : normalizeState repository.case thread.issue.state
            = normalizeState repository.case option.displayValue := hinput
        rw [← Except.ok.inj h, stateKey, hstate, stateKey]

/-! ## What a step changes -/

/-- What no write of a publication touches. -/
structure Follows (before after : Thread) : Prop where
  id : after.issue.id = before.issue.id
  identifier : after.issue.identifier = before.issue.identifier
  title : after.issue.title = before.issue.title
  linkedPullRequests : after.issue.linkedPullRequests = before.issue.linkedPullRequests
  issueState : after.issue.projectFields "GitHub Issue State"
    = before.issue.projectFields "GitHub Issue State"

theorem Follows.refl (thread : Thread) : Follows thread thread := ⟨rfl, rfl, rfl, rfl, rfl⟩

theorem Follows.of_issue {before thread after : Thread} (h : Follows before thread)
    (hissue : after.issue = thread.issue) : Follows before after := by
  obtain ⟨hid, hidentifier, htitle, hprs, hstate⟩ := h
  rw [← hissue] at hid hidentifier htitle hprs hstate
  exact ⟨hid, hidentifier, htitle, hprs, hstate⟩

theorem Follows.setProjectField {before thread : Thread} (h : Follows before thread) (value : String) :
    Follows before (Repository.setProjectField thread "Review Agent" value) where
  id := h.id
  identifier := h.identifier
  title := h.title
  linkedPullRequests := h.linkedPullRequests
  issueState := by
    have hname : "GitHub Issue State" ≠ "Review Agent" := by decide
    show (if "GitHub Issue State" = "Review Agent" then some (.str value)
      else thread.issue.projectFields "GitHub Issue State") = _
    rw [if_neg hname, h.issueState]

namespace ReviewedThread

variable {review : ReviewedThread} {evidence : String} {thread after : Thread}

theorem shows_congr (hbody : after.body = thread.body) (hcomments : after.comments = thread.comments) :
    review.shows after = review.shows thread := by
  have hbodies : after.commentBodies = thread.commentBodies := by
    rw [Thread.commentBodies, hcomments, Thread.commentBodies]
  rw [shows, shows, evidencePresent, evidencePresent, description_readIssue, description_readIssue,
    Thread.descriptionWithWorkpad, Thread.descriptionWithWorkpad, Thread.sections, Thread.sections,
    hbody, hbodies]

theorem posted_eq : review.posted evidence thread =
    if review.shows thread then thread
    else Repository.addIssueComment thread
      (ensureTrackerRecoveryMarker evidence review.publication.key) :=
  postEvidence_eq

theorem posted_of_shows (h : review.shows thread = true) : review.posted evidence thread = thread := by
  rw [posted_eq, if_pos h]

@[simp] theorem posted_issue : (review.posted evidence thread).issue = thread.issue := by
  rw [posted_eq]
  split <;> rfl

@[simp] theorem posted_body : (review.posted evidence thread).body = thread.body := by
  rw [posted_eq]
  split <;> rfl

theorem claimed_cases (review : ReviewedThread) (thread : Thread) : review.claimed thread = thread ∨
    ∃ value, review.claimed thread = Repository.setProjectField thread "Review Agent" value := by
  rw [claimed]
  split
  · exact Or.inl rfl
  · next value _ =>
    split
    · exact Or.inl rfl
    · exact Or.inr ⟨value, rfl⟩

@[simp] theorem claimed_body : (review.claimed thread).body = thread.body := by
  rcases review.claimed_cases thread with h | ⟨value, h⟩
  · rw [h]
  · rw [h]
    rfl

@[simp] theorem claimed_comments : (review.claimed thread).comments = thread.comments := by
  rcases review.claimed_cases thread with h | ⟨value, h⟩
  · rw [h]
  · rw [h]
    rfl

@[simp] theorem claimed_state : (review.claimed thread).issue.state = thread.issue.state := by
  rcases review.claimed_cases thread with h | ⟨value, h⟩
  · rw [h]
  · rw [h]
    rfl

theorem ticked_of_not_passed (h : review.publication.decision.outcome.isPassed = false) :
    review.ticked thread = thread := by
  rw [ticked, h, if_neg Bool.false_ne_true]

theorem ticked_of_passed (h : review.publication.decision.outcome.isPassed = true) :
    review.ticked thread =
      if checkReviewVerifiedIssueBodyCheckboxes (canonicalIssueBodyWithoutWorkpad thread.body)
          = canonicalIssueBodyWithoutWorkpad thread.body then thread
      else Repository.updateIssueContent thread thread.issue.title
        (checkReviewVerifiedIssueBodyCheckboxes (canonicalIssueBodyWithoutWorkpad thread.body)) := by
  rw [ticked, h, if_pos rfl]

theorem ticked_cases (review : ReviewedThread) (thread : Thread) : review.ticked thread = thread ∨
    ∃ body, review.ticked thread = { thread with body } := by
  cases h : review.publication.decision.outcome.isPassed with
  | false => exact Or.inl (ticked_of_not_passed h)
  | true =>
      rw [ticked_of_passed h]
      generalize checkReviewVerifiedIssueBodyCheckboxes _ = updated
      by_cases hsame : updated = canonicalIssueBodyWithoutWorkpad thread.body
      · exact Or.inl (if_pos hsame)
      · exact Or.inr ⟨updated, if_neg hsame⟩

@[simp] theorem ticked_issue : (review.ticked thread).issue = thread.issue := by
  rcases review.ticked_cases thread with h | ⟨body, h⟩ <;> rw [h]

@[simp] theorem ticked_comments : (review.ticked thread).comments = thread.comments := by
  rcases review.ticked_cases thread with h | ⟨body, h⟩ <;> rw [h]

theorem canonical_ticked (h : review.publication.decision.outcome.isPassed = true) :
    canonicalIssueBodyWithoutWorkpad (review.ticked thread).body
      = checkReviewVerifiedIssueBodyCheckboxes (canonicalIssueBodyWithoutWorkpad thread.body) := by
  have hcheck := (plainBody_canonical thread.body).check.canonical
  rw [ticked_of_passed h]
  generalize checkReviewVerifiedIssueBodyCheckboxes _ = updated at hcheck
  by_cases hsame : updated = canonicalIssueBodyWithoutWorkpad thread.body
  · rw [if_pos hsame, hsame]
  · rw [if_neg hsame]
    exact hcheck

theorem ticked_ticked
    (h : review.publication.decision.outcome.isPassed = true →
      checkReviewVerifiedIssueBodyCheckboxes
          (checkReviewVerifiedIssueBodyCheckboxes (canonicalIssueBodyWithoutWorkpad thread.body))
        = checkReviewVerifiedIssueBodyCheckboxes (canonicalIssueBodyWithoutWorkpad thread.body)) :
    review.ticked (review.ticked thread) = review.ticked thread := by
  cases hpassed : review.publication.decision.outcome.isPassed with
  | false => exact ticked_of_not_passed hpassed
  | true =>
      have hagain := h hpassed
      rw [← @canonical_ticked _ thread hpassed] at hagain
      rw [@ticked_of_passed _ (review.ticked thread) hpassed, if_pos hagain]

theorem ticked_body_congr (hbody : after.body = thread.body) :
    (review.ticked after).body = (review.ticked thread).body := by
  cases h : review.publication.decision.outcome.isPassed with
  | false => rw [ticked_of_not_passed h, ticked_of_not_passed h, hbody]
  | true =>
      rw [ticked_of_passed h, ticked_of_passed h, hbody]
      generalize checkReviewVerifiedIssueBodyCheckboxes _ = updated
      by_cases hsame : updated = canonicalIssueBodyWithoutWorkpad thread.body
      · rw [if_pos hsame, if_pos hsame, hbody]
      · rw [if_neg hsame, if_neg hsame]
        rfl

theorem shows_ticked_congr (hbody : after.body = thread.body)
    (hcomments : after.comments = thread.comments) :
    review.shows (review.ticked after) = review.shows (review.ticked thread) :=
  shows_congr (ticked_body_congr hbody) (by simp [hcomments])

theorem moved_of_target {target : String}
    (h : review.publication.decision.targetState = some target) :
    review.moved thread =
      if issueStateMatches review.repository.case target (review.repository.readIssue thread) then
        thread
      else
        match review.repository.setState thread target with
        | .ok thread => thread
        | .error _ => thread := by
  rw [moved, h]

theorem setState_cases {repository : Repository} {target : String}
    (h : repository.setState thread target = .ok after) :
    after = thread ∨ ∃ state, after = { thread with issue := { thread.issue with state } } := by
  unfold Repository.setState at h
  cases hresolve : resolveConfiguredTrackerState repository.case repository.stateMap target with
  | error error => rw [hresolve] at h; cases h
  | ok option =>
      rw [hresolve, Fallible.ok_bind] at h
      split at h
      · exact Or.inr ⟨option.displayValue, (Except.ok.inj h).symm⟩
      · exact Or.inl (Except.ok.inj h).symm

theorem moved_cases (review : ReviewedThread) (thread : Thread) : review.moved thread = thread ∨
    ∃ state, review.moved thread = { thread with issue := { thread.issue with state } } := by
  obtain ⟨target, -, htarget, -⟩ := routes_decision review.health review.repository.case
    review.job.toReviewJob (review.repository.readIssue review.captured).toTrackerIssue
  rw [moved_of_target htarget]
  generalize issueStateMatches _ target _ = matched
  cases matched with
  | true => exact Or.inl rfl
  | false =>
      rw [if_neg Bool.false_ne_true]
      cases hset : review.repository.setState thread target with
      | error error => exact Or.inl rfl
      | ok after => exact setState_cases hset

@[simp] theorem moved_body : (review.moved thread).body = thread.body := by
  rcases review.moved_cases thread with h | ⟨value, h⟩ <;> rw [h]

@[simp] theorem moved_comments : (review.moved thread).comments = thread.comments := by
  rcases review.moved_cases thread with h | ⟨value, h⟩ <;> rw [h]

@[simp] theorem moved_projectFields :
    (review.moved thread).issue.projectFields = thread.issue.projectFields := by
  rcases review.moved_cases thread with h | ⟨value, h⟩ <;> rw [h]

/-! ## Freshness -/

variable (review) in
/-- The captured body, or the one that this publication has ticked. -/
def HasBody (thread : Thread) : Prop :=
  canonicalIssueBodyWithoutWorkpad thread.body
      = canonicalIssueBodyWithoutWorkpad review.captured.body
    ∨ review.shows thread = true
      ∧ review.publication.decision.outcome.isPassed = true
      ∧ canonicalIssueBodyWithoutWorkpad thread.body
        = checkReviewVerifiedIssueBodyCheckboxes
          (canonicalIssueBodyWithoutWorkpad review.captured.body)

variable (review) in
/-- The claim of the run, or the one that this publication has ended it with. -/
def HasClaim (thread : Thread) : Prop :=
  ∀ claim, review.claim = some claim →
    projectTextField (review.repository.readIssue thread).toTrackerIssue "Review Agent"
        = some claim.render
      ∨ review.shows thread = true
        ∧ projectTextField (review.repository.readIssue thread).toTrackerIssue "Review Agent"
          = review.publication.terminalClaim

theorem projectTextField_readIssue (repository : Repository) (thread : Thread) (name : String) :
    projectTextField (repository.readIssue thread).toTrackerIssue name
      = projectTextField thread.issue.toTrackerIssue name := by
  rw [projectTextField, projectTextField]
  rfl

theorem InReview.keep (h : review.InReview thread) (hstate : after.issue.state = thread.issue.state)
    (hshows : review.shows thread = true → review.shows after = true) : review.InReview after := by
  rw [InReview, state_readIssue] at *
  rw [hstate]
  exact h.imp_right fun hown => ⟨hshows hown.1, hown.2⟩

theorem HasBody.keep (h : review.HasBody thread) (hbody : after.body = thread.body)
    (hshows : review.shows thread = true → review.shows after = true) : review.HasBody after := by
  rw [HasBody, hbody]
  exact h.imp_right fun hown => ⟨hshows hown.1, hown.2⟩

theorem HasClaim.keep (h : review.HasClaim thread)
    (hfields : after.issue.projectFields = thread.issue.projectFields)
    (hshows : review.shows thread = true → review.shows after = true) : review.HasClaim after := by
  intro claim hclaim
  have hfield : projectTextField (review.repository.readIssue after).toTrackerIssue "Review Agent"
      = projectTextField (review.repository.readIssue thread).toTrackerIssue "Review Agent" := by
    rw [projectTextField_readIssue, projectTextField_readIssue, projectTextField, projectTextField,
      hfields]
  rw [hfield]
  exact (h claim hclaim).imp_right fun hown => ⟨hshows hown.1, hown.2⟩

theorem issueIsClosed_of_follows (h : Follows review.captured thread) :
    issueIsClosed review.repository.case (review.repository.readIssue thread)
      = issueIsClosed review.repository.case (review.repository.readIssue review.captured) := by
  rw [issueIsClosed, issueIsClosed]
  show ((thread.issue.projectFields "GitHub Issue State").bind _).any _ = _
  rw [h.issueState]
  rfl

theorem fresh_iff (h : Follows review.captured thread) :
    review.publication.Fresh (review.repository.readIssue thread) ↔
      issueIsClosed review.repository.case (review.repository.readIssue review.captured) = false
        ∧ review.InReview thread ∧ review.HasBody thread ∧ review.HasClaim thread := by
  have hclosed := issueIsClosed_of_follows h
  have hcurrent := canonicalBody_readIssue review.repository thread
  have horiginal : canonicalBody review.publication.issue
      = canonicalIssueBodyWithoutWorkpad review.captured.body :=
    canonicalBody_readIssue review.repository review.captured
  constructor
  · intro hfresh
    have hbody := hfresh.body
    rw [hcurrent, horiginal] at hbody
    refine ⟨?_, hfresh.state, hbody, hfresh.claim⟩
    rw [← hclosed]
    exact hfresh.isOpen
  · rintro ⟨hopen, hstate, hbody, hclaim⟩
    constructor
    case id_eq =>
      show (review.repository.readIssue review.captured).id = _
      rw [id_readIssue, id_readIssue, h.id]
    case identifier_eq =>
      show (review.repository.readIssue review.captured).identifier = _
      rw [identifier_readIssue, identifier_readIssue, h.identifier]
    case isOpen => exact hclosed.trans hopen
    case state => exact hstate
    case title_eq =>
      show (review.repository.readIssue review.captured).title = _
      rw [title_readIssue, title_readIssue, h.title]
    case body =>
      rw [hcurrent, horiginal]
      exact hbody
    case pullRequest =>
      exact ⟨(readyPrs_readIssue h.linkedPullRequests).symm, review.pullRequest⟩
    case claim => exact hclaim

/-- A thread that the publication of an evidence may go on from. -/
structure Ready (review : ReviewedThread) (evidence : String) (thread : Thread) : Prop where
  follows : Follows review.captured thread
  isOpen : issueIsClosed review.repository.case (review.repository.readIssue review.captured) = false
  inReview : review.InReview thread
  hasBody : review.HasBody thread
  hasClaim : review.HasClaim thread
  once : review.publication.decision.outcome.isPassed = true →
    checkReviewVerifiedIssueBodyCheckboxes
        (checkReviewVerifiedIssueBodyCheckboxes (canonicalIssueBodyWithoutWorkpad review.captured.body))
      = checkReviewVerifiedIssueBodyCheckboxes (canonicalIssueBodyWithoutWorkpad review.captured.body)
  shown : review.shows (review.posted evidence thread) = true
  tickedShown : review.shows (review.ticked (review.posted evidence thread)) = true
  moves : review.Moves thread.issue.state

theorem Ready.fresh (h : review.Ready evidence thread) :
    review.publication.Fresh (review.repository.readIssue thread) :=
  (fresh_iff h.follows).mpr ⟨h.isOpen, h.inReview, h.hasBody, h.hasClaim⟩

theorem Ready.again (h : review.Ready evidence thread)
    (hpassed : review.publication.decision.outcome.isPassed = true) :
    checkReviewVerifiedIssueBodyCheckboxes
        (checkReviewVerifiedIssueBodyCheckboxes (canonicalIssueBodyWithoutWorkpad thread.body))
      = checkReviewVerifiedIssueBodyCheckboxes (canonicalIssueBodyWithoutWorkpad thread.body) := by
  have honce := h.once hpassed
  rcases h.hasBody with hbody | ⟨-, -, hbody⟩
  · rw [hbody, honce]
  · rw [hbody, honce, honce]

theorem Ready.posted (h : review.Ready evidence thread) :
    review.Ready evidence (review.posted evidence thread) := by
  have hagain : review.posted evidence (review.posted evidence thread)
      = review.posted evidence thread := posted_of_shows h.shown
  have hfields : (review.posted evidence thread).issue.projectFields = thread.issue.projectFields := by
    rw [posted_issue]
  have hstate : (review.posted evidence thread).issue.state = thread.issue.state := by
    rw [posted_issue]
  constructor
  case follows => exact h.follows.of_issue posted_issue
  case isOpen => exact h.isOpen
  case inReview => exact h.inReview.keep hstate fun _ => h.shown
  case hasBody => exact h.hasBody.keep posted_body fun _ => h.shown
  case hasClaim => exact h.hasClaim.keep hfields fun _ => h.shown
  case once => exact h.once
  case shown => rw [hagain, h.shown]
  case tickedShown => rw [hagain, h.tickedShown]
  case moves =>
    rw [hstate]
    exact h.moves

theorem field_claimed {value : String} (h : review.publication.terminalClaim = some value) :
    projectTextField (review.repository.readIssue (review.claimed thread)).toTrackerIssue "Review Agent"
      = some value := by
  have htext : IsFieldText value := isFieldText_terminal h
  rw [claimed, h]
  dsimp only
  cases hmatches : issueProjectFieldMatches "Review Agent" value (review.repository.readIssue thread) with
  | true =>
      rw [issueProjectFieldMatches, beq_iff_eq] at hmatches
      rw [if_pos rfl, hmatches]
  | false =>
      rw [if_neg Bool.false_ne_true, projectTextField_readIssue]
      exact htext.read thread "Review Agent"

theorem follows_claimed (h : Follows review.captured thread) :
    Follows review.captured (review.claimed thread) := by
  rcases review.claimed_cases thread with hsame | ⟨value, hset⟩
  · rwa [hsame]
  · rw [hset]
    exact h.setProjectField value

theorem shows_claimed : review.shows (review.claimed thread) = review.shows thread :=
  shows_congr claimed_body claimed_comments

theorem exists_terminalClaim {claim : LaneClaim} (h : review.claim = some claim) :
    ∃ value, review.publication.terminalClaim = some value := by
  have hdecided : review.publication.decision.outcome ≠ .stillRunning :=
    outcome_ne_stillRunning review.terminal
  have hclaim : review.publication.claim = some claim := h
  rw [Publication.terminalClaim, hclaim]
  exact terminalReviewLoopClaimValue_isSome hdecided

theorem Ready.claimed (h : review.Ready evidence thread) (hshows : review.shows thread = true) :
    review.Ready evidence (review.claimed thread) := by
  have hshown : review.shows (review.claimed thread) = true := shows_claimed.trans hshows
  have hposted : review.posted evidence thread = thread := posted_of_shows hshows
  have hticked := h.tickedShown
  rw [hposted] at hticked
  constructor
  case follows => exact follows_claimed h.follows
  case isOpen => exact h.isOpen
  case inReview => exact h.inReview.keep claimed_state fun _ => hshown
  case hasBody => exact h.hasBody.keep claimed_body fun _ => hshown
  case hasClaim =>
    intro claim hclaim
    obtain ⟨value, hvalue⟩ := exists_terminalClaim hclaim
    exact Or.inr ⟨hshown, by rw [field_claimed hvalue, hvalue]⟩
  case once => exact h.once
  case shown => rw [posted_of_shows hshown, hshown]
  case tickedShown => rw [posted_of_shows hshown, shows_ticked_congr claimed_body claimed_comments, hticked]
  case moves =>
    rw [claimed_state]
    exact h.moves

theorem Ready.ticked (h : review.Ready evidence thread) (hshows : review.shows thread = true) :
    review.Ready evidence (review.ticked thread) := by
  have hshown : review.shows (review.ticked thread) = true := by
    rw [← h.tickedShown, posted_of_shows hshows]
  have hfields : (review.ticked thread).issue.projectFields = thread.issue.projectFields := by
    rw [ticked_issue]
  have hstate : (review.ticked thread).issue.state = thread.issue.state := by
    rw [ticked_issue]
  constructor
  case follows => exact h.follows.of_issue ticked_issue
  case isOpen => exact h.isOpen
  case inReview => exact h.inReview.keep hstate fun _ => hshown
  case hasBody =>
    cases hpassed : review.publication.decision.outcome.isPassed with
    | false =>
        rw [ticked_of_not_passed hpassed]
        exact h.hasBody
    | true =>
        refine Or.inr ⟨hshown, hpassed, ?_⟩
        rw [canonical_ticked hpassed]
        rcases h.hasBody with hbody | ⟨-, -, hbody⟩
        · rw [hbody]
        · rw [hbody, h.once hpassed]
  case hasClaim => exact h.hasClaim.keep hfields fun _ => hshown
  case once => exact h.once
  case shown => rw [posted_of_shows hshown, hshown]
  case tickedShown => rw [posted_of_shows hshown, ticked_ticked h.again, hshown]
  case moves =>
    rw [hstate]
    exact h.moves

theorem stateKey_moved {target : String} (h : review.Moves thread.issue.state)
    (htarget : review.publication.decision.targetState = some target) (hroute : target ∈ reviewTargets) :
    stateKey review.repository.case (review.moved thread).issue.state
      = mappedStateKey review.repository.case review.repository.stateMap target := by
  have hmoves := h target htarget
  rw [moved_of_target htarget]
  cases hmatches : issueStateMatches review.repository.case target
      (review.repository.readIssue thread) with
  | true =>
      rw [issueStateMatches, beq_iff_eq, state_readIssue] at hmatches
      rw [if_pos hmatches] at hmoves
      rw [if_pos rfl, hmoves]
  | false =>
      rw [issueStateMatches, beq_eq_false_iff_ne, state_readIssue] at hmatches
      rw [if_neg hmatches] at hmoves
      obtain ⟨after, hset⟩ := setState_eq_ok_iff.mpr hmoves
      rw [if_neg Bool.false_ne_true, hset]
      exact stateKey_setState hroute hset

theorem follows_moved (h : Follows review.captured thread) :
    Follows review.captured (review.moved thread) := by
  rcases review.moved_cases thread with hsame | ⟨state, hset⟩
  · rwa [hsame]
  · rw [hset]
    exact ⟨h.id, h.identifier, h.title, h.linkedPullRequests, h.issueState⟩

theorem shows_moved : review.shows (review.moved thread) = review.shows thread :=
  shows_congr moved_body moved_comments

theorem Ready.moved (h : review.Ready evidence thread) (hshows : review.shows thread = true) :
    review.Ready evidence (review.moved thread) := by
  have hshown : review.shows (review.moved thread) = true := shows_moved.trans hshows
  have hticked : review.shows (review.ticked (review.moved thread)) = true := by
    rw [shows_ticked_congr moved_body moved_comments, ← h.tickedShown, posted_of_shows hshows]
  obtain ⟨target, hroute, htarget, -⟩ := routes_decision review.health review.repository.case
    review.job.toReviewJob (review.repository.readIssue review.captured).toTrackerIssue
  have hkey := stateKey_moved h.moves htarget hroute
  constructor
  case follows => exact follows_moved h.follows
  case isOpen => exact h.isOpen
  case inReview =>
    rw [InReview, state_readIssue]
    exact Or.inr ⟨hshown, target, htarget, hkey⟩
  case hasBody => exact h.hasBody.keep moved_body fun _ => hshown
  case hasClaim => exact h.hasClaim.keep moved_projectFields fun _ => hshown
  case once => exact h.once
  case shown => rw [posted_of_shows hshown, hshown]
  case tickedShown => rw [posted_of_shows hshown, hticked]
  case moves =>
    intro other hother
    obtain rfl : target = other := Option.some.inj (htarget.symm.trans hother)
    have hmoves := h.moves target htarget
    rw [hkey]
    split
    · rfl
    · next hdiffers =>
      split at hmoves
      · next hsame => exact absurd (hmoves.symm.trans hsame) hdiffers
      · exact hmoves

end ReviewedThread

end SheaSymphony.Github

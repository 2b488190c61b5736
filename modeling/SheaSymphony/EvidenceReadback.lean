import SheaSymphony.GithubThread
import SheaSymphony.ReviewEvidence
import SheaSymphony.WorkpadMarker

/-!
# Reading posted evidence back

Evidence that is posted on an issue should be read as a comment of its timeline and
left alone by the writes of the workpad. It is recognised by a heading of the
timeline and by not showing the marker of the workpad, while it quotes what a
reviewer has printed.
-/

namespace SheaSymphony.Github

open Model Review Tracker

/-! ## Posting -/

/-- The thread after one call that lives to post the evidence. -/
def postEvidence (repository : Repository) (thread : Thread) (markdown key : String) : Thread :=
  (addTimelineCommentWithRecovery repository.adapter thread.issue.identifier
    (repository.readIssue thread) markdown key "timeline_comment"
    { tracker := thread, receipt := none, log := [], budget := 1 }).2.tracker

/-- What happens to a thread later: a comment, or a write of the workpad that is cut off
after some of its writes. -/
inductive LaterWrite where
  | comment (body : String)
  | workpad (markdown : String) (completed : Nat)

def LaterWrite.apply (marker : String) (comments : List String) : LaterWrite → List String
  | comment body => comments ++ [body]
  | workpad markdown completed =>
      ((upsertWorkpad marker markdown comments).take completed).foldl CommentWrite.apply comments

/-- The last comment of the thread, which is evidence, is read back as such, and stays
what it is whatever is written later. -/
structure EvidenceReadable (repository : Repository) (thread : Thread) (recoveryMarker posted : String) :
    Prop where
  visible : evidencePresent recoveryMarker (repository.readIssue thread) = true
  timeline : posted ∈ sheaSymphonyTimelineCommentBodies repository.workpadMarker thread.commentBodies
  notWorkpad : canonicalWorkpadCommentBody repository.workpadMarker thread.commentBodies ≠ some posted
  kept : ∀ later : List LaterWrite,
    (later.foldl (LaterWrite.apply repository.workpadMarker) thread.comments)[thread.comments.length - 1]?
      = some posted

variable {comments : List String} {place : Nat}

section

variable {repository : Repository} {thread : Thread} {marker markdown key posted : String}

theorem postEvidence_eq :
    postEvidence repository thread markdown key =
      if evidencePresent (trackerRecoveryMarker key) (repository.readIssue thread) then thread
      else Repository.addIssueComment thread (ensureTrackerRecoveryMarker markdown key) := by
  rw [postEvidence, Review.addTimelineCommentWithRecovery]
  cases evidencePresent (trackerRecoveryMarker key) (repository.readIssue thread) with
  | true => rfl
  | false =>
      rw [if_neg Bool.false_ne_true, if_neg Bool.false_ne_true]
      simp only [withRecovery, Review.addIssueComment, write, spend, Repository.adapter, bind, pure,
        Interrupted.Program.step, Repository.done, if_true, if_neg Nat.one_ne_zero]

/-! ## Reading -/

theorem comments_addIssueComment (thread : Thread) (posted : String) :
    (Repository.addIssueComment thread posted).comments = thread.comments ++ [posted] := rfl

theorem description_readIssue (repository : Repository) (thread : Thread) :
    (repository.readIssue thread).description
      = thread.descriptionWithWorkpad repository.workpadMarker := by
  rw [Repository.readIssue]

theorem mem_commentBodies_concat (thread : Thread) (posted : String) :
    posted ∈ (Repository.addIssueComment thread posted).commentBodies := by
  have hpage : (thread.comments ++ [posted]).length - projectCommentPageSize
      ≤ thread.comments.length := by
    rw [List.length_append, List.length_singleton, projectCommentPageSize]
    omega
  rw [Thread.commentBodies, List.mem_eraseDups, List.mem_append, comments_addIssueComment,
    List.drop_append_of_le_length hpage]
  refine Or.inr ?_
  exact List.mem_append_right _ (List.mem_singleton_self posted)

theorem mem_sheaSymphonyTimelineCommentBodies {bodies : List String} :
    posted ∈ sheaSymphonyTimelineCommentBodies marker bodies ↔
      posted ∈ bodies ∧ Text.contains posted marker = false
        ∧ isSheaSymphonyTimelineComment posted = true := by
  rw [sheaSymphonyTimelineCommentBodies, List.mem_filter, Bool.and_eq_true, Bool.not_eq_true']

theorem contains_canonicalWorkpadCommentBody {bodies : List String} {workpad : String}
    (h : canonicalWorkpadCommentBody marker bodies = some workpad) :
    Text.contains workpad marker = true := by
  rw [canonicalWorkpadCommentBody] at h
  have hfound := List.find?_some h
  exact (Bool.and_eq_true_iff.mp hfound).1

theorem contains_descriptionWithWorkpad {piece : String} (hsection : posted ∈ thread.sections marker)
    (hpiece : Text.contains posted piece = true) :
    (thread.descriptionWithWorkpad marker).any (Text.contains · piece) = true := by
  have hsome : (thread.sections marker).isEmpty = false :=
    List.isEmpty_eq_false_iff_exists_mem.mpr ⟨posted, hsection⟩
  rw [Thread.descriptionWithWorkpad, hsome]
  exact Text.contains_trans (Text.contains_join hsection) hpiece

theorem mem_sections_of_timeline
    (h : posted ∈ sheaSymphonyTimelineCommentBodies marker thread.commentBodies) :
    posted ∈ thread.sections marker :=
  List.mem_append_right _ h

/-! ## Later writes -/

/-- A write leaves the comment at a place alone. -/
def CommentWrite.Spares (place : Nat) : CommentWrite → Prop
  | update index _ => index ≠ place
  | add _ => True

theorem CommentWrite.Spares.getElem? {write : CommentWrite} (hwrite : write.Spares place)
    (h : comments[place]? = some posted) :
    (write.apply comments)[place]? = some posted := by
  cases write with
  | update index body =>
      show (comments.set index body)[place]? = some posted
      rw [List.getElem?_set_ne hwrite, h]
  | add body =>
      show (comments ++ [body])[place]? = some posted
      rw [List.getElem?_append_left (List.getElem?_eq_some_iff.mp h).1, h]

theorem upsertWorkpad_spares (hplace : comments[place]? = some posted)
    (hfree : Text.contains posted marker = false) :
    ∀ write ∈ upsertWorkpad marker markdown comments, write.Spares place := by
  have hfound : ∀ found ∈ findWorkpadComments marker comments, found.2 ≠ place := by
    rintro ⟨body, index⟩ hfound rfl
    rw [findWorkpadComments, List.mem_filter] at hfound
    obtain ⟨hbody, hcontains⟩ := hfound
    have hshows : Text.contains body marker = true := hcontains
    have hget := List.mem_zipIdx_iff_getElem?.mp hbody
    rw [List.getElem?_take] at hget
    split at hget
    · rw [hplace] at hget
      obtain rfl := Option.some.inj hget
      rw [hfree] at hshows
      cases hshows
    · cases hget
  intro write hwrite
  rw [upsertWorkpad] at hwrite
  split at hwrite
  · rw [List.mem_singleton.mp hwrite]
    trivial
  · next first index duplicates hcomments =>
    rw [hcomments] at hfound
    rcases List.mem_cons.mp hwrite with rfl | hwrite
    · exact hfound _ List.mem_cons_self
    · obtain ⟨duplicate, hduplicate, rfl⟩ := List.mem_map.mp hwrite
      exact hfound _ (List.mem_cons_of_mem _ hduplicate)

theorem LaterWrite.apply_kept (write : LaterWrite) (hfree : Text.contains posted marker = false)
    (h : comments[place]? = some posted) :
    (write.apply marker comments)[place]? = some posted := by
  cases write with
  | comment body =>
      show (comments ++ [body])[place]? = some posted
      rw [List.getElem?_append_left (List.getElem?_eq_some_iff.mp h).1, h]
  | workpad markdown completed =>
      have hspares : ∀ write ∈ upsertWorkpad marker markdown comments, write.Spares place :=
        upsertWorkpad_spares h hfree
      refine List.foldlRecOn (motive := fun comments => comments[place]? = some posted) _ _ h ?_
      intro comments hcomments write hwrite
      exact (hspares write (List.mem_of_mem_take hwrite)).getElem? hcomments

theorem laterWrites_kept (later : List LaterWrite) (hfree : Text.contains posted marker = false)
    (h : comments[place]? = some posted) :
    (later.foldl (LaterWrite.apply marker) comments)[place]? = some posted :=
  List.foldlRecOn (motive := fun comments => comments[place]? = some posted) _ _ h
    fun _ hcomments write _ => write.apply_kept hfree hcomments

/-! ## Evidence -/

/-- Posted evidence is readable exactly when it does not show the marker of the workpad
and shows a heading of the timeline. -/
theorem evidenceReadable_iff {recoveryMarker : String}
    (hrecovery : Text.contains posted recoveryMarker = true) :
    EvidenceReadable repository (Repository.addIssueComment thread posted) recoveryMarker posted ↔
      Text.contains posted repository.workpadMarker = false
        ∧ isSheaSymphonyTimelineComment posted = true := by
  constructor
  · intro h
    exact (mem_sheaSymphonyTimelineCommentBodies.mp h.timeline).2
  · rintro ⟨hfree, htimeline⟩
    have hmem := mem_sheaSymphonyTimelineCommentBodies.mpr
      ⟨mem_commentBodies_concat thread posted, hfree, htimeline⟩
    refine ⟨?_, hmem, ?_, fun later => laterWrites_kept later hfree ?_⟩
    · rw [evidencePresent, description_readIssue]
      exact contains_descriptionWithWorkpad (mem_sections_of_timeline hmem) hrecovery
    · intro hworkpad
      rw [contains_canonicalWorkpadCommentBody hworkpad] at hfree
      cases hfree
    · rw [comments_addIssueComment, List.length_append, List.length_singleton, Nat.add_sub_cancel,
        List.getElem?_concat_length]

/-! ## What is posted -/

theorem contains_ensureTrackerRecoveryMarker_of {piece : String}
    (hpiece : Text.trimEnd piece = piece) (h : Text.contains markdown piece = true) :
    Text.contains (ensureTrackerRecoveryMarker markdown key) piece = true := by
  have hbody := Text.contains_trimEnd h hpiece
  rw [ensureTrackerRecoveryMarker]
  split
  · exact h
  · refine Text.contains_append_left ?_ _
    split
    · next hempty => rwa [hempty] at hbody
    · exact Text.contains_append_left hbody _

end

/-! ## Every review -/

/-- The evidence of a job, where posting it adds a comment, is readable. -/
def EvidenceReadsBack (repository : Repository) (thread : Thread) (renderer : Renderer)
    (template : Template) (issue : ReviewedIssue) (job : ReviewRun) (key : String) : Prop :=
  ∀ evidence ∈ renderer.renderReviewWorkpad template issue job, ∀ posted,
    (postEvidence repository thread evidence key).comments = thread.comments ++ [posted] →
      EvidenceReadable repository (postEvidence repository thread evidence key)
        (trackerRecoveryMarker key) posted

/-- Evidence reads back exactly when there is nothing to post, or what is posted neither
shows the marker of the workpad nor lacks a heading of the timeline. -/
theorem evidenceReadsBack_iff (repository : Repository) (thread : Thread) (renderer : Renderer)
    (template : Template) (issue : ReviewedIssue) (job : ReviewRun) (key : String) :
    EvidenceReadsBack repository thread renderer template issue job key ↔
      ∀ evidence ∈ renderer.renderReviewWorkpad template issue job,
        evidencePresent (trackerRecoveryMarker key) (repository.readIssue thread) = true
          ∨ (Text.contains (ensureTrackerRecoveryMarker evidence key) repository.workpadMarker = false
            ∧ isSheaSymphonyTimelineComment (ensureTrackerRecoveryMarker evidence key) = true) := by
  refine forall₂_congr fun evidence _ => ?_
  have hshown := contains_ensureTrackerRecoveryMarker evidence key
  rw [postEvidence_eq]
  by_cases hpresent :
      evidencePresent (trackerRecoveryMarker key) (repository.readIssue thread) = true
  · rw [if_pos hpresent]
    refine ⟨fun _ => Or.inl hpresent, fun _ posted hposted => ?_⟩
    have hlength := congrArg List.length hposted
    rw [List.length_append, List.length_singleton] at hlength
    omega
  · rw [if_neg hpresent]
    constructor
    · intro h
      exact Or.inr ((evidenceReadable_iff hshown).mp (h _ rfl))
    · intro h posted hposted
      obtain rfl := List.singleton_inj.mp (List.append_cancel_left hposted)
      exact (evidenceReadable_iff hshown).mpr (h.resolve_left hpresent)

/-! ## A quoted marker -/

theorem nothing_unstated (_ : List String) : ∀ pr ∈ ([] : List LinkedPullRequest), pr.state = none :=
  fun _ h => absurd h List.not_mem_nil

def quotedMarkerRepository : Repository where
  case := .ascii
  stateMap :=
    { backlog := "Backlog", todo := "Todo", needToClarify := "Need to Clarify"
      inProgress := "In Progress", needHumanInput := "Need Human Input"
      agentReview := "Agent Review", humanReview := "Human Review", rework := "Rework"
      merging := "Merging", done := "Done" }
  workpadMarker := "<!-- shea-symphony-workpad -->"
  linkedPullRequestsFromWorkpads _ := []
  unstated := nothing_unstated

def quotedMarkerIssue : ReviewedIssue where
  id := "I_1"
  identifier := "#1"
  title := "Review me"
  description := none
  state := "Agent Review"
  priority := none
  blockedBy := []
  projectFields _ := none
  createdAt := none
  linkedPullRequests := []

def quotedMarkerJob : ReviewRun where
  backend := "codex"
  state := .completed
  report := some
    { reviewerBackend := "codex", findings := [], summary := none
      stdout := some "+<!-- shea-symphony-workpad -->", stderr := none, exitStatus := none
      sessionId := none }
  error := none
  id := "codex-1"
  issueRef := "#1"
  artifactPath := none
  ledgerPath := none
  backendSessionId := none

def quotedMarkerThread : Thread where
  issue := quotedMarkerIssue
  body := "Do it."
  comments := []

/-- A reviewer has printed the marker of the workpad. -/
theorem quoted_marker_unreadable :
    ¬ EvidenceReadsBack quotedMarkerRepository quotedMarkerThread plainRenderer agentReviewTemplate
      quotedMarkerIssue quotedMarkerJob "review-result" := by
  intro h
  have hsome : (reviewUsageLimitPause quotedMarkerJob.toReviewJob).isSome = true := by
    decide +kernel
  obtain ⟨evidence, hevidence⟩ := Option.isSome_iff_exists.mp
    (@Renderer.renderReviewWorkpad_isSome plainRenderer quotedMarkerIssue _ hsome)
  obtain ⟨front, back, hquoted⟩ := plainRenderer.renderReviewWorkpad_stdout hevidence rfl rfl
    (by decide +kernel) (by decide +kernel) (by decide +kernel)
  have hpresent : evidencePresent (trackerRecoveryMarker "review-result")
      (quotedMarkerRepository.readIssue quotedMarkerThread) = false := by
    decide +kernel
  have hposted := h evidence hevidence (ensureTrackerRecoveryMarker evidence "review-result")
  rw [postEvidence_eq, hpresent, if_neg Bool.false_ne_true] at hposted
  have hfree := ((evidenceReadable_iff (contains_ensureTrackerRecoveryMarker evidence _)).mp
    (hposted rfl)).1
  have hmarker : Text.contains evidence "<!-- shea-symphony-workpad -->" = true := by
    rw [← hquoted]
    refine Text.contains_append_left (Text.contains_append_left (Text.contains_append_right ?_ _) _) _
    decide +kernel
  have hshown : Text.contains (ensureTrackerRecoveryMarker evidence "review-result")
      "<!-- shea-symphony-workpad -->" = true :=
    contains_ensureTrackerRecoveryMarker_of (by decide +kernel) hmarker
  rw [show quotedMarkerRepository.workpadMarker = "<!-- shea-symphony-workpad -->" from rfl, hshown]
    at hfree
  cases hfree

end SheaSymphony.Github

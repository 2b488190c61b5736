import SheaSymphony.EvidenceReadback
import SheaSymphony.HandoffPlan
import SheaSymphony.QualityGate

/-!
# Reworking an issue from Human Review

`forge_rework_with_adapter` of `commands/forge/rework.rs` gives an issue in Human Review
a new text, posts what has led to it and puts the issue into Rework, each step after a
read of what the step before has left.

The text is read back as the tracker shows it, with the workpad and the evidence among the
comments behind it, and so an issue that has any of these never gets past the first read
(`rework_reached_iff`).
-/

namespace SheaSymphony.Forge

open Interrupted Model Review Tracker

/-- What the command is given beyond its input: the clock and the templates, the gate of
the checkout, and who is assigned to an issue. -/
structure ForgeEnv where
  case : Text.UnicodeCase
  stateMap : StateMap
  gate : QualityGate.GateSource
  now : String
  template : String → List (String × String) → String
  assignees : ReviewedIssue → List String

structure ForgeReworkInput where
  issueRef : String
  title : String
  markdown : String
  evidence : String
  operatorConfirmation : String
  dryRun : Bool

def cleanReworkText (value field : String) : Except String String :=
  if Text.trim value = "" then .error ("forge rework requires non-empty " ++ field)
  else .ok (Text.trim value)

/-! ## The lanes -/

def claimParseErrorText : Lanes.LaneClaimParseError → String
  | .missingKey key => "missing claim key \x60" ++ key ++ "\x60"
  | .unsupportedVersion version => "unsupported claim version \x60" ++ version ++ "\x60"
  | .invalidToken token => "invalid claim token \x60" ++ token ++ "\x60"
  | .invalidValue key value => "invalid claim value \x60" ++ key ++ "=" ++ value ++ "\x60"

def humanReviewLanes : List (String × Lanes.LaneClaimLane) :=
  [("Main Agent", .main), ("Review Agent", .review), ("Merging Agent", .merge)]

def ensureNoActiveLaneClaim (issue : TrackerIssue) (field : String) (lane : Lanes.LaneClaimLane) :
    Except String Unit :=
  match Lanes.projectTextField issue field with
  | none => .ok ()
  | some value =>
      match Lanes.LaneClaim.parse value with
      | .error error =>
          .error ("forge rework stopped at preflight: Human Review has unparseable " ++ field
            ++ " claim: " ++ claimParseErrorText error)
      | .ok claim =>
          if claim.lane ≠ lane then
            .error ("forge rework stopped at preflight: Human Review has mismatched " ++ field
              ++ " claim lane=" ++ claim.lane.asStr)
          else if !claim.state.isTerminalAuditPointer then
            .error ("forge rework stopped at preflight: Human Review has active " ++ field
              ++ " claim run=" ++ claim.run ++ " state=" ++ claim.state.asStr)
          else .ok ()

def ensureNoActiveHumanReviewLaneClaims (issue : TrackerIssue) : Except String Unit :=
  humanReviewLanes.forM fun (field, lane) => ensureNoActiveLaneClaim issue field lane

theorem ensureNoActiveHumanReviewLaneClaims_congr {issue other : TrackerIssue}
    (h : issue.projectFields = other.projectFields) :
    ensureNoActiveHumanReviewLaneClaims issue = ensureNoActiveHumanReviewLaneClaims other := by
  simp only [ensureNoActiveHumanReviewLaneClaims, ensureNoActiveLaneClaim,
    Lanes.projectTextField, h]

/-! ## What is posted -/

def timelinePrSummary (issue : ReviewedIssue) : String :=
  (issue.linkedPullRequests.findSome? fun pullRequest =>
    match pullRequest.number, pullRequest.url with
    | some number, some url => some ("#" ++ toString number ++ " " ++ url)
    | some number, none => some ("#" ++ toString number)
    | none, some url => some url
    | none, none => none).getD "not recorded"

def renderForgeReworkWorkpad (env : ForgeEnv) (issue : ReviewedIssue)
    (reworkTitle operatorConfirmation evidence : String) (generatedReadbacks : List String) :
    String :=
  env.template "forge_rework_run"
    [("generated_at", env.now), ("issue_ref", issue.identifier), ("issue_title", issue.title),
      ("pr", timelinePrSummary issue), ("rework_title", reworkTitle),
      ("operator_confirmation", MainHandoff.debugText operatorConfirmation),
      ("evidence", Text.trim evidence),
      ("readbacks", Text.join "\n" (generatedReadbacks.map fun readback =>
        "- " ++ Text.trim readback))]

def renderForgeReworkBlockedWorkpad (env : ForgeEnv) (issue : ReviewedIssue) (reason : String) :
    String :=
  env.template "forge_rework_blocked"
    [("generated_at", env.now), ("issue_ref", issue.identifier), ("issue_title", issue.title),
      ("pr", timelinePrSummary issue), ("reason", reason)]

/-! ## The gate -/

structure ForgeValidationReport where
  title : String
  decision : QualityGate.GateDecision
deriving DecidableEq

/-- The issue a replacement would be. -/
def draft (env : ForgeEnv) (title markdown : String) : TrackerIssue where
  id := "forge-issue-draft"
  identifier := "#draft"
  title := title
  description := some markdown
  state := env.stateMap.todo
  priority := none
  blockedBy := []
  projectFields _ := none
  createdAt := none

/-- The report for an issue that is to be executed. -/
def forgeValidationReport (env : ForgeEnv) (title markdown : String)
    (intendedAssignees : List String) : Except String ForgeValidationReport := do
  let decision ← QualityGate.evaluateIssueForCurrentSource env.gate (draft env title markdown)
    intendedAssignees
  return { title, decision }

/-! ## The command -/

def stoppedAt (stage reason : String) : String :=
  "forge rework stopped at " ++ stage ++ ": " ++ reason

section

variable {σ : Type} (adapter : Adapter σ)

def read (stage absent issueRef : String) : Program σ String ReviewedIssue := fun tracker =>
  match adapter.getIssue tracker issueRef with
  | (.error error, tracker) => (.error (stoppedAt stage error.message), tracker)
  | (.ok none, tracker) => (.error (stoppedAt stage (absent ++ issueRef)), tracker)
  | (.ok (some issue), tracker) => (.ok issue, tracker)

def write (stage : String) (mutation : σ → Written × σ) : Program σ String Unit := fun tracker =>
  ((mutation tracker).1.result.mapError fun error => stoppedAt stage error.message,
    (mutation tracker).2)

/-- The diagnostic of a claim is posted before the command gives up, but for a dry run. -/
def refuseActiveClaims (env : ForgeEnv) (input : ForgeReworkInput) (source : ReviewedIssue) :
    Program σ String Unit :=
  match ensureNoActiveHumanReviewLaneClaims source.toTrackerIssue with
  | .ok () => pure ()
  | .error error =>
      if input.dryRun then Program.stop error
      else do
        write "active_claim_diagnostic" fun tracker =>
          adapter.addIssueComment tracker source.identifier
            (renderForgeReworkBlockedWorkpad env source error)
        Program.stop error

/-- From the replacement of the text on. -/
def replaceContent (env : ForgeEnv) (input : ForgeReworkInput)
    (confirmation evidence : String) (source : ReviewedIssue) (report : ForgeValidationReport) :
    Program σ String Unit := do
  write "edit_issue" fun tracker =>
    adapter.updateIssueContent tracker source.identifier report.title input.markdown
  let contentVerified ← read adapter "readback" "issue disappeared after update: "
    source.identifier
  Program.require
    (contentVerified.title == report.title && contentVerified.description == some input.markdown)
    (stoppedAt "readback" ("expected title " ++ MainHandoff.debugText report.title
      ++ " and replacement body for " ++ contentVerified.identifier ++ ", got title "
      ++ MainHandoff.debugText contentVerified.title))
  write "evidence_comment" fun tracker =>
    adapter.addIssueComment tracker contentVerified.identifier
      (renderForgeReworkWorkpad env contentVerified contentVerified.title confirmation evidence
        ["\x60forge rework --write\x60 replaced the issue content; pre-status readback confirmed "
          ++ "issue \x60" ++ contentVerified.identifier ++ "\x60 title \x60"
          ++ contentVerified.title ++ "\x60 before the final Project status mutation."])
  write "set_status" fun tracker => adapter.setState tracker source.identifier "rework"
  let verified ← read adapter "final_readback" "issue disappeared after update: "
    source.identifier
  Program.require
    (normalizeState env.case verified.state == normalizeState env.case env.stateMap.rework)
    (stoppedAt "final_readback"
      ("expected Rework, got " ++ MainHandoff.debugText verified.state))

def forgeReworkWithAdapter (env : ForgeEnv) (input : ForgeReworkInput) :
    Program σ String Unit := do
  let confirmation ← Program.ofExcept
    (cleanReworkText input.operatorConfirmation "--operator-confirmation")
  let evidence ← Program.ofExcept (cleanReworkText input.evidence "--evidence-file")
  let source ← read adapter "read_source" "issue not found: " input.issueRef
  Program.require
    (normalizeState env.case source.state == normalizeState env.case env.stateMap.humanReview)
    (stoppedAt "preflight" (source.identifier ++ " is in " ++ MainHandoff.debugText source.state
      ++ ", expected Human Review"))
  refuseActiveClaims adapter env input source
  let report ← Program.ofExcept
    ((forgeValidationReport env input.title input.markdown (env.assignees source)).mapError
      (stoppedAt "validate"))
  Program.require report.decision.isDispatchable
    (stoppedAt "validate" "replacement body failed executable issue gate")
  if input.dryRun then pure ()
  else replaceContent adapter env input confirmation evidence source report

/-! ## What is checked before the first write -/

/-- The source is in Human Review with no active claim, and the replacement passes the
gate. -/
structure Admitted (env : ForgeEnv) (input : ForgeReworkInput) (source : ReviewedIssue)
    (report : ForgeValidationReport) : Prop where
  confirmation : Text.trim input.operatorConfirmation ≠ ""
  evidence : Text.trim input.evidence ≠ ""
  humanReview :
    normalizeState env.case source.state = normalizeState env.case env.stateMap.humanReview
  claims : ensureNoActiveHumanReviewLaneClaims source.toTrackerIssue = .ok ()
  validated :
    forgeValidationReport env input.title input.markdown (env.assignees source) = .ok report
  dispatchable : report.decision.isDispatchable = true
  writes : input.dryRun = false

variable {adapter : Adapter σ} {env : ForgeEnv} {input : ForgeReworkInput}
  {source : ReviewedIssue} {report : ForgeValidationReport} {tracker : σ}

theorem cleanReworkText_eq {value field : String} (h : Text.trim value ≠ "") :
    cleanReworkText value field = .ok (Text.trim value) := by
  rw [cleanReworkText, if_neg h]

theorem refuseActiveClaims_eq (h : ensureNoActiveHumanReviewLaneClaims source.toTrackerIssue = .ok ()) :
    refuseActiveClaims adapter env input source = pure () := by
  rw [refuseActiveClaims, h]

theorem read_found {stage absent issueRef : String}
    (h : adapter.getIssue tracker issueRef = (.ok (some source), tracker)) :
    read adapter stage absent issueRef tracker = (.ok source, tracker) := by
  rw [read, h]

theorem write_ok {stage : String} {mutation : σ → Written × σ} {next : σ}
    (h : mutation tracker = ({ applied := true, result := .ok () }, next)) :
    write stage mutation tracker = (.ok (), next) := by
  rw [write, h]
  rfl

theorem forgeReworkWithAdapter_eq (hadmitted : Admitted env input source report)
    (hread : adapter.getIssue tracker input.issueRef = (.ok (some source), tracker)) :
    forgeReworkWithAdapter adapter env input tracker
      = replaceContent adapter env input (Text.trim input.operatorConfirmation)
          (Text.trim input.evidence) source report tracker := by
  rw [forgeReworkWithAdapter, cleanReworkText_eq hadmitted.confirmation,
    Program.ofExcept_ok_bind, cleanReworkText_eq hadmitted.evidence, Program.ofExcept_ok_bind,
    Program.bind_ok (read_found hread), hadmitted.humanReview, beq_self_eq_true,
    Program.require_true_bind, refuseActiveClaims_eq hadmitted.claims, Program.pure_bind,
    hadmitted.validated]
  show (Program.ofExcept (.ok report) >>= _) tracker = _
  rw [Program.ofExcept_ok_bind, hadmitted.dispatchable, Program.require_true_bind,
    hadmitted.writes, if_neg Bool.false_ne_true]

theorem Admitted.report_title (h : Admitted env input source report) :
    report.title = input.title := by
  obtain ⟨decision, -, hreport⟩ := Fallible.bind_eq_ok h.validated
  obtain rfl := Except.ok.inj hreport
  rfl

theorem Admitted.markdown_ne_blank (h : Admitted env input source report) :
    Text.trim input.markdown ≠ "" := by
  obtain ⟨decision, hdecision, hreport⟩ := Fallible.bind_eq_ok h.validated
  obtain rfl := Except.ok.inj hreport
  have hready :
      (QualityGate.evaluateIssue (draft env input.title input.markdown)).isDispatchable = true :=
    QualityGate.isDispatchable_of_currentSource hdecision h.dispatchable
  have hblank := QualityGate.description_ne_blank hready
  exact hblank

end

/-! ## The readback on GitHub -/

/-- None of the comments that are read is a workpad or evidence. -/
def Bare (marker : String) (thread : Github.Thread) : Prop :=
  Github.canonicalWorkpadCommentBody marker thread.commentBodies = none
    ∧ Github.sheaSymphonyTimelineCommentBodies marker thread.commentBodies = []

section

variable {repository : Github.Repository} {env : ForgeEnv} {input : ForgeReworkInput}
  {report : ForgeValidationReport} {thread reworked : Github.Thread} {marker : String}

theorem descriptionWithWorkpad_eq_body_iff (hbody : Text.trim thread.body ≠ "") :
    thread.descriptionWithWorkpad marker = some thread.body ↔ Bare marker thread := by
  let workpad := Github.canonicalWorkpadCommentBody marker thread.commentBodies
  let timeline := Github.sheaSymphonyTimelineCommentBodies marker thread.commentBodies
  have hdescription : thread.descriptionWithWorkpad marker
      = some (Text.join "\n\n" (thread.body
          :: ((if workpad.isSome || !timeline.isEmpty then [attachedEvidenceMarker] else [])
            ++ workpad.toList ++ timeline))) := by
    rw [Github.Thread.descriptionWithWorkpad, Github.Thread.sections, if_neg hbody]
    rfl
  rw [hdescription, Option.some.injEq]
  show _ ↔ workpad = none ∧ timeline = []
  constructor
  · intro hjoin
    by_contra hattached
    have hmarked : (workpad.isSome || !timeline.isEmpty) = true := by
      cases hworkpad : workpad with
      | some body => rfl
      | none =>
          cases htimeline : timeline with
          | nil => exact absurd ⟨hworkpad, htimeline⟩ hattached
          | cons first rest => rfl
    rw [if_pos hmarked, List.singleton_append, List.cons_append,
      Text.join_cons _ (List.cons_ne_nil _ _)] at hjoin
    have hlength := congrArg String.length hjoin
    rw [String.length_append, String.length_append] at hlength
    have hblank : ("\n\n" : String).length = 2 := rfl
    omega
  · rintro ⟨hworkpad, htimeline⟩
    rw [hworkpad, htimeline]
    exact Text.join_singleton _ _

/-! ## The writes on GitHub -/

/-- What the write of the text leaves. -/
def replaced (input : ForgeReworkInput) (thread : Github.Thread) : Github.Thread :=
  Github.Repository.updateIssueContent thread input.title input.markdown

theorem identifier_readIssue (thread : Github.Thread) :
    (repository.readIssue thread).identifier = thread.issue.identifier := by
  rw [Github.Repository.readIssue]

theorem getIssue_adapter (thread : Github.Thread) :
    repository.adapter.getIssue thread thread.issue.identifier
      = (.ok (some (repository.readIssue thread)), thread) := by
  have hfound : repository.adapter.getIssue thread thread.issue.identifier
      = (.ok (if thread.issue.identifier = thread.issue.identifier
          then some (repository.readIssue thread) else none), thread) := rfl
  rw [hfound, if_pos rfl]

theorem updateIssueContent_adapter (thread : Github.Thread) (title body : String) :
    repository.adapter.updateIssueContent thread thread.issue.identifier title body
      = Github.Repository.done (Github.Repository.updateIssueContent thread title body) :=
  if_pos rfl

theorem addIssueComment_adapter (thread : Github.Thread) (markdown : String) :
    repository.adapter.addIssueComment thread thread.issue.identifier markdown
      = Github.Repository.done (Github.Repository.addIssueComment thread markdown) :=
  if_pos rfl

theorem setState_adapter {target : String} (h : repository.setState thread target = .ok reworked) :
    repository.adapter.setState thread thread.issue.identifier target
      = Github.Repository.done reworked := by
  rw [Github.Repository.adapter]
  dsimp only
  rw [if_pos rfl, h]

theorem setState_ok {target : String} {option : ResolvedTrackerState}
    (h : resolveConfiguredTrackerState repository.case repository.stateMap target = .ok option)
    (thread : Github.Thread) :
    ∃ reworked, repository.setState thread target = .ok reworked
      ∧ reworked.comments = thread.comments := by
  rw [Github.Repository.setState, h, Fallible.ok_bind]
  split
  · exact ⟨_, rfl, rfl⟩
  · exact ⟨thread, rfl, rfl⟩

variable {confirmation evidence : String}

theorem description_replaced_iff (hbody : Text.trim input.markdown ≠ "") :
    (repository.readIssue (replaced input thread)).description = some input.markdown
      ↔ Bare repository.workpadMarker thread := by
  rw [Github.description_readIssue]
  have hiff := @descriptionWithWorkpad_eq_body_iff (replaced input thread)
    repository.workpadMarker hbody
  exact hiff

theorem write_replaced (input : ForgeReworkInput) (thread : Github.Thread) :
    write "edit_issue" (fun tracker => repository.adapter.updateIssueContent tracker
        (repository.readIssue thread).identifier input.title input.markdown) thread
      = (.ok (), replaced input thread) := by
  rw [identifier_readIssue]
  exact write_ok (updateIssueContent_adapter thread input.title input.markdown)

theorem read_replaced (input : ForgeReworkInput) (thread : Github.Thread) (stage absent : String) :
    read repository.adapter stage absent (repository.readIssue thread).identifier
        (replaced input thread)
      = (.ok (repository.readIssue (replaced input thread)), replaced input thread) := by
  rw [identifier_readIssue]
  exact read_found (getIssue_adapter (replaced input thread))

theorem snd_read_require {stage absent issueRef : String} {condition : ReviewedIssue → Bool}
    {text : ReviewedIssue → String} (thread : Github.Thread) :
    ((read repository.adapter stage absent issueRef >>= fun issue =>
      Program.require (condition issue) (text issue)) thread).2 = thread := by
  have hget : repository.adapter.getIssue thread issueRef
      = (.ok (if issueRef = thread.issue.identifier then some (repository.readIssue thread)
          else none), thread) := rfl
  by_cases hissue : issueRef = thread.issue.identifier
  · rw [if_pos hissue] at hget
    rw [Program.bind_ok (read_found hget)]
    cases hcondition : condition (repository.readIssue thread) with
    | true => rfl
    | false => rfl
  · rw [if_neg hissue] at hget
    have habsent : read repository.adapter stage absent issueRef thread
        = (.error (stoppedAt stage (absent ++ issueRef)), thread) := by
      rw [read, hget]
    rw [Program.bind_error habsent]

/-- With something attached the command stops at the readback, the text replaced and the
state as it was. -/
theorem replaceContent_of_attached (htitle : report.title = input.title)
    (hbody : Text.trim input.markdown ≠ "") (hattached : ¬ Bare repository.workpadMarker thread) :
    ∃ error, replaceContent repository.adapter env input confirmation evidence
      (repository.readIssue thread) report thread = (.error error, replaced input thread) := by
  have hdescription :
      (repository.readIssue (replaced input thread)).description ≠ some input.markdown :=
    fun heq => hattached ((description_replaced_iff hbody).mp heq)
  have hunequal : ((repository.readIssue (replaced input thread)).title == input.title
      && (repository.readIssue (replaced input thread)).description == some input.markdown)
        = false := by
    rw [beq_eq_false_iff_ne.mpr hdescription, Bool.and_false]
  rw [replaceContent, htitle, Program.bind_ok (write_replaced input thread),
    Program.bind_ok (read_replaced input thread _ _), hunequal]
  exact ⟨_, rfl⟩

theorem replaceContent_of_bare (htitle : report.title = input.title)
    (hbody : Text.trim input.markdown ≠ "") (hbare : Bare repository.workpadMarker thread)
    {option : ResolvedTrackerState}
    (hresolve : resolveConfiguredTrackerState repository.case repository.stateMap "rework"
      = .ok option) :
    ∃ note reworked,
      repository.setState (Github.Repository.addIssueComment (replaced input thread) note) "rework"
          = .ok reworked
        ∧ (replaceContent repository.adapter env input confirmation evidence
            (repository.readIssue thread) report thread).2 = reworked := by
  have hequal : ((repository.readIssue (replaced input thread)).title == input.title
      && (repository.readIssue (replaced input thread)).description == some input.markdown)
        = true := by
    rw [(description_replaced_iff hbody).mpr hbare, beq_self_eq_true, Bool.and_true]
    exact beq_self_eq_true input.title
  let note := renderForgeReworkWorkpad env (repository.readIssue (replaced input thread))
    (repository.readIssue (replaced input thread)).title confirmation evidence
    ["\x60forge rework --write\x60 replaced the issue content; pre-status readback confirmed "
      ++ "issue \x60" ++ (repository.readIssue (replaced input thread)).identifier
      ++ "\x60 title \x60" ++ (repository.readIssue (replaced input thread)).title
      ++ "\x60 before the final Project status mutation."]
  let noted := Github.Repository.addIssueComment (replaced input thread) note
  obtain ⟨reworked, hreworked, -⟩ := setState_ok hresolve noted
  have hcomment : write "evidence_comment" (fun tracker => repository.adapter.addIssueComment
      tracker (repository.readIssue (replaced input thread)).identifier note)
      (replaced input thread) = (.ok (), noted) := by
    rw [identifier_readIssue]
    exact write_ok (addIssueComment_adapter (replaced input thread) note)
  have hstate : write "set_status" (fun tracker => repository.adapter.setState tracker
      (repository.readIssue thread).identifier "rework") noted = (.ok (), reworked) := by
    rw [identifier_readIssue]
    exact write_ok (setState_adapter hreworked)
  refine ⟨note, reworked, hreworked, ?_⟩
  rw [replaceContent, htitle, Program.bind_ok (write_replaced input thread),
    Program.bind_ok (read_replaced input thread _ _), hequal, Program.require_true_bind,
    Program.bind_ok hcomment, Program.bind_ok hstate]
  exact snd_read_require reworked

/-- The run has posted its evidence and set the state. -/
def ReachesRework (repository : Github.Repository) (env : ForgeEnv) (input : ForgeReworkInput)
    (thread : Github.Thread) : Prop :=
  ∃ note reworked,
    repository.setState (Github.Repository.addIssueComment (replaced input thread) note) "rework"
        = .ok reworked
      ∧ (forgeReworkWithAdapter repository.adapter env input thread).2 = reworked

theorem half_reworked (hissue : input.issueRef = thread.issue.identifier)
    (hadmitted : Admitted env input (repository.readIssue thread) report)
    (hattached : ¬ Bare repository.workpadMarker thread) :
    ∃ error, forgeReworkWithAdapter repository.adapter env input thread
      = (.error error, replaced input thread) := by
  rw [forgeReworkWithAdapter_eq hadmitted (hissue ▸ getIssue_adapter thread)]
  exact replaceContent_of_attached hadmitted.report_title hadmitted.markdown_ne_blank hattached

theorem not_reachesRework (hissue : input.issueRef = thread.issue.identifier)
    (hadmitted : Admitted env input (repository.readIssue thread) report)
    {option : ResolvedTrackerState}
    (hresolve : resolveConfiguredTrackerState repository.case repository.stateMap "rework"
      = .ok option)
    (hattached : ¬ Bare repository.workpadMarker thread) :
    ¬ ReachesRework repository env input thread := by
  rintro ⟨note, reworked, hreworked, hlast⟩
  obtain ⟨error, hstopped⟩ := half_reworked hissue hadmitted hattached
  obtain ⟨other, hother, hcomments⟩ := setState_ok hresolve
    (Github.Repository.addIssueComment (replaced input thread) note)
  obtain rfl := Except.ok.inj (hreworked.symm.trans hother)
  rw [hstopped] at hlast
  -- the state is set on an issue that has the evidence among its comments
  have hlength := congrArg (fun t : Github.Thread => t.comments.length) hlast
  rw [hcomments, Github.comments_addIssueComment, List.length_append] at hlength
  exact absurd hlength (Nat.ne_of_lt (Nat.lt_succ_self _))

/-- An issue that the command takes gets into Rework exactly when no comment of it is
attached to its text. -/
theorem rework_reached_iff (hissue : input.issueRef = thread.issue.identifier)
    (hadmitted : Admitted env input (repository.readIssue thread) report)
    {option : ResolvedTrackerState}
    (hresolve : resolveConfiguredTrackerState repository.case repository.stateMap "rework"
      = .ok option) :
    ReachesRework repository env input thread ↔ Bare repository.workpadMarker thread := by
  constructor
  · intro hreaches
    by_contra hattached
    exact not_reachesRework hissue hadmitted hresolve hattached hreaches
  · intro hbare
    rw [ReachesRework, forgeReworkWithAdapter_eq hadmitted (hissue ▸ getIssue_adapter thread)]
    exact replaceContent_of_bare hadmitted.report_title hadmitted.markdown_ne_blank hbare hresolve

end

/-! ## An issue with a workpad -/

def reviewedRepository : Github.Repository where
  case := .ascii
  stateMap :=
    { backlog := "Backlog", todo := "Todo", needToClarify := "Need to Clarify"
      inProgress := "In Progress", needHumanInput := "Need Human Input"
      agentReview := "Agent Review", humanReview := "Human Review", rework := "Rework"
      merging := "Merging", done := "Done" }
  workpadMarker := "<!-- shea-symphony-workpad -->"
  linkedPullRequestsFromWorkpads _ := []
  unstated := Github.nothing_unstated

/-- The evaluator is off, and the templates give the evidence alone. -/
def reviewedEnv : ForgeEnv where
  case := .ascii
  stateMap := reviewedRepository.stateMap
  gate :=
    { case := .ascii, repoRoot := ".", expectedTargetRepo := none, liveGithub := false
      template := .ok (), mode := .disabled, report := fun _ => .error "off"
      terminalStates := ["done"] }
  now := "2026-01-01 00:00:00 GMT"
  template id _ := id
  assignees _ := ["octocat"]

def revision : ForgeReworkInput where
  issueRef := "#7"
  title := "Do more"
  markdown := "Do more."
  evidence := "It is not enough."
  operatorConfirmation := "go"
  dryRun := false

/-- An issue in Human Review whose main agent is done with it. -/
def reviewedIssue : ReviewedIssue where
  id := "I_7"
  identifier := "#7"
  title := "Do it"
  description := none
  state := "Human Review"
  priority := none
  blockedBy := []
  projectFields field :=
    if field = "Main Agent" then
      some (.str "v=1 lane=main actor=codex source=loop issue=#7 run=r state=done thread=- registry=-")
    else none
  createdAt := none
  linkedPullRequests := []

def reviewedThread (comments : List String) : Github.Thread where
  issue := reviewedIssue
  body := "Do it."
  comments

def revisionReport : ForgeValidationReport where
  title := "Do more"
  decision :=
    { QualityGate.GateDecision.ready with
      notes := ["Deterministic repository root: \x60" ++ "." ++ "\x60."] }

theorem revision_admitted (comments : List String) :
    Admitted reviewedEnv revision (reviewedRepository.readIssue (reviewedThread comments))
      revisionReport where
  confirmation := by decide +kernel
  evidence := by decide +kernel
  humanReview := by
    rw [Github.Repository.readIssue]
    rfl
  claims := by
    rw [@ensureNoActiveHumanReviewLaneClaims_congr _ reviewedIssue.toTrackerIssue
      (by rw [Github.Repository.readIssue]; rfl)]
    decide +kernel
  validated := by
    show forgeValidationReport reviewedEnv revision.title revision.markdown ["octocat"] = _
    decide +kernel
  dispatchable := by decide +kernel
  writes := rfl

theorem rework_resolves :
    resolveConfiguredTrackerState reviewedRepository.case reviewedRepository.stateMap "rework"
      = .ok { canonicalKey := "rework", displayValue := "Rework" } := by decide

theorem rework_reached_unattached :
    ReachesRework reviewedRepository reviewedEnv revision (reviewedThread [])
      ↔ Bare reviewedRepository.workpadMarker (reviewedThread []) :=
  rework_reached_iff rfl (revision_admitted []) rework_resolves

def workpadComment : String := "<!-- shea-symphony-workpad -->"

theorem workpad_attached :
    ¬ Bare reviewedRepository.workpadMarker (reviewedThread [workpadComment]) := by
  rintro ⟨hnone, -⟩
  have hsome : (Github.canonicalWorkpadCommentBody reviewedRepository.workpadMarker
      (reviewedThread [workpadComment]).commentBodies).isSome = true := by decide
  rw [hnone] at hsome
  cases hsome

/-- An issue with a workpad gets its new text and stays in Human Review. -/
theorem rework_stops_at_workpad :
    Admitted reviewedEnv revision
        (reviewedRepository.readIssue (reviewedThread [workpadComment])) revisionReport
      ∧ ¬ ReachesRework reviewedRepository reviewedEnv revision (reviewedThread [workpadComment])
      ∧ ∃ error, forgeReworkWithAdapter reviewedRepository.adapter reviewedEnv revision
          (reviewedThread [workpadComment])
        = (.error error, { reviewedThread [workpadComment] with
            issue := { reviewedIssue with title := "Do more" }
            body := "Do more." }) :=
  ⟨revision_admitted _,
    not_reachesRework rfl (revision_admitted _) rework_resolves workpad_attached,
    half_reworked rfl (revision_admitted _) workpad_attached⟩

end SheaSymphony.Forge

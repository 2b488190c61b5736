import SheaSymphony.Interrupted
import SheaSymphony.PoolClaim
import SheaSymphony.ReviewChecklist
import SheaSymphony.ReviewDecision
import SheaSymphony.TrackerRecovery

/-!
# Publishing a review

`apply_review_result` of `lanes/review/automatic.rs` with the receipt of
`lanes/review/publication.rs` and the writes of
`orchestration/tracker_recovery.rs`: the result of a review is posted as
evidence, the claim is made terminal, the checklist is ticked, the issue is
moved, and a receipt on disk says how far this has come.

The tracker is any state with any answers: a read gives what it gives, a write
reports what it reports, and whether it has taken effect is known to the tracker
alone. The process may be cut off before any access to the tracker or to the
receipt, and saving the receipt is atomic. The audit log and what is printed are
left out.
-/

namespace SheaSymphony.Review

open Interrupted Lanes Model Tracker

/-! ## Issues and results -/

structure LinkedPullRequest where
  number : Option Nat
  url : Option String
  state : Option String
  isDraft : Option Bool
  baseRefName : Option String
  headSha : Option String
deriving DecidableEq

structure ReviewedIssue extends TrackerIssue where
  linkedPullRequests : List LinkedPullRequest

/-- A job with what publishing it needs beyond its decision. -/
structure ReviewRun extends ReviewJob where
  id : String
  issueRef : String
  artifactPath : Option String
  ledgerPath : Option String
  backendSessionId : Option String

def reviewJobIsTerminal (job : ReviewJob) : Bool :=
  [ReviewJobState.completed, .failed, .timedOut, .cancelled].contains job.state

def transitionAllowedForReviewAgent (normalizedState : String) (decision : ReviewGateDecision) :
    Bool :=
  if normalizedState = "human_review" ∨ normalizedState = "human review" then
    decision.outcome == .passedToHumanReview
  else if normalizedState = "merging" then decision.outcome == .passedToMerging
  else if normalizedState = "rework" then
    decision.outcome == .needsRework || decision.outcome == .inconclusiveNeedsRework
  else if normalizedState = "need_human_input" ∨ normalizedState = "need human input" then
    decision.outcome == .needsHumanInput
  else if normalizedState = "agent_review" ∨ normalizedState = "agent review" then
    decision.outcome == .backendUnavailable || decision.outcome == .stillRunning
      || decision.outcome == .cancelled
  else true

def terminalReviewClaimValue (claim : LaneClaim) (state : LaneClaimState) (result : String) :
    String :=
  (claim.withState state).render ++ " result=" ++ result

def terminalReviewLoopClaimValue (claim : Option LaneClaim) (job : ReviewJob)
    (decision : ReviewGateDecision) : Option String := do
  let claim ← claim
  let (state, result) ←
    match decision.outcome with
    | .passedToHumanReview | .passedToMerging => some (.done, "passed")
    | .needsRework => some (.done, "rejected")
    | .inconclusiveNeedsRework => some (.failed, "inconclusive")
    | .needsHumanInput => some (.failed, "blocked")
    | .backendUnavailable => some (.failed, "unavailable")
    | .cancelled => some (.failed, "cancelled")
    | .stillRunning =>
        match job.state with
        | .failed | .timedOut => some (.failed, "unavailable")
        | .cancelled => some (.failed, "cancelled")
        | .queued | .running | .completed => none
  return terminalReviewClaimValue claim state result

/-! ## Freshness -/

def stateKey (case : Text.UnicodeCase) (state : String) : String :=
  String.ofList ((normalizeState case state).toList.map fun c => if c = '_' then ' ' else c)

def mappedStateKey (case : Text.UnicodeCase) (stateMap : StateMap) (state : String) : String :=
  stateKey case <|
    if state = "agent_review" then stateMap.agentReview
    else if state = "human_review" then stateMap.humanReview
    else if state = "need_human_input" then stateMap.needHumanInput
    else if state = "rework" then stateMap.rework
    else if state = "merging" then stateMap.merging
    else state

def issueIsClosed (case : Text.UnicodeCase) (issue : ReviewedIssue) : Bool :=
  ((issue.projectFields "GitHub Issue State").bind Json.asStr).any fun state =>
    stateKey case state == "closed"

def evidencePresent (marker : String) (issue : ReviewedIssue) : Bool :=
  issue.description.any fun body => Text.contains body marker

def canonicalBody (issue : ReviewedIssue) : String :=
  canonicalIssueBodyWithoutWorkpad (issue.description.getD "")

/-- The open pull requests, by what must not change about them. -/
def readyPrs (issue : ReviewedIssue) :
    List (Option String × Option String × Option Bool × Option String) :=
  (issue.linkedPullRequests.filter fun pr => pr.state.any (Text.eqIgnoreAsciiCase "open")).map
    fun pr => (pr.url, pr.headSha, pr.isDraft, pr.baseRefName)

def prIsReady (pr : Option String × Option String × Option Bool × Option String) : Bool :=
  pr.2.2.1 == some false && pr.1.any (· != "") && pr.2.1.any (· != "")

def validatePublicationFreshness (case : Text.UnicodeCase) (stateMap : StateMap)
    (original current : ReviewedIssue) (claim : Option LaneClaim) (terminalClaim : Option String)
    (decision : ReviewGateDecision) (marker : String) : Except String Unit := do
  Fallible.require (original.id == current.id && original.identifier == current.identifier)
    "Review Issue identity changed"
  Fallible.require (!issueIsClosed case current)
    "Review Issue is closed; captured result cannot route it"
  let evidence := evidencePresent marker current
  let targetMatches := decision.targetState.any fun target =>
    stateKey case current.state == mappedStateKey case stateMap target
  Fallible.require
    (stateKey case current.state == stateKey case stateMap.agentReview
      || (evidence && targetMatches))
    "Review state changed outside this publication"
  let ownChecklist := evidence && decision.outcome.isPassed
    && canonicalBody current == checkReviewVerifiedIssueBodyCheckboxes (canonicalBody original)
  Fallible.require
    (original.title == current.title
      && (canonicalBody current == canonicalBody original || ownChecklist))
    "Review Issue contract changed; captured result is stale"
  Fallible.require
    (readyPrs original == readyPrs current
      && match readyPrs original with
        | [pr] => prIsReady pr
        | _ => false)
    "Review PR linkage, readiness or head changed or is missing; captured result is stale"
  Fallible.require
    (claim.all fun claim =>
      projectTextField current.toTrackerIssue "Review Agent" == some claim.render
        || (evidence
          && projectTextField current.toTrackerIssue "Review Agent" == terminalClaim))
    "Review claim changed; this run no longer owns publication"

/-! ## The receipt -/

inductive PublicationState where
  | starting
  | running
  | resultReady
  | evidencePublished
  | complete
  | superseded
deriving DecidableEq

structure ReviewPublication where
  schemaVersion : Nat
  issue : ReviewedIssue
  claim : Option String
  job : Option ReviewRun
  state : PublicationState
  evidence : Option String
  diagnostic : Option String

def ReviewPublication.new (issue : ReviewedIssue) (claim : Option LaneClaim) : ReviewPublication where
  schemaVersion := 1
  issue := issue
  claim := claim.map LaneClaim.render
  job := none
  state := .starting
  evidence := none
  diagnostic := none

/-! ## The tracker and the process -/

inductive ProjectStateFailureKind where
  | auth
  | network
  | transientBackend
  | rateLimit
  | resourceLimit
  | schema
  | partialResponse
  | payload
  | missingCapability
  | unknown
deriving DecidableEq

/-- An error of the tracker, with what it is classified as. -/
structure TrackerError where
  kind : ProjectStateFailureKind
  message : String
deriving DecidableEq

/-- What a write reports, and whether it has taken effect. -/
structure Written where
  applied : Bool
  result : Except TrackerError Unit

structure Adapter (σ : Type) where
  getIssue : σ → String → Except TrackerError (Option ReviewedIssue) × σ
  addIssueComment : σ → String → String → Written × σ
  setProjectField : σ → String → String → String → Written × σ
  updateIssueContent : σ → String → String → String → Written × σ
  setState : σ → String → String → Written × σ

inductive Event where
  | readback (answer : Except TrackerError (Option ReviewedIssue))
  | commented (body : String) (applied : Bool)
  | fieldSet (name value : String)
  | contentUpdated (title body : String)
  | stateSet (target : String)
  | saved (state : PublicationState)

structure World (σ : Type) where
  tracker : σ
  receipt : Option ReviewPublication
  log : List Event
  budget : Nat

inductive Failure where
  | crash
  | message (text : String)
  | tracker (error : TrackerError)
  | mutationUncertain (mutationType issueRef : String) (kind : ProjectStateFailureKind)
      (currentState : Option String) (error : TrackerError)
  | readbackFailed (mutationType issueRef : String) (kind readbackKind : ProjectStateFailureKind)
      (error readbackError : TrackerError)

abbrev Publish (σ : Type) := Program (World σ) Failure

section
variable {σ : Type} (adapter : Adapter σ)

/-- Every access may be the one the process does not live to make. -/
def spend : Publish σ Unit := fun world =>
  if world.budget = 0 then (.error .crash, world)
  else (.ok (), { world with budget := world.budget - 1 })

def readIssue (issueRef : String) : Publish σ (Except TrackerError (Option ReviewedIssue)) := do
  spend
  Program.step fun world =>
    let (answer, tracker) := adapter.getIssue world.tracker issueRef
    (answer, { world with tracker, log := world.log ++ [.readback answer] })

def getIssue (issueRef missing : String) : Publish σ ReviewedIssue := do
  match ← readIssue adapter issueRef with
  | .ok (some issue) => return issue
  | .ok none => Program.stop (.message missing)
  | .error error => Program.stop (.tracker error)

def write (call : σ → Written × σ) (event : Bool → Event) : Publish σ (Except TrackerError Unit) := do
  spend
  Program.step fun world =>
    let (written, tracker) := call world.tracker
    (written.result, { world with tracker, log := world.log ++ [event written.applied] })

def addIssueComment (issueRef body : String) : Publish σ (Except TrackerError Unit) :=
  write (adapter.addIssueComment · issueRef body) (.commented body)

def setProjectField (issueRef name value : String) : Publish σ (Except TrackerError Unit) :=
  write (adapter.setProjectField · issueRef name value) fun _ => .fieldSet name value

def updateIssueContent (issueRef title body : String) : Publish σ (Except TrackerError Unit) :=
  write (adapter.updateIssueContent · issueRef title body) fun _ => .contentUpdated title body

def setState (issueRef target : String) : Publish σ (Except TrackerError Unit) :=
  write (adapter.setState · issueRef target) fun _ => .stateSet target

def readReceipt : Publish σ (Option ReviewPublication) := do
  spend
  Program.step fun world => (world.receipt, world)

def ReviewPublication.save (receipt : ReviewPublication) : Publish σ Unit := do
  spend
  Program.step fun world =>
    ((), { world with receipt := some receipt, log := world.log ++ [.saved receipt.state] })

/-! ## Writes with recovery -/

def recoverableProjectStateFailure (kind : ProjectStateFailureKind) : Bool :=
  kind == .network || kind == .transientBackend || kind == .rateLimit

/-- A write whose failure may hide a success is looked up. -/
def recoverAfterTrackerError (issueRef mutationType : String) (error : TrackerError)
    (expected : ReviewedIssue → Bool) : Publish σ Unit := do
  Program.require (recoverableProjectStateFailure error.kind) (.tracker error)
  match ← readIssue adapter issueRef with
  | .ok (some issue) =>
      Program.require (expected issue)
        (.mutationUncertain mutationType issueRef error.kind (some issue.state) error)
  | .ok none =>
      Program.stop (.mutationUncertain mutationType issueRef error.kind none error)
  | .error readbackError =>
      Program.stop
        (.readbackFailed mutationType issueRef error.kind readbackError.kind error readbackError)

def withRecovery (issueRef mutationType : String) (expected : ReviewedIssue → Bool)
    (mutation : Publish σ (Except TrackerError Unit)) : Publish σ Unit := do
  match ← mutation with
  | .ok () => return
  | .error error => recoverAfterTrackerError adapter issueRef mutationType error expected

def issueProjectFieldMatches (name value : String) (issue : ReviewedIssue) : Bool :=
  projectTextField issue.toTrackerIssue name == some value

def issueStateMatches (case : Text.UnicodeCase) (normalizedState : String) (issue : ReviewedIssue) :
    Bool :=
  stateKey case issue.state == stateKey case normalizedState

def setProjectFieldWithRecovery (issue : ReviewedIssue) (name value mutationType : String) :
    Publish σ Unit :=
  if issueProjectFieldMatches name value issue then return
  else
    withRecovery adapter issue.identifier mutationType (issueProjectFieldMatches name value)
      (setProjectField adapter issue.identifier name value)

def setStateWithRecovery (case : Text.UnicodeCase) (issueRef : String) (issue : ReviewedIssue)
    (normalizedState mutationType : String) : Publish σ Unit :=
  if issueStateMatches case normalizedState issue then return
  else
    withRecovery adapter issueRef mutationType (issueStateMatches case normalizedState)
      (setState adapter issueRef normalizedState)

def addTimelineCommentWithRecovery (issueRef : String) (issue : ReviewedIssue)
    (markdown key mutationType : String) : Publish σ Unit :=
  let marker := trackerRecoveryMarker key
  if evidencePresent marker issue then return
  else
    withRecovery adapter issueRef mutationType (evidencePresent marker)
      (addIssueComment adapter issueRef (ensureTrackerRecoveryMarker markdown key))

end

/-! ## Publication -/

/-- What a run publishes: its result about the issue it has captured. -/
structure Publication where
  case : Text.UnicodeCase
  health : ReviewJob → Option GeminiReviewHealthDiagnostic
  stateMap : StateMap
  issue : ReviewedIssue
  claim : Option LaneClaim
  job : ReviewRun

namespace Publication

variable (publication : Publication)

def decision : ReviewGateDecision :=
  reviewGateDecisionForIssue publication.health publication.case publication.job.toReviewJob
    publication.issue.toTrackerIssue

def key : String :=
  recoveryKey "review-result" publication.issue.identifier
    (publication.issue.identifier ++ "|" ++ publication.job.id)

def marker : String := trackerRecoveryMarker publication.key

def terminalClaim : Option String :=
  terminalReviewLoopClaimValue publication.claim publication.job.toReviewJob publication.decision

def freshness (current : ReviewedIssue) : Except String Unit :=
  validatePublicationFreshness publication.case publication.stateMap publication.issue current
    publication.claim publication.terminalClaim publication.decision publication.marker

variable {σ : Type} (adapter : Adapter σ)

/-- A readback that the publication may go on from. -/
def fresh (receipt : ReviewPublication) : Publish σ ReviewedIssue := do
  let current ← getIssue adapter publication.issue.identifier
    "Review Issue disappeared during publication"
  match publication.freshness current with
  | .ok () => return current
  | .error reason => do
      ReviewPublication.save { receipt with state := .superseded, diagnostic := some reason }
      Program.stop (.message reason)

/-- The receipt a call works on, if it has to. -/
def openReceipt (render : String) : Publish σ (Option ReviewPublication) := do
  Program.require
    (reviewJobIsTerminal publication.job.toReviewJob
      && publication.job.issueRef == publication.issue.identifier)
    (.message "Review publication requires a terminal result for this Issue")
  Program.require
    (publication.decision.targetState.all fun target =>
      transitionAllowedForReviewAgent target publication.decision)
    (.message "review agent transition is not allowed for this decision")
  let receipt := (← readReceipt).getD (.new publication.issue publication.claim)
  Program.require (receipt.schemaVersion == 1)
    (.message "unsupported Review publication schema")
  Program.require
    (receipt.issue.id == publication.issue.id
      && receipt.claim == publication.claim.map LaneClaim.render
      && receipt.job.all fun saved => saved.id == publication.job.id)
    (.message "Review publication identity mismatch")
  if receipt.state = .complete then return none
  else
    Program.require (receipt.state != .superseded)
      (.message "Review result was superseded; inspect the retained receipt")
    let receipt := { receipt with
      job := some publication.job
      state := if receipt.state = .evidencePublished then .evidencePublished else .resultReady
      evidence := some (receipt.evidence.getD render) }
    receipt.save
    return some receipt

def publishEvidence (receipt : ReviewPublication) : Publish σ ReviewedIssue := do
  let current ← publication.fresh adapter receipt
  Program.require
    (receipt.state != .evidencePublished || evidencePresent publication.marker current)
    (.message "Previously published Review evidence is not visible; preserve the receipt and use targeted Doctor triage instead of duplicating the comment")
  addTimelineCommentWithRecovery adapter publication.issue.identifier current
    (receipt.evidence.getD "") publication.key "timeline_comment"
  let current ← publication.fresh adapter receipt
  Program.require (evidencePresent publication.marker current)
    (.message "Review evidence write is not visible in targeted readback; publication remains pending")
  return current

def writeTerminalReviewClaim (fromState value : String) : Publish σ Unit := do
  let issue ← getIssue adapter publication.issue.identifier
    ("issue not found before terminal review claim: " ++ publication.issue.identifier)
  setProjectFieldWithRecovery adapter { issue with state := fromState } "Review Agent" value
    "claim_field"

def publishClaim (receipt : ReviewPublication) (current : ReviewedIssue) :
    Publish σ ReviewedIssue :=
  match publication.terminalClaim with
  | none => return current
  | some value => do
      publication.writeTerminalReviewClaim adapter current.state value
      let current ← publication.fresh adapter receipt
      Program.require (issueProjectFieldMatches "Review Agent" value current)
        (.message "Review terminal claim readback failed; publication remains pending")
      return current

def updateReviewChecklistForPass (issue : ReviewedIssue) : Publish σ Unit :=
  match issue.description with
  | none => return
  | some description => do
      let body := canonicalIssueBodyWithoutWorkpad description
      let updated := checkReviewVerifiedIssueBodyCheckboxes body
      if updated = body then return
      else
        match ← updateIssueContent adapter issue.identifier issue.title updated with
        | .ok () => return
        | .error error => Program.stop (.tracker error)

def publishChecklist (receipt : ReviewPublication) (current : ReviewedIssue) :
    Publish σ ReviewedIssue :=
  if publication.decision.outcome.isPassed then do
    updateReviewChecklistForPass adapter current
    let current ← publication.fresh adapter receipt
    Program.require
      (checkReviewVerifiedIssueBodyCheckboxes (canonicalBody current) == canonicalBody current)
      (.message "Review checklist readback failed; publication remains pending")
    return current
  else return current

def publishState (receipt : ReviewPublication) (current : ReviewedIssue) : Publish σ Unit :=
  match publication.decision.targetState with
  | none => return
  | some target => do
      setStateWithRecovery adapter publication.case publication.issue.identifier current target
        "state_change"
      let current ← publication.fresh adapter receipt
      Program.require
        (stateKey publication.case current.state
          == mappedStateKey publication.case publication.stateMap target)
        (.message "Review state readback failed; publication remains pending")

/-- One call; `render` is what rendering the evidence would give now. -/
def applyReviewResult (render : String) : Publish σ Unit := do
  match ← publication.openReceipt render with
  | none => return
  | some receipt =>
      let current ← publication.publishEvidence adapter receipt
      let receipt := { receipt with state := .evidencePublished }
      receipt.save
      let current ← publication.publishClaim adapter receipt current
      let current ← publication.publishChecklist adapter receipt current
      publication.publishState adapter receipt current
      ReviewPublication.save { receipt with state := .complete }

end Publication

/-! ## Calls -/

/-- A call of the publication: how far the process lives and what rendering would
give. -/
structure Call where
  budget : Nat
  render : String

/-- What is left of the calls so far, with the log of each. -/
structure System (σ : Type) where
  tracker : σ
  receipt : Option ReviewPublication
  history : List (List Event)

/-- Calls come one after the other, since each holds the lock of the issue. -/
def System.call {σ : Type} (publication : Publication) (adapter : Adapter σ) (system : System σ)
    (call : Call) : System σ :=
  let (_, world) := publication.applyReviewResult adapter call.render
    { tracker := system.tracker, receipt := system.receipt, log := [], budget := call.budget }
  { tracker := world.tracker, receipt := world.receipt, history := system.history ++ [world.log] }

end SheaSymphony.Review

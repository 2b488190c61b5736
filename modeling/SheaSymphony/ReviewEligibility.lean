import SheaSymphony.Pieces
import SheaSymphony.ReviewEvidence

/-!
# Review workers that look active

`review_run_eligibility` of `review.rs`: an issue is not given to a review worker
while another one with the same key looks active on it. Activity is read off the
project fields about reviews and off the description, where each run of a review
opens a block with its heading and the last worker key and the last job state of a
block count.
-/

namespace SheaSymphony.Review

open Lanes Model

/-! ## Fields of a list -/

/-- `trim_start_matches("- ")`. -/
def trimDashes : List Char → List Char
  | '-' :: ' ' :: s => trimDashes s
  | s => s

def trimEndMatches (c : Char) (s : String) : String := String.ofList (s.toList.rdropWhile (· == c))

def markdownScalar (value : String) : String :=
  let value := Text.trim (String.ofList (trimDashes (Text.trim value).toList))
  let value := trimEndMatches '.' (Text.trimMatches (· == '`') value)
  replaceChar '`' "" (Text.trim value)

def markdownListField (line expectedName : String) : Option String := do
  let line := (Text.stripPrefix (Text.trim line) "- ").getD (Text.trim line)
  let (name, value) ← Text.splitOnce ':' line
  if Text.eqIgnoreAsciiCase (Text.trim name) expectedName then some (markdownScalar value) else none

/-! ## Markers of activity -/

/-- The last worker key and the last job state among lines. -/
def blockFields (lines : List String) : Option String × Option String :=
  lines.foldl
    (fun (workerKey, jobState) line =>
      match markdownListField line "worker key" with
      | some value => (some value, jobState)
      | none =>
          match markdownListField line "job state" with
          | some value => (workerKey, some value)
          | none => (workerKey, jobState))
    (none, none)

def blockIsActive (workerKey block : String) : Bool :=
  let (blockWorkerKey, jobState) := blockFields (Text.lines block)
  (blockWorkerKey.any fun value => Text.eqIgnoreAsciiCase value workerKey)
    && jobState.any fun state =>
      Text.eqIgnoreAsciiCase state "queued" || Text.eqIgnoreAsciiCase state "running"

/-- What follows each heading of a run, up to the next heading on its level. -/
def activeReviewEvidenceBlocks (value : String) : List String :=
  ((Text.splitText agentReviewHeading value).drop 1).map (beforeFirst "\n## ")

def legacyActiveReviewMarkerMatches (case : Text.UnicodeCase) (line workerKey : String) : Bool :=
  ["queued " ++ workerKey, "review worker running with key " ++ workerKey,
    "running review: " ++ workerKey].contains (case.toLowercase (markdownScalar line))

def activeReviewMarkerMatches (case : Text.UnicodeCase) (value workerKey : String) : Bool :=
  let workerKey := case.toLowercase workerKey
  (activeReviewEvidenceBlocks value).any (blockIsActive workerKey)
    || (Text.lines value).any fun line => legacyActiveReviewMarkerMatches case line workerKey

def structuredActiveReviewClaim (value : String) : Bool :=
  match LaneClaim.parse value with
  | .ok claim => claim.lane == .review && claim.state == .active
  | .error _ => false

def fixedReviewAgentClaimMatches (value workerKey : String) : Bool :=
  let value := Text.toAsciiLowercase (Text.trim value)
  value == "hold"
    || (Text.contains (Text.toAsciiLowercase workerKey) ":gemini"
      && ["gemini a", "gemini b"].contains value)

def terminalJobStatePhrases : List String :=
  ["job state: failed", "job state: `failed`", "job state: timedout", "job state: `timedout`",
    "job state: timed out", "job state: `timed out`", "job state: cancelled",
    "job state: `cancelled`"]

def backendFailurePhrases : List String :=
  ["required operator action", "review backend", "repeated backend failure",
    "review backend health", "gemini backend health", "gemini review command",
    "agy review command", "retry: rerun `review loop`", "retry: rerun review loop"]

def terminalReviewFailureMarkerMatches (case : Text.UnicodeCase) (value workerKey : String) : Bool :=
  let value := case.toLowercase value
  Text.contains value (case.toLowercase workerKey)
    && terminalJobStatePhrases.any (Text.contains value)
    && backendFailurePhrases.any (Text.contains value)

/-! ## Eligibility -/

/-- An issue with its project fields one by one. -/
structure ListedIssue extends ReviewedIssue where
  fields : List (String × Json)
  listed : ∀ name, projectFields name = fields.lookup name

inductive ReviewRunEligibility where
  | eligible (workerKey : String)
  | alreadyQueued (workerKey : String)
  | notInAgentReview (currentState : String)
  | invalidHandoff (reason : String)
deriving DecidableEq

/-- A field about reviews that shows a worker; `render` writes a value that is not a
text. -/
def fieldShowsReviewWorker (case : Text.UnicodeCase) (render : Json → String) (workerKey : String)
    (terminalFailureMarker : Bool) (field : String × Json) : Bool :=
  let key := case.toLowercase field.1
  let value := field.2.asStr.getD (render field.2)
  let isReviewAgentField := key == "review agent"
  Text.contains key "review"
    && (activeReviewMarkerMatches case value workerKey
      || (isReviewAgentField && structuredActiveReviewClaim value)
      || (isReviewAgentField && !terminalFailureMarker
        && fixedReviewAgentClaimMatches value workerKey))

def hasActiveReviewWorker (case : Text.UnicodeCase) (render : Json → String) (issue : ListedIssue)
    (workerKey : String) : Bool :=
  let terminalFailureMarker := issue.description.any fun description =>
    terminalReviewFailureMarkerMatches case description workerKey
  issue.fields.any (fieldShowsReviewWorker case render workerKey terminalFailureMarker)
    || issue.description.any fun description => activeReviewMarkerMatches case description workerKey

def reviewRunEligibility (case : Text.UnicodeCase) (render : Json → String) (issue : ListedIssue)
    (agentReviewState backend : String) : ReviewRunEligibility :=
  if issue.normalizedState case ≠ normalizeState case agentReviewState then
    .notInAgentReview issue.state
  else if issue.linkedPullRequests.isEmpty then
    .invalidHandoff "Agent Review handoff has no verified Project-visible linked PR; Main Agent or operator repair must establish the PR relationship before normal review."
  else if issue.linkedPullRequests.any fun pr => pr.isDraft == some true then
    .invalidHandoff "Agent Review handoff has a linked draft PR; Main Agent must mark it ready before normal review."
  else
    let workerKey := reviewWorkerKey case issue.identifier backend
    if hasActiveReviewWorker case render issue workerKey then .alreadyQueued workerKey
    else .eligible workerKey

/-! ## Adding evidence -/

/-- What is added: the first evidence stands below the line that opens the sections. -/
def addedSection (attached : Bool) (evidence : String) : String :=
  if attached then evidence else attachedEvidenceMarker ++ "\n\n" ++ evidence

def descriptionWithSection (description : Option String) (added : String) : String :=
  match description with
  | none => added
  | some description => description ++ "\n\n" ++ added

def ListedIssue.withSection (issue : ListedIssue) (added : String) : ListedIssue :=
  { issue with description := some (descriptionWithSection issue.description added) }

end SheaSymphony.Review

import SheaSymphony.ReviewPublication
import SheaSymphony.Workpad

/-!
# The thread of an issue

An issue as GitHub keeps it, with its text and its comments in the order they were
posted, and what `tracker/github/evidence.rs` and `tracker/github/client.rs` make of
it: the description of an issue is put together from its text, the workpad among its
comments and the comments that are evidence, and a workpad is written over the
comments that show its marker.

A read sees the first hundred comments and the last hundred, a write of the workpad
the first fifty. The writes of one call are made one after the other, and the call may
be cut off between them.
-/

namespace SheaSymphony.Github

open Model Review Tracker

/-- What does not change while issues are worked on. Pull requests that are only
mentioned in comments have no state. -/
structure Repository where
  case : Text.UnicodeCase
  stateMap : StateMap
  workpadMarker : String
  linkedPullRequestsFromWorkpads : List String → List LinkedPullRequest
  unstated : ∀ bodies, ∀ pr ∈ linkedPullRequestsFromWorkpads bodies, pr.state = none

/-- An issue with its text and its comments; the description of `issue` is not used. -/
structure Thread where
  issue : ReviewedIssue
  body : String
  comments : List String

/-! ## Reading -/

def projectCommentPageSize : Nat := 100

def workpadCommentPageSize : Nat := 50

def Thread.commentBodies (thread : Thread) : List String :=
  (thread.comments.take projectCommentPageSize
    ++ thread.comments.drop (thread.comments.length - projectCommentPageSize)).eraseDups

def canonicalWorkpadCommentBody (marker : String) (bodies : List String) : Option String :=
  bodies.find? fun body =>
    Text.contains body marker && !Text.contains body "Superseded Shea Symphony workpad"

def timelineHeadings : List String :=
  ["## Shea Symphony Agent Review Run", "## Shea Symphony Rework Run",
    "## Shea Symphony Merge Run", "## Shea Symphony Human Review Decision",
    "## Shea Symphony Doctor Triage", "## Manual Agent Review Evidence"]

def isSheaSymphonyTimelineComment (body : String) : Bool :=
  timelineHeadings.any (Text.contains body)

def sheaSymphonyTimelineCommentBodies (marker : String) (bodies : List String) : List String :=
  bodies.filter fun body => !Text.contains body marker && isSheaSymphonyTimelineComment body

def Thread.sections (marker : String) (thread : Thread) : List String :=
  let workpad := canonicalWorkpadCommentBody marker thread.commentBodies
  let timeline := sheaSymphonyTimelineCommentBodies marker thread.commentBodies
  (if Text.trim thread.body = "" then [] else [thread.body])
    ++ (if workpad.isSome || !timeline.isEmpty then [attachedEvidenceMarker] else [])
    ++ workpad.toList ++ timeline

def Thread.descriptionWithWorkpad (marker : String) (thread : Thread) : Option String :=
  let sections := thread.sections marker
  if sections.isEmpty then none else some (Text.join "\n\n" sections)

/-- A pull request with a known URL is listed once. -/
def mergeLinkedPullRequests : List String → List LinkedPullRequest → List LinkedPullRequest
  | _, [] => []
  | seen, pr :: rest =>
      match pr.url with
      | none => pr :: mergeLinkedPullRequests seen rest
      | some url =>
          if seen.contains url then mergeLinkedPullRequests seen rest
          else pr :: mergeLinkedPullRequests (url :: seen) rest

namespace Repository

variable (repository : Repository)

def readIssue (thread : Thread) : ReviewedIssue :=
  { thread.issue with
    description := thread.descriptionWithWorkpad repository.workpadMarker
    linkedPullRequests := mergeLinkedPullRequests []
      (thread.issue.linkedPullRequests
        ++ repository.linkedPullRequestsFromWorkpads thread.commentBodies) }

/-! ## Writing -/

def addIssueComment (thread : Thread) (markdown : String) : Thread :=
  { thread with comments := thread.comments ++ [markdown] }

def setProjectField (thread : Thread) (name value : String) : Thread :=
  { thread with issue := { thread.issue with
      projectFields := fun field =>
        if field = name then some (.str value) else thread.issue.projectFields field } }

def updateIssueContent (thread : Thread) (title body : String) : Thread :=
  { thread with
    issue := { thread.issue with title }
    body }

def statusUpdateRequired (issue : ReviewedIssue) (targetState : String) : Bool :=
  normalizeConfiguredStateInput repository.case issue.state
    != normalizeConfiguredStateInput repository.case targetState

def setState (thread : Thread) (stateInput : String) :
    Except TrackerStateResolutionError Thread := do
  let option ← resolveConfiguredTrackerState repository.case repository.stateMap stateInput
  if repository.statusUpdateRequired thread.issue option.displayValue then
    return { thread with issue := { thread.issue with state := option.displayValue } }
  else return thread

/-- A write that takes effect and says so. -/
def done (thread : Thread) : Written × Thread := ({ applied := true, result := .ok () }, thread)

/-- A write of an issue that is not there. -/
def missing (thread : Thread) (issueRef : String) : Written × Thread :=
  ({ applied := false, result := .error { kind := .payload, message := issueRef } }, thread)

/-- The tracker that knows one issue, answers every call and changes by its writes
alone. -/
def adapter : Adapter Thread where
  getIssue thread issueRef :=
    (.ok (if issueRef = thread.issue.identifier then some (repository.readIssue thread) else none),
      thread)
  addIssueComment thread issueRef markdown :=
    if issueRef = thread.issue.identifier then done (addIssueComment thread markdown)
    else missing thread issueRef
  setProjectField thread issueRef name value :=
    if issueRef = thread.issue.identifier then done (setProjectField thread name value)
    else missing thread issueRef
  updateIssueContent thread issueRef title body :=
    if issueRef = thread.issue.identifier then done (updateIssueContent thread title body)
    else missing thread issueRef
  setState thread issueRef stateInput :=
    if issueRef = thread.issue.identifier then
      match repository.setState thread stateInput with
      | .ok thread => done thread
      | .error _ => missing thread issueRef
    else missing thread issueRef

end Repository

/-! ## The workpad -/

inductive CommentWrite where
  | update (index : Nat) (body : String)
  | add (body : String)
deriving DecidableEq

def CommentWrite.apply (comments : List String) : CommentWrite → List String
  | update index body => comments.set index body
  | add body => comments ++ [body]

/-- The comments on the first page that show the marker, by where they stand. -/
def findWorkpadComments (marker : String) (comments : List String) : List (String × Nat) :=
  (comments.take workpadCommentPageSize).zipIdx.filter fun (body, _) => Text.contains body marker

def duplicateWorkpadBody : String :=
  "Superseded Shea Symphony workpad comment. The canonical marker was removed from this duplicate."

/-- The writes of one call. -/
def upsertWorkpad (marker markdown : String) (comments : List String) : List CommentWrite :=
  let body := Workpad.ensureWorkpadMarker markdown marker
  match findWorkpadComments marker comments with
  | [] => [.add body]
  | (existingBody, index) :: duplicates =>
      .update index (Workpad.mergeWorkpadBody existingBody body marker)
        :: duplicates.map fun (_, duplicate) => .update duplicate duplicateWorkpadBody

end SheaSymphony.Github

import SheaSymphony.Json
import SheaSymphony.Text

/-!
# Tracker issues

What `model.rs` reads off a tracker issue to route it: its state, its native
parent and subissues and the exception that sends a native subissue to direct
human review. An issue is kept with the fields that are read; project fields are
a map of JSON values.
-/

namespace SheaSymphony.Model

structure BlockerRef where
  id : Option String
  identifier : Option String
  state : Option String
deriving DecidableEq

structure TrackerIssue where
  id : String
  identifier : String
  title : String
  description : Option String
  state : String
  priority : Option Int
  blockedBy : List BlockerRef
  projectFields : String → Option Json
  createdAt : Option String

def normalizeState (case : Text.UnicodeCase) (state : String) : String :=
  case.toLowercase (Text.trim state)

def TrackerIssue.normalizedState (case : Text.UnicodeCase) (issue : TrackerIssue) : String :=
  normalizeState case issue.state

/-! ## Native parents -/

def issueRefFromValue (value : Json) : Option String :=
  ((value.get "identifier").bind Json.asStr)
    <|> value.asStr
    <|> ((value.get "number").bind Json.asU64).map fun number => "#" ++ toString number

def nativeParentIdentifier (issue : TrackerIssue) : Option String :=
  ((issue.projectFields "GitHub Native Parent").bind fun value =>
      ((value.get "identifier").bind Json.asStr) <|> issueRefFromValue value)
    <|> (issue.projectFields "Native Parent Issue").bind Json.asStr

def isNativeSubissue (issue : TrackerIssue) : Bool := (nativeParentIdentifier issue).isSome

/-! ## Native subissues -/

structure NativeSubissueStatus where
  identifier : String
  projectState : Option String
  githubState : Option String
deriving DecidableEq

def normalizeIssueRef (value : String) : String := Text.trimStartMatches '#' (Text.trim value)

def issueRefsMatch (left right : String) : Bool :=
  normalizeIssueRef left == normalizeIssueRef right

/-- A subissue is listed once: a second mention only fills in what the first
left open. -/
def pushNativeSubissueStatus (statuses : List NativeSubissueStatus)
    (candidate : NativeSubissueStatus) : List NativeSubissueStatus :=
  match statuses with
  | [] => [candidate]
  | status :: rest =>
      if issueRefsMatch status.identifier candidate.identifier then
        { status with
          projectState := status.projectState <|> candidate.projectState
          githubState := status.githubState <|> candidate.githubState } :: rest
      else status :: pushNativeSubissueStatus rest candidate

def parseIssueStatePairs (raw : String) : List (String × String) :=
  (Text.splitChar ',' raw).filterMap fun pair => do
    let (issueRef, state) ← Text.splitOnce '=' (Text.trim pair)
    if Text.trim issueRef = "" ∨ Text.trim state = "" then none
    else some (Text.trim issueRef, Text.trim state)

/-- The three places that mention subissues, in the order they are read. -/
def nativeSubissueMentions (issue : TrackerIssue) : List NativeSubissueStatus :=
  let linked := ((issue.projectFields "GitHub Native Subissues").bind Json.asArray).getD []
  let projectStates :=
    ((issue.projectFields "Native Subissue Project States").bind Json.asStr).elim []
      parseIssueStatePairs
  let subissues :=
    ((issue.projectFields "Native Subissues").bind Json.asStr).elim [] (Text.splitChar ',')
  (linked.filterMap fun value => (issueRefFromValue value).map fun identifier =>
      { identifier
        projectState := (value.get "project_state").bind Json.asStr
        githubState := (value.get "state").bind Json.asStr })
    ++ (projectStates.map fun (identifier, state) =>
      { identifier, projectState := some state, githubState := none })
    ++ ((subissues.map Text.trim).filter fun value => value != "").map fun identifier =>
      { identifier, projectState := none, githubState := none }

def nativeSubissueStatuses (issue : TrackerIssue) : List NativeSubissueStatus :=
  (nativeSubissueMentions issue).foldl pushNativeSubissueStatus []

def incompleteNativeSubissues (case : Text.UnicodeCase) (issue : TrackerIssue)
    (terminalStates : List String) : List NativeSubissueStatus :=
  (nativeSubissueStatuses issue).filter fun subissue =>
    !subissue.projectState.any fun state => terminalStates.contains (normalizeState case state)

def nativeSubissueGateBlocker (case : Text.UnicodeCase) (issue : TrackerIssue)
    (terminalStates : List String) : Option String :=
  match incompleteNativeSubissues case issue terminalStates with
  | [] => none
  | incomplete =>
      some ("blocked by incomplete native subissues: " ++
        Text.join ", " (incomplete.map fun subissue =>
          subissue.identifier ++ "=" ++ subissue.projectState.getD "missing Project status"))

/-! ## The human-review exception -/

def isExceptionPunctuation (c : Char) : Bool :=
  Text.isWhitespace c || ['`', '*', '_', '"', '\'', '.', ',', ';', ':', '。', '，', '；', '：'].contains c

def normalizeExceptionValue (case : Text.UnicodeCase) (value : String) : String :=
  case.toLowercase (Text.trimMatches isExceptionPunctuation value)

def falsyExceptionValues : List String :=
  ["false", "no", "none", "n/a", "na", "not applicable", "not required", "not needed", "null",
    "nil", "无", "沒有", "没有"]

def exceptionValueIsTruthy (case : Text.UnicodeCase) (value : String) : Bool :=
  let normalized := normalizeExceptionValue case value
  normalized != "" && !falsyExceptionValues.contains normalized

def explicitTruthyProjectField (case : Text.UnicodeCase) (issue : TrackerIssue) (field : String) :
    Bool :=
  match issue.projectFields field with
  | some (.bool value) => value
  | some (.str value) => exceptionValueIsTruthy case value
  | _ => false

/-- The value a line gives a label, behind `:`, its full-width form, `=` or `-`. -/
def fieldValueAfterLabel (line label : String) : Option String := do
  let rest ← Text.afterFold Text.toAsciiLowercaseChar (Text.toAsciiLowercase label).toList line.toList
  let afterLabel := Text.trimStart (String.ofList rest)
  let value ← Text.stripPrefixChar ':' afterLabel <|> Text.stripPrefixChar '：' afterLabel
    <|> Text.stripPrefixChar '=' afterLabel <|> Text.stripPrefixChar '-' afterLabel
  return Text.trim value

def exceptionLabels : List String :=
  ["Subissue Human Review Exception", "Direct Human Review Exception",
    "Direct Human Review Required", "Requires Direct Human Review",
    "Requires Routine Direct Human Review"]

def descriptionHasTruthySubissueHumanReviewException (case : Text.UnicodeCase)
    (description : String) : Bool :=
  (Text.lines description).any fun line =>
    (exceptionLabels.filterMap (fieldValueAfterLabel line)).any (exceptionValueIsTruthy case)

def exceptionFields : List String :=
  ["Subissue Human Review Exception", "Direct Human Review Required",
    "subissue_human_review_exception", "direct_human_review_required"]

def nativeSubissueHumanReviewException (case : Text.UnicodeCase) (issue : TrackerIssue) : Bool :=
  exceptionFields.any (explicitTruthyProjectField case issue)
    || issue.description.any (descriptionHasTruthySubissueHumanReviewException case)

end SheaSymphony.Model

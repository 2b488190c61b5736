import Mathlib.Logic.Function.Basic
import SheaSymphony.Collected
import SheaSymphony.Model

/-!
# Native subissues

What the tracker adapter writes into the project fields of an issue about its
native subissues, and how it fills in their project states later
(`tracker/github/topology.rs`). The subissues stand there three times: as a list of
objects, as a list of references and as a list of references with states, of which
the last two are texts separated by commas. An enrichment reads them back, looks up
the states that are missing and writes all three again.

The project states are a map from issue references, as the tracker was read.
-/

namespace SheaSymphony.Topology

open Model (TrackerIssue issueRefFromValue issueRefsMatch normalizeIssueRef normalizeState)

/-- `BTreeMap<String, String>`: the states of the issues in the project. -/
abbrev ProjectStates := String → Option String

abbrev ProjectFields := String → Option Json

structure NativeSubissueRef where
  id : Option String
  identifier : String
  title : Option String
  githubState : Option String
  url : Option String
  projectState : Option String
deriving DecidableEq

section
variable (case : Text.UnicodeCase)

def subissueProjectStateMissing (value : Option String) : Bool :=
  value.all fun state => normalizeState case state == "missing"

/-- A second mention of a subissue fills in what the first left open. -/
def NativeSubissueRef.fill (existing candidate : NativeSubissueRef) : NativeSubissueRef :=
  { existing with
    id := existing.id <|> candidate.id
    title := existing.title <|> candidate.title
    githubState := existing.githubState <|> candidate.githubState
    url := existing.url <|> candidate.url
    projectState :=
      if subissueProjectStateMissing case existing.projectState then candidate.projectState
      else existing.projectState }

def pushNativeSubissueRef (subissues : List NativeSubissueRef) (candidate : NativeSubissueRef) :
    List NativeSubissueRef :=
  match subissues with
  | [] => [candidate]
  | existing :: rest =>
      if issueRefsMatch existing.identifier candidate.identifier then
        existing.fill case candidate :: rest
      else existing :: pushNativeSubissueRef rest candidate

/-- A missing project state is looked up. -/
def NativeSubissueRef.lookUp (projectStates : ProjectStates) (subissue : NativeSubissueRef) :
    NativeSubissueRef :=
  if subissueProjectStateMissing case subissue.projectState then
    { subissue with projectState := projectStates subissue.identifier }
  else subissue

def NativeSubissueRef.toValue (subissue : NativeSubissueRef) : Json :=
  .obj [("id", Json.optional .str subissue.id),
    ("identifier", .str subissue.identifier),
    ("title", Json.optional .str subissue.title),
    ("state", Json.optional .str subissue.githubState),
    ("url", Json.optional .str subissue.url),
    ("project_state", Json.optional .str subissue.projectState)]

def projectStatePair (identifier : String) (projectState : Option String) : String :=
  identifier ++ "=" ++ projectState.getD "missing"

def insertNativeSubissueStatusFields (projectFields : ProjectFields)
    (nativeSubissues : List NativeSubissueRef) (projectStates : ProjectStates) : ProjectFields :=
  if nativeSubissues.isEmpty then projectFields
  else
    let normalized := (nativeSubissues.map (NativeSubissueRef.lookUp case projectStates)).foldl
      (pushNativeSubissueRef case) []
    let linked := Function.update projectFields "GitHub Native Subissues"
      (some (.arr (normalized.map NativeSubissueRef.toValue)))
    let listed := Function.update linked "Native Subissues"
      (some (.str (Text.join ", " (normalized.map NativeSubissueRef.identifier))))
    Function.update listed "Native Subissue Project States"
      (some (.str (Text.join ", " (normalized.map fun subissue =>
        projectStatePair subissue.identifier subissue.projectState))))

/-! ## The issue payload -/

def nativeIssueRef (issue : Option Json) : Option Json := do
  let issue ← issue
  let number ← (issue.get "number").bind Json.asU64
  some (.obj [("id", Json.optional .str ((issue.get "id").bind Json.asStr)),
    ("identifier", .str ("#" ++ toString number)),
    ("state", Json.optional .str ((issue.get "state").bind Json.asStr))])

/-- `content.pointer("/subIssues/nodes")`. -/
def subissueNodes (content : Json) : Option Json := (content.get "subIssues").bind (Json.get "nodes")

def nativeIssueRefs (nodes : Option Json) : List Json :=
  ((nodes.bind Json.asArray).getD []).filterMap fun node => nativeIssueRef (some node)

def nativeSubissueRefFromValue (value : Json) : Option NativeSubissueRef := do
  let identifier ← (value.get "identifier").bind Json.asStr
  some { id := (value.get "id").bind Json.asStr
         identifier
         title := none
         githubState := (value.get "state").bind Json.asStr
         url := none
         projectState := none }

/-- A text field of the parent, written where the payload has it. -/
def insertParentField (projectFields : ProjectFields) (name : String) (value : Option String) :
    ProjectFields :=
  value.elim projectFields fun value => Function.update projectFields name (some (.str value))

def insertNativeParentFields (projectFields : ProjectFields) (content : Json) : ProjectFields :=
  match content.get "parent" with
  | none | some .null => projectFields
  | some parent =>
      let number := ((parent.get "number").bind Json.asU64).map fun number => "#" ++ toString number
      let numbered := insertParentField projectFields "Native Parent Issue" number
      let titled := insertParentField numbered "Native Parent Title"
        ((parent.get "title").bind Json.asStr)
      let stated := insertParentField titled "Native Parent State"
        ((parent.get "state").bind Json.asStr)
      insertParentField stated "Native Parent URL" ((parent.get "url").bind Json.asStr)

def githubStatePairs (content : Json) : List String :=
  (((subissueNodes content).bind Json.asArray).getD []).filterMap fun subissue => do
    let number ← (subissue.get "number").bind Json.asU64
    let state := ((subissue.get "state").bind Json.asStr).getD "UNKNOWN"
    some ("#" ++ toString number ++ "=" ++ state)

def insertNativeSubissueFields (projectFields : ProjectFields) (content : Json) : ProjectFields :=
  let parented := (nativeIssueRef (content.get "parent")).elim projectFields fun parent =>
    Function.update projectFields "GitHub Native Parent" (some parent)
  let nativeSubissues :=
    (nativeIssueRefs (subissueNodes content)).filterMap nativeSubissueRefFromValue
  let linked := insertNativeSubissueStatusFields case parented nativeSubissues fun _ => none
  let fields := insertNativeParentFields linked content
  let subissues := githubStatePairs content
  if !subissues.isEmpty && (fields "Native Subissues").isNone then
    Function.update fields "Native Subissue States" (some (.str (Text.join ", " subissues)))
  else fields

/-! ## Enrichment -/

def linkedSubissueRef (value : Json) : Option NativeSubissueRef :=
  (issueRefFromValue value).map fun identifier =>
    { id := (value.get "id").bind Json.asStr
      identifier
      title := (value.get "title").bind Json.asStr
      githubState := (value.get "state").bind Json.asStr
      url := (value.get "url").bind Json.asStr
      projectState := (value.get "project_state").bind Json.asStr }

def listedSubissueRef (identifier : String) : NativeSubissueRef :=
  { id := none, identifier, title := none, githubState := none, url := none, projectState := none }

def nativeSubissuesFromProjectFields (projectFields : ProjectFields) : List NativeSubissueRef :=
  let linked := ((projectFields "GitHub Native Subissues").bind Json.asArray).getD []
  let listed := ((projectFields "Native Subissues").bind Json.asStr).elim [] (Text.splitChar ',')
  (linked.filterMap linkedSubissueRef
    ++ ((listed.map Text.trim).filter fun value => value != "").map listedSubissueRef).foldl
      (pushNativeSubissueRef case) []

def enrichNativeSubissueProjectStatusesForIssue (issue : TrackerIssue)
    (projectStates : ProjectStates) : TrackerIssue :=
  let nativeSubissues := nativeSubissuesFromProjectFields case issue.projectFields
  if nativeSubissues.isEmpty then issue
  else
    { issue with
      projectFields := insertNativeSubissueStatusFields case issue.projectFields
        (nativeSubissues.map (NativeSubissueRef.lookUp case projectStates)) projectStates }

/-- Of two issues with one identifier the last counts. -/
def projectStateMap (issues : List TrackerIssue) : ProjectStates :=
  issues.foldl (fun projectStates issue =>
    Function.update projectStates issue.identifier (some issue.state)) fun _ => none

def enrichNativeSubissueProjectStatusesFromProjectRead (issues : List TrackerIssue) :
    List TrackerIssue :=
  let projectStates := projectStateMap issues
  issues.map (enrichNativeSubissueProjectStatusesForIssue case · projectStates)

def nativeSubissueRefsMissingProjectState (issue : TrackerIssue) : List String :=
  ((nativeSubissuesFromProjectFields case issue.projectFields).filter fun subissue =>
    subissueProjectStateMissing case subissue.projectState).map NativeSubissueRef.identifier

variable {ε : Type}

/-- The references are fetched in their order, each once. -/
def fetchMissing (fetchIssue : String → Except ε (Option TrackerIssue)) (missing : List String)
    (projectStates : ProjectStates) : Except ε ProjectStates :=
  missing.foldlM (fun projectStates issueRef => do
    match ← fetchIssue issueRef with
    | some issue => return Function.update projectStates issue.identifier (some issue.state)
    | none => return projectStates) projectStates

/-- The project states behind it and the issues. -/
def hydrateMissingNativeSubissueProjectStatuses (issues : List TrackerIssue)
    (projectStates : ProjectStates) (fetchIssue : String → Except ε (Option TrackerIssue)) :
    Except ε (ProjectStates × List TrackerIssue) := do
  let missing := (issues.flatMap (nativeSubissueRefsMissingProjectState case)).filter fun issueRef =>
    (projectStates issueRef).isNone
  let fetched ← fetchMissing fetchIssue (missing.dedup.mergeSort fun a b => decide (a ≤ b))
    projectStates
  return (fetched, issues.map (enrichNativeSubissueProjectStatusesForIssue case · fetched))

end

end SheaSymphony.Topology

import Mathlib.Data.String.Basic

/-!
# Identities of the local read model

The identity types of `local_state/identity.rs` and the texts they are stored
under. The newtypes `WorkspaceRuntimeId` and `WorkflowId` validate nothing and
show their exact spelling, so they are strings here.
-/

namespace SheaSymphony.LocalState

structure RepoId where
  host : String
  owner : String
  repo : String
deriving DecidableEq

def RepoId.databaseKey (r : RepoId) : String := r.host ++ "/" ++ r.owner ++ "/" ++ r.repo

abbrev WorkspaceRuntimeId := String

abbrev WorkflowId := String

inductive TrackerBackend where
  | githubProjectV2
  | linear
deriving DecidableEq

def TrackerBackend.asStr : TrackerBackend → String
  | githubProjectV2 => "github_project_v2"
  | linear => "linear"

structure IssueRef where
  trackerBackend : TrackerBackend
  repoId : RepoId
  number : Nat
deriving DecidableEq

def IssueRef.databaseKey (i : IssueRef) : String :=
  i.trackerBackend.asStr ++ "|" ++ i.repoId.databaseKey ++ "|" ++ toString i.number

/-- Local lifecycle classification of a workflow; Temporal and the tracker
stay authoritative. -/
inductive WorkflowIndexStatus where
  | starting
  | running
  | completed
  | failed
  | startFailed
  | staleStart
  | staleMissing
  | closedUnknown
deriving DecidableEq

namespace WorkflowIndexStatus

def asStr : WorkflowIndexStatus → String
  | starting => "starting"
  | running => "running"
  | completed => "completed"
  | failed => "failed"
  | startFailed => "start_failed"
  | staleStart => "stale_start"
  | staleMissing => "stale_missing"
  | closedUnknown => "closed_unknown"

end WorkflowIndexStatus

/-- The statuses the machine-wide unique index constrains. -/
def activeWorkflowStatuses : List WorkflowIndexStatus := [.starting, .running]

inductive Freshness where
  | fresh
  | stale
  | refreshing
  | failed
  | unknown
deriving DecidableEq

def Freshness.asStr : Freshness → String
  | fresh => "fresh"
  | stale => "stale"
  | refreshing => "refreshing"
  | failed => "failed"
  | unknown => "unknown"

end SheaSymphony.LocalState

import SheaSymphony.ProjectorConvergence
import SheaSymphony.CoordinatorEvidence
import SheaSymphony.CoordinatorStartFacts
import SheaSymphony.TransitionWire
import SheaSymphony.ReviewGate
import SheaSymphony.MergeReady
import SheaSymphony.DispatchBlockers
import SheaSymphony.MigrationSafety
import SheaSymphony.WorkpadRuns
import SheaSymphony.AutoloopAccounting
import SheaSymphony.FinishedReviews
import SheaSymphony.ReviewResumable
import SheaSymphony.LaneFiles
import SheaSymphony.SubissueGate
import SheaSymphony.ClaudeProtocol
import SheaSymphony.FailureRouting
import SheaSymphony.Cleanup
import SheaSymphony.ManualClaim
import SheaSymphony.EventLog
import SheaSymphony.ReviewRun
import SheaSymphony.ForgeRework
import SheaSymphony.ReviewActionSafety
import SheaSymphony.LoopSupervision
import SheaSymphony.OverviewSettles
import SheaSymphony.GateEvidence
import SheaSymphony.CoordinatorStart
import SheaSymphony.ProjectionInput
import SheaSymphony.StateRecovery
import SheaSymphony.ChecklistFrame
import SheaSymphony.LaneSignals
import SheaSymphony.SourceLinks
import SheaSymphony.Fingerprint
import SheaSymphony.RuntimeReadiness
import SheaSymphony.FreeSlots
import SheaSymphony.LinkIdentity
import SheaSymphony.ReviewFailures
import SheaSymphony.ClosingReference
import SheaSymphony.ResourceFiles
import SheaSymphony.HalfMerge
import SheaSymphony.WorkspaceEnsure
import SheaSymphony.EvidenceTruncation
import SheaSymphony.BlankPane
import SheaSymphony.Calendar
import SheaSymphony.FrontMatter
import SheaSymphony.LaneClaimOffsets
import SheaSymphony.LoopStatus
import SheaSymphony.Ownership
import SheaSymphony.PlannedBranch
import SheaSymphony.RepairRounds
import SheaSymphony.ReviewStatus
import SheaSymphony.ReworkDiagnostic
import SheaSymphony.SemanticGate
import SheaSymphony.TokenAccounting
import SheaSymphony.WorkspaceContainment
import SheaSymphony.ActiveWorkflows

import SheaSymphony.Fallible
import SheaSymphony.Identity
import SheaSymphony.Store

/-!
# The `workflow_index` table

The v1 storage contract of `local_state/workflow_index.rs` and the two
constraints `local_state/migration.rs` puts on the table: `workflow_id` is its
primary key, and `uq_workflow_index_active_issue` allows one active row per
repository and issue. Both are fields of the `Store` a `Table` is, so every
`Table` satisfies the schema.

Storage keeps the three enumerated columns as text. A `StoredRow` is what the
table holds, whatever wrote it; a `WorkflowIndexRow` is what the shared decoder
`workflowIndexRow` makes of it, or refuses to make of it. The rows this crate
writes are exactly the ones the decoder reads back (`workflowIndexRow_eq_ok`).
-/

namespace SheaSymphony.LocalState

open Fallible

/-- A bounded terminal classification. -/
inductive WorkflowTerminalOutcome where
  | completed
  | failed
  | cancelled
  | terminated
  | timedOut
  | closedUnknown
deriving DecidableEq

namespace WorkflowTerminalOutcome

def asStr : WorkflowTerminalOutcome → String
  | completed => "completed"
  | failed => "failed"
  | cancelled => "cancelled"
  | terminated => "terminated"
  | timedOut => "timed_out"
  | closedUnknown => "closed_unknown"

def fromStorage : String → Option WorkflowTerminalOutcome
  | "completed" => some completed
  | "failed" => some failed
  | "cancelled" => some cancelled
  | "terminated" => some terminated
  | "timed_out" => some timedOut
  | "closed_unknown" => some closedUnknown
  | _ => none

end WorkflowTerminalOutcome

def workflowIndexStatusFromStorage : String → Option WorkflowIndexStatus
  | "starting" => some .starting
  | "running" => some .running
  | "completed" => some .completed
  | "failed" => some .failed
  | "start_failed" => some .startFailed
  | "stale_start" => some .staleStart
  | "stale_missing" => some .staleMissing
  | "closed_unknown" => some .closedUnknown
  | _ => none

def freshnessFromStorage : String → Option Freshness
  | "fresh" => some .fresh
  | "stale" => some .stale
  | "refreshing" => some .refreshing
  | "failed" => some .failed
  | "unknown" => some .unknown
  | _ => none

/-- The nineteen columns, over the types at which the enumerated ones
(`status`, `terminal_outcome`, `freshness`) are held. -/
structure IndexRow (σ ω φ : Type) where
  workflowId : String
  runId : Option String
  workspaceRuntimeId : String
  repoId : String
  issueRef : String
  fromState : String
  targetKind : String
  currentState : String
  activeStep : String
  waitingKind : Option String
  sourceRef : String
  sourceTrackerRevision : String
  startedAt : String
  lastProgressAt : Option String
  status : σ
  terminalOutcome : Option ω
  operatorActionRef : Option String
  freshness : φ
  updatedAt : String
deriving DecidableEq

abbrev WorkflowIndexRow := IndexRow WorkflowIndexStatus WorkflowTerminalOutcome Freshness

/-- A row as the table holds it. -/
abbrev StoredRow := IndexRow String String String

/-- The column values `insert_workflow` binds for a row. -/
def WorkflowIndexRow.stored (row : WorkflowIndexRow) : StoredRow :=
  { row with
    status := row.status.asStr
    terminalOutcome := row.terminalOutcome.map WorkflowTerminalOutcome.asStr
    freshness := row.freshness.asStr }

/-! ## Decoding -/

/-- The errors of the SQLite driver that the read model tells apart. The
payload of `unsupportedStorageValue` (a `FromSqlConversionFailure`) is what its
message is rendered from: the column, the offending text and, for a timestamp,
the parser's complaint. -/
inductive SqliteError where
  | databaseBusy
  | databaseCorrupt
  | constraintViolation
  | queryReturnedNoRows
  | invalidQuery
  | toSqlConversionFailure (field : String)
  | unsupportedStorageValue (index : Nat) (column value : String) (detail : Option String)
  | other (message : String)
deriving DecidableEq

def unsupportedStorageValue (index : Nat) (column value : String) : SqliteError :=
  .unsupportedStorageValue index column value none

/-- `Option::map` followed by `transpose` on the nullable outcome column. -/
def decodeTerminalOutcome : Option String → Except SqliteError (Option WorkflowTerminalOutcome)
  | none => .ok none
  | some value =>
      match WorkflowTerminalOutcome.fromStorage value with
      | some outcome => .ok (some outcome)
      | none => .error (unsupportedStorageValue 15 "terminal_outcome" value)

def workflowIndexRow (row : StoredRow) : Except SqliteError WorkflowIndexRow := do
  let status ← Fallible.okOr (workflowIndexStatusFromStorage row.status)
    (unsupportedStorageValue 14 "status" row.status)
  let terminalOutcome ← decodeTerminalOutcome row.terminalOutcome
  let freshness ← Fallible.okOr (freshnessFromStorage row.freshness)
    (unsupportedStorageValue 17 "freshness" row.freshness)
  return { row with status, terminalOutcome, freshness }

/-! ## What is written reads back -/

theorem workflowIndexStatusFromStorage_eq {text : String} {status : WorkflowIndexStatus} :
    workflowIndexStatusFromStorage text = some status ↔ text = status.asStr := by
  constructor
  · intro h
    unfold workflowIndexStatusFromStorage at h
    split at h <;> cases h <;> rfl
  · rintro rfl
    cases status <;> rfl

theorem WorkflowTerminalOutcome.fromStorage_eq {text : String}
    {outcome : WorkflowTerminalOutcome} :
    fromStorage text = some outcome ↔ text = outcome.asStr := by
  constructor
  · intro h
    unfold fromStorage at h
    split at h <;> cases h <;> rfl
  · rintro rfl
    cases outcome <;> rfl

theorem freshnessFromStorage_eq {text : String} {freshness : Freshness} :
    freshnessFromStorage text = some freshness ↔ text = freshness.asStr := by
  constructor
  · intro h
    unfold freshnessFromStorage at h
    split at h <;> cases h <;> rfl
  · rintro rfl
    cases freshness <;> rfl

theorem decodeTerminalOutcome_eq_ok {text : Option String}
    {outcome : Option WorkflowTerminalOutcome} :
    decodeTerminalOutcome text = .ok outcome
      ↔ text = outcome.map WorkflowTerminalOutcome.asStr := by
  cases text with
  | none => cases outcome <;> simp [decodeTerminalOutcome]
  | some value =>
      simp only [decodeTerminalOutcome]
      cases h : WorkflowTerminalOutcome.fromStorage value with
      | none =>
          simp only [reduceCtorEq, false_iff]
          intro hmap
          obtain ⟨o, -, ho⟩ := Option.map_eq_some_iff.mp hmap.symm
          rw [WorkflowTerminalOutcome.fromStorage_eq.mpr ho.symm] at h
          cases h
      | some o =>
          obtain rfl := WorkflowTerminalOutcome.fromStorage_eq.mp h
          cases outcome with
          | none => simp
          | some o' =>
              simp only [Except.ok.injEq, Option.some.injEq, Option.map_some]
              constructor
              · rintro rfl
                rfl
              · intro he
                rw [WorkflowTerminalOutcome.fromStorage_eq.mpr he] at h
                exact (Option.some.inj h).symm

theorem workflowIndexRow_eq_ok {text : StoredRow} {row : WorkflowIndexRow} :
    workflowIndexRow text = .ok row ↔ text = row.stored := by
  constructor
  · intro h
    unfold workflowIndexRow at h
    obtain ⟨status, hs, h⟩ := bind_eq_ok h
    obtain ⟨outcome, ho, h⟩ := bind_eq_ok h
    obtain ⟨freshness, hf, h⟩ := bind_eq_ok h
    obtain rfl := Except.ok.inj h
    cases text
    simp only [WorkflowIndexRow.stored, IndexRow.mk.injEq, true_and, and_true]
    exact ⟨workflowIndexStatusFromStorage_eq.mp (okOr_eq_ok.mp hs),
      decodeTerminalOutcome_eq_ok.mp ho, freshnessFromStorage_eq.mp (okOr_eq_ok.mp hf)⟩
  · rintro rfl
    have hs : workflowIndexStatusFromStorage row.status.asStr = some row.status :=
      workflowIndexStatusFromStorage_eq.mpr rfl
    have ho : decodeTerminalOutcome (row.terminalOutcome.map WorkflowTerminalOutcome.asStr)
        = .ok row.terminalOutcome := decodeTerminalOutcome_eq_ok.mpr rfl
    have hf : freshnessFromStorage row.freshness.asStr = some row.freshness :=
      freshnessFromStorage_eq.mpr rfl
    simp only [workflowIndexRow, WorkflowIndexRow.stored, hs, ho, hf, okOr,
      ok_bind, pure, Except.pure]

theorem stored_injective {a b : WorkflowIndexRow} (h : a.stored = b.stored) : a = b := by
  have ha : workflowIndexRow a.stored = .ok a := workflowIndexRow_eq_ok.mpr rfl
  rw [h, workflowIndexRow_eq_ok.mpr rfl] at ha
  exact (Except.ok.inj ha).symm

/-! ## The table -/

/-- The issue a row claims in `uq_workflow_index_active_issue`. -/
def activeIssue (row : StoredRow) : Option (String × String) :=
  if row.status ∈ activeWorkflowStatuses.map WorkflowIndexStatus.asStr then
    some (row.repoId, row.issueRef)
  else none

/-- The contents of `workflow_index`. -/
abbrev Table := Store (fun row : StoredRow => row.workflowId) activeIssue

theorem asStr_mem_active (status : WorkflowIndexStatus) :
    status.asStr ∈ activeWorkflowStatuses.map WorkflowIndexStatus.asStr
      ↔ status ∈ activeWorkflowStatuses := by
  cases status <;> decide

theorem activeIssue_stored (row : WorkflowIndexRow) :
    activeIssue row.stored
      = if row.status ∈ activeWorkflowStatuses then some (row.repoId, row.issueRef) else none :=
  if_congr (asStr_mem_active row.status) rfl rfl

end SheaSymphony.LocalState

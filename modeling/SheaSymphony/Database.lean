import SheaSymphony.Text
import SheaSymphony.WorkflowIndex

/-!
# Immediate transactions

`with_immediate_transaction` of `local_state/database.rs` over a `Table`. What
SQLite may answer - a connection that does not open, a foreign journal mode, a
busy lock, a statement that fails, a commit that does not go through - is the
parameter `Sqlite`; no assumption is made about it. What a statement that is
not refused does is fixed: it acts on the table, under the table's constraints,
and a transaction that does not commit leaves the table as it was.
-/

namespace SheaSymphony.LocalState

open Fallible

/-- The failures of `LocalStateError` an initialization or a projection can
return. -/
inductive LocalStateError where
  | unresolvedPath (path : String)
  | parentDirectoryCreation (path : String) (source : String)
  | open (path : String) (source : SqliteError)
  | configuration (path : String) (source : SqliteError)
  | databaseBusy (path : String)
  | corruptDatabase (path : String) (source : SqliteError)
  | unsupportedSchemaVersion (path : String) (observed supported : Nat)
  | unversionedSchemaConflict (path : String)
  | migration (path : String) (version : Nat) (source : SqliteError)
  | postMigrationReadback (path : String) (source : SqliteError)
  | projectionInput (field : String)
  | projection (path : String) (source : SqliteError)
  | timestamp (source : String)
deriving DecidableEq

/-- The statements of a projection. -/
inductive Statement where
  | selectWorkflow (workflowId : String)
  | selectActiveWorkflow (repoId issueRef : String)
  | insertWorkflow (row : WorkflowIndexRow)
  | updateMaterialProjection (row : WorkflowIndexRow)

/-- What SQLite answers during one call. `execute` may refuse a statement,
whatever the table, before the statement has any effect. -/
structure Sqlite where
  openConnection : Except SqliteError Unit
  configureConnectionPolicy : Except SqliteError Unit
  journalMode : Except SqliteError String
  beginImmediate : Except SqliteError Unit
  execute : Statement → Table → Except SqliteError Unit
  commit : Except SqliteError Unit

structure LocalStateDatabase where
  path : String

inductive SqlitePhase where
  | open
  | configuration
  | migration (version : Nat)
  | readback
  | projection
deriving DecidableEq

namespace LocalStateDatabase

def classify (db : LocalStateDatabase) (error : SqliteError) (phase : SqlitePhase) :
    LocalStateError :=
  match error, phase with
  | .databaseBusy, _ => .databaseBusy db.path
  | .databaseCorrupt, _ => .corruptDatabase db.path error
  | _, .open => .open db.path error
  | _, .configuration => .configuration db.path error
  | _, .migration version => .migration db.path version error
  | _, .readback => .postMigrationReadback db.path error
  | _, .projection => .projection db.path error

/-- `map_err(|error| self.classify(error, phase))`. -/
def classified {α : Type} (db : LocalStateDatabase) (phase : SqlitePhase)
    (result : Except SqliteError α) : Except LocalStateError α :=
  result.mapError (db.classify · phase)

/-- The calls of a transaction in order; `operation` sees the table the writer
lock protects and returns what the table becomes on commit. -/
def attemptTransaction {α : Type} (db : LocalStateDatabase) (sqlite : Sqlite)
    (operation : Table → Except SqliteError (α × Table)) (table : Table) :
    Except LocalStateError (α × Table) := do
  db.classified .open sqlite.openConnection
  db.classified .projection sqlite.configureConnectionPolicy
  let journalMode ← db.classified .projection sqlite.journalMode
  Fallible.require (Text.eqIgnoreAsciiCase journalMode "wal") (db.classify .invalidQuery .projection)
  db.classified .projection sqlite.beginImmediate
  let output ← db.classified .projection (operation table)
  db.classified .projection sqlite.commit
  return output

def withImmediateTransaction {α : Type} (db : LocalStateDatabase) (sqlite : Sqlite)
    (operation : Table → Except SqliteError (α × Table)) (table : Table) :
    Except LocalStateError α × Table :=
  match db.attemptTransaction sqlite operation table with
  | .ok (output, committed) => (.ok output, committed)
  -- The transaction is dropped before its commit and rolls back.
  | .error error => (.error error, table)

end LocalStateDatabase

/-! ## What a transaction can do -/

section

variable {α : Type} {db : LocalStateDatabase} {sqlite : Sqlite}
  {operation : Table → Except SqliteError (α × Table)} {table : Table}

theorem classified_eq_ok {phase : SqlitePhase} {result : Except SqliteError α} {a : α} :
    db.classified phase result = .ok a ↔ result = .ok a :=
  mapError_eq_ok

theorem attemptTransaction_eq_ok {output : α × Table}
    (h : db.attemptTransaction sqlite operation table = .ok output) :
    operation table = .ok output := by
  unfold LocalStateDatabase.attemptTransaction at h
  obtain ⟨_, -, h⟩ := bind_eq_ok h
  obtain ⟨_, -, h⟩ := bind_eq_ok h
  obtain ⟨_, -, h⟩ := bind_eq_ok h
  obtain ⟨_, -, h⟩ := bind_eq_ok h
  obtain ⟨_, -, h⟩ := bind_eq_ok h
  obtain ⟨committed, hoperation, h⟩ := bind_eq_ok h
  obtain ⟨_, -, h⟩ := bind_eq_ok h
  obtain rfl := Except.ok.inj h
  exact classified_eq_ok.mp hoperation

/-- What a transaction returns is what its operation returned, and the table
is what the operation left. -/
theorem withImmediateTransaction_eq_ok {output : α}
    (h : (db.withImmediateTransaction sqlite operation table).1 = .ok output) :
    operation table = .ok (output, (db.withImmediateTransaction sqlite operation table).2) := by
  unfold LocalStateDatabase.withImmediateTransaction at h ⊢
  cases ha : db.attemptTransaction sqlite operation table with
  | error e => rw [ha] at h; cases h
  | ok p =>
      rw [ha] at h
      obtain rfl := Except.ok.inj h
      exact attemptTransaction_eq_ok ha

theorem withImmediateTransaction_eq_error {error : LocalStateError}
    (h : (db.withImmediateTransaction sqlite operation table).1 = .error error) :
    (db.withImmediateTransaction sqlite operation table).2 = table := by
  unfold LocalStateDatabase.withImmediateTransaction at h ⊢
  cases ha : db.attemptTransaction sqlite operation table with
  | error e => rfl
  | ok p => rw [ha] at h; cases h

/-- SQLite refuses nothing on its own account. -/
structure Sqlite.Healthy (sqlite : Sqlite) : Prop where
  openConnection : sqlite.openConnection = .ok ()
  configureConnectionPolicy : sqlite.configureConnectionPolicy = .ok ()
  journalMode : ∃ mode, sqlite.journalMode = .ok mode
    ∧ Text.eqIgnoreAsciiCase mode "wal" = true
  beginImmediate : sqlite.beginImmediate = .ok ()
  execute : ∀ statement table, sqlite.execute statement table = .ok ()
  commit : sqlite.commit = .ok ()

/-- The engine on which every call goes through. -/
def Sqlite.willing : Sqlite where
  openConnection := .ok ()
  configureConnectionPolicy := .ok ()
  journalMode := .ok "wal"
  beginImmediate := .ok ()
  execute _ _ := .ok ()
  commit := .ok ()

theorem Sqlite.willing_healthy : Sqlite.willing.Healthy :=
  ⟨rfl, rfl, ⟨"wal", rfl, by decide⟩, rfl, fun _ _ => rfl, rfl⟩

theorem withImmediateTransaction_of_healthy (hs : sqlite.Healthy) {output : α} {table' : Table}
    (h : operation table = .ok (output, table')) :
    db.withImmediateTransaction sqlite operation table = (.ok output, table') := by
  obtain ⟨mode, hmode, hwal⟩ := hs.journalMode
  simp [LocalStateDatabase.withImmediateTransaction, LocalStateDatabase.attemptTransaction,
    LocalStateDatabase.classified, hs.openConnection, hs.configureConnectionPolicy, hmode, hwal,
    hs.beginImmediate, hs.commit, h, Except.mapError]

end

end SheaSymphony.LocalState

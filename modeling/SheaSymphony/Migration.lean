import SheaSymphony.Database

/-!
# Initialization and migration

`initialize` and `apply_migrations` of `local_state/database.rs`, with the
migration list of `local_state/migration.rs`. Several processes initialize one
database file; what a process does between two accesses to the file is one
step, and so is an immediate transaction, for the writer lock is held through
it. Each process may be built with a shorter prefix of the list.

What SQLite, the file system and the clock answer is the parameter
`InitializerAnswers`; a transaction that does not commit leaves the file as it
was. A commit may also take effect and still be reported as a failure.
-/

namespace SheaSymphony.LocalState

/-- What a migration sees and writes: the objects in `sqlite_schema` and the rows
of the table `meta`. -/
structure Content where
  objects : List String
  metaRows : List (String × String)
deriving DecidableEq

/-- `name NOT LIKE 'sqlite_%'` fails: `LIKE` ignores the case of ASCII letters and
its `_` stands for any one character. -/
def isInternalObject (name : String) : Bool :=
  decide ((Text.toAsciiLowercase name).toList.take 6 = "sqlite".toList)
    && decide (7 ≤ name.toList.length)

def hasApplicationSchema (content : Content) : Bool :=
  content.objects.any fun name => !isInternalObject name

def Content.createdAt (content : Content) : Option String := content.metaRows.lookup "created_at"

structure Migration where
  version : Nat
  apply : Content → String → Except SqliteError Content

/-- The ordered list of all migrations, numbered from one. -/
structure MigrationList where
  migrations : List Migration
  numbered : migrations.map Migration.version = List.range' 1 migrations.length

/-- A program is built with a prefix of the list; the prefix ends at its
`CURRENT_SCHEMA_VERSION`. -/
structure Build (list : MigrationList) where
  currentSchemaVersion : Nat
  le : currentSchemaVersion ≤ list.migrations.length

def Build.migrations {list : MigrationList} (build : Build list) : List Migration :=
  list.migrations.take build.currentSchemaVersion

/-! ## Version one -/

/-- `CREATE` without `IF NOT EXISTS`. -/
def executeSchema (content : Content) (name : String) : Except SqliteError Content :=
  if name ∈ content.objects then .error (.other ("there is already an object named " ++ name))
  else .ok { content with objects := content.objects ++ [name] }

/-- `INSERT INTO meta`; the key is the primary key. -/
def insertMeta (content : Content) (row : String × String) : Except SqliteError Content :=
  if row.1 ∈ content.metaRows.map Prod.fst then .error .constraintViolation
  else .ok { content with metaRows := content.metaRows ++ [row] }

def objectsV1 : List String :=
  ["workflow_index", "artifact_index", "tracker_cache", "activity_progress", "meta",
    "idx_workflow_index_scope_issue_status", "idx_workflow_index_scope_lane",
    "idx_artifact_index_scope_workflow", "idx_artifact_index_scope_issue",
    "idx_tracker_cache_scope_freshness", "idx_activity_progress_scope_workflow_mutation",
    "uq_workflow_index_active_issue"]

def applyV1 (content : Content) (createdAt : String) : Except SqliteError Content := do
  let content ← objectsV1.foldlM executeSchema content
  [("created_at", createdAt), ("updated_at", createdAt)].foldlM insertMeta content

/-- `MIGRATIONS`. -/
def migrations : MigrationList where
  migrations := [{ version := 1, apply := applyV1 }]
  numbered := rfl

/-! ## The file and what answers a step -/

structure DatabaseFile where
  userVersion : Nat
  content : Content
  wal : Bool
deriving DecidableEq

inductive CommitAnswer where
  | committed
  | failed (error : SqliteError)
  | committedUnreported (error : SqliteError)

structure InitializerAnswers where
  parent : Option String
  createDirAll : Except String Unit
  openConnection : Except SqliteError Unit
  configureConnectionPolicy : Except SqliteError Unit
  readTransaction : Except SqliteError Unit
  configureJournalMode : Except SqliteError Unit
  now : Except String String
  beginImmediate : Except SqliteError Unit
  readUserVersion : Except SqliteError Unit
  readSchema : Except SqliteError Unit
  executeMigration : Except SqliteError Unit
  updateUserVersion : Except SqliteError Unit
  readback : Except SqliteError Nat
  commit : CommitAnswer

/-- What `initialize` reports; the journal mode is always WAL. -/
structure LocalStateInitialization where
  path : String
  observedSchemaVersion : Nat
  schemaVersion : Nat
  migrationRan : Bool
deriving DecidableEq

/-! ## One migration -/

/-- The version and whether version zero is ambiguous, on one snapshot. -/
def inspectInitialSchema (file : DatabaseFile) : Nat × Bool :=
  (file.userVersion, file.userVersion == 0 && hasApplicationSchema file.content)

section

variable (db : LocalStateDatabase) (answers : InitializerAnswers)

/-- Under the writer lock, a version-zero file must still be empty. -/
def requireUnambiguous (migration : Migration) (file : DatabaseFile) :
    Except LocalStateError Unit :=
  if file.userVersion = 0 then do
    db.classified (.migration migration.version) answers.readSchema
    Fallible.require (!hasApplicationSchema file.content) (.unversionedSchemaConflict db.path)
  else .ok ()

/-- The body of a migration's transaction: whether it applied the migration, and
the file it wants to commit. -/
def attemptMigration (migration : Migration) (createdAt : String) (file : DatabaseFile) :
    Except LocalStateError (Bool × DatabaseFile) := do
  db.classified (.migration migration.version) answers.beginImmediate
  db.classified (.migration migration.version) answers.readUserVersion
  if migration.version ≤ file.userVersion then return (false, file)
  else do
    requireUnambiguous db answers migration file
    Fallible.require (file.userVersion + 1 == migration.version)
      (.migration db.path migration.version .invalidQuery)
    db.classified (.migration migration.version) answers.executeMigration
    let content ← db.classified (.migration migration.version)
      (migration.apply file.content createdAt)
    db.classified (.migration migration.version) answers.updateUserVersion
    let readback ← db.classified .readback answers.readback
    Fallible.require (readback == migration.version) (.postMigrationReadback db.path .invalidQuery)
    return (true, { file with userVersion := migration.version, content })

/-- One immediate transaction of `apply_migrations`. -/
def applyMigration (migration : Migration) (createdAt : String) (file : DatabaseFile) :
    Except LocalStateError Bool × DatabaseFile :=
  match attemptMigration db answers migration createdAt file with
  | .error error => (.error error, file)
  | .ok (applied, file') =>
      match answers.commit with
      | .committed => (.ok applied, file')
      | .failed error => (.error (db.classify error (.migration migration.version)), file)
      | .committedUnreported error =>
          (.error (db.classify error (.migration migration.version)), file')

/-! ## One initializer -/

/-- Where an initializer stands between two accesses to the file. `ran` lists the
migrations whose commit it has seen; the source keeps whether there are any. -/
inductive Initializer where
  | start
  | inspected (observedSchemaVersion : Nat)
  | migrating (observedSchemaVersion : Nat) (createdAt : String) (pending : List Migration)
      (ran : List Nat)
  | finished (result : Except LocalStateError LocalStateInitialization) (ran : List Nat)

variable {list : MigrationList} (build : Build list)

/-- From the path to the checks of the schema version. -/
def inspect (file : DatabaseFile) : Except LocalStateError Nat := do
  let parent ← Fallible.okOr answers.parent (.unresolvedPath db.path)
  answers.createDirAll.mapError (.parentDirectoryCreation parent)
  db.classified .open answers.openConnection
  db.classified .configuration answers.configureConnectionPolicy
  db.classified .configuration answers.readTransaction
  let (observedSchemaVersion, unversionedConflict) := inspectInitialSchema file
  Fallible.require (decide (observedSchemaVersion ≤ build.currentSchemaVersion))
    (.unsupportedSchemaVersion db.path observedSchemaVersion build.currentSchemaVersion)
  Fallible.require (!unversionedConflict) (.unversionedSchemaConflict db.path)
  return observedSchemaVersion

/-- After the journal mode: done already, or the clock is read and the migrations
begin. -/
def afterJournalMode (observedSchemaVersion : Nat) : Initializer :=
  if observedSchemaVersion = build.currentSchemaVersion then
    .finished
      (.ok
        { path := db.path
          observedSchemaVersion
          schemaVersion := observedSchemaVersion
          migrationRan := false })
      []
  else match answers.now with
    | .error error => .finished (.error (.timestamp error)) []
    | .ok createdAt => .migrating observedSchemaVersion createdAt build.migrations []

/-- The readback behind the last migration. -/
def finishMigrations (observedSchemaVersion : Nat) (ran : List Nat) (file : DatabaseFile) :
    Except LocalStateError LocalStateInitialization := do
  db.classified .readback answers.readUserVersion
  Fallible.require (file.userVersion == build.currentSchemaVersion)
    (.postMigrationReadback db.path .invalidQuery)
  return {
    path := db.path
    observedSchemaVersion
    schemaVersion := file.userVersion
    migrationRan := !ran.isEmpty }

/-- One step of `initialize`. -/
def initializeStep (initializer : Initializer) (file : DatabaseFile) :
    Initializer × DatabaseFile :=
  match initializer with
  | .start =>
      match inspect db answers build file with
      | .error error => (.finished (.error error) [], file)
      | .ok observedSchemaVersion => (.inspected observedSchemaVersion, file)
  | .inspected observedSchemaVersion =>
      match db.classified .configuration answers.configureJournalMode with
      | .error error => (.finished (.error error) [], file)
      | .ok () => (afterJournalMode db answers build observedSchemaVersion, { file with wal := true })
  | .migrating observedSchemaVersion createdAt (migration :: pending) ran =>
      match applyMigration db answers migration createdAt file with
      | (.error error, file) => (.finished (.error error) ran, file)
      | (.ok applied, file) =>
          (.migrating observedSchemaVersion createdAt pending
            (if applied then ran ++ [migration.version] else ran), file)
  | .migrating observedSchemaVersion _ [] ran =>
      (.finished (finishMigrations db answers build observedSchemaVersion ran file) ran, file)
  | .finished result ran => (.finished result ran, file)

end

/-! ## Concurrent initializers -/

/-- A migration that took effect: whose transaction it was, and the time that
process stamped it with. -/
structure AppliedMigration (ι : Type) where
  migration : Migration
  createdAt : String
  process : ι

/-- The file, the processes and, for the record, what was applied. -/
structure System (ι : Type) where
  file : DatabaseFile
  processes : ι → Initializer
  log : List (AppliedMigration ι)

def System.start {ι : Type} (file : DatabaseFile) : System ι where
  file := file
  processes _ := .start
  log := []

/-- What a step of a process adds to the record: its migration, when the version
moved. -/
def recorded {ι : Type} (process : ι) (initializer : Initializer) (before after : DatabaseFile) :
    List (AppliedMigration ι) :=
  match initializer with
  | .migrating _ createdAt (migration :: _) _ =>
      if before.userVersion < after.userVersion then [{ migration, createdAt, process }] else []
  | _ => []

/-- One process takes its next step. -/
def systemStep {ι : Type} [DecidableEq ι] (db : LocalStateDatabase) {list : MigrationList}
    (builds : ι → Build list) (system : System ι) (input : ι × InitializerAnswers) : System ι :=
  let process := input.1
  let initializer := system.processes process
  let (next, file) := initializeStep db input.2 (builds process) initializer system.file
  { file
    processes := Function.update system.processes process next
    log := system.log ++ recorded process initializer system.file file }

end SheaSymphony.LocalState

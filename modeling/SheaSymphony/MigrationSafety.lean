import SheaSymphony.Migration
import SheaSymphony.Runs

/-!
# Concurrent initializers migrate once

`InitializerMove` lists everything one step of an initializer can do. The
invariant `Migrated` follows from it: the migrations on record are those of the
list between the version the file started with and the version it has, in order;
replaying them on the initial content gives the content; and what a process
counts as its own is on record as its own. It holds over every interleaving, with
any failures, and for processes built with any prefix of the list.
-/

namespace SheaSymphony.LocalState

open Fallible

/-! ## One transaction -/

/-- The file moves on by one migration. -/
structure Advances (migration : Migration) (createdAt : String) (file file' : DatabaseFile) :
    Prop where
  next : file.userVersion + 1 = migration.version
  unambiguous : file.userVersion = 0 → hasApplicationSchema file.content = false
  applied : migration.apply file.content createdAt = .ok file'.content
  version : file'.userVersion = migration.version
  wal : file'.wal = file.wal

section

variable {db : LocalStateDatabase} {answers : InitializerAnswers} {migration : Migration}
  {createdAt : String} {file : DatabaseFile}

theorem requireUnambiguous_eq_ok {u : Unit}
    (h : requireUnambiguous db answers migration file = .ok u) (hversion : file.userVersion = 0) :
    hasApplicationSchema file.content = false := by
  rw [requireUnambiguous, if_pos hversion] at h
  obtain ⟨_, -, h⟩ := bind_eq_ok h
  simpa using h

theorem attemptMigration_eq_ok {applied : Bool} {file' : DatabaseFile}
    (h : attemptMigration db answers migration createdAt file = .ok (applied, file')) :
    (applied = false ∧ file' = file) ∨ (applied = true ∧ Advances migration createdAt file file') := by
  unfold attemptMigration at h
  obtain ⟨_, -, h⟩ := bind_eq_ok h
  obtain ⟨_, -, h⟩ := bind_eq_ok h
  split at h
  · obtain ⟨rfl, rfl⟩ := Prod.mk.inj (Except.ok.inj h)
    exact Or.inl ⟨rfl, rfl⟩
  · obtain ⟨_, hzero, h⟩ := bind_eq_ok h
    obtain ⟨_, hnext, h⟩ := bind_eq_ok h
    obtain ⟨_, -, h⟩ := bind_eq_ok h
    obtain ⟨content, hcontent, h⟩ := bind_eq_ok h
    obtain ⟨_, -, h⟩ := bind_eq_ok h
    obtain ⟨_, -, h⟩ := bind_eq_ok h
    obtain ⟨_, -, h⟩ := bind_eq_ok h
    obtain ⟨rfl, rfl⟩ := Prod.mk.inj (Except.ok.inj h)
    exact Or.inr ⟨rfl, by simpa using hnext, requireUnambiguous_eq_ok hzero,
      classified_eq_ok.mp hcontent, rfl, rfl⟩

/-- A transaction either leaves the file as it was, and then reports no migration
as its own, or moves it on by one, and then reports that or a failure. -/
theorem applyMigration_cases {result : Except LocalStateError Bool} {file' : DatabaseFile}
    (h : applyMigration db answers migration createdAt file = (result, file')) :
    (file' = file ∧ result ≠ .ok true) ∨
      (Advances migration createdAt file file' ∧ result ≠ .ok false) := by
  unfold applyMigration at h
  cases hattempt : attemptMigration db answers migration createdAt file with
  | error error =>
      rw [hattempt] at h
      obtain ⟨rfl, rfl⟩ := Prod.mk.inj h
      exact Or.inl ⟨rfl, by simp⟩
  | ok attempted =>
      obtain ⟨applied, attempted⟩ := attempted
      rw [hattempt] at h
      have hattempted := attemptMigration_eq_ok hattempt
      cases hcommit : answers.commit with
      | committed =>
          simp only [hcommit] at h
          obtain ⟨rfl, rfl⟩ := Prod.mk.inj h
          rcases hattempted with ⟨rfl, rfl⟩ | ⟨rfl, hadvances⟩
          · exact Or.inl ⟨rfl, by simp⟩
          · exact Or.inr ⟨hadvances, by simp⟩
      | failed error =>
          simp only [hcommit] at h
          obtain ⟨rfl, rfl⟩ := Prod.mk.inj h
          exact Or.inl ⟨rfl, by simp⟩
      | committedUnreported error =>
          simp only [hcommit] at h
          obtain ⟨rfl, rfl⟩ := Prod.mk.inj h
          rcases hattempted with ⟨-, rfl⟩ | ⟨-, hadvances⟩
          · exact Or.inl ⟨rfl, by simp⟩
          · exact Or.inr ⟨hadvances, by simp⟩

end

/-! ## One step of an initializer -/

/-- Everything one step can do, to the initializer and to the file. -/
inductive InitializerMove {list : MigrationList} (build : Build list) :
    Initializer → DatabaseFile → Initializer → DatabaseFile → Prop
  | refused (error : LocalStateError) (file : DatabaseFile) :
      InitializerMove build .start file (.finished (.error error) []) file
  | inspected (file : DatabaseFile) (supported : file.userVersion ≤ build.currentSchemaVersion)
      (unambiguous : file.userVersion = 0 → hasApplicationSchema file.content = false) :
      InitializerMove build .start file (.inspected file.userVersion) file
  | journalFailed (observed : Nat) (error : LocalStateError) (file : DatabaseFile) :
      InitializerMove build (.inspected observed) file (.finished (.error error) []) file
  | upToDate (initialization : LocalStateInitialization) (file : DatabaseFile)
      (unreported : initialization.migrationRan = false) :
      InitializerMove build (.inspected build.currentSchemaVersion) file
        (.finished (.ok initialization) []) { file with wal := true }
  | noClock (observed : Nat) (error : LocalStateError) (file : DatabaseFile)
      (behind : observed ≠ build.currentSchemaVersion) :
      InitializerMove build (.inspected observed) file (.finished (.error error) [])
        { file with wal := true }
  | begun (observed : Nat) (createdAt : String) (file : DatabaseFile)
      (behind : observed ≠ build.currentSchemaVersion) :
      InitializerMove build (.inspected observed) file
        (.migrating observed createdAt build.migrations []) { file with wal := true }
  | migrationFailed (observed : Nat) (createdAt : String) (migration : Migration)
      (pending : List Migration) (ran : List Nat) (error : LocalStateError)
      (file : DatabaseFile) :
      InitializerMove build (.migrating observed createdAt (migration :: pending) ran) file
        (.finished (.error error) ran) file
  | skipped (observed : Nat) (createdAt : String) (migration : Migration)
      (pending : List Migration) (ran : List Nat) (file : DatabaseFile) :
      InitializerMove build (.migrating observed createdAt (migration :: pending) ran) file
        (.migrating observed createdAt pending ran) file
  | applied (observed : Nat) (createdAt : String) (migration : Migration)
      (pending : List Migration) (ran : List Nat) (file file' : DatabaseFile)
      (advances : Advances migration createdAt file file') :
      InitializerMove build (.migrating observed createdAt (migration :: pending) ran) file
        (.migrating observed createdAt pending (ran ++ [migration.version])) file'
  | appliedUnreported (observed : Nat) (createdAt : String) (migration : Migration)
      (pending : List Migration) (ran : List Nat) (error : LocalStateError)
      (file file' : DatabaseFile) (advances : Advances migration createdAt file file') :
      InitializerMove build (.migrating observed createdAt (migration :: pending) ran) file
        (.finished (.error error) ran) file'
  | unconfirmed (observed : Nat) (createdAt : String) (ran : List Nat) (error : LocalStateError)
      (file : DatabaseFile) :
      InitializerMove build (.migrating observed createdAt [] ran) file
        (.finished (.error error) ran) file
  | confirmed (observed : Nat) (createdAt : String) (ran : List Nat)
      (initialization : LocalStateInitialization) (file : DatabaseFile)
      (reported : initialization.migrationRan = !ran.isEmpty) :
      InitializerMove build (.migrating observed createdAt [] ran) file
        (.finished (.ok initialization) ran) file
  | finished (result : Except LocalStateError LocalStateInitialization) (ran : List Nat)
      (file : DatabaseFile) :
      InitializerMove build (.finished result ran) file (.finished result ran) file

section

variable {db : LocalStateDatabase} {answers : InitializerAnswers} {list : MigrationList}
  {build : Build list} {file : DatabaseFile}

theorem inspect_eq_ok {observed : Nat} (h : inspect db answers build file = .ok observed) :
    observed = file.userVersion ∧ file.userVersion ≤ build.currentSchemaVersion ∧
      (file.userVersion = 0 → hasApplicationSchema file.content = false) := by
  unfold inspect at h
  obtain ⟨_, -, h⟩ := bind_eq_ok h
  obtain ⟨_, -, h⟩ := bind_eq_ok h
  obtain ⟨_, -, h⟩ := bind_eq_ok h
  obtain ⟨_, -, h⟩ := bind_eq_ok h
  obtain ⟨_, -, h⟩ := bind_eq_ok h
  simp only [inspectInitialSchema] at h
  obtain ⟨_, hsupported, h⟩ := bind_eq_ok h
  obtain ⟨_, hconflict, h⟩ := bind_eq_ok h
  obtain rfl := Except.ok.inj h
  refine ⟨rfl, of_decide_eq_true (require_eq_ok.mp hsupported), fun hzero => ?_⟩
  simpa [hzero] using hconflict

theorem finishMigrations_eq_ok {observed : Nat} {ran : List Nat}
    {initialization : LocalStateInitialization}
    (h : finishMigrations db answers build observed ran file = .ok initialization) :
    initialization.migrationRan = !ran.isEmpty := by
  unfold finishMigrations at h
  obtain ⟨_, -, h⟩ := bind_eq_ok h
  obtain ⟨_, -, h⟩ := bind_eq_ok h
  obtain rfl := Except.ok.inj h
  rfl

theorem initializeStep_move (db : LocalStateDatabase) (answers : InitializerAnswers)
    (build : Build list) (initializer : Initializer) (file : DatabaseFile) :
    InitializerMove build initializer file (initializeStep db answers build initializer file).1
      (initializeStep db answers build initializer file).2 := by
  cases initializer with
  | start =>
      simp only [initializeStep]
      cases hinspect : inspect db answers build file with
      | error error => exact .refused error file
      | ok observed =>
          obtain ⟨rfl, hsupported, hunambiguous⟩ := inspect_eq_ok hinspect
          exact .inspected file hsupported hunambiguous
  | inspected observed =>
      simp only [initializeStep]
      cases db.classified .configuration answers.configureJournalMode with
      | error error => exact .journalFailed observed error file
      | ok u =>
          by_cases hcurrent : observed = build.currentSchemaVersion
          · subst hcurrent
            simp only [afterJournalMode, if_true]
            exact .upToDate _ file rfl
          · simp only [afterJournalMode, if_neg hcurrent]
            cases answers.now with
            | error error => exact .noClock observed _ file hcurrent
            | ok createdAt => exact .begun observed createdAt file hcurrent
  | migrating observed createdAt pending ran =>
      cases pending with
      | nil =>
          simp only [initializeStep]
          cases hfinish : finishMigrations db answers build observed ran file with
          | error error => exact .unconfirmed observed createdAt ran error file
          | ok initialization =>
              exact .confirmed observed createdAt ran initialization file
                (finishMigrations_eq_ok hfinish)
      | cons migration pending =>
          simp only [initializeStep]
          cases happly : applyMigration db answers migration createdAt file with | mk result file'
          rcases applyMigration_cases happly with ⟨rfl, hresult⟩ | ⟨hadvances, hresult⟩
          · rcases result with error | _ | _
            · exact .migrationFailed observed createdAt migration pending ran error file'
            · exact .skipped observed createdAt migration pending ran file'
            · exact absurd rfl hresult
          · rcases result with error | _ | _
            · exact .appliedUnreported observed createdAt migration pending ran error file file'
                hadvances
            · exact absurd rfl hresult
            · exact .applied observed createdAt migration pending ran file file' hadvances
  | finished result ran => exact .finished result ran file

end

/-! ## What a step does to the file -/

/-- Between two states of the file, a migration never runs outside WAL and the
journal mode is never taken back. -/
structure Grows (file file' : DatabaseFile) : Prop where
  version : file.userVersion ≤ file'.userVersion
  wal : file.wal = true → file'.wal = true
  migrated : file.userVersion < file'.userVersion → file'.wal = true

/-- A step leaves the file as it was, turns its journal to WAL, or moves it on by
the first pending migration. -/
theorem InitializerMove.file_cases {list : MigrationList} {build : Build list}
    {before after : Initializer} {file file' : DatabaseFile}
    (move : InitializerMove build before file after file') :
    file' = file ∨
      (∃ observed, before = .inspected observed ∧ file' = { file with wal := true }) ∨
      (∃ observed createdAt migration pending ran,
        before = .migrating observed createdAt (migration :: pending) ran ∧
          Advances migration createdAt file file') := by
  cases move with
  | refused error => exact Or.inl rfl
  | inspected _ supported unambiguous => exact Or.inl rfl
  | journalFailed observed error => exact Or.inl rfl
  | upToDate initialization _ unreported => exact Or.inr (Or.inl ⟨_, rfl, rfl⟩)
  | noClock observed error _ behind => exact Or.inr (Or.inl ⟨_, rfl, rfl⟩)
  | begun observed createdAt _ behind => exact Or.inr (Or.inl ⟨_, rfl, rfl⟩)
  | migrationFailed observed createdAt migration pending ran error => exact Or.inl rfl
  | skipped observed createdAt migration pending ran => exact Or.inl rfl
  | applied observed createdAt migration pending ran _ _ advances =>
      exact Or.inr (Or.inr ⟨_, _, _, _, _, rfl, advances⟩)
  | appliedUnreported observed createdAt migration pending ran error _ _ advances =>
      exact Or.inr (Or.inr ⟨_, _, _, _, _, rfl, advances⟩)
  | unconfirmed observed createdAt ran error => exact Or.inl rfl
  | confirmed observed createdAt ran initialization _ reported => exact Or.inl rfl
  | finished result ran => exact Or.inl rfl

theorem Advances.lt {migration : Migration} {createdAt : String} {file file' : DatabaseFile}
    (h : Advances migration createdAt file file') : file.userVersion < file'.userVersion := by
  have hnext := h.next
  have hversion := h.version
  omega

section

variable {ι : Type} {process : ι} {file file' : DatabaseFile}

@[simp] theorem recorded_self (process : ι) (initializer : Initializer) (file : DatabaseFile) :
    recorded process initializer file file = [] := by
  cases initializer with
  | migrating observed createdAt pending ran => cases pending <;> simp [recorded]
  | _ => rfl

@[simp] theorem recorded_inspected (observed : Nat) :
    recorded process (.inspected observed) file file' = [] := rfl

theorem recorded_advances {observed : Nat} {createdAt : String} {migration : Migration}
    {pending : List Migration} {ran : List Nat} (h : Advances migration createdAt file file') :
    recorded process (.migrating observed createdAt (migration :: pending) ran) file file' =
      [{ migration, createdAt, process }] :=
  if_pos h.lt

end

/-! ## Replaying the record -/

/-- Migrations applied in order, each with the time it was stamped with. -/
def replay (steps : List (Migration × String)) (content : Content) :
    Except SqliteError Content :=
  steps.foldlM (fun content step => step.1.apply content step.2) content

@[simp] theorem replay_nil (content : Content) : replay [] content = .ok content := rfl

theorem replay_append (steps more : List (Migration × String)) (content : Content) :
    replay (steps ++ more) content = replay steps content >>= replay more := by
  simp only [replay, List.foldlM_append]
  rfl

theorem replay_singleton (migration : Migration) (createdAt : String) (content : Content) :
    replay [(migration, createdAt)] content = migration.apply content createdAt := by
  rw [replay, List.foldlM_cons]
  cases migration.apply content createdAt with
  | error error => rfl
  | ok content' => rfl

def AppliedMigration.step {ι : Type} (applied : AppliedMigration ι) : Migration × String :=
  (applied.migration, applied.createdAt)

/-- The content is what the first `userVersion` migrations of the list, once each and
in order, make of `empty`. -/
def AppliedInOrder (list : MigrationList) (empty : Content) (file : DatabaseFile) : Prop :=
  ∃ steps : List (Migration × String),
    steps.map Prod.fst = list.migrations.take file.userVersion ∧
      replay steps empty = .ok file.content

variable {version : Nat}

namespace MigrationList

variable (list : MigrationList) {migration : Migration}

theorem version_getElem {index : Nat} (h : list.migrations[index]? = some migration) : migration.version = index + 1 := by
  have hversion : (list.migrations.map Migration.version)[index]? = some migration.version := by
    rw [List.getElem?_map, h, Option.map_some]
  rw [list.numbered, List.getElem?_range'] at hversion
  · simpa [Nat.add_comm] using (Option.some.inj hversion).symm
  · exact (List.getElem?_eq_some_iff.mp h).1

theorem getElem_of_mem (hmem : migration ∈ list.migrations)
    (hversion : version + 1 = migration.version) : list.migrations[version]? = some migration := by
  obtain ⟨index, hindex⟩ := List.mem_iff_getElem?.mp hmem
  obtain rfl : version = index := by
    have := list.version_getElem hindex
    omega
  exact hindex

theorem take_succ_of_mem (hmem : migration ∈ list.migrations)
    (hversion : version + 1 = migration.version) :
    list.migrations.take (version + 1) = list.migrations.take version ++ [migration] := by
  rw [List.take_add_one, list.getElem_of_mem hmem hversion]
  rfl

theorem versions_nodup (low high : Nat) :
    (((list.migrations.take high).drop low).map Migration.version).Nodup := by
  rw [List.map_drop, List.map_take, list.numbered]
  exact (List.nodup_range' 1).sublist ((List.drop_sublist _ _).trans (List.take_sublist _ _))

end MigrationList

/-! ## What an initializer relies on -/

def Initializer.ran : Initializer → List Nat
  | .start | .inspected _ => []
  | .migrating _ _ _ ran | .finished _ ran => ran

/-- The version an initializer observed bounds the file's from below, its pending
migrations are among those it was built with, and they run in WAL only. -/
def Sound {list : MigrationList} (build : Build list) (file : DatabaseFile) : Initializer → Prop
  | .start => True
  | .inspected observed =>
      observed ≤ build.currentSchemaVersion ∧ observed ≤ file.userVersion ∧
        (observed < file.userVersion → file.wal = true)
  | .migrating _ _ pending _ => file.wal = true ∧ ∀ migration ∈ pending, migration ∈ build.migrations
  | .finished result ran =>
      ∀ initialization, result = .ok initialization → initialization.migrationRan = !ran.isEmpty

section

variable {list : MigrationList} {build : Build list} {before after : Initializer}
  {file file' : DatabaseFile}

theorem Sound.grow (h : Sound build file before) (grows : Grows file file') :
    Sound build file' before := by
  cases before with
  | start => trivial
  | inspected observed =>
      obtain ⟨hsupported, hobserved, hwal⟩ := h
      refine ⟨hsupported, hobserved.trans grows.version, fun hlt => ?_⟩
      rcases hobserved.lt_or_eq with hlt' | rfl
      · exact grows.wal (hwal hlt')
      · exact grows.migrated hlt
  | migrating observed createdAt pending ran => exact ⟨grows.wal h.1, h.2⟩
  | finished result ran => exact h

theorem InitializerMove.grows (move : InitializerMove build before file after file')
    (hsound : Sound build file before) : Grows file file' := by
  rcases move.file_cases with rfl | ⟨observed, rfl, rfl⟩ |
    ⟨observed, createdAt, migration, pending, ran, rfl, advances⟩
  · exact ⟨le_rfl, id, fun hlt => absurd hlt (lt_irrefl _)⟩
  · exact ⟨le_rfl, fun _ => rfl, fun _ => rfl⟩
  · have hwal : file'.wal = true := advances.wal.trans hsound.1
    exact ⟨advances.lt.le, fun _ => hwal, fun _ => hwal⟩

theorem InitializerMove.sound (move : InitializerMove build before file after file')
    (hsound : Sound build file before) : Sound build file' after := by
  cases move with
  | refused error | journalFailed observed error | noClock observed error =>
      intro initialization h
      cases h
  | inspected _ supported unambiguous =>
      exact ⟨supported, le_rfl, fun hlt => absurd hlt (lt_irrefl _)⟩
  | upToDate initialization _ unreported =>
      intro initialization' h
      rw [← Except.ok.inj h, unreported]
      rfl
  | begun observed createdAt _ behind => exact ⟨rfl, fun migration hmem => hmem⟩
  | migrationFailed observed createdAt migration pending ran error
  | appliedUnreported observed createdAt migration pending ran error
  | unconfirmed observed createdAt ran error =>
      intro initialization h
      cases h
  | skipped observed createdAt migration pending ran =>
      exact ⟨hsound.1, fun migration' hmem => hsound.2 migration' (List.mem_cons_of_mem _ hmem)⟩
  | applied observed createdAt migration pending ran _ _ advances =>
      exact ⟨advances.wal.trans hsound.1,
        fun migration' hmem => hsound.2 migration' (List.mem_cons_of_mem _ hmem)⟩
  | confirmed observed createdAt ran initialization _ reported =>
      intro initialization' h
      rw [← Except.ok.inj h, reported]
  | finished result ran => exact hsound

theorem InitializerMove.ran_cases {ι : Type} (process : ι)
    (move : InitializerMove build before file after file') (h : version ∈ after.ran) :
    version ∈ before.ran ∨
      ∃ applied ∈ recorded process before file file',
        applied.migration.version = version ∧ applied.process = process := by
  cases move with
  | applied observed createdAt migration pending ran _ _ advances =>
      rw [recorded_advances advances]
      rcases List.mem_append.mp h with h | h
      · exact Or.inl h
      · exact Or.inr ⟨_, List.mem_singleton_self _, (List.mem_singleton.mp h).symm, rfl⟩
  | _ => exact Or.inl h

end

/-! ## The invariant of all interleavings -/

structure Migrated {ι : Type} {list : MigrationList} (builds : ι → Build list)
    (initial : DatabaseFile) (system : System ι) : Prop where
  forward : initial.userVersion ≤ system.file.userVersion
  record : system.log.map AppliedMigration.migration =
    (list.migrations.take system.file.userVersion).drop initial.userVersion
  replayed : replay (system.log.map AppliedMigration.step) initial.content =
    .ok system.file.content
  sound : ∀ process, Sound (builds process) system.file (system.processes process)
  owned : ∀ process, ∀ version ∈ (system.processes process).ran,
    ∃ applied ∈ system.log, applied.migration.version = version ∧ applied.process = process

section

variable {ι : Type} {list : MigrationList} {builds : ι → Build list} {initial : DatabaseFile}
  {system : System ι}

theorem Migrated.start (builds : ι → Build list) (initial : DatabaseFile) :
    Migrated builds initial (System.start initial) where
  forward := le_rfl
  record := by simp [System.start]
  replayed := rfl
  sound _ := trivial
  owned _ version h := absurd h (List.not_mem_nil)

theorem Migrated.log_step (h : Migrated builds initial system) (process : ι)
    {after : Initializer} {file' : DatabaseFile}
    (move : InitializerMove (builds process) (system.processes process) system.file after file') :
    let log' := system.log ++ recorded process (system.processes process) system.file file'
    log'.map AppliedMigration.migration =
        (list.migrations.take file'.userVersion).drop initial.userVersion ∧
      replay (log'.map AppliedMigration.step) initial.content = .ok file'.content := by
  have hsound := h.sound process
  rcases move.file_cases with rfl | ⟨observed, hbefore, rfl⟩ |
    ⟨observed, createdAt, migration, pending, ran, hbefore, advances⟩
  · simpa using ⟨h.record, h.replayed⟩
  · simpa [hbefore] using ⟨h.record, h.replayed⟩
  · rw [hbefore] at hsound ⊢
    have hmem : migration ∈ list.migrations :=
      List.mem_of_mem_take (hsound.2 migration List.mem_cons_self)
    have hlength : initial.userVersion ≤ (list.migrations.take system.file.userVersion).length := by
      have := (List.getElem?_eq_some_iff.mp (list.getElem_of_mem hmem advances.next)).1
      have := h.forward
      rw [List.length_take]
      omega
    simp only [recorded_advances advances, List.map_append, h.record, replay_append, h.replayed,
      ok_bind, List.map_cons, List.map_nil]
    refine ⟨?_, (replay_singleton migration createdAt _).trans advances.applied⟩
    rw [advances.version, ← advances.next, list.take_succ_of_mem hmem advances.next,
      List.drop_append_of_le_length hlength]

theorem Migrated.step [DecidableEq ι] (db : LocalStateDatabase)
    (h : Migrated builds initial system) (input : ι × InitializerAnswers) :
    Migrated builds initial (systemStep db builds system input) := by
  obtain ⟨process, answers⟩ := input
  have move := initializeStep_move db answers (builds process) (system.processes process)
    system.file
  have hgrows := move.grows (h.sound process)
  obtain ⟨hrecord, hreplayed⟩ := h.log_step process move
  refine ⟨h.forward.trans hgrows.version, hrecord, hreplayed, fun other => ?_, fun other => ?_⟩
  · rcases eq_or_ne other process with rfl | hother
    · simpa [systemStep] using move.sound (h.sound other)
    · simpa [systemStep, hother] using (h.sound other).grow hgrows
  · have hkeeps : ∀ version ∈ (system.processes other).ran,
        ∃ applied ∈ (systemStep db builds system (process, answers)).log,
          applied.migration.version = version ∧ applied.process = other := by
      intro version hversion
      obtain ⟨applied, hmem, happlied⟩ := h.owned other version hversion
      exact ⟨applied, List.mem_append_left _ hmem, happlied⟩
    rcases eq_or_ne other process with rfl | hother
    · intro version hversion
      have hversion : version ∈
          (initializeStep db answers (builds other) (system.processes other) system.file).1.ran := by
        simpa [systemStep] using hversion
      rcases move.ran_cases other hversion with hbefore | ⟨applied, hmem, happlied⟩
      · exact hkeeps version hbefore
      · exact ⟨applied, List.mem_append_right _ hmem, happlied⟩
    · intro version hversion
      exact hkeeps version (by simpa [systemStep, hother] using hversion)

theorem Migrated.schema (h : Migrated builds initial system) {empty : Content}
    (hinitial : AppliedInOrder list empty initial) : AppliedInOrder list empty system.file := by
  obtain ⟨steps, hsteps, hreplay⟩ := hinitial
  refine ⟨steps ++ system.log.map AppliedMigration.step, ?_, ?_⟩
  · have hlog : (system.log.map AppliedMigration.step).map Prod.fst =
        system.log.map AppliedMigration.migration := List.map_map
    rw [List.map_append, hsteps, hlog, h.record]
    have hinitial : list.migrations.take initial.userVersion =
        (list.migrations.take system.file.userVersion).take initial.userVersion := by
      rw [List.take_take, min_eq_left h.forward]
    rw [hinitial, List.take_append_drop]
  · rw [replay_append, hreplay]
    exact h.replayed

theorem Migrated.versions_nodup (h : Migrated builds initial system) :
    (system.log.map fun applied => applied.migration.version).Nodup := by
  have hlog : (system.log.map fun applied => applied.migration.version) =
      (system.log.map AppliedMigration.migration).map Migration.version := List.map_map.symm
  rw [hlog, h.record]
  exact list.versions_nodup _ _

theorem Migrated.owner_unique (h : Migrated builds initial system) {process other : ι}
    (hprocess : version ∈ (system.processes process).ran)
    (hother : version ∈ (system.processes other).ran) : process = other := by
  obtain ⟨applied, hmem, hversion, rfl⟩ := h.owned process version hprocess
  obtain ⟨applied', hmem', hversion', rfl⟩ := h.owned other version hother
  have hsame := List.inj_on_of_nodup_map h.versions_nodup hmem hmem'
    (hversion.trans hversion'.symm)
  rw [hsame]

theorem Migrated.reported (h : Migrated builds initial system) {process : ι}
    {initialization : LocalStateInitialization} {ran : List Nat}
    (hfinished : system.processes process = .finished (.ok initialization) ran) :
    initialization.migrationRan = true ↔ ran ≠ [] := by
  have hsound := h.sound process
  rw [hfinished] at hsound
  simp [hsound initialization rfl]

theorem Migrated.unversioned (h : Migrated builds initial system)
    (hzero : system.file.userVersion = 0) :
    initial.userVersion = 0 ∧ system.file.content = initial.content := by
  have hforward := h.forward
  have hrecord := h.record
  have hreplayed := h.replayed
  rw [hzero, List.take_zero, List.drop_nil, List.map_eq_nil_iff] at hrecord
  rw [hrecord] at hreplayed
  exact ⟨by omega, (Except.ok.inj hreplayed).symm⟩

/-! ## Files that are never changed -/

/-- A file newer than the program, or one without a version that is not empty. -/
def Protected (build : Build list) (file : DatabaseFile) : Prop :=
  build.currentSchemaVersion < file.userVersion ∨
    (file.userVersion = 0 ∧ hasApplicationSchema file.content = true)

theorem Build.version_le (build : Build list) {migration : Migration}
    (h : migration ∈ build.migrations) : migration.version ≤ build.currentSchemaVersion := by
  obtain ⟨index, hindex⟩ := List.mem_iff_getElem?.mp h
  have hlt := (List.getElem?_eq_some_iff.mp hindex).1
  rw [Build.migrations, List.length_take] at hlt
  rw [Build.migrations, List.getElem?_take_of_lt (by omega)] at hindex
  have := list.version_getElem hindex
  omega

theorem InitializerMove.newer_file_eq {build : Build list} {before after : Initializer}
    {file file' : DatabaseFile} (move : InitializerMove build before file after file')
    (hsound : Sound build file before) (hnewer : build.currentSchemaVersion < file.userVersion) :
    file' = file := by
  rcases move.file_cases with rfl | ⟨observed, rfl, rfl⟩ |
    ⟨observed, createdAt, migration, pending, ran, rfl, advances⟩
  · rfl
  · obtain ⟨hsupported, -, hwal⟩ := hsound
    rw [← hwal (by omega)]
  · have hversion := build.version_le (hsound.2 migration List.mem_cons_self)
    have hnext := advances.next
    omega

/-- Before any access to the file, or after a refusal. -/
def Initializer.Idle : Initializer → Prop
  | .start => True
  | .finished _ ran => ran = []
  | _ => False

theorem InitializerMove.idle {build : Build list} {before after : Initializer}
    {file file' : DatabaseFile} (move : InitializerMove build before file after file')
    (hidle : before.Idle) (hzero : file.userVersion = 0)
    (hschema : hasApplicationSchema file.content = true) : file' = file ∧ after.Idle := by
  cases move with
  | refused error => exact ⟨rfl, rfl⟩
  | inspected _ supported unambiguous =>
      rw [unambiguous hzero] at hschema
      cases hschema
  | finished result ran => exact ⟨rfl, hidle⟩
  | _ => exact hidle.elim

/-- Nothing has happened but refusals. -/
structure Untouched (initial : DatabaseFile) (system : System ι) : Prop where
  file : system.file = initial
  processes : ∀ process, (system.processes process).Idle

theorem Untouched.step [DecidableEq ι] (db : LocalStateDatabase) (builds : ι → Build list)
    (hzero : initial.userVersion = 0) (hschema : hasApplicationSchema initial.content = true)
    (h : Untouched initial system) (input : ι × InitializerAnswers) :
    Untouched initial (systemStep db builds system input) := by
  obtain ⟨process, answers⟩ := input
  obtain ⟨hfile, hafter⟩ := (initializeStep_move db answers (builds process)
    (system.processes process) system.file).idle (h.processes process)
      (h.file ▸ hzero) (h.file ▸ hschema)
  refine ⟨hfile.trans h.file, fun other => ?_⟩
  rcases eq_or_ne other process with rfl | hother
  · simpa [systemStep] using hafter
  · simpa [systemStep, hother] using h.processes other

end

/-! ## Runs -/

/-- A migration that does not write the creation time. -/
def Migration.KeepsCreatedAt (migration : Migration) : Prop :=
  ∀ content createdAt content', migration.apply content createdAt = .ok content' →
    content'.createdAt = content.createdAt

section

variable {ι : Type} [DecidableEq ι] (db : LocalStateDatabase) {list : MigrationList}
  (builds : ι → Build list) {initial : DatabaseFile} {system : System ι}

theorem run_migrated (initial : DatabaseFile) (inputs : List (ι × InitializerAnswers)) :
    Migrated builds initial
      (Runs.run (systemStep db builds) (System.start initial) inputs) :=
  Runs.invariant_run (fun _ input h => h.step db input) inputs (Migrated.start builds initial)

/-- The version only rises, and the record only grows at its end. -/
structure System.Extends (before after : System ι) : Prop where
  version : before.file.userVersion ≤ after.file.userVersion
  log : before.log <+: after.log

theorem Migrated.run_extends (h : Migrated builds initial system)
    (more : List (ι × InitializerAnswers)) :
    system.Extends (Runs.run (systemStep db builds) system more) := by
  have hstep : ∀ (before : System ι) (input : ι × InitializerAnswers),
      Migrated builds initial before → before.Extends (systemStep db builds before input) := by
    intro before input h
    refine ⟨?_, List.prefix_append _ _⟩
    exact ((initializeStep_move db input.2 (builds input.1) (before.processes input.1)
      before.file).grows (h.sound input.1)).version
  exact Runs.related_run (fun _ => ⟨le_rfl, List.prefix_rfl⟩)
    (fun h h' => ⟨h.version.trans h'.version, h.log.trans h'.log⟩)
    (fun _ input h => h.step db input) hstep more h

theorem Migrated.createdAt_step
    (hkeeps : ∀ migration ∈ list.migrations.drop 1, migration.KeepsCreatedAt)
    (h : Migrated builds initial system) (hpositive : 0 < system.file.userVersion)
    (input : ι × InitializerAnswers) :
    (systemStep db builds system input).file.content.createdAt =
      system.file.content.createdAt := by
  have hsound := h.sound input.1
  rcases (initializeStep_move db input.2 (builds input.1) (system.processes input.1)
    system.file).file_cases with hfile | ⟨observed, -, hfile⟩ |
      ⟨observed, createdAt, migration, pending, ran, hbefore, advances⟩
  · exact congrArg (fun file => file.content.createdAt) hfile
  · exact congrArg (fun file => file.content.createdAt) hfile
  · rw [hbefore] at hsound
    have hindex := list.getElem_of_mem
      (List.mem_of_mem_take (hsound.2 migration List.mem_cons_self)) advances.next
    have hlater : migration ∈ list.migrations.drop 1 := by
      rw [List.mem_iff_getElem?]
      refine ⟨system.file.userVersion - 1, ?_⟩
      rw [List.getElem?_drop, Nat.add_sub_cancel' hpositive]
      exact hindex
    exact hkeeps migration hlater _ _ _ advances.applied

theorem Migrated.createdAt_run
    (hkeeps : ∀ migration ∈ list.migrations.drop 1, migration.KeepsCreatedAt)
    (h : Migrated builds initial system) (hpositive : 0 < system.file.userVersion)
    (more : List (ι × InitializerAnswers)) :
    (Runs.run (systemStep db builds) system more).file.content.createdAt =
      system.file.content.createdAt := by
  have hstep : ∀ (state : System ι) (input : ι × InitializerAnswers),
      (Migrated builds initial state ∧ 0 < state.file.userVersion ∧
        state.file.content.createdAt = system.file.content.createdAt) →
      Migrated builds initial (systemStep db builds state input) ∧
        0 < (systemStep db builds state input).file.userVersion ∧
        (systemStep db builds state input).file.content.createdAt =
          system.file.content.createdAt := by
    rintro state input ⟨hstate, hversion, hcreated⟩
    exact ⟨hstate.step db input,
      hversion.trans_le (hstate.run_extends db builds [input]).version,
      (hstate.createdAt_step db builds hkeeps hversion input).trans hcreated⟩
  exact (Runs.invariant_run hstep more ⟨h, hpositive, rfl⟩).2.2

/-- A run keeps a protected file: one newer than its processes, through the
observations they rely on; one without a version, through the refusals. -/
theorem protected_step (initial : DatabaseFile) (inputs : List (ι × InitializerAnswers))
    (input : ι × InitializerAnswers)
    (h : Protected (builds input.1)
      (Runs.run (systemStep db builds) (System.start initial) inputs).file) :
    (Runs.run (systemStep db builds) (System.start initial) (inputs ++ [input])).file =
      (Runs.run (systemStep db builds) (System.start initial) inputs).file := by
  have hmigrated := run_migrated db builds initial inputs
  rw [Runs.run_concat]
  rcases h with hnewer | ⟨hzero, hschema⟩
  · exact (initializeStep_move db input.2 (builds input.1) _ _).newer_file_eq
      (hmigrated.sound input.1) hnewer
  · obtain ⟨hinitial, hcontent⟩ := hmigrated.unversioned hzero
    rw [hcontent] at hschema
    have huntouched : Untouched initial
        (Runs.run (systemStep db builds) (System.start initial) inputs) :=
      Runs.invariant_run (fun _ input h => h.step db builds hinitial hschema input) inputs
        ⟨rfl, fun _ => trivial⟩
    exact (huntouched.step db builds hinitial hschema input).file.trans huntouched.file.symm

theorem protected_run (initial : DatabaseFile) (inputs more : List (ι × InitializerAnswers))
    (h : ∀ input ∈ more, Protected (builds input.1)
      (Runs.run (systemStep db builds) (System.start initial) inputs).file) :
    (Runs.run (systemStep db builds) (System.start initial) (inputs ++ more)).file =
      (Runs.run (systemStep db builds) (System.start initial) inputs).file := by
  induction more generalizing inputs with
  | nil => rw [List.append_nil]
  | cons input more ih =>
      have hstep := protected_step db builds initial inputs input (h input List.mem_cons_self)
      rw [List.append_cons, ih, hstep]
      rw [hstep]
      exact fun input hmem => h input (List.mem_cons_of_mem _ hmem)

/-- What holds of a state of the concurrent initializers, and between it and any
later one. -/
structure SafelyMigrated (builds : ι → Build list) (initial : DatabaseFile) (system : System ι)
    (more : List (ι × InitializerAnswers)) (later : System ι) : Prop where
  schema : ∀ empty, AppliedInOrder list empty initial → AppliedInOrder list empty system.file
  record : system.log.map AppliedMigration.migration =
    (list.migrations.take system.file.userVersion).drop initial.userVersion
  replayed : replay (system.log.map AppliedMigration.step) initial.content =
    .ok system.file.content
  once : (system.log.map fun applied => applied.migration.version).Nodup
  forward : system.Extends later
  owned : ∀ process, ∀ version ∈ (system.processes process).ran,
    ∃ applied ∈ system.log, applied.migration.version = version ∧ applied.process = process
  reporter : ∀ process other version, version ∈ (system.processes process).ran →
    version ∈ (system.processes other).ran → process = other
  reported : ∀ process initialization ran,
    system.processes process = .finished (.ok initialization) ran →
      (initialization.migrationRan = true ↔ ran ≠ [])
  createdAt : (∀ migration ∈ list.migrations.drop 1, migration.KeepsCreatedAt) →
    0 < system.file.userVersion → later.file.content.createdAt = system.file.content.createdAt
  kept : (∀ input ∈ more, Protected (builds input.1) system.file) → later.file = system.file

/-- Over every interleaving of initializers built with prefixes of one list, each
migration takes effect once and in order, one process at most counts it, and a
newer or an unversioned file stays as it is. -/
theorem concurrent_initializers_migrate_once (initial : DatabaseFile)
    (inputs more : List (ι × InitializerAnswers)) :
    SafelyMigrated builds initial
      (Runs.run (systemStep db builds) (System.start initial) inputs) more
      (Runs.run (systemStep db builds) (System.start initial) (inputs ++ more)) := by
  have h := run_migrated db builds initial inputs
  have hmore := Runs.run_append (systemStep db builds) (System.start initial) inputs more
  exact {
    schema := fun empty => h.schema
    record := h.record
    replayed := h.replayed
    once := h.versions_nodup
    forward := hmore ▸ h.run_extends db builds more
    owned := h.owned
    reporter := fun process other version => h.owner_unique
    reported := fun process initialization ran => h.reported
    createdAt := fun hkeeps hpositive =>
      hmore ▸ h.createdAt_run db builds hkeeps hpositive more
    kept := protected_run db builds initial inputs more }

end

/-! ## The creation time -/

/-- A second version that stamps the file again. -/
def restamp (content : Content) (createdAt : String) : Except SqliteError Content :=
  .ok { content with
    metaRows := content.metaRows.map fun row =>
      if row.1 = "created_at" then (row.1, createdAt) else row }

def restamping : MigrationList where
  migrations := [{ version := 1, apply := applyV1 }, { version := 2, apply := restamp }]
  numbered := rfl

def answersAt (now : String) (readback : Nat) : InitializerAnswers where
  parent := some "/state"
  createDirAll := .ok ()
  openConnection := .ok ()
  configureConnectionPolicy := .ok ()
  readTransaction := .ok ()
  configureJournalMode := .ok ()
  now := .ok now
  beginImmediate := .ok ()
  readUserVersion := .ok ()
  readSchema := .ok ()
  executeMigration := .ok ()
  updateUserVersion := .ok ()
  readback := .ok readback
  commit := .committed

/-- One program knows version one only, the other both. -/
def twoBuilds : Bool → Build restamping
  | false => { currentSchemaVersion := 1, le := by decide }
  | true => { currentSchemaVersion := 2, le := by decide }

/-- The creation time is as safe as the list: a later migration may write it. -/
theorem later_migration_restamps :
    ¬ ∀ (db : LocalStateDatabase) (list : MigrationList) (builds : Bool → Build list)
        (initial : DatabaseFile) (inputs more : List (Bool × InitializerAnswers)),
      0 < (Runs.run (systemStep db builds) (System.start initial) inputs).file.userVersion →
        (Runs.run (systemStep db builds) (System.start initial)
            (inputs ++ more)).file.content.createdAt =
          (Runs.run (systemStep db builds) (System.start initial)
            inputs).file.content.createdAt := by
  intro h
  have hrun := h { path := "/state/local.db" } restamping twoBuilds
    { userVersion := 0, content := { objects := [], metaRows := [] }, wal := false }
    (List.replicate 3 (false, answersAt "2026-01-01T00:00:00Z" 1))
    (List.replicate 4 (true, answersAt "2026-02-01T00:00:00Z" 2)) (by decide)
  revert hrun
  decide

end SheaSymphony.LocalState

import Mathlib.Data.Prod.Lex
import SheaSymphony.CoordinatorReconcile
import SheaSymphony.ProjectorInvariant
import SheaSymphony.Sorted

/-!
# The active workflows of a scope

`list_active_workflows_for_scope` of `local_state/reader.rs`. The list is ordered by
issue reference and then by workflow id, and cut at a limit. An issue has one active
row, so the workflow id decides nothing, and a row that is listed is the one
`find_active_workflow_for_issue` reads. What is cut off comes behind a full list.
-/

namespace SheaSymphony.Coordinator

open LocalState Fallible

/-! ## The list -/

def activeWorkflowListLimit : Nat := 100

/-- `ORDER BY issue_ref, workflow_id`; the text order is that of the code points. -/
def listedKey (row : StoredRow) : String ×ₗ String := toLex (row.issueRef, row.workflowId)

def listedLe (a b : StoredRow) : Bool := decide (listedKey a ≤ listedKey b)

section
variable (workspaceRuntimeId : WorkspaceRuntimeId) (repoId : RepoId)

/-- The `WHERE` clause of the list. -/
def inScope (row : StoredRow) : Bool :=
  row.workspaceRuntimeId == workspaceRuntimeId && row.repoId == repoId.databaseKey
    && (activeWorkflowStatuses.map WorkflowIndexStatus.asStr).contains row.status

def scopedRows (table : Table) : List StoredRow :=
  (table.rows.filter (inScope workspaceRuntimeId repoId)).mergeSort listedLe

def listActiveWorkflowsForScope (db : LocalStateDatabase) (answers : ReaderAnswers)
    (table : Table) : Except LocalStateReaderError (List WorkflowIndexRow) := do
  answers.openReadyReadOnly
  (answers.query table).mapError (classifyReadError db answers)
  let selected := (scopedRows workspaceRuntimeId repoId table).take activeWorkflowListLimit
  (selected.mapM workflowIndexRow).mapError (classifyReadError db answers)

end

/-! ## What is listed -/

section
variable {workspaceRuntimeId : WorkspaceRuntimeId} {repoId : RepoId} {table : Table}
  {text other : StoredRow}

theorem inScope_iff : inScope workspaceRuntimeId repoId text = true ↔
    text.workspaceRuntimeId = workspaceRuntimeId
      ∧ activeIssue text = some (repoId.databaseKey, text.issueRef) := by
  rw [inScope, Bool.and_eq_true, Bool.and_eq_true, beq_iff_eq, beq_iff_eq, List.contains_iff_mem,
    and_assoc, activeIssue]
  refine and_congr_right fun _ => ?_
  split
  · next hactive => simp [hactive]
  · next hactive => simp [hactive]

theorem mem_scopedRows : text ∈ scopedRows workspaceRuntimeId repoId table ↔
    text ∈ table.rows ∧ inScope workspaceRuntimeId repoId text = true := by
  rw [scopedRows, List.mem_mergeSort, List.mem_filter]

theorem listedLe_iff : listedLe text other = true ↔ listedKey text ≤ listedKey other :=
  decide_eq_true_iff

theorem eq_of_scoped_issue (htext : text ∈ scopedRows workspaceRuntimeId repoId table)
    (hother : other ∈ scopedRows workspaceRuntimeId repoId table)
    (h : text.issueRef = other.issueRef) : text = other := by
  obtain ⟨hrow, hscope⟩ := mem_scopedRows.mp htext
  obtain ⟨hrow', hscope'⟩ := mem_scopedRows.mp hother
  refine Store.eq_of_slot_eq hrow hrow' (inScope_iff.mp hscope).2 ?_
  rw [h]
  exact (inScope_iff.mp hscope').2

theorem scopedRows_ordered (table : Table) :
    (scopedRows workspaceRuntimeId repoId table).Pairwise fun a b => a.issueRef < b.issueRef := by
  have hsorted : (scopedRows workspaceRuntimeId repoId table).Pairwise
      fun a b => a.issueRef ≤ b.issueRef :=
    (Sorted.pairwise_mergeSort listedKey (fun _ _ => listedLe_iff) _).imp fun hle =>
      (Prod.Lex.toLex_le_toLex.mp hle).elim le_of_lt fun hsame => le_of_eq hsame.1
  have hnodup : (scopedRows workspaceRuntimeId repoId table).Nodup :=
    (List.mergeSort_perm _ _).nodup_iff.mpr ((List.Nodup.of_map _ table.primaryKey).filter _)
  exact Sorted.pairwise_of_ne hsorted hnodup fun _ ha _ hb => eq_of_scoped_issue ha hb

end

/-- What a list of a scope says about the table. -/
structure ListsScope (workspaceRuntimeId : WorkspaceRuntimeId) (repoId : RepoId) (table : Table)
    (rows : List WorkflowIndexRow) : Prop where
  bounded : rows.length ≤ activeWorkflowListLimit
  ordered : rows.Pairwise fun a b => a.issueRef < b.issueRef
  /-- A listed row is a running one of the scope. -/
  listed : ∀ row ∈ rows, row.stored ∈ table.rows ∧ row.workspaceRuntimeId = workspaceRuntimeId
    ∧ row.repoId = repoId.databaseKey ∧ row.status = .running
  /-- A row of the scope that is not listed comes behind a full list. -/
  cutOff : ∀ text ∈ table.rows, inScope workspaceRuntimeId repoId text = true →
    (∃ row ∈ rows, row.stored = text)
      ∨ rows.length = activeWorkflowListLimit ∧ ∀ row ∈ rows, row.issueRef < text.issueRef

/-- The rows of one issue and those of its scope are read alike. -/
def AgreesWithFind (db : LocalStateDatabase) (answers : ReaderAnswers)
    (workspaceRuntimeId : WorkspaceRuntimeId) (repoId : RepoId) (table : Table)
    (rows : List WorkflowIndexRow) : Prop :=
  ∀ issueRef, issueRef.repoId = repoId →
    ∃ found, findActiveWorkflowForIssue db answers repoId issueRef table = .ok found
      ∧ (∀ row ∈ rows, row.issueRef = issueRef.databaseKey → found = some row)
      ∧ ∀ row, found = some row → row.workspaceRuntimeId = workspaceRuntimeId → row ∈ rows
        ∨ rows.length = activeWorkflowListLimit
          ∧ ∀ earlier ∈ rows, earlier.issueRef < issueRef.databaseKey

/-! ## Projected tables -/

section
variable {rfc : Rfc3339} {db : LocalStateDatabase} {answers : ReaderAnswers} {table : Table}
  {workspaceRuntimeId : WorkspaceRuntimeId} {repoId : RepoId}

theorem exists_decoded (h : RowsInvariant table) : ∀ {texts : List StoredRow},
    (∀ text ∈ texts, text ∈ table.rows) →
      ∃ rows : List WorkflowIndexRow, texts = rows.map WorkflowIndexRow.stored
        ∧ texts.mapM workflowIndexRow = .ok rows
  | [], _ => ⟨[], rfl, rfl⟩
  | text :: texts, hmem => by
      obtain ⟨rows, rfl, -⟩ := exists_decoded h fun text htext => hmem text (List.mem_cons_of_mem _ htext)
      obtain ⟨row, rfl, -⟩ := h text (hmem text List.mem_cons_self)
      exact ⟨row :: rows, rfl,
        mapM_map_eq_ok (fun _ => workflowIndexRow_eq_ok.mpr rfl) (row :: rows)⟩

theorem running_of_activeIssue (h : RowsInvariant table) {row : WorkflowIndexRow}
    (hrow : row.stored ∈ table.rows) {issue : String × String}
    (hactive : activeIssue row.stored = some issue) : row.status = .running := by
  obtain ⟨row', hstored, hinvariant⟩ := h _ hrow
  obtain rfl := stored_injective hstored
  rw [activeIssue_stored] at hactive
  split at hactive
  · next hmem =>
    rcases hinvariant.status with hstatus | hstatus | hstatus | hstatus
    · exact hstatus
    all_goals
      rw [hstatus] at hmem
      exact absurd hmem (by decide)
  · cases hactive

theorem exists_found (h : RowsInvariant table) (hready : answers.openReadyReadOnly = .ok ())
    (hquery : answers.query table = .ok ()) (issueRef : IssueRef) :
    ∃ found, findActiveWorkflowForIssue db answers issueRef.repoId issueRef table = .ok found
      ∧ ∀ row : WorkflowIndexRow, found = some row ↔ row.stored ∈ table.rows
        ∧ activeIssue row.stored = some (issueRef.repoId.databaseKey, issueRef.databaseKey) := by
  rw [findActiveWorkflowForIssue, decide_eq_true rfl, hready, hquery]
  simp only [require_true, ok_bind, Except.mapError]
  cases hoccupant : table.occupant (issueRef.repoId.databaseKey, issueRef.databaseKey) with
  | none =>
      refine ⟨none, rfl, fun row => ⟨by rintro ⟨⟩, ?_⟩⟩
      rintro ⟨hrow, hactive⟩
      exact absurd hactive (Store.occupant_eq_none.mp hoccupant _ hrow)
  | some text =>
      obtain ⟨htext, hslot⟩ := Store.mem_of_occupant hoccupant
      obtain ⟨row, rfl, -⟩ := h text htext
      refine ⟨some row, ?_, fun other => ⟨?_, ?_⟩⟩
      · show Except.bind (Except.mapError _ (workflowIndexRow row.stored)) _ = _
        rw [workflowIndexRow_eq_ok.mpr rfl]
        rfl
      · rintro ⟨⟩
        exact ⟨htext, hslot⟩
      · rintro ⟨hother, hactive⟩
        exact congrArg some (stored_injective (Store.eq_of_slot_eq htext hother hslot hactive))

theorem exists_listed (h : RowsInvariant table) (hready : answers.openReadyReadOnly = .ok ())
    (hquery : answers.query table = .ok ()) (workspaceRuntimeId : WorkspaceRuntimeId)
    (repoId : RepoId) : ∃ rows,
      listActiveWorkflowsForScope workspaceRuntimeId repoId db answers table = .ok rows
        ∧ rows.map WorkflowIndexRow.stored
          = (scopedRows workspaceRuntimeId repoId table).take activeWorkflowListLimit := by
  obtain ⟨rows, hrows, hdecoded⟩ := exists_decoded h fun text htext =>
    (mem_scopedRows.mp (List.mem_of_mem_take htext)).1
  refine ⟨rows, ?_, hrows.symm⟩
  rw [listActiveWorkflowsForScope, hready, hquery]
  simp only [ok_bind, Except.mapError, hdecoded]

theorem listsScope (h : RowsInvariant table) {rows : List WorkflowIndexRow}
    (hrows : rows.map WorkflowIndexRow.stored
      = (scopedRows workspaceRuntimeId repoId table).take activeWorkflowListLimit) :
    ListsScope workspaceRuntimeId repoId table rows := by
  constructor
  case bounded =>
    rw [← List.length_map (f := WorkflowIndexRow.stored), hrows]
    exact List.length_take_le _ _
  case ordered =>
    have hordered := (scopedRows_ordered table).sublist
      (List.take_sublist activeWorkflowListLimit (scopedRows workspaceRuntimeId repoId table))
    rw [← hrows, List.pairwise_map] at hordered
    exact hordered
  case listed =>
    intro row hrow
    have hstored := List.mem_map_of_mem (f := WorkflowIndexRow.stored) hrow
    rw [hrows] at hstored
    obtain ⟨hmem, hscope⟩ := mem_scopedRows.mp (List.mem_of_mem_take hstored)
    obtain ⟨hruntime, hactive⟩ := inScope_iff.mp hscope
    refine ⟨hmem, hruntime, ?_, running_of_activeIssue h hmem hactive⟩
    exact (beq_iff_eq.mp (by simp only [inScope, Bool.and_eq_true] at hscope; exact hscope.1.2))
  case cutOff =>
    intro text htext hscope
    have hcut := Sorted.mem_take_or (scopedRows_ordered table) activeWorkflowListLimit
      (mem_scopedRows.mpr ⟨htext, hscope⟩)
    rw [← hrows, List.length_map] at hcut
    exact hcut.imp List.mem_map.mp fun ⟨hfull, hbefore⟩ =>
      ⟨hfull, fun row hrow => hbefore _ (List.mem_map_of_mem hrow)⟩

theorem agreesWithFind (h : RowsInvariant table) (hready : answers.openReadyReadOnly = .ok ())
    (hquery : answers.query table = .ok ()) {rows : List WorkflowIndexRow}
    (hlists : ListsScope workspaceRuntimeId repoId table rows) :
    AgreesWithFind db answers workspaceRuntimeId repoId table rows := by
  rintro issueRef rfl
  obtain ⟨found, hfound, hiff⟩ := @exists_found db answers table h hready hquery issueRef
  refine ⟨found, hfound, fun row hrow hissue => ?_, fun row hrow hruntime => ?_⟩
  · obtain ⟨hmem, -, hrepo, hstatus⟩ := hlists.listed row hrow
    refine (hiff row).mpr ⟨hmem, ?_⟩
    rw [activeIssue_stored, hstatus, if_pos (by decide), hrepo, hissue]
  · obtain ⟨hmem, hactive⟩ := (hiff row).mp hrow
    have hissue : row.repoId = issueRef.repoId.databaseKey ∧ row.issueRef = issueRef.databaseKey := by
      rw [activeIssue_stored] at hactive
      split at hactive
      · exact Prod.mk.inj (Option.some.inj hactive)
      · cases hactive
    have hscope : inScope workspaceRuntimeId issueRef.repoId row.stored = true := by
      refine inScope_iff.mpr ⟨hruntime, ?_⟩
      rw [hactive, ← hissue.2]
      rfl
    rcases hlists.cutOff _ hmem hscope with ⟨listed, hlisted, hsame⟩ | ⟨hfull, hbefore⟩
    · exact Or.inl (stored_injective hsame ▸ hlisted)
    · exact Or.inr ⟨hfull, fun earlier hearlier => hissue.2 ▸ hbefore earlier hearlier⟩

end

/-- After any observations, and wherever SQLite failed in between, the list of a scope
fails only with the connection. It has the running rows of the scope in the order of
their issues, as many as the limit lets through, and each is the row its issue is
found to have. -/
theorem active_list_of_run (rfc : Rfc3339) (db : LocalStateDatabase)
    (inputs : List (Sqlite × WorkflowLifecycleObservation)) (answers : ReaderAnswers)
    (workspaceRuntimeId : WorkspaceRuntimeId) (repoId : RepoId) :
    let table : Table := Runs.run (projectStep rfc db) Store.empty inputs
    (∃ rows, listActiveWorkflowsForScope workspaceRuntimeId repoId db answers table = .ok rows
        ∧ ListsScope workspaceRuntimeId repoId table rows
        ∧ AgreesWithFind db answers workspaceRuntimeId repoId table rows)
      ∨ ∃ error, listActiveWorkflowsForScope workspaceRuntimeId repoId db answers table = .error error
        ∧ (answers.openReadyReadOnly = .error error
          ∨ ∃ failure, answers.query table = .error failure
            ∧ error = classifyReadError db answers failure) := by
  intro table
  have hreach : ReachableTable rfc db table := ⟨inputs, rfl⟩
  have hinvariant := hreach.rowsInvariant
  cases hready : answers.openReadyReadOnly with
  | error error =>
      refine Or.inr ⟨error, ?_, Or.inl rfl⟩
      rw [listActiveWorkflowsForScope, hready]
      rfl
  | ok =>
  cases hquery : answers.query table with
  | error failure =>
      refine Or.inr ⟨classifyReadError db answers failure, ?_, Or.inr ⟨failure, rfl, rfl⟩⟩
      rw [listActiveWorkflowsForScope, hready, hquery]
      rfl
  | ok =>
      obtain ⟨rows, hlist, hrows⟩ := exists_listed hinvariant hready hquery workspaceRuntimeId repoId
      have hlists := listsScope hinvariant hrows
      exact Or.inl ⟨rows, hlist, hlists, agreesWithFind hinvariant hready hquery hlists⟩

end SheaSymphony.Coordinator

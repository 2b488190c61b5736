import SheaSymphony.Keyed
import SheaSymphony.Runs
import SheaSymphony.RuntimeState

/-!
# The store of runtime states

The file of `runtime_state.rs` and what is done to it. It is missing when no
worker is recorded, holds the bare state of a single one, and is a store from
two on, so every operation reads one of three shapes and may write another.
None of this is visible in what is loaded (`load_save`): the file stands for a
list of states, on which an upsert replaces the entry of its issue or appends,
and a remove drops it (`store_laws`). A state without an issue is only ever
appended.

The file is kept as the document its text denotes; the reads and writes of the
file itself succeed.
-/

namespace SheaSymphony.Runtime

open Json

abbrev StateFile := Option Json

def loadRuntimeStates : StateFile → Except DecodeError (List RuntimeState)
  | none => .ok []
  | some value =>
      if (value.get "active_workers").isSome then do
        let store ← RuntimeStateStore.deserialize value
        return store.activeWorkers
      else do
        let state ← RuntimeState.deserialize value
        return [state]

def saveRuntimeStates : List RuntimeState → StateFile
  | [] => none
  | [state] => some state.serialize
  | states => some (RuntimeStateStore.new states).serialize

def upsertRuntimeStateEntry (states : List RuntimeState) (state : RuntimeState) :
    List RuntimeState :=
  match state.identifier with
  | none => states ++ [state]
  | some issueIdentifier =>
      match states.findIdx? fun existing => existing.identifier = some issueIdentifier with
      | some index => states.set index state
      | none => states ++ [state]

def retainOtherIssues (states : List RuntimeState) (issueIdentifier : String) :
    List RuntimeState :=
  states.filter fun state => state.identifier ≠ some issueIdentifier

def runtimeStateForIssue (states : List RuntimeState) (issueIdentifier : String) :
    Option RuntimeState :=
  states.find? fun state => state.identifier = some issueIdentifier

def upsertRuntimeState (file : StateFile) (state : RuntimeState) :
    Except DecodeError StateFile := do
  let states ← loadRuntimeStates file
  return saveRuntimeStates (upsertRuntimeStateEntry states state)

def removeRuntimeStateForIssue (file : StateFile) (issueIdentifier : String) :
    Except DecodeError StateFile := do
  let states ← loadRuntimeStates file
  return saveRuntimeStates (retainOtherIssues states issueIdentifier)

/-! ## Operations -/

inductive Operation where
  | upsert (state : RuntimeState)
  | remove (issueIdentifier : String)
deriving DecidableEq

/-- The issue an operation is about. -/
def Operation.identifier : Operation → Option String
  | upsert state => state.identifier
  | remove issueIdentifier => some issueIdentifier

def Operation.apply (file : StateFile) : Operation → Except DecodeError StateFile
  | upsert state => upsertRuntimeState file state
  | remove issueIdentifier => removeRuntimeStateForIssue file issueIdentifier

def applyAll (file : StateFile) (operations : List Operation) : Except DecodeError StateFile :=
  operations.foldlM Operation.apply file

/-- What an operation does to the list the file stands for. -/
def Operation.step (states : List RuntimeState) : Operation → List RuntimeState
  | upsert state => upsertRuntimeStateEntry states state
  | remove issueIdentifier => retainOtherIssues states issueIdentifier

/-! ## The three shapes -/

theorem load_save (states : List RuntimeState) :
    loadRuntimeStates (saveRuntimeStates states) = .ok states := by
  match states with
  | [] => rfl
  | [state] =>
      simp only [saveRuntimeStates, loadRuntimeStates]
      rw [RuntimeState.get_active_workers, if_neg (by simp), state.deserialize_serialize]
      rfl
  | first :: second :: rest =>
      simp only [saveRuntimeStates, loadRuntimeStates]
      rw [RuntimeStateStore.get_active_workers, if_pos (by simp),
        RuntimeStateStore.deserialize_serialize]
      rfl

theorem apply_save (states : List RuntimeState) (operation : Operation) :
    operation.apply (saveRuntimeStates states) = .ok (saveRuntimeStates (operation.step states)) := by
  cases operation with
  | upsert state => rw [Operation.apply, upsertRuntimeState, load_save]; rfl
  | remove issueIdentifier => rw [Operation.apply, removeRuntimeStateForIssue, load_save]; rfl

theorem applyAll_save (states : List RuntimeState) (operations : List Operation) :
    applyAll (saveRuntimeStates states) operations
      = .ok (saveRuntimeStates (Runs.run Operation.step states operations)) := by
  induction operations generalizing states with
  | nil => rfl
  | cons operation operations ih =>
      rw [applyAll, List.foldlM_cons, apply_save, Fallible.ok_bind, Runs.run_cons]
      exact ih _

/-- A list and the file it is stored in: nothing, a bare object, or a store. -/
structure StoredAs (states : List RuntimeState) (file : StateFile) : Prop where
  loaded : loadRuntimeStates file = .ok states
  missing : states.length = 0 ↔ file = none
  bare : states.length = 1 ↔ ∃ state : RuntimeState, file = some state.serialize
  store : 2 ≤ states.length ↔ ∃ store : RuntimeStateStore, file = some store.serialize

theorem serialize_ne_store (state : RuntimeState) (store : RuntimeStateStore) :
    state.serialize ≠ store.serialize := by
  intro h
  have hworkers := state.get_active_workers
  rw [h, store.get_active_workers] at hworkers
  cases hworkers

theorem storedAs_save (states : List RuntimeState) :
    StoredAs states (saveRuntimeStates states) := by
  refine ⟨load_save states, ?_, ?_, ?_⟩
  all_goals
    match states with
    | [] => simp [saveRuntimeStates]
    | [state] => simp [saveRuntimeStates, serialize_ne_store]
    | first :: second :: rest =>
        simp [saveRuntimeStates, fun state store => (serialize_ne_store state store).symm]

/-! ## What an operation does to the entries -/

/-- Identifiers, where there are any, are distinct. -/
def DistinctIdentifiers (states : List RuntimeState) : Prop :=
  (states.filterMap RuntimeState.identifier).Nodup

/-- All entries but those of the operation's issue stay as they are and in order. -/
def LeavesOthers (operation : Operation) (states states' : List RuntimeState) : Prop :=
  match operation, operation.identifier with
  | .upsert state, none => states' = states ++ [state]
  | _, identifier =>
      (states'.filter fun state => state.identifier ≠ identifier)
        = states.filter fun state => state.identifier ≠ identifier

variable {state : RuntimeState} {issueIdentifier : String} {states : List RuntimeState}

theorem upsertRuntimeStateEntry_of_none (h : state.identifier = none) :
    upsertRuntimeStateEntry states state = states ++ [state] := by
  rw [upsertRuntimeStateEntry, h]

theorem upsertRuntimeStateEntry_of_some (h : state.identifier = some issueIdentifier) :
    upsertRuntimeStateEntry states state = Keyed.upsert RuntimeState.identifier states state := by
  have hset := Keyed.upsert_eq_set RuntimeState.identifier states state
  rw [h] at hset
  simp only [upsertRuntimeStateEntry, h]
  exact hset.symm

theorem distinct_step (h : DistinctIdentifiers states) (operation : Operation) :
    DistinctIdentifiers (operation.step states) := by
  cases operation with
  | remove issueIdentifier => exact h.sublist (List.filter_sublist.filterMap _)
  | upsert state =>
      show DistinctIdentifiers (upsertRuntimeStateEntry states state)
      cases hid : state.identifier with
      | none =>
          rw [upsertRuntimeStateEntry_of_none hid]
          simpa [DistinctIdentifiers, hid] using h
      | some issueIdentifier =>
          have hkeys : ∀ states : List RuntimeState, states.filterMap RuntimeState.identifier
              = (states.map RuntimeState.identifier).filterMap id := by simp [List.filterMap_map]
          rw [DistinctIdentifiers, hkeys] at h
          rw [upsertRuntimeStateEntry_of_some hid, DistinctIdentifiers, hkeys,
            Keyed.map_key_upsert]
          split
          · exact h
          · next hfresh =>
            rw [hid] at hfresh ⊢
            have hlast : [some issueIdentifier].filterMap id = [issueIdentifier] := rfl
            rw [List.filterMap_append, hlast]
            refine List.nodup_append'.mpr ⟨h, List.nodup_singleton _, ?_⟩
            simpa using hfresh

theorem leavesOthers_step (states : List RuntimeState) (operation : Operation) :
    LeavesOthers operation states (operation.step states) := by
  cases operation with
  | remove issueIdentifier =>
      show (retainOtherIssues states issueIdentifier).filter _ = _
      rw [retainOtherIssues, List.filter_filter]
      refine List.filter_congr ?_
      intro state _
      by_cases hid : state.identifier = some issueIdentifier <;> simp [Operation.identifier, hid]
  | upsert state =>
      cases hid : state.identifier with
      | none =>
          simp only [LeavesOthers, Operation.identifier, hid]
          exact upsertRuntimeStateEntry_of_none hid
      | some issueIdentifier =>
          simp only [LeavesOthers, Operation.identifier, hid, Operation.step,
            upsertRuntimeStateEntry_of_some hid]
          rw [← hid]
          exact Keyed.filter_upsert states state

theorem mem_iff_runtimeStateForIssue (h : DistinctIdentifiers states)
    (hid : state.identifier = some issueIdentifier) :
    state ∈ states ↔ runtimeStateForIssue states issueIdentifier = some state := by
  refine ⟨?_, List.mem_of_find?_eq_some⟩
  intro hmem
  induction states with
  | nil => cases hmem
  | cons first states ih =>
      rw [runtimeStateForIssue, List.find?_cons]
      by_cases hfirst : first.identifier = some issueIdentifier
      · rw [DistinctIdentifiers, List.filterMap_cons_some hfirst, List.nodup_cons] at h
        rcases List.mem_cons.mp hmem with rfl | hmem
        · simp [hfirst]
        · exact absurd (List.mem_filterMap.mpr ⟨state, hmem, hid⟩) h.1
      · rcases List.mem_cons.mp hmem with rfl | hmem
        · exact absurd hid hfirst
        · have hrest : DistinctIdentifiers states :=
            h.sublist ((List.sublist_cons_self first states).filterMap _)
          simp only [decide_eq_false hfirst]
          exact ih hrest hmem

theorem mem_step_iff (h : DistinctIdentifiers states) (operation : Operation)
    (hid : state.identifier = some issueIdentifier) :
    state ∈ operation.step states ↔
      operation = .upsert state
        ∨ (operation.identifier ≠ some issueIdentifier ∧ state ∈ states) := by
  cases operation with
  | remove removed =>
      have hkept : state ∈ retainOtherIssues states removed ↔
          some removed ≠ some issueIdentifier ∧ state ∈ states := by
        rw [retainOtherIssues, List.mem_filter, decide_eq_true_iff, hid, and_comm, ne_comm]
      simpa [Operation.step, Operation.identifier] using hkept
  | upsert next =>
      rw [mem_iff_runtimeStateForIssue (distinct_step h _) hid, mem_iff_runtimeStateForIssue h hid]
      show runtimeStateForIssue (upsertRuntimeStateEntry states next) issueIdentifier = _ ↔ _
      cases hnext : next.identifier with
      | none =>
          have hne : next ≠ state := by
            rintro rfl
            rw [hid] at hnext
            cases hnext
          rw [upsertRuntimeStateEntry_of_none hnext]
          simp [runtimeStateForIssue, hnext, Operation.identifier, hne]
      | some nextIdentifier =>
          rw [upsertRuntimeStateEntry_of_some hnext, runtimeStateForIssue, Keyed.find?_upsert,
            hnext]
          by_cases hsame : nextIdentifier = issueIdentifier
          · simp [hsame, Operation.identifier, hnext]
          · have hne : next ≠ state := by
              rintro rfl
              exact hsame (Option.some.inj (hnext.symm.trans hid))
            simp [hsame, Operation.identifier, hnext, hne, runtimeStateForIssue]

/-! ## Runs -/

/-- The last operation on an issue stored this state. -/
def LastUpserted (operations : List Operation) (issueIdentifier : String) (state : RuntimeState) :
    Prop :=
  ∃ before after, operations = before ++ .upsert state :: after
    ∧ state.identifier = some issueIdentifier
    ∧ ∀ operation ∈ after, operation.identifier ≠ some issueIdentifier

theorem not_lastUpserted_nil :
    ¬ LastUpserted [] issueIdentifier state := by
  rintro ⟨before, after, hsplit, -, -⟩
  cases before <;> cases hsplit

theorem lastUpserted_concat {operations : List Operation} {operation : Operation}
    (hid : state.identifier = some issueIdentifier) :
    LastUpserted (operations ++ [operation]) issueIdentifier state ↔
      operation = .upsert state
        ∨ (operation.identifier ≠ some issueIdentifier
          ∧ LastUpserted operations issueIdentifier state) := by
  constructor
  · rintro ⟨before, after, hsplit, -, hafter⟩
    rcases List.eq_nil_or_concat after with rfl | ⟨after, last, rfl⟩
    · exact Or.inl (List.head_eq_of_cons_eq (List.append_inj' hsplit rfl).2)
    · rw [List.concat_eq_append] at hsplit hafter
      rw [← List.cons_append, ← List.append_assoc] at hsplit
      obtain ⟨hinit, hlast⟩ := List.append_inj' hsplit rfl
      obtain rfl := List.head_eq_of_cons_eq hlast
      refine Or.inr ⟨hafter _ (List.mem_append_right _ List.mem_cons_self), before, after, hinit,
        hid, ?_⟩
      intro next hnext
      exact hafter next (List.mem_append_left _ hnext)
  · rintro (rfl | ⟨hother, before, after, rfl, -, hafter⟩)
    · exact ⟨operations, [], rfl, hid, by simp⟩
    · refine ⟨before, after ++ [operation], by simp, hid, ?_⟩
      intro next hnext
      rcases List.mem_append.mp hnext with hnext | hnext
      · exact hafter next hnext
      · rw [List.mem_singleton.mp hnext]
        exact hother

theorem distinct_run (operations : List Operation) :
    DistinctIdentifiers (Runs.run Operation.step [] operations) := by
  have hnone : DistinctIdentifiers [] := List.nodup_nil
  exact Runs.invariant_run (fun states operation (h : DistinctIdentifiers states) =>
    distinct_step h operation) operations hnone

theorem mem_run_iff (operations : List Operation) (hid : state.identifier = some issueIdentifier) :
    state ∈ Runs.run Operation.step [] operations ↔
      LastUpserted operations issueIdentifier state := by
  induction operations using List.reverseRecOn with
  | nil => simp [not_lastUpserted_nil]
  | append_singleton operations operation ih =>
      rw [Runs.run_concat, mem_step_iff (distinct_run operations) operation hid, ih,
        lastUpserted_concat hid]

/-- What holds of the file after a sequence of operations, and what the next
operation does to it. -/
structure StoreLaws (operations : List Operation) (file : StateFile) (states : List RuntimeState) :
    Prop where
  stored : StoredAs states file
  distinct : DistinctIdentifiers states
  current : ∀ state issueIdentifier, state.identifier = some issueIdentifier →
    (state ∈ states ↔ LastUpserted operations issueIdentifier state)
  next : ∀ operation, ∃ file' states', operation.apply file = .ok file'
    ∧ StoredAs states' file' ∧ LeavesOthers operation states states'

/-- Every list is stored and loaded again, and every sequence of operations from
no file leads to a file that keeps the laws. -/
theorem store_laws :
    (∀ states, StoredAs states (saveRuntimeStates states))
      ∧ ∀ operations, ∃ file states,
        applyAll none operations = .ok file ∧ StoreLaws operations file states := by
  refine ⟨storedAs_save, ?_⟩
  intro operations
  refine ⟨_, Runs.run Operation.step [] operations, applyAll_save [] operations, ?_⟩
  constructor
  case stored => exact storedAs_save _
  case distinct => exact distinct_run operations
  case current => exact fun _ _ hid => mem_run_iff operations hid
  case next =>
    intro operation
    exact ⟨_, _, apply_save _ operation, storedAs_save _, leavesOthers_step _ operation⟩

end SheaSymphony.Runtime

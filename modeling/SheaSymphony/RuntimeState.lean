import SheaSymphony.Json

/-!
# Runtime states

The record `runtime_state.rs` keeps of one running worker, and the documents it
is stored in: a bare state, or a store of several. Paths are texts here; one
that is not UTF-8 is refused when it is written. A state that is written is read
back (`deserialize_serialize`), and no state has the field by which a store is
known (`get_active_workers`).
-/

namespace SheaSymphony.Runtime

open Json Fallible

structure RuntimeIssueState where
  id : String
  identifier : String
deriving DecidableEq

structure RuntimeTransition where
  fromState : Option String
  toState : String
  reason : String
deriving DecidableEq

structure RuntimeRetryState where
  attempt : UInt32
  scheduledAtMs : UInt64
  nextRetryAtMs : UInt64
  error : String
deriving DecidableEq

structure RuntimeStallState where
  detectedAtMs : UInt64
  stalledForMs : UInt64
  reason : String
deriving DecidableEq

structure RuntimeState where
  activeIssue : Option RuntimeIssueState
  workspacePath : Option String
  branchName : Option String
  backend : String
  backendSessionId : Option String
  lane : Option String
  runId : Option String
  backendLogPath : Option String
  backendAttachCommand : Option String
  profileId : Option String
  instanceName : Option String
  actorRole : Option String
  actorLabel : Option String
  gitAuthor : Option String
  attemptCount : UInt32
  updatedAtMs : Option UInt64
  retry : Option RuntimeRetryState
  stall : Option RuntimeStallState
  lastEvent : Option String
  lastTransition : Option RuntimeTransition
deriving DecidableEq

def RuntimeState.identifier (state : RuntimeState) : Option String :=
  state.activeIssue.map RuntimeIssueState.identifier

structure RuntimeStateStore where
  version : UInt32
  activeWorkers : List RuntimeState
deriving DecidableEq

def runtimeStateStoreVersion : UInt32 := 1

def RuntimeStateStore.new (activeWorkers : List RuntimeState) : RuntimeStateStore where
  version := runtimeStateStoreVersion
  activeWorkers := activeWorkers

/-! ## Supervision -/

/-- `RuntimeState::active`. -/
def RuntimeState.active (issue : RuntimeIssueState) (backend : String) : RuntimeState where
  activeIssue := some issue
  workspacePath := none
  branchName := none
  backend := backend
  backendSessionId := none
  lane := none
  runId := none
  backendLogPath := none
  backendAttachCommand := none
  profileId := none
  instanceName := none
  actorRole := none
  actorLabel := none
  gitAuthor := none
  attemptCount := 1
  updatedAtMs := none
  retry := none
  stall := none
  lastEvent := none
  lastTransition := none

def RuntimeRetryState.dueInMs (retry : RuntimeRetryState) (nowMs : UInt64) : Nat :=
  retry.nextRetryAtMs.toNat - nowMs.toNat

/-- The deadline stops at the largest time there is. -/
def recordRuntimeRetry (state : RuntimeState) (nowMs delayMs : UInt64) (error : String) :
    RuntimeState :=
  { state with
    retry := some {
      attempt := state.attemptCount
      scheduledAtMs := nowMs
      nextRetryAtMs := UInt64.ofNat (min (nowMs.toNat + delayMs.toNat) (UInt64.size - 1))
      error }
    updatedAtMs := some nowMs }

def detectRuntimeStall (state : RuntimeState) (nowMs stallTimeoutMs : UInt64) :
    Option RuntimeStallState :=
  state.updatedAtMs.bind fun updatedAtMs =>
    let stalledForMs := nowMs.toNat - updatedAtMs.toNat
    if 0 < stallTimeoutMs ∧ stallTimeoutMs.toNat ≤ stalledForMs then
      some {
        detectedAtMs := nowMs
        stalledForMs := UInt64.ofNat stalledForMs
        reason := "no runtime update for " ++ toString stalledForMs ++ "ms" }
    else none

/-! ## Documents -/

def encodeU32 (n : UInt32) : Json := .int n.toNat

def encodeU64 (n : UInt64) : Json := .int n.toNat

def decodeU32 : Decoder UInt32 := fun document => do
  return UInt32.ofNat (← decodeNat UInt32.size document)

def decodeU64 : Decoder UInt64 := fun document => do
  return UInt64.ofNat (← decodeNat UInt64.size document)

def RuntimeIssueState.serialize (issue : RuntimeIssueState) : Json :=
  .obj (written [("id", some (.str issue.id)), ("identifier", some (.str issue.identifier))])

def RuntimeIssueState.deserialize : Decoder RuntimeIssueState := fun document => do
  let fields ← structFields ["id", "identifier"] 2 document
  return {
    id := ← field fields "id" decodeString
    identifier := ← field fields "identifier" decodeString }

def RuntimeTransition.serialize (transition : RuntimeTransition) : Json :=
  .obj (written
    [("from", some (optional .str transition.fromState)), ("to", some (.str transition.toState)),
      ("reason", some (.str transition.reason))])

def RuntimeTransition.deserialize : Decoder RuntimeTransition := fun document => do
  let fields ← structFields ["from", "to", "reason"] 3 document
  return {
    fromState := ← fieldOr fields "from" none (decodeOption decodeString)
    toState := ← field fields "to" decodeString
    reason := ← field fields "reason" decodeString }

def RuntimeRetryState.serialize (retry : RuntimeRetryState) : Json :=
  .obj (written
    [("attempt", some (encodeU32 retry.attempt)),
      ("scheduled_at_ms", some (encodeU64 retry.scheduledAtMs)),
      ("next_retry_at_ms", some (encodeU64 retry.nextRetryAtMs)),
      ("error", some (.str retry.error))])

def RuntimeRetryState.deserialize : Decoder RuntimeRetryState := fun document => do
  let fields ← structFields ["attempt", "scheduled_at_ms", "next_retry_at_ms", "error"] 4 document
  return {
    attempt := ← field fields "attempt" decodeU32
    scheduledAtMs := ← field fields "scheduled_at_ms" decodeU64
    nextRetryAtMs := ← field fields "next_retry_at_ms" decodeU64
    error := ← field fields "error" decodeString }

def RuntimeStallState.serialize (stall : RuntimeStallState) : Json :=
  .obj (written
    [("detected_at_ms", some (encodeU64 stall.detectedAtMs)),
      ("stalled_for_ms", some (encodeU64 stall.stalledForMs)),
      ("reason", some (.str stall.reason))])

def RuntimeStallState.deserialize : Decoder RuntimeStallState := fun document => do
  let fields ← structFields ["detected_at_ms", "stalled_for_ms", "reason"] 3 document
  return {
    detectedAtMs := ← field fields "detected_at_ms" decodeU64
    stalledForMs := ← field fields "stalled_for_ms" decodeU64
    reason := ← field fields "reason" decodeString }

/-- The bindings of a state; those that are skipped when absent are `none`. -/
def RuntimeState.bindings (state : RuntimeState) : List (String × Option Json) :=
  [("active_issue", some (optional RuntimeIssueState.serialize state.activeIssue)),
    ("workspace_path", some (optional .str state.workspacePath)),
    ("branch_name", some (optional .str state.branchName)),
    ("backend", some (.str state.backend)),
    ("backend_session_id", some (optional .str state.backendSessionId)),
    ("lane", state.lane.map .str),
    ("run_id", state.runId.map .str),
    ("backend_log_path", state.backendLogPath.map .str),
    ("backend_attach_command", state.backendAttachCommand.map .str),
    ("profile_id", state.profileId.map .str),
    ("instance_name", state.instanceName.map .str),
    ("actor_role", state.actorRole.map .str),
    ("actor_label", state.actorLabel.map .str),
    ("git_author", state.gitAuthor.map .str),
    ("attempt_count", some (encodeU32 state.attemptCount)),
    ("updated_at_ms", state.updatedAtMs.map encodeU64),
    ("retry", state.retry.map RuntimeRetryState.serialize),
    ("stall", state.stall.map RuntimeStallState.serialize),
    ("last_event", some (optional .str state.lastEvent)),
    ("last_transition", some (optional RuntimeTransition.serialize state.lastTransition))]

def RuntimeState.fieldNames : List String :=
  ["active_issue", "workspace_path", "branch_name", "backend", "backend_session_id", "lane",
    "run_id", "backend_log_path", "backend_attach_command", "profile_id", "instance_name",
    "actor_role", "actor_label", "git_author", "attempt_count", "updated_at_ms", "retry", "stall",
    "last_event", "last_transition"]

def RuntimeState.serialize (state : RuntimeState) : Json := .obj (written state.bindings)

def RuntimeState.deserialize : Decoder RuntimeState := fun document => do
  let fields ← structFields fieldNames 20 document
  let text := fun name => fieldOr fields name none (decodeOption decodeString)
  return {
    activeIssue := ← fieldOr fields "active_issue" none (decodeOption RuntimeIssueState.deserialize)
    workspacePath := ← text "workspace_path"
    branchName := ← text "branch_name"
    backend := ← field fields "backend" decodeString
    backendSessionId := ← text "backend_session_id"
    lane := ← text "lane"
    runId := ← text "run_id"
    backendLogPath := ← text "backend_log_path"
    backendAttachCommand := ← text "backend_attach_command"
    profileId := ← text "profile_id"
    instanceName := ← text "instance_name"
    actorRole := ← text "actor_role"
    actorLabel := ← text "actor_label"
    gitAuthor := ← text "git_author"
    attemptCount := ← field fields "attempt_count" decodeU32
    updatedAtMs := ← fieldOr fields "updated_at_ms" none (decodeOption decodeU64)
    retry := ← fieldOr fields "retry" none (decodeOption RuntimeRetryState.deserialize)
    stall := ← fieldOr fields "stall" none (decodeOption RuntimeStallState.deserialize)
    lastEvent := ← text "last_event"
    lastTransition :=
      ← fieldOr fields "last_transition" none (decodeOption RuntimeTransition.deserialize) }

def RuntimeStateStore.serialize (store : RuntimeStateStore) : Json :=
  .obj (written
    [("version", some (encodeU32 store.version)),
      ("active_workers", some (.arr (store.activeWorkers.map RuntimeState.serialize)))])

def RuntimeStateStore.deserialize : Decoder RuntimeStateStore := fun document => do
  let fields ← structFields ["version", "active_workers"] 0 document
  return {
    version := ← fieldOr fields "version" runtimeStateStoreVersion decodeU32
    activeWorkers := ← fieldOr fields "active_workers" [] (decodeList RuntimeState.deserialize) }

/-! ## Reading back what was written -/

@[simp] theorem decodeU32_encodeU32 (n : UInt32) : decodeU32 (encodeU32 n) = .ok n := by
  rw [decodeU32, encodeU32, decodeNat_int n.toNat_lt, ok_bind, UInt32.ofNat_toNat]
  rfl

@[simp] theorem decodeU64_encodeU64 (n : UInt64) : decodeU64 (encodeU64 n) = .ok n := by
  rw [decodeU64, encodeU64, decodeNat_int n.toNat_lt, ok_bind, UInt64.ofNat_toNat]
  rfl

theorem encodeU64_ne_null (n : UInt64) : encodeU64 n ≠ .null := nofun

theorem obj_ne_null (fields : List (String × Json)) : Json.obj fields ≠ .null := nofun

@[simp] theorem decodeOption_text (value : Option String) :
    decodeOption decodeString (optional .str value) = .ok value :=
  decodeOption_optional decodeString_str nofun value

theorem structFields_written {bindings : List (String × Option Json)}
    (h : (bindings.map Prod.fst).Nodup) (names : List String) (least : Nat) :
    structFields names least (.obj (written bindings)) = .ok (written bindings) :=
  structFields_obj (h.sublist (map_fst_written bindings)) names least

theorem RuntimeIssueState.deserialize_serialize (issue : RuntimeIssueState) :
    deserialize issue.serialize = .ok issue := by
  rw [deserialize, serialize, structFields_written (by simp), ok_bind]
  simp [field, lookup_written, List.lookup_cons]

theorem RuntimeTransition.deserialize_serialize (transition : RuntimeTransition) :
    deserialize transition.serialize = .ok transition := by
  rw [deserialize, serialize, structFields_written (by simp), ok_bind]
  simp [field, fieldOr, lookup_written, List.lookup_cons]

theorem RuntimeRetryState.deserialize_serialize (retry : RuntimeRetryState) :
    deserialize retry.serialize = .ok retry := by
  rw [deserialize, serialize, structFields_written (by simp), ok_bind]
  simp [field, lookup_written, List.lookup_cons]

theorem RuntimeStallState.deserialize_serialize (stall : RuntimeStallState) :
    deserialize stall.serialize = .ok stall := by
  rw [deserialize, serialize, structFields_written (by simp), ok_bind]
  simp [field, lookup_written, List.lookup_cons]

theorem RuntimeState.map_fst_bindings (state : RuntimeState) :
    state.bindings.map Prod.fst = fieldNames := rfl

theorem RuntimeState.nodup_bindings (state : RuntimeState) :
    (state.bindings.map Prod.fst).Nodup := by
  rw [map_fst_bindings]
  decide

theorem RuntimeState.deserialize_serialize (state : RuntimeState) :
    deserialize state.serialize = .ok state := by
  have htext : ∀ (name : String) (value : Option String),
      state.bindings.lookup name = some (some (optional .str value))
        ∨ state.bindings.lookup name = some (value.map .str) →
      fieldOr (written state.bindings) name none (decodeOption decodeString) = .ok value :=
    fun _ _ => fieldOr_written state.nodup_bindings decodeString_str nofun
  have hissue : fieldOr (written state.bindings) "active_issue" none
      (decodeOption RuntimeIssueState.deserialize) = .ok state.activeIssue :=
    fieldOr_written state.nodup_bindings RuntimeIssueState.deserialize_serialize
      (fun _ => obj_ne_null _) (Or.inl rfl)
  have hretry : fieldOr (written state.bindings) "retry" none
      (decodeOption RuntimeRetryState.deserialize) = .ok state.retry :=
    fieldOr_written state.nodup_bindings RuntimeRetryState.deserialize_serialize
      (fun _ => obj_ne_null _) (Or.inr rfl)
  have hstall : fieldOr (written state.bindings) "stall" none
      (decodeOption RuntimeStallState.deserialize) = .ok state.stall :=
    fieldOr_written state.nodup_bindings RuntimeStallState.deserialize_serialize
      (fun _ => obj_ne_null _) (Or.inr rfl)
  have htransition : fieldOr (written state.bindings) "last_transition" none
      (decodeOption RuntimeTransition.deserialize) = .ok state.lastTransition :=
    fieldOr_written state.nodup_bindings RuntimeTransition.deserialize_serialize
      (fun _ => obj_ne_null _) (Or.inl rfl)
  have hupdated : fieldOr (written state.bindings) "updated_at_ms" none (decodeOption decodeU64)
      = .ok state.updatedAtMs :=
    fieldOr_written state.nodup_bindings decodeU64_encodeU64 encodeU64_ne_null (Or.inr rfl)
  have hbackend : field (written state.bindings) "backend" decodeString = .ok state.backend :=
    (field_written state.nodup_bindings rfl decodeString).trans (decodeString_str _)
  have hattempts : field (written state.bindings) "attempt_count" decodeU32
      = .ok state.attemptCount :=
    (field_written state.nodup_bindings rfl decodeU32).trans (decodeU32_encodeU32 _)
  rw [deserialize, serialize, structFields_written state.nodup_bindings, ok_bind]
  simp only [hissue, hretry, hstall, htransition, hupdated, hbackend, hattempts,
    htext "workspace_path" state.workspacePath (Or.inl rfl),
    htext "branch_name" state.branchName (Or.inl rfl),
    htext "backend_session_id" state.backendSessionId (Or.inl rfl),
    htext "lane" state.lane (Or.inr rfl), htext "run_id" state.runId (Or.inr rfl),
    htext "backend_log_path" state.backendLogPath (Or.inr rfl),
    htext "backend_attach_command" state.backendAttachCommand (Or.inr rfl),
    htext "profile_id" state.profileId (Or.inr rfl),
    htext "instance_name" state.instanceName (Or.inr rfl),
    htext "actor_role" state.actorRole (Or.inr rfl),
    htext "actor_label" state.actorLabel (Or.inr rfl),
    htext "git_author" state.gitAuthor (Or.inr rfl),
    htext "last_event" state.lastEvent (Or.inl rfl), ok_bind]
  rfl

theorem RuntimeStateStore.deserialize_serialize (store : RuntimeStateStore) :
    deserialize store.serialize = .ok store := by
  rw [deserialize, serialize, structFields_written (by simp), ok_bind]
  simp [fieldOr, lookup_written, List.lookup_cons,
    decodeList_map RuntimeState.deserialize_serialize]

/-! ## Telling the documents apart -/

theorem get_written {bindings : List (String × Option Json)} (h : (bindings.map Prod.fst).Nodup)
    (name : String) : (Json.obj (written bindings)).get name = (bindings.lookup name).join := by
  rw [get_obj (h.sublist (map_fst_written bindings)), lookup_written h]

theorem RuntimeState.get_active_workers (state : RuntimeState) :
    state.serialize.get "active_workers" = none := by
  rw [serialize, get_written state.nodup_bindings]
  rfl

theorem RuntimeStateStore.get_active_workers (store : RuntimeStateStore) :
    store.serialize.get "active_workers"
      = some (.arr (store.activeWorkers.map RuntimeState.serialize)) := by
  rw [serialize, get_written (by simp)]
  rfl

end SheaSymphony.Runtime

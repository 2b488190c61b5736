import SheaSymphony.JsonText
import SheaSymphony.LineLog
import SheaSymphony.RuntimeState

/-!
# The event log

Every lane of every process appends its events to one file, and a reader takes the
file line by line. An append opens the file in append mode and formats the record and
a line feed onto it, which the unbuffered file receives as two writes. The log reads
back as what the processes appended exactly when no record is written between another
record and its line feed (`event_log_reads_back_iff`).
-/

namespace SheaSymphony.EventLog

open Json Interleaving LineLog Text
open SheaSymphony.Runtime (decodeU64 decodeU64_encodeU64 encodeU64 obj_ne_null structFields_written)

structure TrackerMutationAuditRecord where
  command : String
  mutationType : String
  issueRef : Option String
  target : Option String
  fromState : Option String
  toState : Option String
  reason : String
  timestampMs : UInt64
deriving DecidableEq

structure EventRecord where
  event : String
  issueId : Option String
  issueIdentifier : Option String
  sessionId : Option String
  profileId : Option String
  instanceName : Option String
  actorRole : Option String
  actorLabel : Option String
  gitAuthor : Option String
  trackerMutation : Option TrackerMutationAuditRecord
  message : String
deriving DecidableEq

/-! ## Documents -/

def TrackerMutationAuditRecord.bindings (record : TrackerMutationAuditRecord) :
    List (String × Option Json) :=
  [("command", some (.str record.command)),
    ("mutation_type", some (.str record.mutationType)),
    ("issue_ref", some (optional .str record.issueRef)),
    ("target", some (optional .str record.target)),
    ("from_state", some (optional .str record.fromState)),
    ("to_state", some (optional .str record.toState)),
    ("reason", some (.str record.reason)),
    ("timestamp_ms", some (encodeU64 record.timestampMs))]

def TrackerMutationAuditRecord.serialize (record : TrackerMutationAuditRecord) : Json :=
  .obj (written record.bindings)

def TrackerMutationAuditRecord.deserialize : Decoder TrackerMutationAuditRecord :=
  fun document => do
    let fields ← structFields
      ["command", "mutation_type", "issue_ref", "target", "from_state", "to_state", "reason",
        "timestamp_ms"] 8 document
    return {
      command := ← field fields "command" decodeString
      mutationType := ← field fields "mutation_type" decodeString
      issueRef := ← fieldOr fields "issue_ref" none (decodeOption decodeString)
      target := ← fieldOr fields "target" none (decodeOption decodeString)
      fromState := ← fieldOr fields "from_state" none (decodeOption decodeString)
      toState := ← fieldOr fields "to_state" none (decodeOption decodeString)
      reason := ← field fields "reason" decodeString
      timestampMs := ← field fields "timestamp_ms" decodeU64 }

/-- The bindings of a record; those that are skipped when absent are `none`. -/
def EventRecord.bindings (record : EventRecord) : List (String × Option Json) :=
  [("event", some (.str record.event)),
    ("issue_id", some (optional .str record.issueId)),
    ("issue_identifier", some (optional .str record.issueIdentifier)),
    ("session_id", some (optional .str record.sessionId)),
    ("profile_id", record.profileId.map .str),
    ("instance_name", record.instanceName.map .str),
    ("actor_role", record.actorRole.map .str),
    ("actor_label", record.actorLabel.map .str),
    ("git_author", record.gitAuthor.map .str),
    ("tracker_mutation", record.trackerMutation.map TrackerMutationAuditRecord.serialize),
    ("message", some (.str record.message))]

def EventRecord.serialize (record : EventRecord) : Json := .obj (written record.bindings)

def EventRecord.deserialize : Decoder EventRecord := fun document => do
  let fields ← structFields
    ["event", "issue_id", "issue_identifier", "session_id", "profile_id", "instance_name",
      "actor_role", "actor_label", "git_author", "tracker_mutation", "message"] 11 document
  return {
    event := ← field fields "event" decodeString
    issueId := ← fieldOr fields "issue_id" none (decodeOption decodeString)
    issueIdentifier := ← fieldOr fields "issue_identifier" none (decodeOption decodeString)
    sessionId := ← fieldOr fields "session_id" none (decodeOption decodeString)
    profileId := ← fieldOr fields "profile_id" none (decodeOption decodeString)
    instanceName := ← fieldOr fields "instance_name" none (decodeOption decodeString)
    actorRole := ← fieldOr fields "actor_role" none (decodeOption decodeString)
    actorLabel := ← fieldOr fields "actor_label" none (decodeOption decodeString)
    gitAuthor := ← fieldOr fields "git_author" none (decodeOption decodeString)
    trackerMutation := ←
      fieldOr fields "tracker_mutation" none (decodeOption TrackerMutationAuditRecord.deserialize)
    message := ← field fields "message" decodeString }

/-! ## Appending and reading -/

inductive EventLogError where
  | io
  | parseLine (line : Nat) (source : String)
deriving DecidableEq

/-- The text a record is written as. -/
def line (record : EventRecord) : String := render record.serialize

/-- The calls of one append, in order. -/
def append (record : EventRecord) : List (Call EventRecord) := [.create, .text record, .feed]

/-- What a call does to the file. -/
def call {P : Type*} (_ : P) (call : Call EventRecord) (content : Option String) : Option String :=
  match call with
  | .create => some (content.getD "")
  | .text record => some (content.getD "" ++ line record)
  | .feed => some (content.getD "" ++ "\n")

def fromStr (reader : Reader) (text : String) : Except String EventRecord :=
  match reader.parse text with
  | .error source => .error source
  | .ok document => (EventRecord.deserialize document).mapError reader.explain

def readRecords (reader : Reader) (content : Option String) :
    Except EventLogError (List EventRecord) :=
  match content with
  | none => .error .io
  | some text =>
      (readLines (fromStr reader) 0 (Text.lines text)).mapError fun (line, source) =>
        .parseLine line source

/-! ## What is written is read back -/

theorem TrackerMutationAuditRecord.nodup_bindings (record : TrackerMutationAuditRecord) :
    (record.bindings.map Prod.fst).Nodup := by
  simp [bindings]

theorem TrackerMutationAuditRecord.deserialize_serialize (record : TrackerMutationAuditRecord) :
    deserialize record.serialize = .ok record := by
  rw [deserialize, serialize, structFields_written record.nodup_bindings, Fallible.ok_bind]
  simp [field, fieldOr, lookup_written, bindings, List.lookup_cons]

theorem EventRecord.nodup_bindings (record : EventRecord) :
    (record.bindings.map Prod.fst).Nodup := by
  simp [bindings]

theorem EventRecord.deserialize_serialize (record : EventRecord) :
    deserialize record.serialize = .ok record := by
  have htext : ∀ (name : String) (value : Option String),
      record.bindings.lookup name = some (some (optional .str value))
        ∨ record.bindings.lookup name = some (value.map .str) →
      fieldOr (written record.bindings) name none (decodeOption decodeString) = .ok value :=
    fun _ _ => fieldOr_written record.nodup_bindings decodeString_str nofun
  have hmutation : fieldOr (written record.bindings) "tracker_mutation" none
      (decodeOption TrackerMutationAuditRecord.deserialize) = .ok record.trackerMutation :=
    fieldOr_written record.nodup_bindings TrackerMutationAuditRecord.deserialize_serialize
      (fun _ => obj_ne_null _) (Or.inr rfl)
  have hevent : field (written record.bindings) "event" decodeString = .ok record.event :=
    (field_written record.nodup_bindings rfl decodeString).trans (decodeString_str _)
  have hmessage : field (written record.bindings) "message" decodeString = .ok record.message :=
    (field_written record.nodup_bindings rfl decodeString).trans (decodeString_str _)
  rw [deserialize, serialize, structFields_written record.nodup_bindings, Fallible.ok_bind]
  simp only [hevent, hmutation, hmessage, htext "issue_id" record.issueId (Or.inl rfl),
    htext "issue_identifier" record.issueIdentifier (Or.inl rfl),
    htext "session_id" record.sessionId (Or.inl rfl),
    htext "profile_id" record.profileId (Or.inr rfl),
    htext "instance_name" record.instanceName (Or.inr rfl),
    htext "actor_role" record.actorRole (Or.inr rfl),
    htext "actor_label" record.actorLabel (Or.inr rfl),
    htext "git_author" record.gitAuthor (Or.inr rfl), Fallible.ok_bind]
  rfl

theorem isLine_written {bindings : List (String × Option Json)}
    (h : ∀ binding ∈ bindings, ∀ value, binding.2 = some value → Text.IsLine (render value)) :
    Text.IsLine (render (.obj (written bindings))) := by
  refine isLine_render_obj fun binding hbinding => ?_
  obtain ⟨⟨name, value⟩, hmem, hvalue⟩ := List.mem_filterMap.mp hbinding
  obtain ⟨present, hpresent, rfl⟩ := Option.map_eq_some_iff.mp hvalue
  exact h _ hmem present hpresent

theorem isLine_optional (value : Option String) : Text.IsLine (render (optional .str value)) := by
  cases value with
  | none => exact isLine_render_null
  | some value => exact isLine_render_str value

theorem isLine_some {value : Json} (h : Text.IsLine (render value)) :
    ∀ written, some value = some written → Text.IsLine (render written) :=
  fun _ heq => Option.some.inj heq ▸ h

theorem isLine_text (value : Option String) :
    ∀ written, value.map Json.str = some written → Text.IsLine (render written) := by
  intro written hwritten
  obtain ⟨text, -, rfl⟩ := Option.map_eq_some_iff.mp hwritten
  exact isLine_render_str text

theorem TrackerMutationAuditRecord.isLine_serialize (record : TrackerMutationAuditRecord) :
    Text.IsLine (render record.serialize) := by
  refine isLine_written ?_
  simp only [bindings, List.forall_mem_cons]
  exact ⟨isLine_some (isLine_render_str _), isLine_some (isLine_render_str _),
    isLine_some (isLine_optional _), isLine_some (isLine_optional _),
    isLine_some (isLine_optional _), isLine_some (isLine_optional _),
    isLine_some (isLine_render_str _), isLine_some (isLine_render_nat _), List.forall_mem_nil _⟩

theorem isLine_line (record : EventRecord) : Text.IsLine (line record) := by
  have hmutation : ∀ written,
      record.trackerMutation.map TrackerMutationAuditRecord.serialize = some written →
        Text.IsLine (render written) := by
    intro written hwritten
    obtain ⟨mutation, -, rfl⟩ := Option.map_eq_some_iff.mp hwritten
    exact mutation.isLine_serialize
  refine isLine_written ?_
  simp only [EventRecord.bindings, List.forall_mem_cons]
  exact ⟨isLine_some (isLine_render_str _), isLine_some (isLine_optional _),
    isLine_some (isLine_optional _), isLine_some (isLine_optional _), isLine_text _, isLine_text _,
    isLine_text _, isLine_text _, isLine_text _, hmutation, isLine_some (isLine_render_str _),
    List.forall_mem_nil _⟩

/-- The parser reads a document back from its text, and refuses the text where more
than whitespace follows it. -/
def Parses (reader : Reader) (document : Json) : Prop :=
  reader.parse (render document) = .ok document
    ∧ ∀ rest, Text.isBlank rest = false →
      ∃ source, reader.parse (render document ++ rest) = .error source

theorem framed {reader : Reader} {record : EventRecord} (h : Parses reader record.serialize) :
    Framed line (fromStr reader) record where
  line := isLine_line record
  ends := by
    obtain ⟨front, hfront⟩ := render_obj_suffix (written record.bindings)
    have hline : line record = front ++ "\x7d" := hfront
    exact ⟨'\x7d', by rw [hline]; simp, by decide⟩
  back := by
    rw [fromStr, line, h.1]
    show (EventRecord.deserialize record.serialize).mapError _ = _
    rw [EventRecord.deserialize_serialize]
    rfl
  alone rest hrest := by
    obtain ⟨source, hsource⟩ := h.2 rest hrest
    exact ⟨source, by rw [fromStr, line, hsource]⟩

/-! ## Concurrent appenders -/

section
variable {P : Type*} [DecidableEq P]

/-- The processes before their first append. -/
def processes (content : Option String) (threads : P → List EventRecord) :
    State P (Call EventRecord) (Option String) where
  shared := content
  rest p := (threads p).flatMap append

/-- The state a schedule of the processes' calls leads to. -/
def scheduled (content : Option String) (threads : P → List EventRecord) (schedule : List P) :
    State P (Call EventRecord) (Option String) :=
  Runs.run (step call) (processes content threads) schedule

/-- The log reads as the records of all processes, each process's in its order. -/
def ReadsBack (reader : Reader) (threads : P → List EventRecord) (content : Option String) : Prop :=
  ∃ order, readRecords reader content = .ok (order.map Prod.snd) ∧ Merges order threads

/-- Whenever a record's text is written, no record waits for its line feed. -/
def Unbroken (content : Option String) (threads : P → List EventRecord) (schedule : List P) :
    Prop :=
  Runs.Allowed (step call) Apart (processes content threads) schedule

omit [DecidableEq P] in
theorem call_eq : call (P := P) = writing line := by
  funext p c content
  cases c <;> rfl

theorem readRecords_eq_ok {reader : Reader} {content : Option String} {records : List EventRecord} :
    readRecords reader content = .ok records ↔
      ∃ text, content = some text ∧ readLines (fromStr reader) 0 (Text.lines text) = .ok records := by
  cases content with
  | none => simp [readRecords]
  | some text =>
      have hread : readRecords reader (some text) = .ok records ↔
          readLines (fromStr reader) 0 (lines text) = .ok records := by
        rw [readRecords]
        cases readLines (fromStr reader) 0 (lines text) <;>
          simp [Except.mapError]
      simp [hread]

theorem event_log_reads_back_iff {reader : Reader} {threads : P → List EventRecord}
    {content : Option String} {schedule : List P}
    (hreader : ∀ p, ∀ record ∈ threads p, Parses reader record.serialize)
    (hempty : content = none ∨ content = some "")
    (hdone : Finished (scheduled content threads schedule)) :
    ReadsBack reader threads (scheduled content threads schedule).shared ↔
      (content.isSome = true ∨ ∃ p, threads p ≠ []) ∧ Unbroken content threads schedule := by
  have hcontent : content.getD "" = "" := by
    rcases hempty with rfl | rfl <;> rfl
  rw [scheduled, call_eq] at hdone
  have hmerges := merges_iff hcontent (fun p record hrecord => framed (hreader p record hrecord)) hdone
  rw [Unbroken, scheduled, call_eq]
  refine Iff.trans ?_ hmerges
  constructor
  · rintro ⟨order, hread, horder⟩
    obtain ⟨text, htext, hlines⟩ := readRecords_eq_ok.mp hread
    exact ⟨text, order, htext, hlines, horder⟩
  · rintro ⟨text, order, htext, hlines, horder⟩
    exact ⟨order, readRecords_eq_ok.mpr ⟨text, htext, hlines⟩, horder⟩

end

/-! ## Two processes -/

def sampleRecord (message : String) : EventRecord where
  event := "dispatch"
  issueId := some "id"
  issueIdentifier := some "#1"
  sessionId := none
  profileId := none
  instanceName := none
  actorRole := none
  actorLabel := none
  gitAuthor := none
  trackerMutation := none
  message := message

def sampleThreads : Bool → List EventRecord
  | false => [sampleRecord "next"]
  | true => [sampleRecord "done"]

def sampleReader : Reader :=
  pairReader (sampleRecord "next").serialize (sampleRecord "done").serialize

theorem append_ne_of_byteLength {s t rest : String} (h : Text.byteLength s = Text.byteLength t)
    (hrest : Text.isBlank rest = false) : s ++ rest ≠ t := by
  intro heq
  have hbytes := congrArg byteLength heq
  rw [byteLength_append, h] at hbytes
  have hempty : rest = "" := String.utf8ByteSize_eq_zero_iff.mp (Nat.add_left_cancel hbytes)
  rw [hempty] at hrest
  exact absurd hrest (by decide)

theorem pairReader_parses {first second : Json}
    (hlength : Text.byteLength (render first) = Text.byteLength (render second))
    (hdiffer : render second ≠ render first) :
    Parses (pairReader first second) first ∧ Parses (pairReader first second) second := by
  refine ⟨⟨pairReader_first first second, fun rest hrest => ⟨"trailing characters", ?_⟩⟩,
    ⟨pairReader_second hdiffer, fun rest hrest => ⟨"trailing characters", ?_⟩⟩⟩
  · exact (if_neg (append_ne_of_byteLength rfl hrest)).trans
      (if_neg (append_ne_of_byteLength hlength hrest))
  · exact (if_neg (append_ne_of_byteLength hlength.symm hrest)).trans
      (if_neg (append_ne_of_byteLength rfl hrest))

/-- The fields of a sample record in front of its message. -/
def sampleFields : List String :=
  renderFields
    [("event", .str "dispatch"), ("issue_id", .str "id"), ("issue_identifier", .str "#1"),
      ("session_id", .null)]

theorem render_sampleRecord (message : String) :
    render (sampleRecord message).serialize =
      "\x7b" ++ (Text.join "," sampleFields ++ "," ++ (quote "message" ++ ":"))
        ++ (quote message ++ "\x7d") := by
  have hfields : renderFields (written (sampleRecord message).bindings) =
      sampleFields ++ [quote "message" ++ ":" ++ quote message] := rfl
  have hne : sampleFields ≠ [] := List.cons_ne_nil _ _
  rw [EventRecord.serialize, render_obj, hfields, join_append hne (List.cons_ne_nil _ []),
    join_singleton]
  simp only [String.append_assoc]

theorem sampleReader_parses (p : Bool) : ∀ record ∈ sampleThreads p,
    Parses sampleReader record.serialize := by
  have hlength : byteLength (render (sampleRecord "next").serialize) =
      byteLength (render (sampleRecord "done").serialize) := by
    have hmessage : byteLength (quote "next") = byteLength (quote "done") := by decide
    rw [render_sampleRecord, render_sampleRecord]
    simp only [byteLength_append, hmessage]
  have hdiffer : render (sampleRecord "done").serialize ≠ render (sampleRecord "next").serialize := by
    have hmessage : (quote "done" ++ "\x7d").toList ≠ (quote "next" ++ "\x7d").toList := by decide
    rw [render_sampleRecord, render_sampleRecord]
    generalize quote "done" ++ "\x7d" = done at hmessage ⊢
    generalize quote "next" ++ "\x7d" = next at hmessage ⊢
    intro heq
    have hlist := congrArg String.toList heq
    rw [String.toList_append, String.toList_append (t := next)] at hlist
    exact hmessage (List.append_cancel_left hlist)
  intro record hrecord
  cases p with
  | false => exact List.mem_singleton.mp hrecord ▸ (pairReader_parses hlength hdiffer).1
  | true => exact List.mem_singleton.mp hrecord ▸ (pairReader_parses hlength hdiffer).2

theorem event_log_reads_back_in_turn :
    ReadsBack sampleReader sampleThreads
      (scheduled none sampleThreads [false, false, false, true, true, true]).shared := by
  refine (event_log_reads_back_iff sampleReader_parses (Or.inl rfl) fun p => ?_).mpr
    ⟨Or.inr ⟨true, List.cons_ne_nil _ _⟩, ?_, ?_, ?_, ?_, ?_, ?_, trivial⟩
  · cases p <;> rfl
  all_goals
    rintro ⟨record, rest, hrest⟩ q ⟨later, hlater⟩
    cases q <;> first | (cases hlater; done) | cases hrest

/-- Both records are written before either line feed, on one line. -/
theorem event_log_glued :
    Finished (scheduled none sampleThreads [false, true, false, true, false, true])
      ∧ (∃ failure, readRecords sampleReader
          (scheduled none sampleThreads [false, true, false, true, false, true]).shared =
        .error failure)
      ∧ ¬ReadsBack sampleReader sampleThreads
        (scheduled none sampleThreads [false, true, false, true, false, true]).shared := by
  have hfile : (scheduled none sampleThreads [false, true, false, true, false, true]).shared =
      some ("" ++ line (sampleRecord "next") ++ line (sampleRecord "done") ++ "\n" ++ "\n") := rfl
  have hpage : "" ++ line (sampleRecord "next") ++ line (sampleRecord "done") ++ "\n" ++ "\n" =
      String.join ([[(false, sampleRecord "next"), (true, sampleRecord "done")], []].map
        fun items => lineText line items ++ "\n") := by
    simp only [List.map_cons, List.map_nil, lineText, String.join_cons, String.join_nil,
      String.append_assoc, String.empty_append, String.append_empty]
  have hframed : ∀ item ∈ [[(false, sampleRecord "next"), (true, sampleRecord "done")], []].flatten,
      Framed line (fromStr sampleReader) item.2 := by
    simp only [List.flatten_cons, List.flatten_nil, List.append_nil, List.forall_mem_cons]
    exact ⟨framed (sampleReader_parses false _ List.mem_cons_self),
      framed (sampleReader_parses true _ List.mem_cons_self), List.forall_mem_nil _⟩
  obtain ⟨failure, hfailure⟩ := readLines_glued hframed ⟨_, List.mem_cons_self, le_rfl⟩ 0
  have hread : readRecords sampleReader
      (scheduled none sampleThreads [false, true, false, true, false, true]).shared =
        .error (.parseLine failure.1 failure.2) := by
    rw [hfile, hpage, readRecords, lines_join hframed, hfailure]
    rfl
  refine ⟨fun p => by cases p <;> rfl, ⟨_, hread⟩, ?_⟩
  rintro ⟨order, hok, -⟩
  rw [hread] at hok
  cases hok

end SheaSymphony.EventLog

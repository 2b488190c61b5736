import SheaSymphony.QualityGate

/-!
# The semantic gate

`evaluate_issue_with_llm_gate` of `quality_gate.rs` behind the deterministic gate: the command of
the evaluator is run, its answer read as JSON (the reader is a parameter) and checked field by
field. Whatever the command does, the gate never opens what the deterministic one has closed, and
where it is required it opens for one kind of answer only (`semanticGate_failClosed`).
-/

namespace SheaSymphony.QualityGate

open Fallible

/-! ## The evaluator -/

structure LlmGateOptions where
  mode : LlmGateMode
  command : Option String
  timeoutMs : UInt64
deriving DecidableEq

/-- What becomes of the command; its output is read as text whatever bytes it has. -/
inductive LlmGateAnswer where
  | failed (error : String)
  | timedOut
  | exited (status : Option Int) (stdout stderr : String)
deriving DecidableEq

def parseGateKind (value : String) : Option GateDecisionKind :=
  if value = "Ready" then some .ready
  else if value = "ReadyWithAssumptions" then some .readyWithAssumptions
  else if value = "NeedToClarify" then some .needToClarify
  else if value = "TooBroad" then some .tooBroad
  else if value = "Blocked" then some .blocked
  else if value = "DuplicateAlreadyCovered" then some .duplicateAlreadyCovered
  else none

def strictString (key : String) (item : Json) (index : Nat) : Except String String :=
  Fallible.okOr (item.asStr.filter fun item => !Text.isBlank item)
    ("\x60" ++ key ++ "[" ++ toString index ++ "]\x60 must be a non-empty string")

def strictStringArray (value : Option Json) (key : String) : Except String (List String) := do
  let items ← Fallible.okOr (value.bind Json.asArray)
    ("\x60" ++ key ++ "\x60 must be an array of strings")
  items.zipIdx.mapM fun (item, index) => strictString key item index

def resultFields : List String := ["decision", "missing", "assumptions", "notes"]

/-- The lists fit the verdict. -/
def checkLists (kind : GateDecisionKind) (missing assumptions : List String) : Except String Unit :=
  match kind with
  | .ready =>
      Fallible.require (missing.isEmpty && assumptions.isEmpty)
        "contradictory Ready result contains missing items or assumptions"
  | .readyWithAssumptions =>
      Fallible.require (missing.isEmpty && !assumptions.isEmpty)
        "contradictory ReadyWithAssumptions result needs assumptions and no missing items"
  | _ =>
      Fallible.require (!missing.isEmpty)
        "non-ready semantic result must include at least one missing item"

def parseLlmGateResponse (fromStr : String → Except String Json) (raw : String) :
    Except String LlmGateReport := do
  let value ← (fromStr raw).mapError ("malformed JSON: " ++ ·)
  match value with
  | .obj fields =>
      match (fields.map Prod.fst).find? fun key => !resultFields.contains key with
      | some key => .error ("unsupported structured result field \x60" ++ key ++ "\x60")
      | none =>
          let decision ← Fallible.okOr ((value.get "decision").bind Json.asStr)
            "missing \x60decision\x60"
          let kind ← Fallible.okOr (parseGateKind decision)
            ("unsupported semantic gate decision \x60" ++ decision ++ "\x60")
          let missing ← strictStringArray (value.get "missing") "missing"
          let assumptions ← strictStringArray (value.get "assumptions") "assumptions"
          let notes ← strictStringArray (value.get "notes") "notes"
          checkLists kind missing assumptions
          return { kind, missing, assumptions, notes }
  | _ => .error "structured result must be a JSON object"

section
variable (fromStr : String → Except String Json) (options : LlmGateOptions) (answer : LlmGateAnswer)

def runLlmGateCommand : Except String LlmGateReport :=
  match options.command.filter fun command => !Text.isBlank command with
  | none => .error "command not configured"
  | some _ =>
      match answer with
      | .failed error => .error error
      | .timedOut => .error ("command timed out after " ++ toString options.timeoutMs.toNat ++ "ms")
      | .exited status stdout stderr =>
          if status = some 0 then parseLlmGateResponse fromStr stdout
          else .error ("command exited with status " ++ toString (status.getD (-1)) ++ ": "
            ++ Text.trim stderr)

def semanticGate (deterministic : GateDecision) : GateDecision :=
  evaluateIssueWithLlmGate deterministic options.mode (runLlmGateCommand fromStr options answer)

end

/-! ## Answers that open the gate -/

/-- The value is the list of these texts, none of them blank. -/
def IsStringArray (value : Option Json) (texts : List String) : Prop :=
  value = some (.arr (texts.map .str)) ∧ ∀ text ∈ texts, Text.isBlank text = false

/-- The answer has no other fields than a result has, its lists are lists of texts, and they fit a
verdict that is ready. -/
structure OpensGate (response : Json) : Prop where
  fields : ∃ fields, response = .obj fields ∧ ∀ key ∈ fields.map Prod.fst, key ∈ resultFields
  missing : IsStringArray (response.get "missing") []
  notes : ∃ notes, IsStringArray (response.get "notes") notes
  verdict : (response.get "decision" = some (.str "Ready")
      ∧ IsStringArray (response.get "assumptions") [])
    ∨ (response.get "decision" = some (.str "ReadyWithAssumptions")
      ∧ ∃ assumptions, assumptions ≠ [] ∧ IsStringArray (response.get "assumptions") assumptions)

theorem strictString_eq_ok_iff {key text : String} {item : Json} {index : Nat} :
    strictString key item index = .ok text ↔ item = .str text ∧ Text.isBlank text = false := by
  rw [strictString, okOr_eq_ok, Option.filter_eq_some_iff]
  cases item <;> simp [Json.asStr]

theorem asArray_eq_some {value : Json} {items : List Json} (h : value.asArray = some items) :
    value = .arr items := by
  cases value <;> cases h
  rfl

theorem asStr_eq_some {value : Json} {text : String} (h : value.asStr = some text) :
    value = .str text := by
  cases value <;> cases h
  rfl

theorem strictStringArray_eq_ok_iff {value : Option Json} {key : String} {texts : List String} :
    strictStringArray value key = .ok texts ↔ IsStringArray value texts := by
  have hitems : ∀ (items : List Json) (start : Nat) (texts : List String),
      (items.zipIdx start).mapM (fun (item, index) => strictString key item index) = .ok texts ↔
        items = texts.map .str ∧ ∀ text ∈ texts, Text.isBlank text = false := by
    intro items
    induction items with
    | nil =>
        intro start texts
        rw [List.zipIdx_nil, List.mapM_nil, pure_eq, Except.ok.injEq]
        constructor
        · rintro rfl
          exact ⟨rfl, nofun⟩
        · exact fun h => (List.map_eq_nil_iff.mp h.1.symm).symm
    | cons item items ih =>
        intro start texts
        rw [List.zipIdx_cons, List.mapM_cons]
        constructor
        · intro h
          obtain ⟨text, htext, h⟩ := bind_eq_ok h
          obtain ⟨rest, hrest, hout⟩ := bind_eq_ok h
          obtain rfl : text :: rest = texts := Except.ok.inj hout
          obtain ⟨rfl, hvisible⟩ := strictString_eq_ok_iff.mp htext
          obtain ⟨hlist, hall⟩ := (ih _ _).mp hrest
          refine ⟨congrArg (Json.str text :: ·) hlist, fun other hother => ?_⟩
          rcases List.mem_cons.mp hother with rfl | hother
          · exact hvisible
          · exact hall other hother
        · rintro ⟨hlist, hall⟩
          cases texts with
          | nil => cases hlist
          | cons text rest =>
              obtain ⟨rfl, hrest⟩ := List.cons.inj hlist
              show (do
                let text ← strictString key (.str text) start
                let rest ← (items.zipIdx (start + 1)).mapM fun (item, index) =>
                  strictString key item index
                return text :: rest) = _
              rw [strictString_eq_ok_iff.mpr ⟨rfl, hall text List.mem_cons_self⟩, ok_bind,
                (ih _ _).mpr ⟨hrest, fun other hother => hall other (List.mem_cons_of_mem _ hother)⟩]
              rfl
  rw [strictStringArray]
  constructor
  · intro h
    obtain ⟨items, harray, hrest⟩ := bind_eq_ok h
    obtain ⟨found, rfl, hfound⟩ := Option.bind_eq_some_iff.mp (okOr_eq_ok.mp harray)
    obtain ⟨rfl, hall⟩ := (hitems items 0 texts).mp hrest
    exact ⟨congrArg some (asArray_eq_some hfound), hall⟩
  · rintro ⟨rfl, hall⟩
    exact (hitems _ 0 texts).mpr ⟨rfl, hall⟩

theorem parseGateKind_eq_ready_iff {decision : String} :
    parseGateKind decision = some .ready ↔ decision = "Ready" := by
  unfold parseGateKind
  split
  · next h => simp [h]
  · next h =>
    simp only [h, iff_false]
    repeat' split
    all_goals exact nofun

theorem parseGateKind_eq_readyWithAssumptions_iff {decision : String} :
    parseGateKind decision = some .readyWithAssumptions ↔ decision = "ReadyWithAssumptions" := by
  unfold parseGateKind
  split
  · next h =>
    rw [h]
    decide
  · split
    · next h => simp [h]
    · next h =>
      simp only [h, iff_false]
      repeat' split
      all_goals exact nofun

theorem checkLists_opens_iff {kind : GateDecisionKind} {missing assumptions : List String}
    (notes : List String) :
    checkLists kind missing assumptions = .ok ()
        ∧ GateDecision.isDispatchable { kind, missing, assumptions, notes } = true ↔
      missing = [] ∧ (kind = .ready ∧ assumptions = []
        ∨ kind = .readyWithAssumptions ∧ assumptions ≠ []) := by
  cases kind <;> simp [checkLists, GateDecision.isDispatchable]

theorem parseLlmGateResponse_eq_ok_iff {fromStr : String → Except String Json} {raw : String}
    {report : LlmGateReport} : parseLlmGateResponse fromStr raw = .ok report ↔
      ∃ response, fromStr raw = .ok response
        ∧ (∃ fields, response = .obj fields ∧ ∀ key ∈ fields.map Prod.fst, key ∈ resultFields)
        ∧ (∃ decision, response.get "decision" = some (.str decision)
          ∧ parseGateKind decision = some report.kind)
        ∧ IsStringArray (response.get "missing") report.missing
        ∧ IsStringArray (response.get "assumptions") report.assumptions
        ∧ IsStringArray (response.get "notes") report.notes
        ∧ checkLists report.kind report.missing report.assumptions = .ok () := by
  constructor
  · intro h
    obtain ⟨response, hresponse, h⟩ := bind_eq_ok h
    have hread := mapError_eq_ok.mp hresponse
    split at h
    · next fields =>
      split at h
      · cases h
      · next hfields =>
        obtain ⟨decision, hdecision, h⟩ := bind_eq_ok h
        obtain ⟨kind, hkind, h⟩ := bind_eq_ok h
        obtain ⟨missing, hmissing, h⟩ := bind_eq_ok h
        obtain ⟨assumptions, hassumptions, h⟩ := bind_eq_ok h
        obtain ⟨notes, hnotes, h⟩ := bind_eq_ok h
        obtain ⟨⟨⟩, hlists, h⟩ := bind_eq_ok h
        obtain rfl := Except.ok.inj h
        obtain ⟨value, hvalue, htext⟩ := Option.bind_eq_some_iff.mp (okOr_eq_ok.mp hdecision)
        obtain rfl := asStr_eq_some htext
        refine ⟨_, hread, ⟨fields, rfl, fun key hkey => ?_⟩,
          ⟨decision, hvalue, okOr_eq_ok.mp hkind⟩, strictStringArray_eq_ok_iff.mp hmissing,
          strictStringArray_eq_ok_iff.mp hassumptions, strictStringArray_eq_ok_iff.mp hnotes, hlists⟩
        simpa using List.find?_eq_none.mp hfields key hkey
    · cases h
  · rintro ⟨_, hread, ⟨fields, rfl, hfields⟩, ⟨decision, hdecision, hkind⟩, hmissing, hassumptions,
      hnotes, hlists⟩
    have hnone : (fields.map Prod.fst).find? (fun key => !resultFields.contains key) = none :=
      List.find?_eq_none.mpr fun key hkey => by simpa using hfields key hkey
    rw [parseLlmGateResponse, hread]
    simp only [Except.mapError, ok_bind, hnone, hdecision, Option.bind_some, Json.asStr,
      okOr, hkind, strictStringArray_eq_ok_iff.mpr hmissing,
      strictStringArray_eq_ok_iff.mpr hassumptions, strictStringArray_eq_ok_iff.mpr hnotes, hlists]
    rfl

theorem parseLlmGateResponse_opens_iff (fromStr : String → Except String Json) (raw : String) :
    (∃ report, parseLlmGateResponse fromStr raw = .ok report ∧ report.isDispatchable = true) ↔
      ∃ response, fromStr raw = .ok response ∧ OpensGate response := by
  constructor
  · rintro ⟨report, hreport, hopens⟩
    obtain ⟨response, hread, hfields, ⟨decision, hdecision, hkind⟩, hmissing, hassumptions, hnotes,
      hlists⟩ := parseLlmGateResponse_eq_ok_iff.mp hreport
    obtain ⟨hnone, hverdict⟩ := (checkLists_opens_iff report.notes).mp ⟨hlists, hopens⟩
    refine ⟨response, hread, ⟨hfields, hnone ▸ hmissing, ⟨_, hnotes⟩, ?_⟩⟩
    rcases hverdict with ⟨hready, hempty⟩ | ⟨hready, hsome⟩
    · rw [hready, parseGateKind_eq_ready_iff] at hkind
      exact Or.inl ⟨hkind ▸ hdecision, hempty ▸ hassumptions⟩
    · rw [hready, parseGateKind_eq_readyWithAssumptions_iff] at hkind
      exact Or.inr ⟨hkind ▸ hdecision, _, hsome, hassumptions⟩
  · rintro ⟨response, hread, hopens⟩
    obtain ⟨notes, hnotes⟩ := hopens.notes
    rcases hopens.verdict with ⟨hdecision, hassumptions⟩ | ⟨hdecision, assumptions, hsome, hassumptions⟩
    · exact ⟨{ kind := .ready, missing := [], assumptions := [], notes },
        parseLlmGateResponse_eq_ok_iff.mpr ⟨response, hread, hopens.fields,
          ⟨_, hdecision, parseGateKind_eq_ready_iff.mpr rfl⟩, hopens.missing, hassumptions, hnotes,
          rfl⟩, rfl⟩
    · refine ⟨{ kind := .readyWithAssumptions, missing := [], assumptions, notes },
        parseLlmGateResponse_eq_ok_iff.mpr ⟨response, hread, hopens.fields,
          ⟨_, hdecision, parseGateKind_eq_readyWithAssumptions_iff.mpr rfl⟩, hopens.missing,
          hassumptions, hnotes, ?_⟩, rfl⟩
      exact ((checkLists_opens_iff notes).mpr ⟨rfl, Or.inr ⟨rfl, hsome⟩⟩).1

theorem runLlmGateCommand_eq_ok_iff (fromStr : String → Except String Json)
    (options : LlmGateOptions) (answer : LlmGateAnswer) (report : LlmGateReport) :
    runLlmGateCommand fromStr options answer = .ok report ↔
      (∃ command, options.command = some command ∧ Text.isBlank command = false)
        ∧ ∃ stdout stderr, answer = .exited (some 0) stdout stderr
          ∧ parseLlmGateResponse fromStr stdout = .ok report := by
  unfold runLlmGateCommand
  cases hcommand : options.command.filter fun command => !Text.isBlank command with
  | none =>
      have hblank := Option.filter_eq_none_iff.mp hcommand
      refine ⟨nofun, ?_⟩
      rintro ⟨⟨command, hgiven, hvisible⟩, -⟩
      exact absurd (by simpa using hvisible) (hblank command hgiven)
  | some command =>
      obtain ⟨hgiven, hvisible⟩ := Option.filter_eq_some_iff.mp hcommand
      have hconfigured : ∃ command, options.command = some command ∧ Text.isBlank command = false :=
        ⟨command, hgiven, by simpa using hvisible⟩
      rw [and_iff_right hconfigured]
      cases answer with
      | failed error => exact ⟨nofun, fun ⟨_, _, h, _⟩ => nomatch h⟩
      | timedOut => exact ⟨nofun, fun ⟨_, _, h, _⟩ => nomatch h⟩
      | exited status stdout stderr =>
          show (if status = some 0 then _ else _) = _ ↔ _
          split
          · next hzero =>
            constructor
            · exact fun h => ⟨stdout, stderr, hzero ▸ rfl, h⟩
            · rintro ⟨_, _, h, hparse⟩
              cases h
              exact hparse
          · next hnonzero =>
            refine ⟨nofun, ?_⟩
            rintro ⟨_, _, h, -⟩
            cases h
            exact absurd rfl hnonzero

/-! ## The gate -/

/-- What the gate makes of a decision of the deterministic one. -/
structure FailsClosed (fromStr : String → Except String Json) (options : LlmGateOptions)
    (answer : LlmGateAnswer) (deterministic : GateDecision) : Prop where
  monotone : (semanticGate fromStr options answer deterministic).isDispatchable = true →
    deterministic.isDispatchable = true
  required : options.mode = .required →
    ((semanticGate fromStr options answer deterministic).isDispatchable = true ↔
      deterministic.isDispatchable = true
        ∧ (∃ command, options.command = some command ∧ Text.isBlank command = false)
        ∧ ∃ stdout stderr response, answer = .exited (some 0) stdout stderr
          ∧ fromStr stdout = .ok response ∧ OpensGate response)
  kind : options.mode ≠ .required →
    (semanticGate fromStr options answer deterministic).kind = deterministic.kind

theorem semanticGate_kind_of_closed {deterministic : GateDecision}
    (h : deterministic.isDispatchable = false) (fromStr : String → Except String Json)
    (options : LlmGateOptions) (answer : LlmGateAnswer) :
    (semanticGate fromStr options answer deterministic).kind = deterministic.kind := by
  unfold semanticGate evaluateIssueWithLlmGate
  rw [h, Bool.not_false, if_pos rfl]
  split <;> rfl

theorem semanticGate_of_open {deterministic : GateDecision}
    (h : deterministic.isDispatchable = true) (fromStr : String → Except String Json)
    (options : LlmGateOptions) (answer : LlmGateAnswer) :
    semanticGate fromStr options answer deterministic =
      match options.mode, runLlmGateCommand fromStr options answer with
      | .disabled, _ => deterministic
      | .advisory, .ok report => advisoryDecision deterministic report
      | .advisory, .error error =>
          { deterministic with
            notes := deterministic.notes ++ ["Semantic advisory gate unavailable: " ++ error] }
      | .required, .ok report => report
      | .required, .error error =>
          { kind := .needToClarify
            missing := ["required template-led semantic quality result"]
            assumptions := deterministic.assumptions
            notes := ["Required semantic quality gate failed: " ++ error] } := by
  unfold semanticGate evaluateIssueWithLlmGate
  exact if_neg (by rw [h]; exact Bool.false_ne_true)

theorem semanticGate_failClosed (fromStr : String → Except String Json) (options : LlmGateOptions)
    (answer : LlmGateAnswer) (deterministic : GateDecision) :
    FailsClosed fromStr options answer deterministic := by
  have hkinds : ∀ {decision other : GateDecision}, decision.kind = other.kind →
      decision.isDispatchable = other.isDispatchable := by
    intro decision other hkind
    rw [GateDecision.isDispatchable, hkind]
    rfl
  have hmonotone : (semanticGate fromStr options answer deterministic).isDispatchable = true →
      deterministic.isDispatchable = true := by
    intro h
    cases hdispatch : deterministic.isDispatchable with
    | true => rfl
    | false =>
        rw [hkinds (semanticGate_kind_of_closed hdispatch fromStr options answer), hdispatch] at h
        cases h
  refine ⟨hmonotone, fun hmode => ?_, fun hmode => ?_⟩
  · constructor
    · intro h
      have hdispatch := hmonotone h
      refine ⟨hdispatch, ?_⟩
      rw [semanticGate_of_open hdispatch, hmode] at h
      cases hrun : runLlmGateCommand fromStr options answer with
      | error error =>
          rw [hrun] at h
          cases h
      | ok report =>
          rw [hrun] at h
          obtain ⟨hcommand, stdout, stderr, rfl, hparse⟩ :=
            (runLlmGateCommand_eq_ok_iff fromStr options answer report).mp hrun
          obtain ⟨response, hread, hopens⟩ :=
            (parseLlmGateResponse_opens_iff fromStr stdout).mp ⟨report, hparse, h⟩
          exact ⟨hcommand, stdout, stderr, response, rfl, hread, hopens⟩
    · rintro ⟨hdispatch, hcommand, stdout, stderr, response, rfl, hread, hopens⟩
      obtain ⟨report, hparse, hreport⟩ :=
        (parseLlmGateResponse_opens_iff fromStr stdout).mpr ⟨response, hread, hopens⟩
      rw [semanticGate_of_open hdispatch, hmode, (runLlmGateCommand_eq_ok_iff fromStr options _ report).mpr
          ⟨hcommand, stdout, stderr, rfl, hparse⟩]
      exact hreport
  · cases hdispatch : deterministic.isDispatchable with
    | false => exact semanticGate_kind_of_closed hdispatch fromStr options answer
    | true =>
        rw [semanticGate_of_open hdispatch]
        cases hoptions : options.mode with
        | disabled => rfl
        | advisory => cases runLlmGateCommand fromStr options answer <;> rfl
        | required => exact absurd hoptions hmode

/-- A verdict without notes. -/
def bareVerdict : Json :=
  .obj [("decision", .str "Ready"), ("missing", .arr []), ("assumptions", .arr [])]

def requiredOptions : LlmGateOptions where
  mode := .required
  command := some "gate"
  timeoutMs := 1000

/-- The verdict is ready, nothing is missing or assumed, and the gate stays closed. -/
theorem bareVerdict_closes :
    bareVerdict.get "decision" = some (.str "Ready")
      ∧ IsStringArray (bareVerdict.get "missing") []
      ∧ IsStringArray (bareVerdict.get "assumptions") []
      ∧ GateDecision.ready.isDispatchable = true
      ∧ (semanticGate (fun _ => .ok bareVerdict) requiredOptions (.exited (some 0) "\x7b\x7d" "")
        .ready).isDispatchable = false :=
  ⟨rfl, ⟨rfl, nofun⟩, ⟨rfl, nofun⟩, rfl, by decide⟩

end SheaSymphony.QualityGate

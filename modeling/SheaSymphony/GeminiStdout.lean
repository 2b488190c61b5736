import SheaSymphony.ReviewEvidence

/-!
# The envelope in a reviewer's output

`parse_gemini_stdout` of `review.rs` looks for a JSON object in what the reviewer has
printed: at each brace, in turn, it reads a value off the front of what is left. The first
value that can be read ends the search, so an object without a response hides the envelope
behind it (`extractsEnvelope_iff`).
-/

namespace SheaSymphony.Review

/-- The reader of JSON values off the front of a text. A value takes its strings from the
text, between quotes at least. -/
structure JsonPrefixReader where
  read : String → Option Json
  shorter : ∀ {text value name field}, read text = some value →
    (value.get name).bind Json.asStr = some field → field.toList.length < text.toList.length

/-! ## Slices of a text -/

/-- `char_indices`, from the byte on. -/
def charIndices : Nat → List Char → List (Nat × Char)
  | _, [] => []
  | start, c :: s => (start, c) :: charIndices (start + c.utf8Size) s

/-- `&text[start..]`; a slice that begins inside a character panics. -/
def sliceFrom : Nat → List Char → Option (List Char)
  | 0, s => some s
  | _ + 1, [] => none
  | start + 1, c :: s =>
      if c.utf8Size ≤ start + 1 then sliceFrom (start + 1 - c.utf8Size) s else none

theorem sliceFrom_append (front rest : List Char) :
    sliceFrom (String.utf8Len front) (front ++ rest) = some rest := by
  induction front with
  | nil => cases rest <;> rfl
  | cons c front ih =>
      have hpos : 0 < c.utf8Size := c.utf8Size_pos
      obtain ⟨start, hstart⟩ : ∃ start, String.utf8Len (c :: front) = start + 1 :=
        ⟨String.utf8Len front + c.utf8Size - 1, by simp only [String.utf8Len_cons]; omega⟩
      rw [hstart, List.cons_append, sliceFrom, ← hstart, String.utf8Len_cons,
        if_pos (by omega), Nat.add_sub_cancel]
      exact ih

/-! ## The search -/

structure ParsedGeminiStdout where
  response : String
  sessionId : Option String
deriving DecidableEq

section
variable (reader : JsonPrefixReader)

/-- The outer `none` is a panic of a slice. -/
def extractEnvelopeFrom (stdout : String) : List (Nat × Char) → Option (Option Json)
  | [] => some none
  | (start, c) :: rest =>
      if c ≠ '{' then extractEnvelopeFrom stdout rest
      else do
        let text ← sliceFrom start stdout.toList
        match reader.read (String.ofList text) with
        | some value => return some value
        | none => extractEnvelopeFrom stdout rest

def extractGeminiJsonEnvelope (stdout : String) : Option (Option Json) :=
  extractEnvelopeFrom reader stdout (charIndices 0 stdout.toList)

def stringField (name : String) (value : Json) : Option String := (value.get name).bind Json.asStr

def envelopeContent (value : Json) : Option ParsedGeminiStdout := do
  let response ← stringField "response" value
  return { response, sessionId := stringField "session_id" value }

def parseGeminiStdout (stdout : String) : Option ParsedGeminiStdout :=
  (extractGeminiJsonEnvelope reader stdout).map fun value =>
    (value.bind envelopeContent).getD { response := stdout, sessionId := none }

/-! ## Objects in the output -/

/-- A value that is read at a brace behind `front`. -/
def ObjectAt (text front : List Char) (value : Json) : Prop :=
  ∃ rest, text = front ++ '{' :: rest
    ∧ reader.read (String.ofList ('{' :: rest)) = some value

/-- The first one that has what is asked for. -/
structure FirstAt (asked : Json → Prop) (text front : List Char) (value : Json) : Prop where
  object : ObjectAt reader text front value
  meets : asked value
  first : ∀ earlier other, ObjectAt reader text earlier other → asked other →
    front.length ≤ earlier.length

def HasResponse (value : Json) : Prop := (stringField "response" value).isSome = true

/-- The output is read without a panic, and gives the content of the first object with a
response, where there is one. -/
def ExtractsEnvelope (stdout : String) : Prop :=
  ∃ parsed, parseGeminiStdout reader stdout = some parsed
    ∧ ∀ front value, FirstAt reader HasResponse stdout.toList front value →
      some parsed = envelopeContent value

variable {reader}

variable (reader) in
theorem extractEnvelopeFrom_eq (front rest : List Char) :
    extractEnvelopeFrom reader (String.ofList (front ++ rest))
        (charIndices (String.utf8Len front) rest)
      = some ((rest.tails.filter fun tail => tail.head? = some '{').findSome? fun tail =>
          reader.read (String.ofList tail)) := by
  induction rest generalizing front with
  | nil => rfl
  | cons c rest ih =>
      have hnext := ih (front ++ [c])
      have hlength : String.utf8Len (front ++ [c]) = String.utf8Len front + c.utf8Size := by
        simp
      rw [hlength, List.append_assoc, List.singleton_append] at hnext
      rw [charIndices, extractEnvelopeFrom, List.tails_cons]
      by_cases hbrace : c = '{'
      · subst hbrace
        rw [if_neg (not_not.mpr rfl), String.toList_ofList, sliceFrom_append,
          List.filter_cons_of_pos (by simp), List.findSome?_cons]
        simp only [Option.bind_eq_bind, Option.bind_some]
        cases hread : reader.read (String.ofList ('{' :: rest)) with
        | some value => rfl
        | none => exact hnext
      · rw [if_pos hbrace, List.filter_cons_of_neg (by simpa using hbrace)]
        exact hnext

/-- No slice panics, whatever the output: the search is that of the tails that begin with a
brace. -/
theorem extractGeminiJsonEnvelope_eq (reader : JsonPrefixReader) (stdout : String) :
    extractGeminiJsonEnvelope reader stdout
      = some ((stdout.toList.tails.filter fun tail => tail.head? = some '{').findSome? fun tail =>
          reader.read (String.ofList tail)) := by
  have h := extractEnvelopeFrom_eq reader [] stdout.toList
  rwa [List.nil_append, String.ofList_toList] at h

/-! ## The first object -/

theorem ObjectAt.functional {text front : List Char} {value other : Json}
    (h : ObjectAt reader text front value) (hother : ObjectAt reader text front other) :
    value = other := by
  obtain ⟨rest, rfl, hread⟩ := h
  obtain ⟨rest', htext, hread'⟩ := hother
  rw [List.append_cancel_left htext] at hread
  exact Option.some.inj (hread.symm.trans hread')

theorem objectAt_cons_iff {c d : Char} {text front : List Char} {value : Json} :
    ObjectAt reader (c :: text) (d :: front) value ↔ c = d ∧ ObjectAt reader text front value := by
  constructor
  · rintro ⟨rest, htext, hread⟩
    obtain ⟨hchar, htext'⟩ := List.cons.inj htext
    exact ⟨hchar, rest, htext', hread⟩
  · rintro ⟨rfl, rest, rfl, hread⟩
    exact ⟨rest, rfl, hread⟩

theorem ObjectAt.eq_of_length {text front earlier : List Char} {value other : Json}
    (h : ObjectAt reader text front value) (hother : ObjectAt reader text earlier other)
    (hlength : front.length = earlier.length) : front = earlier := by
  obtain ⟨rest, htext, -⟩ := h
  obtain ⟨rest', htext', -⟩ := hother
  exact (List.append_inj (htext.symm.trans htext') hlength).1

variable (reader) in
theorem findSome?_tails (text : List Char) :
    match (text.tails.filter fun tail => tail.head? = some '{').findSome? fun tail =>
      reader.read (String.ofList tail) with
    | some value => ∃ front, FirstAt reader (fun _ => True) text front value
    | none => ∀ front value, ¬ ObjectAt reader text front value := by
  induction text with
  | nil =>
      rintro front value ⟨rest, htext, -⟩
      exact absurd htext.symm (by simp)
  | cons c text ih =>
      rw [List.tails_cons]
      -- the rest of the tails, where nothing is read at the front
      have hlater : (∀ value, ¬ ObjectAt reader (c :: text) [] value) →
          match (text.tails.filter fun tail => tail.head? = some '{').findSome? fun tail =>
            reader.read (String.ofList tail) with
          | some value => ∃ front, FirstAt reader (fun _ => True) (c :: text) front value
          | none => ∀ front value, ¬ ObjectAt reader (c :: text) front value := by
        intro hnone
        revert ih
        cases (text.tails.filter fun tail => tail.head? = some '{').findSome? fun tail =>
          reader.read (String.ofList tail) with
        | none =>
            intro ih front value h
            cases front with
            | nil => exact hnone value h
            | cons d front => exact ih front value (objectAt_cons_iff.mp h).2
        | some value =>
            rintro ⟨front, hfront⟩
            refine ⟨c :: front, objectAt_cons_iff.mpr ⟨rfl, hfront.object⟩, trivial, ?_⟩
            intro earlier other h _
            cases earlier with
            | nil => exact absurd h (hnone other)
            | cons d earlier =>
                exact Nat.succ_le_succ (hfront.first earlier other (objectAt_cons_iff.mp h).2 trivial)
      by_cases hbrace : c = '{'
      · subst hbrace
        rw [List.filter_cons_of_pos (by simp), List.findSome?_cons]
        cases hread : reader.read (String.ofList ('{' :: text)) with
        | some value =>
            exact ⟨[], ⟨text, rfl, hread⟩, trivial, fun _ _ _ _ => Nat.zero_le _⟩
        | none =>
            refine hlater fun value h => ?_
            obtain ⟨rest, htext, hvalue⟩ := h
            obtain ⟨-, rfl⟩ := List.cons.inj htext
            cases hread.symm.trans hvalue
      · rw [List.filter_cons_of_neg (by simpa using hbrace)]
        refine hlater fun value h => ?_
        obtain ⟨rest, htext, -⟩ := h
        exact hbrace (List.cons.inj htext).1

theorem parseGeminiStdout_eq (reader : JsonPrefixReader) (stdout : String) :
    (∃ front value, FirstAt reader (fun _ => True) stdout.toList front value
        ∧ parseGeminiStdout reader stdout
          = some ((envelopeContent value).getD { response := stdout, sessionId := none }))
      ∨ (∀ front value, ¬ ObjectAt reader stdout.toList front value)
        ∧ parseGeminiStdout reader stdout = some { response := stdout, sessionId := none } := by
  have hfound := findSome?_tails reader stdout.toList
  rw [parseGeminiStdout, extractGeminiJsonEnvelope_eq, Option.map_some]
  cases hsearch : (stdout.toList.tails.filter fun tail => tail.head? = some '{').findSome? fun tail =>
      reader.read (String.ofList tail) with
  | none =>
      rw [hsearch] at hfound
      exact Or.inr ⟨hfound, rfl⟩
  | some value =>
      rw [hsearch] at hfound
      obtain ⟨front, hfront⟩ := hfound
      exact Or.inl ⟨front, value, hfront, rfl⟩

theorem envelopeContent_ne {text front : List Char} {value : Json}
    (h : ObjectAt reader text front value) {sessionId : Option String} :
    envelopeContent value ≠ some { response := String.ofList text, sessionId } := by
  intro heq
  obtain ⟨response, hresponse, hcontent⟩ := Option.bind_eq_some_iff.mp heq
  obtain ⟨rfl, -⟩ := ParsedGeminiStdout.mk.inj (Option.some.inj hcontent)
  obtain ⟨rest, rfl, hread⟩ := h
  have hshorter := reader.shorter hread hresponse
  simp only [String.toList_ofList, List.length_append] at hshorter
  omega

/-- The envelope is found exactly where no object without a response stands in front of
it. -/
theorem extractsEnvelope_iff (reader : JsonPrefixReader) (stdout : String) :
    ExtractsEnvelope reader stdout ↔
      ∀ front value, FirstAt reader HasResponse stdout.toList front value →
        ∀ earlier other, ObjectAt reader stdout.toList earlier other →
          front.length ≤ earlier.length := by
  have hcontent : ∀ value, HasResponse value ↔ (envelopeContent value).isSome = true := by
    intro value
    rw [HasResponse, envelopeContent]
    cases stringField "response" value <;> simp
  rcases parseGeminiStdout_eq reader stdout with ⟨front, value, hfirst, hparse⟩ | ⟨hnone, hparse⟩
  · constructor
    · rintro ⟨parsed, hparsed, henvelope⟩ found envelope hfound earlier other hearlier
      obtain rfl := Option.some.inj (hparse.symm.trans hparsed)
      have hresponse : HasResponse value := by
        by_contra hmissing
        rw [hcontent, Option.isSome_iff_ne_none, not_not] at hmissing
        have hraw := henvelope found envelope hfound
        rw [hmissing, Option.getD_none] at hraw
        exact envelopeContent_ne hfound.object (by rw [String.ofList_toList]; exact hraw.symm)
      exact (hfound.first front value hfirst.object hresponse).trans
        (hfirst.first earlier other hearlier trivial)
    · intro h
      refine ⟨_, hparse, fun found envelope hfound => ?_⟩
      have hlength : front.length = found.length :=
        le_antisymm (hfirst.first found envelope hfound.object trivial)
          (h found envelope hfound front value hfirst.object)
      obtain rfl := hfirst.object.eq_of_length hfound.object hlength
      obtain rfl := hfirst.object.functional hfound.object
      obtain ⟨content, hsome⟩ := Option.isSome_iff_exists.mp ((hcontent value).mp hfound.meets)
      rw [hsome, Option.getD_some]
  · constructor
    · exact fun _ found envelope hfound => absurd hfound.object (hnone found envelope)
    · exact fun _ => ⟨_, hparse, fun found envelope hfound =>
        absurd hfound.object (hnone found envelope)⟩

end

/-! ## An object in the log -/

theorem get_single (name bound : String) (value : Json) :
    (Json.obj [(bound, value)]).get name = if name = bound then some value else none := by
  rw [Json.get, List.reverse_singleton, List.lookup_cons, List.lookup_nil]
  by_cases hname : name = bound
  · simp [hname]
  · simp [hname, beq_eq_false_iff_ne.mpr hname]

def loggedEnvelope : String := "\x7b\"response\":\"ok\"\x7d"

/-- A line of log, and the envelope behind it. -/
def loggedStdout : String := "\x7b\"a\":1\x7d " ++ loggedEnvelope

/-- What the reader gives for them. -/
def readLogged (text : String) : Option Json :=
  if text = loggedStdout then some (.obj [("a", .int 1)])
  else if text = loggedEnvelope then some (.obj [("response", .str "ok")])
  else none

theorem readLogged_stdout : readLogged loggedStdout = some (.obj [("a", .int 1)]) := by
  rw [readLogged, if_pos rfl]

theorem readLogged_envelope :
    readLogged loggedEnvelope = some (.obj [("response", .str "ok")]) := by
  rw [readLogged, if_neg (by decide), if_pos rfl]

def loggedReader : JsonPrefixReader where
  read := readLogged
  shorter := by
    intro text value name field hread hfield
    unfold readLogged at hread
    split at hread
    · cases hread
      rw [get_single] at hfield
      split at hfield <;> cases hfield
    · split at hread
      · next htext =>
        cases hread
        rw [get_single] at hfield
        split at hfield
        · cases hfield
          rw [htext]
          decide
        · cases hfield
      · cases hread

/-- The object of the log is read, and the output is taken as it is. -/
theorem logged_object_hides_envelope : ¬ ExtractsEnvelope loggedReader loggedStdout := by
  rw [extractsEnvelope_iff]
  intro h
  have hlog : ObjectAt loggedReader loggedStdout.toList [] (.obj [("a", .int 1)]) :=
    ⟨loggedStdout.toList.tail, by decide, readLogged_stdout⟩
  have hfirst : FirstAt loggedReader HasResponse loggedStdout.toList "\x7b\"a\":1\x7d ".toList
      (.obj [("response", .str "ok")]) := by
    refine ⟨⟨loggedEnvelope.toList.tail, by decide, readLogged_envelope⟩, rfl, ?_⟩
    rintro earlier other ⟨rest, htext, hread⟩ hother
    simp only [loggedReader, readLogged] at hread
    split at hread
    · cases hread
      cases hother
    · split at hread
      · next henvelope =>
        have hlength := congrArg List.length htext
        rw [List.length_append, ← String.toList_ofList (l := '{' :: rest), henvelope] at hlength
        have hlog : loggedStdout.toList.length = 25 := by decide
        have hrest : loggedEnvelope.toList.length = 17 := by decide
        have hfront : "\x7b\"a\":1\x7d ".toList.length = 8 := by decide
        omega
      · cases hread
  exact absurd (h _ _ hfirst _ _ hlog) (by decide)

end SheaSymphony.Review

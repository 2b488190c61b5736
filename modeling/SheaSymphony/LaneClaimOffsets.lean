import SheaSymphony.GeminiStdout
import SheaSymphony.Truncation

/-!
# The claim scanner's byte offsets

`parse_claim_tokens` of `lane_claim.rs` walks the text with its byte offsets and cuts what it
refuses out of the text between two of them. The walk here is that one, with a bound on the turns
of its loop and an outcome for a cut that panics; neither is ever met
(`Indexed.parse_eq`), so what is known of the scanner of characters is known of it.
-/

namespace SheaSymphony.Lanes

open Fallible
open Review (charIndices sliceFrom sliceFrom_append)

variable {input : String} {start : List Char}

namespace Indexed

/-- `Peekable<CharIndices>`: what is left to read, each character with its offset. -/
abbrev Cursor := List (Nat × Char)

/-- Why a scan gives no tokens. -/
inductive Failure where
  | endless
  | panicked
  | refused (error : LaneClaimParseError)
deriving DecidableEq

/-- `&input[start..stop]`; none where it panics. -/
def slice (input : String) (start stop : Nat) : Option String := do
  let front ← Text.sliceTo stop input
  let cut ← sliceFrom start front.toList
  return String.ofList cut

def invalidTokenSlice (input : String) (tokenStart tokenEnd : Nat) : Failure :=
  match slice input tokenStart tokenEnd with
  | some token => .refused (.invalidToken token)
  | none => .panicked

def invalidTokenFrom (input : String) (tokenStart : Nat) (cursor : Cursor) : Failure :=
  invalidTokenSlice input tokenStart (cursor.head?.elim (Text.byteLength input) Prod.fst)

def parseClaimKey (input : String) (tokenStart : Nat) :
    Cursor → Except Failure (List Char × Cursor)
  | [] => .ok ([], [])
  | (index, c) :: rest =>
      if c = '=' then .ok ([], rest)
      else if Text.isWhitespace c then
        .error (invalidTokenFrom input tokenStart ((index, c) :: rest))
      else do
        let (key, rest) ← parseClaimKey input tokenStart rest
        return (c :: key, rest)

/-- The text up to its closing quote; none when it is never closed, or ends behind a
backslash. -/
def scanQuoted : Cursor → Option (List Char × Cursor)
  | [] => none
  | [(_, c)] => if c = '"' then some ([], []) else none
  | (_, c) :: (index, next) :: rest =>
      if c = '"' then some ([], (index, next) :: rest)
      else if c = '\\' then
        (scanQuoted rest).map fun (value, rest) => (unescapeClaimChar next :: value, rest)
      else (scanQuoted ((index, next) :: rest)).map fun (value, rest) => (c :: value, rest)

def parseQuotedClaimValue (input : String) (tokenStart : Nat) (cursor : Cursor) :
    Except Failure (List Char × Cursor) := do
  let (value, rest) ← Fallible.okOr (scanQuoted cursor)
    (invalidTokenSlice input tokenStart (Text.byteLength input))
  Fallible.require (rest.head?.all fun (_, c) => Text.isWhitespace c)
    (invalidTokenFrom input tokenStart rest)
  return (value, rest)

def parseUnquotedClaimValue : Cursor → List Char × Cursor
  | [] => ([], [])
  | (index, c) :: rest =>
      if Text.isWhitespace c then ([], (index, c) :: rest)
      else
        let (value, rest) := parseUnquotedClaimValue rest
        (c :: value, rest)

def parseClaimValue (input : String) (tokenStart : Nat) (next : Nat × Char) (after : Cursor) :
    Except Failure (List Char × Cursor) :=
  if next.2 = '"' then parseQuotedClaimValue input tokenStart after
  else .ok (parseUnquotedClaimValue (next :: after))

/-- The body of the scanner's loop at a token. -/
def parseClaimToken (input : String) (tokenStart : Nat) (cursor : Cursor) :
    Except Failure ((String × String) × Cursor) := do
  let (key, rest) ← parseClaimKey input tokenStart cursor
  Fallible.require (!key.isEmpty) (invalidTokenFrom input tokenStart rest)
  match rest with
  | [] => .error (.refused (.invalidToken (String.ofList key)))
  | next :: after =>
      let (value, rest) ← parseClaimValue input tokenStart next after
      Fallible.require (!value.isEmpty)
        (.refused (.invalidToken (String.ofList key ++ "=")))
      return ((String.ofList key, String.ofList value), rest)

/-- The loop, a blank or a token a turn. -/
def scanClaimTokens (input : String) : Nat → Cursor → Except Failure (List (String × String))
  | 0, _ => .error .endless
  | _ + 1, [] => .ok []
  | turns + 1, (index, c) :: rest =>
      if Text.isWhitespace c then scanClaimTokens input turns rest
      else do
        let (token, rest) ← parseClaimToken input index ((index, c) :: rest)
        let tokens ← scanClaimTokens input turns rest
        return token :: tokens

def parseClaimTokens (turns : Nat) (input : String) : Except Failure (List (String × String)) :=
  scanClaimTokens input turns (charIndices 0 input.toList)

def parse (turns : Nat) (input : String) : Except Failure LaneClaim := do
  let tokens ← parseClaimTokens turns input
  (claimOfTokens tokens).mapError .refused

/-! ## Offsets of what is left -/

/-- Where the rest of a text begins in it. -/
def offset (input : String) (rest : List Char) : Nat :=
  Text.byteLength input - String.utf8Len rest

/-- The cursor when `rest` is left to read. -/
def cursorAt (input : String) (rest : List Char) : Cursor := charIndices (offset input rest) rest

theorem offset_append {front rest : List Char} (h : input.toList = front ++ rest) :
    offset input rest = String.utf8Len front := by
  rw [offset, Text.byteLength_eq, h, String.utf8Len_append, Nat.add_sub_cancel]

theorem cursorAt_nil (input : String) : cursorAt input [] = [] := rfl

theorem cursorAt_cons {c : Char} {rest : List Char} (h : c :: rest <:+ input.toList) :
    cursorAt input (c :: rest) = (offset input (c :: rest), c) :: cursorAt input rest := by
  obtain ⟨front, hfront⟩ := h
  have hrest : input.toList = (front ++ [c]) ++ rest := by
    rw [List.append_assoc, List.singleton_append, hfront]
  rw [cursorAt, charIndices, cursorAt, offset_append hfront.symm, offset_append hrest,
    String.utf8Len_append, String.utf8Len_cons, String.utf8Len_nil, Nat.zero_add]

theorem cursorAt_toList (input : String) :
    cursorAt input input.toList = charIndices 0 input.toList := by
  rw [cursorAt, offset_append (List.nil_append _).symm]
  rfl

theorem slice_offset {start rest : List Char} (hstart : start <:+ input.toList)
    (hrest : rest <:+ start) :
    slice input (offset input start) (offset input rest)
      = some (String.ofList (start.take (start.length - rest.length))) := by
  obtain ⟨front, hfront⟩ := hstart
  obtain ⟨token, rfl⟩ := hrest
  have hto : input.toList = (front ++ token) ++ rest := by rw [List.append_assoc, hfront]
  have hinput : input = String.ofList (front ++ token) ++ String.ofList rest := by
    rw [← String.toList_inj, String.toList_append, String.toList_ofList, String.toList_ofList, hto]
  have hcut : Text.sliceTo (offset input rest) input = some (String.ofList (front ++ token)) := by
    refine Text.sliceTo_eq_some_iff.mpr ⟨?_, String.ofList rest, hinput⟩
    rw [offset_append hto, Text.byteLength_eq, String.toList_ofList]
  have htake : (token ++ rest).take ((token ++ rest).length - rest.length) = token := by
    rw [List.length_append, Nat.add_sub_cancel, List.take_left']
    rfl
  rw [slice, hcut, offset_append hfront.symm, htake]
  simp only [Option.bind_eq_bind, Option.bind_some, String.toList_ofList, sliceFrom_append]
  rfl

theorem invalidTokenSlice_offset {start rest : List Char} (hstart : start <:+ input.toList)
    (hrest : rest <:+ start) :
    invalidTokenSlice input (offset input start) (offset input rest)
      = .refused (Lanes.invalidTokenFrom start rest) := by
  rw [invalidTokenSlice, slice_offset hstart hrest]
  rfl

theorem offset_nil (input : String) : offset input [] = Text.byteLength input := by
  rw [offset, String.utf8Len_nil, Nat.sub_zero]

theorem invalidTokenFrom_cursorAt {start rest : List Char} (hstart : start <:+ input.toList)
    (hrest : rest <:+ start) :
    invalidTokenFrom input (offset input start) (cursorAt input rest)
      = .refused (Lanes.invalidTokenFrom start rest) := by
  rw [← invalidTokenSlice_offset hstart hrest, invalidTokenFrom]
  cases rest with
  | nil => rw [cursorAt_nil, offset_nil]; rfl
  | cons c rest => rw [cursorAt_cons (hrest.trans hstart)]; rfl

theorem invalidTokenSlice_byteLength (hstart : start <:+ input.toList) :
    invalidTokenSlice input (offset input start) (Text.byteLength input)
      = .refused (.invalidToken (String.ofList start)) := by
  rw [← offset_nil, invalidTokenSlice_offset hstart List.nil_suffix, Lanes.invalidTokenFrom,
    List.length_nil, Nat.sub_zero, List.take_length]

/-! ## One step of the scanner -/

/-- What a reader of characters gives, told with offsets. -/
def located {α : Type} (input : String) :
    Except LaneClaimParseError (α × List Char) → Except Failure (α × Cursor)
  | .ok (value, rest) => .ok (value, cursorAt input rest)
  | .error error => .error (.refused error)

/-- The reader leaves a rest of what it was given. -/
def LeavesRest {α : Type} (text : List Char) (read : Except LaneClaimParseError (α × List Char)) :
    Prop :=
  ∀ value rest, read = .ok (value, rest) → rest <:+ text

theorem leavesRest_parseClaimKey (start : List Char) :
    ∀ text : List Char, LeavesRest text (Lanes.parseClaimKey start text)
  | [], value, rest, h => by
      obtain ⟨rfl, rfl⟩ := Prod.mk.inj (Except.ok.inj h)
      exact List.nil_suffix
  | c :: text, value, rest, h => by
      rw [Lanes.parseClaimKey] at h
      split at h
      · obtain ⟨rfl, rfl⟩ := Prod.mk.inj (Except.ok.inj h)
        exact List.suffix_cons c _
      · split at h
        · cases h
        · obtain ⟨⟨key, rest'⟩, hkey, h⟩ := bind_eq_ok h
          obtain ⟨rfl, rfl⟩ := Prod.mk.inj (Except.ok.inj h)
          exact (leavesRest_parseClaimKey start text _ _ hkey).trans (List.suffix_cons c text)

theorem parseClaimKey_cursorAt (hstart : start <:+ input.toList) :
    ∀ text : List Char, text <:+ start →
      parseClaimKey input (offset input start) (cursorAt input text)
        = located input (Lanes.parseClaimKey start text)
  | [], _ => rfl
  | c :: text, htext => by
      have hcursor := cursorAt_cons (htext.trans hstart)
      have hrefused := invalidTokenFrom_cursorAt hstart htext
      have ih := parseClaimKey_cursorAt hstart text ((List.suffix_cons c text).trans htext)
      rw [hcursor] at hrefused ⊢
      rw [parseClaimKey, Lanes.parseClaimKey]
      split
      · rfl
      · split
        · rw [hrefused]
          rfl
        · rw [ih]
          cases Lanes.parseClaimKey start text with
          | error error => rfl
          | ok read => rfl

theorem scanQuoted_cursorAt (text : List Char) (htext : text <:+ input.toList) :
    scanQuoted (cursorAt input text)
      = (Lanes.scanQuoted text).map fun (value, rest) => (value, cursorAt input rest) := by
  induction text using Lanes.scanQuoted.induct with
  | case1 => rfl
  | case2 => rfl
  | case3 c hquote =>
      rw [cursorAt_cons htext, cursorAt_nil, scanQuoted, Lanes.scanQuoted, if_neg hquote,
        if_neg hquote]
      rfl
  | case4 next tail =>
      have htail := cursorAt_cons ((List.suffix_cons _ _).trans htext)
      rw [cursorAt_cons htext, htail, scanQuoted, Lanes.scanQuoted, if_pos rfl, if_pos rfl, ← htail]
      rfl
  | case5 next tail hquote ih =>
      have hnext := (List.suffix_cons _ _).trans htext
      rw [cursorAt_cons htext, cursorAt_cons hnext, scanQuoted, Lanes.scanQuoted, if_neg hquote,
        if_neg hquote, if_pos rfl, if_pos rfl, ih ((List.suffix_cons _ _).trans hnext)]
      cases Lanes.scanQuoted tail with
      | none => rfl
      | some read => rfl
  | case6 c next tail hquote hescape ih =>
      have hnext := (List.suffix_cons _ _).trans htext
      have hcursor := cursorAt_cons hnext
      rw [cursorAt_cons htext, hcursor, scanQuoted, Lanes.scanQuoted, if_neg hquote, if_neg hquote,
        if_neg hescape, if_neg hescape, ← hcursor, ih hnext]
      cases Lanes.scanQuoted (next :: tail) with
      | none => rfl
      | some read => rfl

theorem leavesRest_parseQuotedClaimValue (start text : List Char) :
    LeavesRest text (Lanes.parseQuotedClaimValue start text) := by
  intro value rest h
  obtain ⟨-, read, rfl, -⟩ := parseQuotedClaimValue_eq_ok h
  exact List.suffix_append read rest

theorem all_head?_cursorAt {rest : List Char} (hrest : rest <:+ input.toList) :
    ((cursorAt input rest).head?.all fun (_, c) => Text.isWhitespace c) = atTokenEnd rest := by
  cases rest with
  | nil => rfl
  | cons c rest =>
      rw [cursorAt_cons hrest]
      rfl

theorem parseQuotedClaimValue_cursorAt {start text : List Char} (hstart : start <:+ input.toList)
    (htext : text <:+ start) :
    parseQuotedClaimValue input (offset input start) (cursorAt input text)
      = located input (Lanes.parseQuotedClaimValue start text) := by
  rw [parseQuotedClaimValue, Lanes.parseQuotedClaimValue, invalidTokenSlice_byteLength hstart,
    scanQuoted_cursorAt text (htext.trans hstart)]
  cases hscan : Lanes.scanQuoted text with
  | none => rfl
  | some read =>
      obtain ⟨value, rest⟩ := read
      obtain ⟨front, rfl, -⟩ := scanQuoted_eq_some text hscan
      have hrest : rest <:+ start := (List.suffix_append front rest).trans htext
      simp only [Option.map_some, okOr, ok_bind,
        invalidTokenFrom_cursorAt hstart hrest, all_head?_cursorAt (hrest.trans hstart)]
      cases atTokenEnd rest <;> rfl

theorem parseUnquotedClaimValue_cursorAt : ∀ text : List Char,
    text <:+ input.toList →
      parseUnquotedClaimValue (cursorAt input text)
        = Prod.map id (cursorAt input) (Lanes.parseUnquotedClaimValue text)
  | [], _ => rfl
  | c :: text, htext => by
      have ih := parseUnquotedClaimValue_cursorAt text ((List.suffix_cons c text).trans htext)
      have hcursor := cursorAt_cons htext
      rw [Lanes.parseUnquotedClaimValue, List.span_eq_takeWhile_dropWhile] at ih ⊢
      rw [hcursor, parseUnquotedClaimValue, ih]
      cases hblank : Text.isWhitespace c with
      | true =>
          rw [if_pos rfl, List.takeWhile_cons_of_neg (by rw [hblank]; decide),
            List.dropWhile_cons_of_neg (by rw [hblank]; decide), ← hcursor]
          rfl
      | false =>
          rw [if_neg (by decide), List.takeWhile_cons_of_pos (by rw [hblank]; decide),
            List.dropWhile_cons_of_pos (by rw [hblank]; decide)]
          rfl

theorem leavesRest_parseClaimValue (start : List Char) (next : Char) (after : List Char) :
    LeavesRest (next :: after) (Lanes.parseClaimValue start next after) := by
  intro value rest h
  rw [Lanes.parseClaimValue] at h
  split at h
  · exact (leavesRest_parseQuotedClaimValue start after _ _ h).trans (List.suffix_cons next after)
  · rw [Lanes.parseUnquotedClaimValue, List.span_eq_takeWhile_dropWhile] at h
    obtain ⟨-, rfl⟩ := Prod.mk.inj (Except.ok.inj h)
    exact List.dropWhile_suffix _

theorem leavesRest_parseClaimToken (start : List Char) :
    LeavesRest start (Lanes.parseClaimToken start) := by
  intro token rest h
  obtain ⟨key, next, after, value, hkey, -, -, hvalue, -⟩ := parseClaimToken_eq_ok h
  exact (leavesRest_parseClaimValue start next after _ _ hvalue).trans
    (leavesRest_parseClaimKey start start _ _ hkey)

theorem parseClaimValue_cursorAt {next : Char} {after : List Char}
    (hstart : start <:+ input.toList) (hcursor : next :: after <:+ start) :
    parseClaimValue input (offset input start) (offset input (next :: after), next)
        (cursorAt input after)
      = located input (Lanes.parseClaimValue start next after) := by
  rw [parseClaimValue, Lanes.parseClaimValue, ← cursorAt_cons (hcursor.trans hstart)]
  split
  · exact parseQuotedClaimValue_cursorAt hstart ((List.suffix_cons next after).trans hcursor)
  · rw [parseUnquotedClaimValue_cursorAt _ (hcursor.trans hstart)]
    rfl

theorem parseClaimToken_cursorAt (hstart : start <:+ input.toList) :
    parseClaimToken input (offset input start) (cursorAt input start)
      = located input (Lanes.parseClaimToken start) := by
  rw [parseClaimToken, Lanes.parseClaimToken, parseClaimKey_cursorAt hstart start List.suffix_rfl]
  cases hkey : Lanes.parseClaimKey start start with
  | error error => rfl
  | ok read =>
      obtain ⟨key, rest⟩ := read
      have hrest := leavesRest_parseClaimKey start start _ _ hkey
      simp only [located, ok_bind, invalidTokenFrom_cursorAt hstart hrest]
      cases !key.isEmpty with
      | false => rfl
      | true =>
          cases rest with
          | nil => rfl
          | cons next after =>
              rw [cursorAt_cons (hrest.trans hstart)]
              simp only [require_true, ok_bind,
                parseClaimValue_cursorAt hstart hrest]
              cases Lanes.parseClaimValue start next after with
              | error error => rfl
              | ok read =>
                  simp only [located, ok_bind]
                  cases !read.1.isEmpty <;> rfl

/-! ## The whole scan -/

theorem parseClaimTokens_of_token {c : Char} {text : List Char}
    (hblank : Text.isWhitespace c = false) :
    Lanes.parseClaimTokens (c :: text) = do
      let (token, rest) ← Lanes.parseClaimToken (c :: text)
      let tokens ← Lanes.parseClaimTokens rest
      return token :: tokens := by
  rw [parseClaimTokens_eq, List.dropWhile_cons_of_neg (by rw [hblank]; decide)]

theorem scanClaimTokens_cursorAt : ∀ (turns : Nat) (text : List Char),
    text.length < turns → text <:+ input.toList →
      scanClaimTokens input turns (cursorAt input text)
        = (Lanes.parseClaimTokens text).mapError .refused
  | _ + 1, [], _, _ => rfl
  | turns + 1, c :: text, hturns, htext => by
      have hlength : text.length < turns := Nat.lt_of_succ_lt_succ hturns
      have hcursor := cursorAt_cons htext
      rw [hcursor, scanClaimTokens]
      cases hblank : Text.isWhitespace c with
      | true =>
          rw [if_pos rfl, parseClaimTokens_of_blank hblank]
          exact scanClaimTokens_cursorAt turns text hlength ((List.suffix_cons c text).trans htext)
      | false =>
          rw [if_neg (by decide), ← hcursor, parseClaimToken_cursorAt htext,
            parseClaimTokens_of_token hblank]
          cases htoken : Lanes.parseClaimToken (c :: text) with
          | error error => rfl
          | ok read =>
              obtain ⟨token, rest⟩ := read
              have hrest := length_parseClaimToken htoken
              rw [List.length_cons] at hrest
              have ih := scanClaimTokens_cursorAt turns rest (by omega)
                ((leavesRest_parseClaimToken _ _ _ htoken).trans htext)
              simp only [located, ok_bind, ih]
              cases Lanes.parseClaimTokens rest <;> rfl

theorem parse_eq {turns : Nat} (hturns : input.toList.length < turns) :
    parse turns input = (LaneClaim.parse input).mapError .refused := by
  rw [parse, parseClaimTokens, ← cursorAt_toList,
    scanClaimTokens_cursorAt turns input.toList hturns List.suffix_rfl, LaneClaim.parse]
  cases Lanes.parseClaimTokens input.toList <;> rfl

/-! ## Canonical claims -/

/-- A reading that gives a claim or refuses the text. A claim it gives has no empty field, and is
what is read of its own rendering. -/
structure Canonical (outcome : Except Failure LaneClaim) : Prop where
  returns : (∃ claim, outcome = .ok claim) ∨ ∃ error, outcome = .error (.refused error)
  filled : ∀ claim, outcome = .ok claim → ∀ token ∈ claim.tokens, token.2 ≠ ""
  reread : ∀ claim, outcome = .ok claim →
    ∀ turns, claim.render.toList.length < turns → parse turns claim.render = .ok claim

/-- Every text is read to its end, at the boundaries of its characters only, and rendering the
claim it holds loses nothing. -/
theorem parse_canonical {turns : Nat} {input : String} (hturns : input.toList.length < turns) :
    Canonical (parse turns input) := by
  rw [parse_eq hturns]
  cases hparse : LaneClaim.parse input with
  | error error =>
      refine ⟨.inr ⟨error, rfl⟩, ?_, ?_⟩
      · intro claim h
        cases h
      · intro claim h
        cases h
  | ok claim =>
      have hfilled := noEmptyText_of_parse hparse
      refine ⟨.inl ⟨claim, rfl⟩, ?_, ?_⟩
      · intro claim' h
        obtain rfl := Except.ok.inj h
        exact (forall_tokens_ne_empty claim).mpr hfilled
      · intro claim' h turns' hturns'
        obtain rfl := Except.ok.inj h
        rw [parse_eq hturns', hfilled.parse_render]
        rfl

/-- A claim whose worker has to be quoted, with characters of two bytes. -/
def accentedClaim : LaneClaim where
  lane := .review
  actor := .gemini
  worker := some "é \"à"
  source := .loop
  issue := "é7"
  run := "r"
  state := .active
  thread := "t"
  registry := "run/r"

theorem parse_accentedClaim : parse 120 accentedClaim.render = .ok accentedClaim := by
  have hfilled : accentedClaim.NoEmptyText := by decide
  rw [parse_eq (by decide), hfilled.parse_render]
  rfl

theorem parse_canonical_accented :
    Canonical (parse 120 accentedClaim.render)
      ∧ ∃ claim, parse 120 accentedClaim.render = .ok claim :=
  ⟨parse_canonical (by decide), accentedClaim, parse_accentedClaim⟩

end Indexed

end SheaSymphony.Lanes

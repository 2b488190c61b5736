import SheaSymphony.LaneClaim

/-!
# What the scanner makes of a rendered claim

Every rendered token is read back as its key and value, escapes undone, unless
the value is empty: the renderer quotes an empty value and the scanner refuses
it (`parseClaimToken_claimToken`). So a line of rendered tokens is read as the
list of tokens it was made of, up to the first empty value
(`parseClaimTokens_rendered`), and a claim round-trips exactly when none of its
texts is empty.
-/

namespace SheaSymphony.Lanes

open Fallible Text

/-! ## The scan is not cut short -/

theorem length_parseClaimKey {start : List Char} : ∀ {input key rest : List Char},
    parseClaimKey start input = .ok (key, rest) → key.length + rest.length ≤ input.length
  | [], key, rest, h => by
      obtain ⟨rfl, rfl⟩ := Prod.mk.inj (Except.ok.inj h)
      exact Nat.le_refl _
  | c :: input, key, rest, h => by
      rw [parseClaimKey] at h
      split at h
      · obtain ⟨rfl, rfl⟩ := Prod.mk.inj (Except.ok.inj h)
        simp
      · split at h
        · cases h
        · obtain ⟨⟨key', rest'⟩, hkey, h⟩ := bind_eq_ok h
          obtain ⟨rfl, rfl⟩ := Prod.mk.inj (Except.ok.inj h)
          have := length_parseClaimKey hkey
          simp only [List.length_cons]
          omega

theorem scanQuoted_eq_some (input : List Char) : ∀ {value rest : List Char},
    scanQuoted input = some (value, rest) →
      ∃ read, input = read ++ rest ∧ value.length < read.length := by
  induction input using scanQuoted.induct with
  | case1 => intro value rest h; cases h
  | case2 =>
      intro value rest h
      rw [scanQuoted, if_pos rfl] at h
      obtain ⟨rfl, rfl⟩ := Prod.mk.inj (Option.some.inj h)
      exact ⟨['"'], rfl, Nat.zero_lt_one⟩
  | case3 c hc => intro value rest h; rw [scanQuoted, if_neg hc] at h; cases h
  | case4 next tail =>
      intro value rest h
      rw [scanQuoted, if_pos rfl] at h
      obtain ⟨rfl, rfl⟩ := Prod.mk.inj (Option.some.inj h)
      exact ⟨['"'], rfl, Nat.zero_lt_one⟩
  | case5 next tail hquote ih =>
      intro value rest h
      rw [scanQuoted, if_neg hquote, if_pos rfl] at h
      obtain ⟨⟨value', rest'⟩, hscan, h⟩ := Option.map_eq_some_iff.mp h
      obtain ⟨rfl, rfl⟩ := Prod.mk.inj h
      obtain ⟨read, rfl, hlength⟩ := ih hscan
      refine ⟨'\\' :: next :: read, rfl, ?_⟩
      simp only [List.length_cons]
      omega
  | case6 c next tail hquote hescape ih =>
      intro value rest h
      rw [scanQuoted, if_neg hquote, if_neg hescape] at h
      obtain ⟨⟨value', rest'⟩, hscan, h⟩ := Option.map_eq_some_iff.mp h
      obtain ⟨rfl, rfl⟩ := Prod.mk.inj h
      obtain ⟨read, hread, hlength⟩ := ih hscan
      exact ⟨c :: read, by rw [hread, List.cons_append], Nat.succ_lt_succ hlength⟩

theorem parseQuotedClaimValue_eq_ok {start cursor value rest : List Char}
    (h : parseQuotedClaimValue start cursor = .ok (value, rest)) :
    atTokenEnd rest = true ∧ ∃ read, cursor = read ++ rest ∧ value.length < read.length := by
  obtain ⟨⟨value', rest'⟩, hscan, h⟩ := bind_eq_ok h
  obtain ⟨_, hend, h⟩ := bind_eq_ok h
  obtain ⟨rfl, rfl⟩ := Prod.mk.inj (Except.ok.inj h)
  exact ⟨require_eq_ok.mp hend,
    scanQuoted_eq_some cursor (okOr_eq_ok.mp hscan)⟩

theorem length_parseUnquotedClaimValue (cursor : List Char) :
    (parseUnquotedClaimValue cursor).2.length ≤ cursor.length := by
  rw [parseUnquotedClaimValue, List.span_eq_takeWhile_dropWhile]
  exact (List.dropWhile_suffix _).length_le

theorem parseClaimToken_eq_ok {start rest : List Char} {token : String × String}
    (h : parseClaimToken start = .ok (token, rest)) :
    ∃ key next after value,
      parseClaimKey start start = .ok (key, next :: after) ∧ key ≠ [] ∧ value ≠ []
        ∧ parseClaimValue start next after = .ok (value, rest)
        ∧ token = (String.ofList key, String.ofList value) := by
  obtain ⟨⟨key, cursor⟩, hkey, h⟩ := bind_eq_ok h
  obtain ⟨_, hne, h⟩ := bind_eq_ok h
  cases cursor with
  | nil => cases h
  | cons next after =>
      obtain ⟨⟨value, rest'⟩, hvalue, h⟩ := bind_eq_ok h
      obtain ⟨_, hvalueNe, h⟩ := bind_eq_ok h
      obtain ⟨rfl, rfl⟩ := Prod.mk.inj (Except.ok.inj h)
      refine ⟨key, next, after, value, hkey, ?_, ?_, hvalue, rfl⟩
      · simpa using hne
      · simpa using hvalueNe

theorem length_parseClaimToken {start rest : List Char} {token : String × String}
    (h : parseClaimToken start = .ok (token, rest)) : rest.length < start.length := by
  obtain ⟨key, next, after, value, hkey, hne, -, hvalue, -⟩ := parseClaimToken_eq_ok h
  have hlength := length_parseClaimKey hkey
  have hpos := List.length_pos_iff.mpr hne
  have hrest : rest.length ≤ (next :: after).length := by
    rw [parseClaimValue] at hvalue
    split at hvalue
    · obtain ⟨-, read, rfl, -⟩ := parseQuotedClaimValue_eq_ok hvalue
      simp only [List.length_cons, List.length_append]
      omega
    · have := length_parseUnquotedClaimValue (next :: after)
      rwa [Except.ok.inj hvalue] at this
  omega

theorem scanClaimTokens_eq : ∀ (bound : Nat) (input : List Char), input.length ≤ bound →
    scanClaimTokens bound input = parseClaimTokens input := by
  have hbounds : ∀ (m n : Nat) (input : List Char), input.length ≤ m → input.length ≤ n →
      scanClaimTokens m input = scanClaimTokens n input := by
    intro m
    induction m with
    | zero =>
        intro n input hm _
        obtain rfl := List.eq_nil_of_length_eq_zero (Nat.le_zero.mp hm)
        cases n <;> rfl
    | succ m ih =>
        intro n input hm hn
        have hskip := (List.dropWhile_suffix (l := input) isWhitespace).length_le
        cases n with
        | zero =>
            obtain rfl := List.eq_nil_of_length_eq_zero (Nat.le_zero.mp hn)
            rfl
        | succ n =>
            rw [scanClaimTokens, scanClaimTokens]
            cases hstart : input.dropWhile isWhitespace with
            | nil => rfl
            | cons c start =>
                rw [hstart] at hskip
                cases htoken : parseClaimToken (c :: start) with
                | error e => simp only [htoken, error_bind]
                | ok read =>
                    obtain ⟨token, rest⟩ := read
                    have hrest := length_parseClaimToken htoken
                    simp only [htoken, ok_bind]
                    rw [ih n rest (by omega) (by omega)]
  intro bound input h
  exact hbounds bound input.length input h le_rfl

theorem parseClaimTokens_eq (input : List Char) :
    parseClaimTokens input =
      match input.dropWhile Text.isWhitespace with
      | [] => .ok []
      | c :: start => do
          let (token, rest) ← parseClaimToken (c :: start)
          let tokens ← parseClaimTokens rest
          return token :: tokens := by
  rw [← scanClaimTokens_eq (input.length + 1) input (Nat.le_succ _), scanClaimTokens]
  have hskip := (List.dropWhile_suffix (l := input) isWhitespace).length_le
  cases hstart : input.dropWhile isWhitespace with
  | nil => rfl
  | cons c start =>
      rw [hstart] at hskip
      cases htoken : parseClaimToken (c :: start) with
      | error e => simp only [htoken, error_bind]
      | ok read =>
          obtain ⟨token, rest⟩ := read
          have hrest := length_parseClaimToken htoken
          simp only [htoken, ok_bind]
          rw [scanClaimTokens_eq input.length rest (by omega)]

theorem parseClaimTokens_nil : parseClaimTokens [] = .ok [] := rfl

theorem parseClaimTokens_of_blank {c : Char} {input : List Char}
    (hblank : Text.isWhitespace c = true) :
    parseClaimTokens (c :: input) = parseClaimTokens input := by
  rw [parseClaimTokens_eq, parseClaimTokens_eq input, List.dropWhile_cons_of_pos hblank]

theorem parseClaimTokens_blank (input : List Char) :
    parseClaimTokens (' ' :: input) = parseClaimTokens input :=
  parseClaimTokens_of_blank (by decide)

/-! ## Reading one rendered token -/

theorem scanQuoted_escapeClaimChar (c next : Char) (tail : List Char) :
    scanQuoted (escapeClaimChar c ++ next :: tail)
      = (scanQuoted (next :: tail)).map fun (value, rest) => (c :: value, rest) := by
  unfold escapeClaimChar
  split_ifs with hbackslash hquote hnewline hreturn htab
  · subst hbackslash
    simp [scanQuoted, unescapeClaimChar]
  · subst hquote
    simp [scanQuoted, unescapeClaimChar]
  · subst hnewline
    simp [scanQuoted, unescapeClaimChar]
  · subst hreturn
    simp [scanQuoted, unescapeClaimChar]
  · subst htab
    simp [scanQuoted, unescapeClaimChar]
  · simp [scanQuoted, hbackslash, hquote]

theorem scanQuoted_escaped (value rest : List Char) :
    scanQuoted (value.flatMap escapeClaimChar ++ '"' :: rest) = some (value, rest) := by
  induction value with
  | nil => cases rest <;> rfl
  | cons c value ih =>
      -- the text behind a character is never empty: the closing quote is in it
      obtain ⟨next, tail, htail⟩ : ∃ next tail,
          value.flatMap escapeClaimChar ++ '"' :: rest = next :: tail :=
        List.exists_cons_of_ne_nil (by simp)
      rw [List.flatMap_cons, List.append_assoc, htail, scanQuoted_escapeClaimChar, ← htail, ih]
      rfl

/-- A key the scanner reads whole. -/
def IsClaimKey (key : String) : Prop :=
  key ≠ "" ∧ ∀ c ∈ key.toList, c ≠ '=' ∧ Text.isWhitespace c = false

instance (key : String) : Decidable (IsClaimKey key) :=
  @instDecidableAnd _ _ inferInstance (List.decidableBAll _ _)

theorem parseClaimKey_append (start rest : List Char) : ∀ {key : List Char},
    (∀ c ∈ key, c ≠ '=' ∧ Text.isWhitespace c = false) →
      parseClaimKey start (key ++ '=' :: rest) = .ok (key, rest)
  | [], _ => rfl
  | c :: key, h => by
      obtain ⟨hne, hblank⟩ := h c List.mem_cons_self
      have ih := parseClaimKey_append start rest fun d hd => h d (List.mem_cons_of_mem _ hd)
      rw [List.cons_append, parseClaimKey, if_neg hne, hblank, if_neg (by decide), ih]
      rfl

theorem parseUnquotedClaimValue_append {value rest : List Char}
    (hvalue : ∀ c ∈ value, Text.isWhitespace c = false) (hrest : atTokenEnd rest = true) :
    parseUnquotedClaimValue (value ++ rest) = (value, rest) := by
  have hstop : rest.takeWhile (fun c => !isWhitespace c) = [] := by
    cases rest with
    | nil => rfl
    | cons c rest => simpa [atTokenEnd] using hrest
  have hall : ∀ c ∈ value, (!isWhitespace c) = true := fun c hc => by rw [hvalue c hc]; rfl
  have htake : (value ++ rest).takeWhile (fun c => !isWhitespace c) = value := by
    rw [List.takeWhile_append_of_pos hall, hstop, List.append_nil]
  have hdrop : (value ++ rest).dropWhile (fun c => !isWhitespace c) = rest := by
    rw [List.dropWhile_append_of_pos hall]
    cases rest with
    | nil => rfl
    | cons c rest => simpa [atTokenEnd] using hrest
  rw [parseUnquotedClaimValue, List.span_eq_takeWhile_dropWhile, htake, hdrop]

theorem parseClaimValue_render (start rest : List Char) (value : String)
    (hrest : atTokenEnd rest = true) :
    ∃ next after, (renderClaimValue value).toList ++ rest = next :: after
      ∧ parseClaimValue start next after = .ok (value.toList, rest) := by
  rw [renderClaimValue]
  split
  · refine ⟨'"', value.toList.flatMap escapeClaimChar ++ '"' :: rest, by simp, ?_⟩
    rw [parseClaimValue, if_pos rfl, parseQuotedClaimValue, scanQuoted_escaped]
    simp [okOr, hrest]
  · next hbare =>
    rw [Bool.or_eq_true, not_or, List.isEmpty_iff] at hbare
    obtain ⟨hne, hplain⟩ := hbare
    obtain ⟨next, after, htext⟩ := List.exists_cons_of_ne_nil hne
    have hall : ∀ c ∈ value.toList, isWhitespace c = false ∧ c ≠ '"' := by
      intro c hc
      have hc' : ¬ needsQuotes c = true := fun h => hplain (List.any_eq_true.mpr ⟨c, hc, h⟩)
      simp only [needsQuotes, Bool.or_eq_true, beq_iff_eq, not_or] at hc'
      exact ⟨Bool.eq_false_iff.mpr hc'.1.1, hc'.1.2⟩
    refine ⟨next, after ++ rest, by rw [htext, List.cons_append], ?_⟩
    have hnext : next ≠ '"' := (hall next (htext ▸ List.mem_cons_self)).2
    rw [parseClaimValue, if_neg hnext, ← List.cons_append, ← htext,
      parseUnquotedClaimValue_append (fun c hc => (hall c hc).1) hrest]

/-- What the scanner asks of a token it has read. -/
def checkClaimToken (token : String × String) : Except LaneClaimParseError (String × String) :=
  if token.2 = "" then .error (.invalidToken (token.1 ++ "=")) else .ok token

variable {key value : String} {claim : LaneClaim}

theorem parseClaimToken_keyed {text rest : List Char} (hkey : IsClaimKey key)
    (hvalue : ∀ start, ∃ next after, text = next :: after
      ∧ parseClaimValue start next after = .ok (value.toList, rest)) :
    parseClaimToken (key.toList ++ '=' :: text)
      = (checkClaimToken (key, value)).map fun token => (token, rest) := by
  obtain ⟨next, after, rfl, hvalue⟩ := hvalue (key.toList ++ '=' :: text)
  have hkeyNe : (!key.toList.isEmpty) = true := by simpa using hkey.1
  rw [parseClaimToken, parseClaimKey_append _ _ hkey.2, checkClaimToken]
  simp only [ok_bind, hvalue, hkeyNe, require_true, String.ofList_toList]
  by_cases hempty : value = ""
  · subst hempty
    rfl
  · have hvalueNe : (!value.toList.isEmpty) = true := by simpa using hempty
    rw [hvalueNe, if_neg hempty]
    rfl

theorem toList_claimToken (key value : String) (rest : List Char) :
    (claimToken key value).toList ++ rest
      = key.toList ++ '=' :: ((renderClaimValue value).toList ++ rest) := by
  have heq : "=".toList = ['='] := by decide
  rw [claimToken, String.toList_append, String.toList_append, heq]
  simp

theorem parseClaimToken_claimToken {key : String} (value : String) {rest : List Char}
    (hkey : IsClaimKey key) (hrest : atTokenEnd rest = true) :
    parseClaimToken ((claimToken key value).toList ++ rest)
      = (checkClaimToken (key, value)).map fun token => (token, rest) := by
  rw [toList_claimToken]
  exact parseClaimToken_keyed hkey fun start => parseClaimValue_render start rest value hrest

/-! ## Reading a line of tokens -/

/-- A line as the renderer writes it, a blank before every token. -/
def renderedTokens (tokens : List (String × String)) : List Char :=
  tokens.flatMap fun token => ' ' :: (claimToken token.1 token.2).toList

theorem atTokenEnd_renderedTokens (tokens : List (String × String)) {tail : List Char}
    (htail : atTokenEnd tail = true) : atTokenEnd (renderedTokens tokens ++ tail) = true := by
  cases tokens with
  | nil => exact htail
  | cons token tokens => rfl

theorem dropWhile_claimToken {key : String} (value : String) (rest : List Char)
    (hkey : IsClaimKey key) :
    ∃ c start, (claimToken key value).toList ++ rest = c :: start
      ∧ (c :: start).dropWhile Text.isWhitespace = c :: start := by
  obtain ⟨hne, hchars⟩ := hkey
  have hkeyNe : key.toList ≠ [] := by simpa using hne
  obtain ⟨c, key', hkey'⟩ := List.exists_cons_of_ne_nil hkeyNe
  refine ⟨c, key' ++ '=' :: ((renderClaimValue value).toList ++ rest), ?_, ?_⟩
  · rw [toList_claimToken, hkey', List.cons_append]
  · have hblank := (hchars c (hkey' ▸ List.mem_cons_self)).2
    rw [List.dropWhile_cons_of_neg (by rw [hblank]; decide)]

theorem parseClaimTokens_rendered {tail : List Char} (htail : atTokenEnd tail = true) :
    ∀ {tokens : List (String × String)}, (∀ token ∈ tokens, IsClaimKey token.1) →
      parseClaimTokens (renderedTokens tokens ++ tail) = do
        let front ← tokens.mapM checkClaimToken
        let back ← parseClaimTokens tail
        return front ++ back
  | [], _ => by
      simp only [renderedTokens, List.flatMap_nil, List.mapM_nil, Fallible.pure_eq,
        Fallible.ok_bind, List.nil_append]
      cases parseClaimTokens tail <;> rfl
  | (key, value) :: tokens, hkeys => by
      have hkey := hkeys (key, value) List.mem_cons_self
      have ih := @parseClaimTokens_rendered _ htail tokens
        fun token h => hkeys token (List.mem_cons_of_mem _ h)
      have hinput : renderedTokens ((key, value) :: tokens) ++ tail
          = ' ' :: ((claimToken key value).toList ++ (renderedTokens tokens ++ tail)) := by
        simp [renderedTokens]
      have htoken := parseClaimToken_claimToken value hkey (atTokenEnd_renderedTokens tokens htail)
      obtain ⟨c, start, hstart, hskip⟩ :=
        dropWhile_claimToken value (renderedTokens tokens ++ tail) hkey
      rw [hstart] at htoken
      rw [hinput, parseClaimTokens_blank, hstart, parseClaimTokens_eq, hskip]
      simp only [htoken, List.mapM_cons]
      cases hcheck : checkClaimToken (key, value) with
      | error e => rfl
      | ok token =>
          simp only [Except.map, ok_bind, ih]
          cases tokens.mapM checkClaimToken with
          | error e => rfl
          | ok front =>
              simp only [ok_bind, pure_eq]
              cases parseClaimTokens tail <;> rfl

theorem mapM_checkClaimToken_eq_ok {tokens out : List (String × String)} :
    tokens.mapM checkClaimToken = .ok out ↔ out = tokens ∧ ∀ token ∈ tokens, token.2 ≠ "" := by
  induction tokens generalizing out with
  | nil =>
      rw [List.mapM_nil, pure_eq]
      constructor
      · intro h
        exact ⟨(Except.ok.inj h).symm, by simp⟩
      · rintro ⟨rfl, -⟩
        rfl
  | cons token tokens ih =>
      rw [List.mapM_cons]
      constructor
      · intro h
        obtain ⟨checked, hcheck, h⟩ := bind_eq_ok h
        obtain ⟨rest, hrest, h⟩ := bind_eq_ok h
        obtain rfl := Except.ok.inj h
        obtain ⟨rfl, hall⟩ := ih.mp hrest
        rw [checkClaimToken] at hcheck
        split at hcheck
        · cases hcheck
        · next hne =>
          obtain rfl := Except.ok.inj hcheck
          exact ⟨rfl, List.forall_mem_cons.mpr ⟨hne, hall⟩⟩
      · rintro ⟨rfl, hall⟩
        obtain ⟨hne, hall⟩ := List.forall_mem_cons.mp hall
        rw [checkClaimToken, if_neg hne, ok_bind, ih.mpr ⟨rfl, hall⟩]
        rfl

/-! ## The tokens of a claim -/

def LaneClaim.tokens (claim : LaneClaim) : List (String × String) :=
  [("v", "1"), ("lane", claim.lane.asStr), ("actor", claim.actor.asStr)]
    ++ (claim.worker.map fun worker => ("worker", worker)).toList
    ++ [("source", claim.source.asStr), ("issue", claim.issue), ("run", claim.run),
      ("state", claim.state.asStr), ("thread", claim.thread), ("registry", claim.registry)]

theorem isClaimKey_tokens (claim : LaneClaim) : ∀ token ∈ claim.tokens, IsClaimKey token.1 := by
  have hkeys : ∀ key ∈ ["v", "lane", "actor", "worker", "source", "issue", "run", "state",
      "thread", "registry"], IsClaimKey key := by decide
  intro token htoken
  apply hkeys
  simp only [LaneClaim.tokens, List.mem_append, Option.mem_toList,
    Option.map_eq_some_iff, List.mem_cons, List.not_mem_nil, or_false] at htoken
  rcases htoken with (h | ⟨worker, -, rfl⟩) | h
  · rcases h with rfl | rfl | rfl <;> simp
  · simp
  · rcases h with rfl | rfl | rfl | rfl | rfl | rfl <;> simp

theorem toList_join_blank : ∀ {parts : List String}, parts ≠ [] →
    ' ' :: (Text.join " " parts).toList = parts.flatMap fun part => ' ' :: part.toList
  | [part], _ => by
      simp [Text.join, List.intercalate]
  | part :: next :: parts, _ => by
      have ih := @toList_join_blank (next :: parts) (List.cons_ne_nil _ _)
      have hblank : " ".toList = [' '] := by decide
      rw [List.flatMap_cons, ← ih]
      simp [join, List.intercalate, hblank]

theorem toList_render (claim : LaneClaim) :
    ' ' :: claim.render.toList = renderedTokens claim.tokens := by
  have hversion : "v=1" = claimToken "v" "1" := by decide
  rw [LaneClaim.render, toList_join_blank (by simp), hversion, renderedTokens, LaneClaim.tokens]
  cases claim.worker <;> simp

@[simp] theorem parseLane_asStr (lane : LaneClaimLane) : parseLane lane.asStr = .ok lane := by
  cases lane <;> rfl

@[simp] theorem parseActor_asStr (actor : LaneClaimActor) : parseActor actor.asStr = .ok actor := by
  cases actor <;> rfl

@[simp] theorem parseSource_asStr (source : LaneClaimSource) :
    parseSource source.asStr = .ok source := by
  cases source <;> rfl

@[simp] theorem parseState_asStr (state : LaneClaimState) : parseState state.asStr = .ok state := by
  cases state <;> rfl

theorem claimOfTokens_tokens (claim : LaneClaim) : claimOfTokens claim.tokens = .ok claim := by
  obtain ⟨lane, actor, worker, source, issue, run, state, thread, registry⟩ := claim
  cases worker <;>
    simp [claimOfTokens, required, claimValue, LaneClaim.tokens, List.lookup_cons, okOr]

theorem parse_render (claim : LaneClaim) :
    LaneClaim.parse claim.render = claim.tokens.mapM checkClaimToken >>= claimOfTokens := by
  have hscan := @parseClaimTokens_rendered [] rfl _ (isClaimKey_tokens claim)
  rw [List.append_nil, ← toList_render, parseClaimTokens_blank, parseClaimTokens_nil] at hscan
  rw [LaneClaim.parse, hscan]
  cases claim.tokens.mapM checkClaimToken with
  | error e => rfl
  | ok tokens => simp

/-- No text of the claim is empty. -/
def LaneClaim.NoEmptyText (claim : LaneClaim) : Prop :=
  claim.worker ≠ some "" ∧ claim.issue ≠ "" ∧ claim.run ≠ "" ∧ claim.thread ≠ ""
    ∧ claim.registry ≠ ""

instance (claim : LaneClaim) : Decidable claim.NoEmptyText :=
  inferInstanceAs (Decidable (_ ∧ _ ∧ _ ∧ _ ∧ _))

theorem forall_tokens_ne_empty (claim : LaneClaim) :
    (∀ token ∈ claim.tokens, token.2 ≠ "") ↔ claim.NoEmptyText := by
  have hlane : claim.lane.asStr ≠ "" := by cases claim.lane <;> decide
  have hactor : claim.actor.asStr ≠ "" := by cases claim.actor <;> decide
  have hsource : claim.source.asStr ≠ "" := by cases claim.source <;> decide
  have hstate : claim.state.asStr ≠ "" := by cases claim.state <;> decide
  unfold LaneClaim.NoEmptyText LaneClaim.tokens
  cases claim.worker <;> simp [hlane, hactor, hsource, hstate]

theorem mapM_tokens (h : claim.NoEmptyText) :
    claim.tokens.mapM checkClaimToken = .ok claim.tokens :=
  mapM_checkClaimToken_eq_ok.mpr ⟨rfl, (forall_tokens_ne_empty claim).mpr h⟩

theorem LaneClaim.NoEmptyText.parse_render (h : claim.NoEmptyText) :
    LaneClaim.parse claim.render = .ok claim := by
  rw [Lanes.parse_render, mapM_tokens h]
  exact claimOfTokens_tokens claim

/-- A claim is read back from its rendering exactly when none of its texts is
empty. -/
theorem LaneClaim.parse_render_eq_ok_iff (claim : LaneClaim) :
    LaneClaim.parse claim.render = .ok claim ↔ claim.NoEmptyText := by
  constructor
  · intro h
    rw [Lanes.parse_render] at h
    obtain ⟨tokens, htokens, -⟩ := Fallible.bind_eq_ok h
    exact (forall_tokens_ne_empty claim).mp (mapM_checkClaimToken_eq_ok.mp htokens).2
  · exact LaneClaim.NoEmptyText.parse_render

/-- The claim `LaneClaim::active` makes for an empty issue identifier. -/
def anonymousClaim : LaneClaim where
  lane := .main
  actor := .codex
  worker := none
  source := .manual
  issue := ""
  run := "19700101T0000Z-issue-main-0000"
  state := .active
  thread := "unknown"
  registry := "run/19700101T0000Z-issue-main-0000"

/-- It is refused as soon as it is written. -/
theorem parse_render_anonymousClaim :
    LaneClaim.parse anonymousClaim.render = .error (.invalidToken "issue=")
      ∧ LaneClaim.parse anonymousClaim.render ≠ .ok anonymousClaim := by
  have hrefused : LaneClaim.parse anonymousClaim.render = .error (.invalidToken "issue=") := by
    rw [parse_render]
    rfl
  exact ⟨hrefused, by rw [hrefused]; exact nofun⟩

/-! ## Claims that were read have no empty text -/

theorem parseClaimTokens_ne_empty : ∀ (bound : Nat) {input : List Char}
    {tokens : List (String × String)}, scanClaimTokens bound input = .ok tokens →
      ∀ token ∈ tokens, token.2 ≠ ""
  | 0, input, tokens, h => by
      obtain rfl := Except.ok.inj h
      simp
  | bound + 1, input, tokens, h => by
      rw [scanClaimTokens] at h
      split at h
      · obtain rfl := Except.ok.inj h
        simp
      · next c start =>
        obtain ⟨⟨token, rest⟩, htoken, h⟩ := bind_eq_ok h
        obtain ⟨tokens', htokens, h⟩ := bind_eq_ok h
        obtain rfl := Except.ok.inj h
        obtain ⟨key, next, after, value, -, -, hvalue, -, rfl⟩ := parseClaimToken_eq_ok htoken
        refine List.forall_mem_cons.mpr ⟨?_, parseClaimTokens_ne_empty bound htokens⟩
        simpa using hvalue

theorem claimValue_mem {tokens : List (String × String)} (h : claimValue tokens key = some value) : (key, value) ∈ tokens := by
  obtain ⟨front, back, hlist, -⟩ := List.lookup_eq_some_iff.mp h
  rw [← List.mem_reverse, hlist]
  simp

theorem required_mem {tokens : List (String × String)} (h : required tokens key = .ok value) : (key, value) ∈ tokens :=
  claimValue_mem (okOr_eq_ok.mp h)

theorem noEmptyText_of_parse {input : String} (h : LaneClaim.parse input = .ok claim) : claim.NoEmptyText := by
  obtain ⟨tokens, htokens, h⟩ := bind_eq_ok h
  have hne := parseClaimTokens_ne_empty _ htokens
  obtain ⟨version, -, h⟩ := bind_eq_ok h
  obtain ⟨-, -, h⟩ := bind_eq_ok h
  obtain ⟨lane, -, h⟩ := bind_eq_ok h
  obtain ⟨actor, -, h⟩ := bind_eq_ok h
  obtain ⟨source, -, h⟩ := bind_eq_ok h
  obtain ⟨issue, hissue, h⟩ := bind_eq_ok h
  obtain ⟨run, hrun, h⟩ := bind_eq_ok h
  obtain ⟨state, -, h⟩ := bind_eq_ok h
  obtain ⟨thread, hthread, h⟩ := bind_eq_ok h
  obtain ⟨registry, hregistry, h⟩ := bind_eq_ok h
  obtain rfl := Except.ok.inj h
  exact ⟨fun hworker => hne _ (claimValue_mem hworker) rfl, hne _ (required_mem hissue),
    hne _ (required_mem hrun), hne _ (required_mem hthread), hne _ (required_mem hregistry)⟩

end SheaSymphony.Lanes

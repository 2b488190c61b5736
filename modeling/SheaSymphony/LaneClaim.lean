import SheaSymphony.Fallible
import SheaSymphony.Text

/-!
# Lane claims

The claim a worker writes into a tracker field (`lane_claim.rs`): a record
rendered as blank-separated `key=value` tokens, and the scanner that reads such
a line back. A value is written bare or, where a bare one would not survive the
scanner, between quotes with escapes.

The scanner's cursor is the list of characters still to be read; a token that
is refused is quoted from its start up to the cursor.
-/

namespace SheaSymphony.Lanes

inductive LaneClaimLane where
  | main | review | merge
deriving DecidableEq

inductive LaneClaimActor where
  | codex | gemini | antigravity | claude | human
deriving DecidableEq

inductive LaneClaimSource where
  | loop | manual | goal
deriving DecidableEq

inductive LaneClaimState where
  | active | done | stale | failed | superseded
deriving DecidableEq

structure LaneClaim where
  lane : LaneClaimLane
  actor : LaneClaimActor
  worker : Option String
  source : LaneClaimSource
  issue : String
  run : String
  state : LaneClaimState
  thread : String
  registry : String
deriving DecidableEq

inductive LaneClaimParseError where
  | missingKey (key : String)
  | unsupportedVersion (version : String)
  | invalidToken (token : String)
  | invalidValue (key value : String)
deriving DecidableEq

def LaneClaimLane.asStr : LaneClaimLane → String
  | .main => "main"
  | .review => "review"
  | .merge => "merge"

def LaneClaimActor.asStr : LaneClaimActor → String
  | .codex => "codex"
  | .gemini => "gemini"
  | .antigravity => "antigravity"
  | .claude => "claude"
  | .human => "human"

def LaneClaimSource.asStr : LaneClaimSource → String
  | .loop => "loop"
  | .manual => "manual"
  | .goal => "goal"

def LaneClaimState.asStr : LaneClaimState → String
  | .active => "active"
  | .done => "done"
  | .stale => "stale"
  | .failed => "failed"
  | .superseded => "superseded"

def LaneClaimState.isTerminalAuditPointer : LaneClaimState → Bool
  | .done | .stale | .failed | .superseded => true
  | .active => false

def LaneClaim.withState (claim : LaneClaim) (state : LaneClaimState) : LaneClaim :=
  { claim with state }

/-! ## Rendering -/

def escapeClaimChar (c : Char) : List Char :=
  if c = '\\' then ['\\', '\\']
  else if c = '"' then ['\\', '"']
  else if c = '\n' then ['\\', 'n']
  else if c = '\r' then ['\\', 'r']
  else if c = '\t' then ['\\', 't']
  else [c]

/-- The characters a bare value cannot hold. -/
def needsQuotes (c : Char) : Bool := Text.isWhitespace c || c == '"' || c == '\\'

def renderClaimValue (value : String) : String :=
  if value.toList.isEmpty || value.toList.any needsQuotes then
    String.ofList ('"' :: value.toList.flatMap escapeClaimChar ++ ['"'])
  else value

def claimToken (key value : String) : String := key ++ "=" ++ renderClaimValue value

def LaneClaim.render (claim : LaneClaim) : String :=
  Text.join " "
    (["v=1", claimToken "lane" claim.lane.asStr, claimToken "actor" claim.actor.asStr]
      ++ (claim.worker.map (claimToken "worker")).toList
      ++ [claimToken "source" claim.source.asStr, claimToken "issue" claim.issue,
        claimToken "run" claim.run, claimToken "state" claim.state.asStr,
        claimToken "thread" claim.thread, claimToken "registry" claim.registry])

/-! ## Scanning -/

/-- The token that began at `start`, up to the cursor. -/
def invalidTokenFrom (start cursor : List Char) : LaneClaimParseError :=
  .invalidToken (String.ofList (start.take (start.length - cursor.length)))

/-- A key, up to and with its `=`; it also ends where the input does. -/
def parseClaimKey (start : List Char) :
    List Char → Except LaneClaimParseError (List Char × List Char)
  | [] => .ok ([], [])
  | c :: rest =>
      if c = '=' then .ok ([], rest)
      else if Text.isWhitespace c then .error (invalidTokenFrom start (c :: rest))
      else do
        let (key, rest) ← parseClaimKey start rest
        return (c :: key, rest)

def unescapeClaimChar (c : Char) : Char :=
  if c = 'n' then '\n' else if c = 'r' then '\r' else if c = 't' then '\t' else c

/-- A quoted text behind its opening quote, with what follows the closing one;
none when it is never closed. -/
def scanQuoted : List Char → Option (List Char × List Char)
  | [] => none
  | [c] => if c = '"' then some ([], []) else none
  | c :: next :: rest =>
      if c = '"' then some ([], next :: rest)
      else if c = '\\' then
        (scanQuoted rest).map fun (value, rest) => (unescapeClaimChar next :: value, rest)
      else (scanQuoted (next :: rest)).map fun (value, rest) => (c :: value, rest)

/-- Does a token end here: at the end of the input or at whitespace? -/
def atTokenEnd (cursor : List Char) : Bool := cursor.head?.all Text.isWhitespace

def parseQuotedClaimValue (start cursor : List Char) :
    Except LaneClaimParseError (List Char × List Char) := do
  let (value, rest) ← Fallible.okOr (scanQuoted cursor) (.invalidToken (String.ofList start))
  Fallible.require (atTokenEnd rest) (invalidTokenFrom start rest)
  return (value, rest)

def parseUnquotedClaimValue (cursor : List Char) : List Char × List Char :=
  cursor.span fun c => !Text.isWhitespace c

/-- The value behind a key, quoted or bare. -/
def parseClaimValue (start : List Char) (next : Char) (after : List Char) :
    Except LaneClaimParseError (List Char × List Char) :=
  if next = '"' then parseQuotedClaimValue start after
  else .ok (parseUnquotedClaimValue (next :: after))

/-- The token at the front of the input, and what follows it. -/
def parseClaimToken (start : List Char) :
    Except LaneClaimParseError ((String × String) × List Char) := do
  let (key, rest) ← parseClaimKey start start
  Fallible.require (!key.isEmpty) (invalidTokenFrom start rest)
  match rest with
  | [] => .error (.invalidToken (String.ofList key))
  | next :: after =>
      let (value, rest) ← parseClaimValue start next after
      Fallible.require (!value.isEmpty) (.invalidToken (String.ofList key ++ "="))
      return ((String.ofList key, String.ofList value), rest)

/-- The scan with a bound on its tokens; each takes a character, so the length
of the input is bound enough (`scanClaimTokens_eq`). -/
def scanClaimTokens : Nat → List Char → Except LaneClaimParseError (List (String × String))
  | 0, _ => .ok []
  | bound + 1, input =>
      match input.dropWhile Text.isWhitespace with
      | [] => .ok []
      | c :: start => do
          let (token, rest) ← parseClaimToken (c :: start)
          let tokens ← scanClaimTokens bound rest
          return token :: tokens

def parseClaimTokens (input : List Char) :
    Except LaneClaimParseError (List (String × String)) :=
  scanClaimTokens input.length input

/-! ## Reading a claim -/

/-- The value of `key`; a later token replaces an earlier one of its key. -/
def claimValue (tokens : List (String × String)) (key : String) : Option String :=
  tokens.reverse.lookup key

def required (tokens : List (String × String)) (key : String) :
    Except LaneClaimParseError String :=
  Fallible.okOr (claimValue tokens key) (.missingKey key)

def parseLane (value : String) : Except LaneClaimParseError LaneClaimLane :=
  if value = "main" then .ok .main
  else if value = "review" then .ok .review
  else if value = "merge" then .ok .merge
  else .error (.invalidValue "lane" value)

def parseActor (value : String) : Except LaneClaimParseError LaneClaimActor :=
  if value = "codex" then .ok .codex
  else if value = "gemini" then .ok .gemini
  else if value = "antigravity" then .ok .antigravity
  else if value = "claude" then .ok .claude
  else if value = "human" then .ok .human
  else .error (.invalidValue "actor" value)

def parseSource (value : String) : Except LaneClaimParseError LaneClaimSource :=
  if value = "loop" then .ok .loop
  else if value = "manual" then .ok .manual
  else if value = "goal" then .ok .goal
  else .error (.invalidValue "source" value)

def parseState (value : String) : Except LaneClaimParseError LaneClaimState :=
  if value = "active" then .ok .active
  else if value = "done" then .ok .done
  else if value = "stale" then .ok .stale
  else if value = "failed" then .ok .failed
  else if value = "superseded" then .ok .superseded
  else .error (.invalidValue "state" value)

def claimOfTokens (tokens : List (String × String)) : Except LaneClaimParseError LaneClaim := do
  let version ← required tokens "v"
  Fallible.require (version == "1") (.unsupportedVersion version)
  let lane ← required tokens "lane" >>= parseLane
  let actor ← required tokens "actor" >>= parseActor
  let worker := claimValue tokens "worker"
  let source ← required tokens "source" >>= parseSource
  let issue ← required tokens "issue"
  let run ← required tokens "run"
  let state ← required tokens "state" >>= parseState
  let thread ← required tokens "thread"
  let registry ← required tokens "registry"
  return { lane, actor, worker, source, issue, run, state, thread, registry }

def LaneClaim.parse (input : String) : Except LaneClaimParseError LaneClaim :=
  parseClaimTokens input.toList >>= claimOfTokens

end SheaSymphony.Lanes

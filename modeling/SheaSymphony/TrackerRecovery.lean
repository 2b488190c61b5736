import SheaSymphony.Codes
import SheaSymphony.Lines

/-!
# Recovery markers

The markers of `orchestration/tracker_recovery.rs`: a write carries a comment
made from a stable key, by which a later readback knows that the write has
arrived.
-/

namespace SheaSymphony.Tracker

/-- A key is written with letters, digits, dashes, underscores and dots. -/
def recoveryKeyChar (c : Char) : Char :=
  if c.isAlphanum then Text.toAsciiLowercaseChar c
  else if c = '-' ∨ c = '_' ∨ c = '.' then c
  else '-'

/-- One dash for a run of dashes. -/
def collapseDashes : List Char → List Char
  | [] => []
  | [c] => [c]
  | c :: next :: rest =>
      if c = '-' ∧ next = '-' then collapseDashes (next :: rest)
      else c :: collapseDashes (next :: rest)

def recoveryKeyComponent (value : String) : String :=
  Text.trimMatches (· == '-') (String.ofList (collapseDashes (value.toList.map recoveryKeyChar)))

/-- FNV-1a over the bytes, on 64 bits. -/
def stableRecoveryHash (value : String) : String :=
  let hash := (Text.bytes value).foldl
    (fun hash byte => (hash ^^^ byte.toNat) * 0x100000001b3 % 2 ^ 64) 0xcbf29ce484222325
  String.ofList (Codes.hexDigits 16 hash)

def recoveryKey (label issueRef seed : String) : String :=
  recoveryKeyComponent label ++ "-" ++ recoveryKeyComponent issueRef ++ "-"
    ++ stableRecoveryHash seed

def trackerRecoveryMarker (key : String) : String :=
  "<!-- shea-symphony-tracker-recovery key=" ++ recoveryKeyComponent key ++ " -->"

def ensureTrackerRecoveryMarker (markdown key : String) : String :=
  let marker := trackerRecoveryMarker key
  if Text.contains markdown marker then markdown
  else
    let body := Text.trimEnd markdown
    (if body = "" then "" else body ++ "\n\n") ++ marker

theorem contains_ensureTrackerRecoveryMarker (markdown key : String) :
    Text.contains (ensureTrackerRecoveryMarker markdown key) (trackerRecoveryMarker key) = true := by
  rw [ensureTrackerRecoveryMarker]
  split
  · assumption
  · exact Text.contains_append_right (Text.contains_self _) _

end SheaSymphony.Tracker

import SheaSymphony.Text

/-!
# The workpad

`tracker/workpad.rs`: the one comment an issue keeps its evidence in. A workpad
is the marker and a list of entries between separator lines; an entry is known by
its first headings, and the canonical entry is itself a list of sections. Merging
a body takes its singleton blocks out first, then merges one entry after another.
-/

namespace SheaSymphony.Workpad

def ensureWorkpadMarker (markdown marker : String) : String :=
  if Text.contains markdown marker then markdown else marker ++ "\n" ++ markdown

def stripWorkpadMarker (markdown marker : String) : String :=
  match Text.stripPrefix markdown marker with
  | some content => Text.trimStart content
  | none => markdown

/-! ## Entries -/

def isSeparator (line : String) : Bool := Text.trim line == "---"

def splitWorkpadEntries (markdown : String) : List String :=
  (((Text.lines markdown).splitOnP isSeparator).map fun current =>
    Text.trim (Text.join "\n" current)).filter (· != "")

def renderWorkpadEntries (marker : String) (entries : List String) : String :=
  if entries.isEmpty then marker else marker ++ "\n" ++ Text.join "\n\n---\n\n" entries

def isH2 (line : String) : Bool := Text.startsWith line "## " && !Text.startsWith line "### "

def isH3 (line : String) : Bool := Text.startsWith line "### "

/-- The first second-level heading and, behind it, the first of the third level. -/
def workpadEntryKey (entry : String) : Option String :=
  match ((Text.lines entry).map Text.trim).dropWhile fun line => !isH2 line with
  | [] => none
  | h2 :: lines =>
      match lines.find? isH3 with
      | some h3 => some (h2 ++ "\n" ++ h3)
      | none => some h2

def workpadH2 (entry : String) : Option String := ((Text.lines entry).map Text.trim).find? isH2

def isCanonicalWorkpadEntry (entry : String) : Bool :=
  match workpadH2 entry with
  | some h2 => h2 == "## Shea Symphony Workpad" || h2 == "## Workpad"
  | none => false

/-! ## The sections of a canonical entry -/

/-- A third-level heading opens a section, unless nothing stands before it. -/
def sectionLines : List String → List String → List (List String)
  | current, [] => [current]
  | current, line :: lines =>
      if isH3 (Text.trim line) && !current.isEmpty then current :: sectionLines [line] lines
      else sectionLines (current ++ [line]) lines

def canonicalWorkpadSections (entry : String) : List String :=
  let body := ((Text.lines entry).dropWhile fun line =>
    !Text.startsWith (Text.trim line) "## ").drop 1
  ((sectionLines [] body).map fun current => Text.trim (Text.join "\n" current)).filter (· != "")

def canonicalSectionKey (canonicalSection : String) : String :=
  match (Text.lines canonicalSection).find? fun line => Text.trim line != "" with
  | some line => Text.trim line
  | none => ""

def replaceSection (sections : List String) (incoming : String) : List String :=
  match sections.findIdx? fun existing =>
      canonicalSectionKey existing == canonicalSectionKey incoming with
  | some index => sections.set index incoming
  | none => sections ++ [incoming]

def renderCanonicalSections (sections : List String) : String :=
  if sections.isEmpty then "## Shea Symphony Workpad"
  else "## Shea Symphony Workpad" ++ "\n\n" ++ Text.join "\n\n" sections

def mergeCanonicalWorkpadSections (existing : Option String) (incoming : String) : String :=
  let sections := (existing.map canonicalWorkpadSections).getD []
  renderCanonicalSections ((canonicalWorkpadSections incoming).foldl replaceSection sections)

/-! ## One entry -/

/-- The entries of the workpad that are canonical, merged into one. -/
def mergeCanonicalEntries (entries : List String) : Option String :=
  (entries.filter isCanonicalWorkpadEntry).foldl
    (fun canonical entry => some (mergeCanonicalWorkpadSections canonical entry)) none

/-- The first entry with the key makes way, the others with it are dropped. -/
def replaceKeyed (incomingEntry incomingKey : String) : Bool → List String → List String
  | replaced, [] => if replaced then [] else [incomingEntry]
  | replaced, entry :: entries =>
      if workpadEntryKey entry == some incomingKey then
        if replaced then replaceKeyed incomingEntry incomingKey replaced entries
        else incomingEntry :: replaceKeyed incomingEntry incomingKey true entries
      else entry :: replaceKeyed incomingEntry incomingKey replaced entries

def replaceOrAppendWorkpadEntry (existing incomingEntry marker incomingKey : String) : String :=
  let entries := splitWorkpadEntries (stripWorkpadMarker existing marker)
  if isCanonicalWorkpadEntry incomingEntry then
    renderWorkpadEntries marker
      (entries.filter (fun entry => !isCanonicalWorkpadEntry entry) ++
        [mergeCanonicalWorkpadSections (mergeCanonicalEntries entries) incomingEntry])
  else renderWorkpadEntries marker (replaceKeyed incomingEntry incomingKey false entries)

def appendWorkpadEntry (existing incomingEntry : String) : String :=
  Text.trimEnd existing ++ "\n\n---\n\n" ++ incomingEntry

def mergeWorkpadEntry (marker existing incomingEntry : String) : String :=
  let incomingEntry := Text.trim incomingEntry
  if incomingEntry == "" || Text.contains existing incomingEntry then existing
  else match workpadEntryKey incomingEntry with
    | some key => replaceOrAppendWorkpadEntry existing incomingEntry marker key
    | none => appendWorkpadEntry existing incomingEntry

/-! ## Singleton blocks -/

structure SingletonBlock where
  start : String
  «end» : String
  stripWhenMissing : Bool
deriving DecidableEq

def runtimeOwnership : SingletonBlock where
  start := "<!-- shea-symphony-runtime-ownership -->"
  «end» := "<!-- /shea-symphony-runtime-ownership -->"
  stripWhenMissing := true

def workspaceAdoption : SingletonBlock where
  start := "<!-- shea-symphony-workspace-adoption -->"
  «end» := "<!-- /shea-symphony-workspace-adoption -->"
  stripWhenMissing := false

def markedBlock (text start «end» : String) : Option String := do
  let (_, afterStart) ← Text.cut text start
  let (body, _) ← Text.cut afterStart «end»
  return start ++ body ++ «end»

/-- One block: it replaces the workpad's block of that kind and leaves the body, or
leaves the body all the same, or stays in it. -/
def replaceSingletonBlock (block : SingletonBlock) (merged remainder : String) :
    String × String :=
  match markedBlock remainder block.start block.end with
  | none => (merged, remainder)
  | some incomingBlock =>
      match markedBlock merged block.start block.end with
      | some existingBlock =>
          (Text.replaceFirst merged existingBlock incomingBlock,
            Text.replaceFirst remainder incomingBlock "")
      | none =>
          if block.stripWhenMissing then (merged, Text.replaceFirst remainder incomingBlock "")
          else (merged, remainder)

def replaceSingletonWorkpadBlocks (existing incoming : String) : String × String :=
  -- The section-aware merge replaces an ownership block with the section it is in.
  let (merged, remainder) :=
    if (splitWorkpadEntries incoming).any isCanonicalWorkpadEntry then (existing, incoming)
    else replaceSingletonBlock runtimeOwnership existing incoming
  replaceSingletonBlock workspaceAdoption merged remainder

/-! ## A body -/

def mergeWorkpadBody (existing incoming marker : String) : String :=
  let existing := ensureWorkpadMarker existing marker
  let incoming := ensureWorkpadMarker incoming marker
  let (merged, incomingRemainder) := replaceSingletonWorkpadBlocks existing incoming
  let incomingContent := stripWorkpadMarker incomingRemainder marker
  (splitWorkpadEntries incomingContent).foldl (mergeWorkpadEntry marker) merged

end SheaSymphony.Workpad

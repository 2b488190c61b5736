import Mathlib.Data.List.DropRight
import Mathlib.Data.List.Infix
import Mathlib.Data.String.Basic

/-!
# Text

The fragment of the string API that Rust programs lean on, over Lean's
`String`: character classes with their Unicode definitions, `trim`,
substring search, ASCII case folding and UTF-8 bytes. Everything is
computable, so concrete texts can be decided.

Full Unicode lowercasing is a table the language's library owns; it enters
as the parameter `UnicodeCase`, of which only the agreement with the ASCII
fold is used.
-/

namespace Text

/-- `char::is_whitespace`: the Unicode `White_Space` property. -/
def isWhitespace (c : Char) : Bool :=
  let n := c.toNat
  (9 ≤ n && n ≤ 13) || n == 0x20 || n == 0x85 || n == 0xA0 || n == 0x1680
    || (0x2000 ≤ n && n ≤ 0x200A) || n == 0x2028 || n == 0x2029 || n == 0x202F
    || n == 0x205F || n == 0x3000

/-- `char::is_control`: the general category `Cc`. -/
def isControl (c : Char) : Bool :=
  c.toNat < 0x20 || (0x7F ≤ c.toNat && c.toNat ≤ 0x9F)

def trimMatches (p : Char → Bool) (s : String) : String :=
  String.ofList ((s.toList.dropWhile p).rdropWhile p)

def trim (s : String) : String := trimMatches isWhitespace s

/-- `value.trim().is_empty()`. -/
def isBlank (s : String) : Bool := (trim s).toList.isEmpty

def trimStart (s : String) : String := String.ofList (s.toList.dropWhile isWhitespace)

def trimEnd (s : String) : String := String.ofList (s.toList.rdropWhile isWhitespace)

def contains (s pattern : String) : Bool := decide (pattern.toList <:+: s.toList)

/-- `parts.join(separator)`. -/
def join (separator : String) (parts : List String) : String :=
  String.ofList (separator.toList.intercalate (parts.map String.toList))

/-- `str::split_whitespace`: the maximal runs without whitespace. -/
def splitWhitespace (s : String) : List String :=
  ((s.toList.splitOnP isWhitespace).filter fun run => !run.isEmpty).map String.ofList

/-- The whitespace-separated words of a text, one blank apart. -/
def collapseWhitespace (s : String) : String := join " " (splitWhitespace s)

/-- `str::lines`: a line ends at a line feed, with the carriage return before
it; what follows the last line feed is a line when it is not empty. -/
def lines (s : String) : List String :=
  let pieces := s.toList.splitOn '\n'
  let terminated := pieces.dropLast.map fun line =>
    if line.getLast? = some '\r' then line.dropLast else line
  let rest := pieces.getLast?.toList.filter fun line => !line.isEmpty
  (terminated ++ rest).map String.ofList

/-- `str::split` at a character: the pieces between its occurrences. -/
def splitChar (c : Char) (s : String) : List String := (s.toList.splitOn c).map String.ofList

/-- `str::split_once` at a character. -/
def splitOnce (c : Char) (s : String) : Option (String × String) :=
  match s.toList.span fun d => d != c with
  | (_, []) => none
  | (before, _ :: after) => some (String.ofList before, String.ofList after)

/-- `str::trim_start_matches` of one character. -/
def trimStartMatches (c : Char) (s : String) : String :=
  String.ofList (s.toList.dropWhile fun d => d == c)

def startsWith (s pattern : String) : Bool := pattern.toList.isPrefixOf s.toList

def endsWith (s pattern : String) : Bool := pattern.toList.isSuffixOf s.toList

def stripPrefix (s pattern : String) : Option String :=
  if startsWith s pattern then some (String.ofList (s.toList.drop pattern.toList.length)) else none

/-- What stands before and behind the first occurrence of `pattern`. -/
def cutList (pattern : List Char) : List Char → Option (List Char × List Char)
  | [] => if pattern.isEmpty then some ([], []) else none
  | c :: s =>
      if pattern.isPrefixOf (c :: s) then some ([], (c :: s).drop pattern.length)
      else (cutList pattern s).map fun (before, after) => (c :: before, after)

/-- `str::find`, with the text on both sides of what it finds. -/
def cut (s pattern : String) : Option (String × String) :=
  (cutList pattern.toList s.toList).map fun (before, after) =>
    (String.ofList before, String.ofList after)

/-- `str::replacen` with a count of one. -/
def replaceFirst (s pattern replacement : String) : String :=
  match cut s pattern with
  | some (before, after) => before ++ replacement ++ after
  | none => s

/-- `str::strip_prefix` of one character. -/
def stripPrefixChar (c : Char) (s : String) : Option String :=
  match s.toList with
  | [] => none
  | first :: rest => if first = c then some (String.ofList rest) else none

/-- What follows the first place where the folded text shows `pattern`. -/
def afterFold (fold : Char → Char) (pattern : List Char) : List Char → Option (List Char)
  | [] => if pattern.isEmpty then some [] else none
  | c :: s =>
      if pattern.isPrefixOf ((c :: s).map fold) then some ((c :: s).drop pattern.length)
      else afterFold fold pattern s

def toAsciiLowercaseChar (c : Char) : Char :=
  if 'A' ≤ c ∧ c ≤ 'Z' then Char.ofNat (c.toNat + 32) else c

def toAsciiLowercase (s : String) : String :=
  String.ofList (s.toList.map toAsciiLowercaseChar)

def toAsciiUppercaseChar (c : Char) : Char :=
  if 'a' ≤ c ∧ c ≤ 'z' then Char.ofNat (c.toNat - 32) else c

def toAsciiUppercase (s : String) : String :=
  String.ofList (s.toList.map toAsciiUppercaseChar)

def eqIgnoreAsciiCase (a b : String) : Bool :=
  decide (toAsciiLowercase a = toAsciiLowercase b)

def isAscii (s : String) : Bool := s.toList.all fun c => c.toNat < 128

/-- The Unicode lowercasing of the language's library (`str::to_lowercase`),
which folds ASCII text as the ASCII fold does. -/
structure UnicodeCase where
  toLowercase : String → String
  toLowercase_ascii : ∀ s, isAscii s = true → toLowercase s = toAsciiLowercase s

/-- The fold that touches ASCII letters only, a `UnicodeCase` that is right on
every ASCII text. -/
def UnicodeCase.ascii : UnicodeCase where
  toLowercase := toAsciiLowercase
  toLowercase_ascii _ _ := rfl

/-- `str::len`: the number of UTF-8 bytes. -/
def byteLength (s : String) : Nat := s.utf8ByteSize

def bytes (s : String) : List UInt8 := s.toUTF8.data.toList

/-- The longest prefix of at most `limit` UTF-8 bytes. -/
def takeBytesList : Nat → List Char → List Char
  | _, [] => []
  | limit, c :: s => if c.utf8Size ≤ limit then c :: takeBytesList (limit - c.utf8Size) s else []

def takeBytes (limit : Nat) (s : String) : String := String.ofList (takeBytesList limit s.toList)

/-! ## Words, folds and search -/

theorem toList_collapseWhitespace (s : String) :
    (collapseWhitespace s).toList =
      [' '].intercalate ((s.toList.splitOnP isWhitespace).filter fun run => !run.isEmpty) := by
  have hblank : " ".toList = [' '] := by decide
  simp only [collapseWhitespace, join, splitWhitespace, String.toList_ofList, List.map_map, hblank]
  congr 1
  exact List.map_id'' (fun run => String.toList_ofList) _

theorem contains_empty {pattern : String} (h : pattern ≠ "") : contains "" pattern = false := by
  have hne : ¬ pattern.toList <:+: [] := fun hin =>
    h (String.toList_inj.mp (List.eq_nil_of_infix_nil hin))
  exact decide_eq_false hne

@[simp] theorem toAsciiUppercase_eq_empty {s : String} : toAsciiUppercase s = "" ↔ s = "" := by
  rw [toAsciiUppercase, ← String.toList_inj, ← String.toList_inj, String.toList_ofList]
  exact List.map_eq_nil_iff

/-! ## Trimmed texts -/

/-- Neither end of the text is whitespace. -/
def IsTrimmed (s : String) : Prop :=
  (∀ c, s.toList.head? = some c → isWhitespace c = false)
    ∧ ∀ c, s.toList.getLast? = some c → isWhitespace c = false

theorem trim_of_isTrimmed {s : String} (h : IsTrimmed s) : trim s = s := by
  obtain ⟨hhead, hlast⟩ := h
  have hfront : s.toList.dropWhile isWhitespace = s.toList := by
    cases hs : s.toList with
    | nil => rfl
    | cons c l =>
        have hc := hhead c (by rw [hs]; rfl)
        rw [List.dropWhile_cons_of_neg (by rw [hc]; decide)]
  have hback : s.toList.rdropWhile isWhitespace = s.toList := by
    refine List.rdropWhile_eq_self_iff.mpr fun hne => ?_
    rw [hlast _ (List.getLast?_eq_some_getLast hne)]
    decide
  rw [trim, trimMatches, hfront, hback, String.ofList_toList]

/-! ## UTF-8 length -/

@[simp] theorem byteLength_append (s t : String) :
    byteLength (s ++ t) = byteLength s + byteLength t :=
  String.utf8ByteSize_append

theorem byteLength_eq (s : String) : byteLength s = String.utf8Len s.toList := by
  rw [byteLength, ← String.utf8ByteSize_ofList, String.ofList_toList]

theorem bytes_injective : Function.Injective bytes := by
  intro s t h
  have hdata : s.toUTF8.data = t.toUTF8.data := Array.toList_inj.mp h
  exact String.toByteArray_inj.mp (ByteArray.ext hdata)

end Text

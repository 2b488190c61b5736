import SheaSymphony.Text

/-!
# Paths

A path is the list of its components, as a Unix system reads them off a text:
repeated separators and names `.` inside a path are left out, so two texts name the
same path when their components agree.
-/

namespace Paths

inductive Component where
  | root
  | current
  | parent
  | normal (name : String)
deriving DecidableEq

abbrev Path := List Component

/-- The component of a name between separators. -/
def component? (name : String) : Option Component :=
  if name = "" ∨ name = "." then none
  else if name = ".." then some .parent
  else some (.normal name)

def names (text : String) : Path := (Text.splitChar '/' text).filterMap component?

def isAbsolute (text : String) : Bool := Text.startsWith text "/"

def ofText (text : String) : Path :=
  if isAbsolute text then .root :: names text
  else if (Text.splitChar '/' text).head? = some "." then .current :: names text
  else names text

/-- A path with a text put behind it; an absolute text replaces the path. -/
def join (base : Path) (text : String) : Path :=
  if isAbsolute text || base.isEmpty then ofText text else base ++ names text

def Component.rank : Component → Nat
  | .root => 0
  | .current => 1
  | .parent => 2
  | .normal _ => 3

def Component.before : Component → Component → Bool
  | .normal name, .normal other => decide (name < other)
  | component, other => decide (component.rank < other.rank)

/-- The order of paths, component by component. -/
def le : Path → Path → Bool
  | [], _ => true
  | _ :: _, [] => false
  | component :: path, other :: rest =>
      if component = other then le path rest else component.before other

def parent (path : Path) : Option Path :=
  match path.getLast? with
  | none | some .root => none
  | some _ => some path.dropLast

/-- The name at the end of a path. -/
def fileName (path : Path) : Option String :=
  match path.getLast? with
  | some (.normal name) => some name
  | _ => none

/-- What stands behind the last dot of a name, which is not its first character. -/
def nameExtension (name : String) : Option String :=
  if (name.toList.rdropWhile (· != '.')).length ≤ 1 then none
  else some (String.ofList (name.toList.rtakeWhile (· != '.')))

def extension (path : Path) : Option String := (fileName path).bind nameExtension

end Paths

import SheaSymphony.HandedWorkspace

/-!
# Workspaces inside their root

`prepare_workspace` and `remove_workspace_path` of `workspace.rs` both ask whether a path begins
with the root. The one asks it of the path as it is written, the other of what the path leads to.
A safe identifier has no separator, but it may be `..`: its path begins with the root and leads
out of it. That is the only one (`contained_iff`).
-/

namespace SheaSymphony.LaunchWorkspace

open MainHandoff (joinPath)
open Paths (Component Path)
open Workspace (safeIdentifier)

/-! ## Where a path leads -/

/-- A component put behind a path without `.` and `..`. -/
def resolveStep (path : Path) : Component → Path
  | .current => path
  | .parent =>
      match path.getLast? with
      | some (.normal _) => path.dropLast
      | _ => path
  | component => path ++ [component]

/-- A path from the root of the file system with its `.` and `..` taken out. -/
def resolve (path : Path) : Path := path.foldl resolveStep []

/-- The names from the root of the file system on. -/
def absolute (names : List String) : Path := .root :: names.map .normal

theorem resolve_absolute (names : List String) : resolve (absolute names) = absolute names := by
  have hfold : ∀ (names : List String) (path : Path),
      (names.map Component.normal).foldl resolveStep path = path ++ names.map .normal := by
    intro names
    induction names with
    | nil => exact fun path => (List.append_nil path).symm
    | cons name names ih =>
        intro path
        rw [List.map_cons, List.foldl_cons, ih]
        exact List.append_assoc path [.normal name] _
  rw [absolute, resolve, List.foldl_cons, hfold]
  rfl

theorem resolve_concat (path : Path) (component : Component) :
    resolve (path ++ [component]) = resolveStep (resolve path) component := by
  rw [resolve, List.foldl_append, resolve]
  rfl

theorem length_resolveStep_parent (names : List String) :
    (resolveStep (absolute names) .parent).length ≤ (absolute names).length := by
  rw [resolveStep]
  split
  · rw [List.length_dropLast]
    exact Nat.sub_le _ _
  · exact le_rfl

/-! ## Removing -/

/-- A root, and the file system around it: what is there, and the canonical path of what is
there. No path leads through a symbolic link. -/
structure Rooted where
  root : String
  names : List String
  canonical : Paths.ofText root = absolute names
  present : String → Bool
  canonicalize : String → String
  resolves : ∀ path, present path = true → Paths.isAbsolute path = true →
    Paths.ofText (canonicalize path) = resolve (Paths.ofText path)

def validateInsideRoot (root workspace : String) : Except WorkspaceError Unit := do
  Fallible.require (decide (Paths.ofText workspace ≠ Paths.ofText root)) (.equalsRoot workspace)
  Fallible.require ((Paths.ofText root).isPrefixOf (Paths.ofText workspace))
    (.outsideRoot workspace root)

theorem prepareWorkspace_eq (created : Except WorkspaceError String)
    (ready : String → Except WorkspaceError Unit) (identifier : String) :
    prepareWorkspace created ready identifier = (do
      let root ← created
      validateInsideRoot root (joinPath root (safeIdentifier identifier))
      ready (joinPath root (safeIdentifier identifier))
      return joinPath root (safeIdentifier identifier)) := by
  simp only [prepareWorkspace, validateInsideRoot, bind_assoc]

/-- `remove_workspace_path`, with what is done to a path that it accepts. -/
def removeWorkspacePath (rooted : Rooted) (remove : String → Except WorkspaceError Unit)
    (workspace : String) : Except WorkspaceError Unit :=
  if rooted.present workspace then do
    let canonicalWorkspace := rooted.canonicalize workspace
    validateInsideRoot rooted.root canonicalWorkspace
    Fallible.require (decide (Paths.ofText workspace ≠ Paths.ofText rooted.root
      ∧ Paths.ofText canonicalWorkspace ≠ Paths.ofText rooted.root)) (.equalsRoot rooted.root)
    remove workspace
  else validateInsideRoot rooted.root workspace

/-! ## Containment -/

/-- The path leads to a place behind the root, and removing does not refuse it. -/
structure Contained (rooted : Rooted) (path : String) : Prop where
  inside : Paths.ofText rooted.root <+: resolve (Paths.ofText path)
  strict : resolve (Paths.ofText path) ≠ Paths.ofText rooted.root
  removes : ∀ remove : String → Except WorkspaceError Unit, remove path = .ok () →
    removeWorkspacePath rooted remove path = .ok ()

theorem names_safe (identifier : String) :
    Paths.names (safeIdentifier identifier) = [] ∨ IsName (safeIdentifier identifier)
      ∨ safeIdentifier identifier = ".." := by
  by_cases hempty : safeIdentifier identifier = ""
  · exact Or.inl (by rw [hempty]; decide)
  by_cases hdot : safeIdentifier identifier = "."
  · exact Or.inl (by rw [hdot]; decide)
  by_cases hdots : safeIdentifier identifier = ".."
  · exact Or.inr (Or.inr hdots)
  · exact Or.inr (Or.inl ⟨hempty, hdot, hdots, slash_not_mem_safeIdentifier identifier⟩)

/-- The safe identifier is `..` where the identifier is. -/
theorem safeIdentifier_eq_dots_iff (identifier : String) :
    safeIdentifier identifier = ".." ↔ identifier = ".." := by
  constructor
  · intro h
    rw [← h]
    exact (safeIdentifier_eq_self (h ▸ by decide)).symm
  · rintro rfl
    decide

namespace Rooted

variable (rooted : Rooted)

theorem root_ne_empty : rooted.root ≠ "" := by
  intro h
  have hcanonical := rooted.canonical
  rw [h] at hcanonical
  cases hcanonical

/-- The path of a workspace. -/
def workspace (identifier : String) : String := joinPath rooted.root (safeIdentifier identifier)

theorem ofText_workspace (identifier : String) : Paths.ofText (rooted.workspace identifier)
    = absolute rooted.names ++ Paths.names (safeIdentifier identifier) := by
  rw [workspace, ofText_joinPath_names rooted.root_ne_empty (slash_not_mem_safeIdentifier _),
    rooted.canonical]

theorem isAbsolute_of_ofText {path : String} {rest : Path} (h : Paths.ofText path = .root :: rest) :
    Paths.isAbsolute path = true := by
  rw [Paths.ofText] at h
  split at h
  · next habsolute => exact habsolute
  · split at h
    · cases h
    · -- no name of a component is the root
      have hmem : Component.root ∈ Paths.names path := h ▸ List.mem_cons_self
      obtain ⟨piece, -, hpiece⟩ := List.mem_filterMap.mp hmem
      unfold Paths.component? at hpiece
      split at hpiece
      · cases hpiece
      · split at hpiece <;> cases hpiece

theorem validate_of_behind {path : String} {more : Path} (hmore : more ≠ [])
    (h : Paths.ofText path = absolute rooted.names ++ more) :
    validateInsideRoot rooted.root path = .ok () := by
  have hne : Paths.ofText path ≠ Paths.ofText rooted.root := by
    rw [h, rooted.canonical]
    exact fun hsame => hmore (List.append_right_eq_self.mp hsame)
  have hprefix : (Paths.ofText rooted.root).isPrefixOf (Paths.ofText path) = true := by
    rw [h, rooted.canonical]
    exact List.isPrefixOf_iff_prefix.mpr (List.prefix_append _ _)
  rw [validateInsideRoot, decide_eq_true hne, hprefix]
  rfl

theorem contained_of_isName {identifier : String} (h : IsName (safeIdentifier identifier)) :
    Contained rooted (rooted.workspace identifier) := by
  have hpath := rooted.ofText_workspace identifier
  rw [names_of_isName h] at hpath
  have hresolve : resolve (Paths.ofText (rooted.workspace identifier))
      = absolute rooted.names ++ [.normal (safeIdentifier identifier)] := by
    rw [hpath, resolve_concat, resolve_absolute]
    rfl
  have hne : ∀ {path : String}, Paths.ofText path
      = absolute rooted.names ++ [.normal (safeIdentifier identifier)] →
        Paths.ofText path ≠ Paths.ofText rooted.root := by
    intro path hpath hsame
    rw [hpath, rooted.canonical] at hsame
    exact absurd (List.append_right_eq_self.mp hsame) (List.cons_ne_nil _ _)
  refine ⟨?_, ?_, fun remove hremove => ?_⟩
  · rw [hresolve, rooted.canonical]
    exact List.prefix_append _ _
  · rw [hresolve, rooted.canonical]
    exact fun hsame => absurd (List.append_right_eq_self.mp hsame) (List.cons_ne_nil _ _)
  · rw [removeWorkspacePath]
    split
    · next hpresent =>
      have hcanonical : Paths.ofText (rooted.canonicalize (rooted.workspace identifier))
          = absolute rooted.names ++ [.normal (safeIdentifier identifier)] := by
        rw [rooted.resolves _ hpresent (isAbsolute_of_ofText hpath), hresolve]
      show (do
        validateInsideRoot rooted.root (rooted.canonicalize (rooted.workspace identifier))
        Fallible.require (decide (Paths.ofText (rooted.workspace identifier) ≠ Paths.ofText rooted.root
          ∧ Paths.ofText (rooted.canonicalize (rooted.workspace identifier))
            ≠ Paths.ofText rooted.root)) (.equalsRoot rooted.root)
        remove (rooted.workspace identifier)) = .ok ()
      rw [rooted.validate_of_behind (List.cons_ne_nil _ _) hcanonical,
        decide_eq_true ⟨hne hpath, hne hcanonical⟩, hremove]
      rfl
    · exact rooted.validate_of_behind (List.cons_ne_nil _ _) hpath

end Rooted

/-- What is prepared lies inside its root and can be removed again, unless the identifier is
`..`. -/
theorem contained_iff (rooted : Rooted) (identifier : String) :
    (∀ ready path, prepareWorkspace (.ok rooted.root) ready identifier = .ok path →
        Contained rooted path) ↔ identifier ≠ ".." := by
  constructor
  · rintro h rfl
    have hpath := rooted.ofText_workspace ".."
    have hparent : Paths.names (safeIdentifier "..") = [.parent] := by decide
    rw [hparent] at hpath
    have hprepared : prepareWorkspace (.ok rooted.root) (fun _ => .ok ()) ".."
        = .ok (rooted.workspace "..") := by
      rw [prepareWorkspace_eq]
      show (do
        validateInsideRoot rooted.root (rooted.workspace "..")
        .ok (rooted.workspace "..")) = _
      rw [rooted.validate_of_behind (List.cons_ne_nil _ _) hpath]
      rfl
    have hcontained := h _ _ hprepared
    have hinside := hcontained.inside
    have hresolve : resolve (Paths.ofText (rooted.workspace ".."))
        = resolveStep (absolute rooted.names) .parent := by
      rw [hpath, resolve_concat, resolve_absolute]
    rw [hresolve, rooted.canonical] at hinside
    refine hcontained.strict ?_
    rw [hresolve, rooted.canonical]
    exact (hinside.eq_of_length_le (length_resolveStep_parent _)).symm
  · intro hdots ready path h
    rw [prepareWorkspace_eq] at h
    obtain ⟨root, hroot, h⟩ := Fallible.bind_eq_ok h
    obtain rfl := Except.ok.inj hroot
    obtain ⟨⟨⟩, hvalid, h⟩ := Fallible.bind_eq_ok h
    obtain ⟨⟨⟩, -, h⟩ := Fallible.bind_eq_ok h
    obtain rfl : rooted.workspace identifier = path := Except.ok.inj h
    rcases names_safe identifier with hnames | hname | hsafe
    · -- the path is the root, and is refused
      have hpath := rooted.ofText_workspace identifier
      rw [hnames, List.append_nil, ← rooted.canonical] at hpath
      obtain ⟨⟨⟩, hne, -⟩ := Fallible.bind_eq_ok hvalid
      exact absurd hpath (of_decide_eq_true (Fallible.require_eq_ok.mp hne))
    · exact rooted.contained_of_isName hname
    · exact absurd ((safeIdentifier_eq_dots_iff identifier).mp hsafe) hdots

/-- A root with its parent above it. -/
def workRoot : Rooted where
  root := "/work/root"
  names := ["work", "root"]
  canonical := by decide
  present := fun path => path == "/work/root/.."
  canonicalize := fun _ => "/work"
  resolves := by
    intro path hpath _
    obtain rfl : path = "/work/root/.." := beq_iff_eq.mp hpath
    decide

/-- A workspace that leads out of its root is prepared; it is not removed. -/
theorem dots_escape :
    prepareWorkspace (.ok workRoot.root) (fun _ => .ok ()) ".." = .ok "/work/root/.."
      ∧ ¬ Contained workRoot "/work/root/.."
      ∧ removeWorkspacePath workRoot (fun _ => .ok ()) "/work/root/.."
        = .error (.outsideRoot "/work" "/work/root") := by
  refine ⟨by decide, fun h => ?_, by decide⟩
  have hinside := List.isPrefixOf_iff_prefix.mpr h.inside
  exact absurd hinside (by decide)

end SheaSymphony.LaunchWorkspace

import Mathlib.Data.List.Sort
import SheaSymphony.Paths
import SheaSymphony.ResourceClosure

/-!
# Files of a resource manifest

The rest of `resolve_resource_closure` (`resource_manifest.rs`): the entries of the selected
groups are looked up below the manifest, and the Markdown files of each are found by recursion
into its directories. An entry is checked against the repository where it leads to, a file
that the recursion finds is not; the closure stays inside exactly when every Markdown file
below an entry leads inside (`confined_iff`).
-/

namespace SheaSymphony.Resources

open Fallible
open Paths (Path)

/-- What the file system answers. The names of a directory come with those that could not be
read. -/
structure FileSystem where
  readToString : Path → Option String
  canonicalize : Path → Option Path
  isDir : Path → Bool
  readDir : Path → Option (List (Option String))
  length : Path → Option Nat
  /-- A path without links leads to itself. -/
  canonicalize_idem : ∀ {path canonical : Path}, canonicalize path = some canonical →
    canonicalize canonical = some canonical

structure ResourceEntry where
  kind : String
  path : String
deriving DecidableEq

/-- A manifest with the entries of its groups. -/
structure ReleaseManifest extends ResourceManifest where
  resources : String → List ResourceEntry

structure ResolvedResource where
  group : String
  kind : String
  path : Path
deriving DecidableEq

structure ResolvedResourceClosure where
  manifestPath : Path
  selectedGroups : List String
  resources : List ResolvedResource
  markdownSources : List Path
deriving DecidableEq

inductive ClosureError where
  | groups (halt : Halt)
  | missingManifestConfig
  | missingManifest (path : Path)
  | invalidManifest (path : Path) (source : String)
  | escapesRepository (group : String) (path root : Path)
  | missingResource (group : String) (path : Path)
  | emptyResource (group : String) (path : Path)
  | setupIncluded (group : String) (path : Path)
  | tooDeep
deriving DecidableEq

/-! ## Reading the manifest -/

def resolveRelative (workflowPath : Path) (relative : String) : Path :=
  if Paths.isAbsolute relative then Paths.ofText relative
  else Paths.join ((Paths.parent workflowPath).getD [.current]) relative

/-- A manifest that was read, with the groups the workflow enables. -/
structure ConfiguredManifest where
  path : Path
  manifest : ReleaseManifest
  enabledGroups : Option Json

variable (fs : FileSystem) (parse : String → Except String ReleaseManifest)

def readManifest (workflowPath : Path) (config : Json) :
    Except ClosureError (Option ConfiguredManifest) :=
  match config.get "resources" with
  | none => .ok none
  | some (.obj fields) => do
      let relative ← Fallible.okOr
        ((((Json.obj fields).get "manifest").bind Json.asStr).filter fun value => !Text.isBlank value)
        .missingManifestConfig
      let configuredManifestPath := resolveRelative workflowPath relative
      let source ← Fallible.okOr (fs.readToString configuredManifestPath)
        (.missingManifest configuredManifestPath)
      let manifestPath := (fs.canonicalize configuredManifestPath).getD configuredManifestPath
      let manifest ← (parse source).mapError (.invalidManifest manifestPath)
      return some ⟨manifestPath, manifest, (Json.obj fields).get "enabled_groups"⟩
  | some _ => .error (.groups (.failed .invalidWorkflowConfig))

def ConfiguredManifest.selectedGroups (configured : ConfiguredManifest) :
    Except ClosureError (List String) :=
  (resolveSelectedGroups configured.manifest.toResourceManifest
    (configured.manifest.groups.length + 1) configured.enabledGroups).mapError .groups

/-! ## Files of an entry -/

/-- A set of paths in their order. -/
def insertSource (source : Path) (markdownSources : List Path) : List Path :=
  if source ∈ markdownSources then markdownSources
  else markdownSources.orderedInsert (fun a b => Paths.le a b = true) source

/-- The recursion ends at a depth that is not part of the program. -/
def validateResource (group : String) : Nat → Path → List Path → Except ClosureError (List Path)
  | 0, _, _ => .error .tooDeep
  | depth + 1, path, markdownSources =>
      if fs.isDir path then do
        let entries ← Fallible.okOr (fs.readDir path) (.missingResource group path)
        let markdownSources ← entries.foldlM (fun markdownSources entry => do
          let name ← Fallible.okOr entry (.missingResource group path)
          validateResource group depth (path ++ [.normal name]) markdownSources) markdownSources
        Fallible.require (!entries.isEmpty) (.emptyResource group path)
        return markdownSources
      else do
        let length ← Fallible.okOr (fs.length path) (.missingResource group path)
        Fallible.require (length != 0) (.emptyResource group path)
        return if Paths.extension path = some "md" then insertSource path markdownSources
          else markdownSources

/-! ## Entries of the groups -/

def manifestRoot (manifestPath : Path) : Path := (Paths.parent manifestPath).getD [.current]

def repositoryRoot (manifestPath : Path) : Path :=
  let root := manifestRoot manifestPath
  (fs.canonicalize ((Paths.parent root).getD root)).getD root

def setupShea : Paths.Component := .normal "setup-shea"

/-- The resources and the Markdown sources found so far. -/
structure Gathered where
  resources : List ResolvedResource
  markdownSources : List Path

def gatherEntry (depth : Nat) (manifestPath : Path) (group : String) (gathered : Gathered)
    (entry : ResourceEntry) : Except ClosureError Gathered := do
  let path := Paths.join (manifestRoot manifestPath) entry.path
  let canonical ← Fallible.okOr (fs.canonicalize path) (.missingResource group path)
  Fallible.require ((repositoryRoot fs manifestPath).isPrefixOf canonical)
    (.escapesRepository group canonical (repositoryRoot fs manifestPath))
  Fallible.require (!canonical.contains setupShea) (.setupIncluded group canonical)
  let markdownSources ← validateResource fs group depth canonical gathered.markdownSources
  return {
    resources := gathered.resources ++ [{ group, kind := entry.kind, path := canonical }]
    markdownSources }

def gatherGroup (depth : Nat) (configured : ConfiguredManifest) (gathered : Gathered)
    (group : String) : Except ClosureError Gathered :=
  (configured.manifest.resources group).foldlM (gatherEntry fs depth configured.path group) gathered

def resolveResourceClosure (depth : Nat) (workflowPath : Path) (config : Json) :
    Except ClosureError (Option ResolvedResourceClosure) := do
  let some configured ← readManifest fs parse workflowPath config | return none
  let selected ← configured.selectedGroups
  let gathered ← selected.foldlM (gatherGroup fs depth configured) ⟨[], []⟩
  return some {
    manifestPath := configured.path
    selectedGroups := selected
    resources := gathered.resources
    markdownSources := gathered.markdownSources }

/-! ## What the recursion finds -/

/-- A file that the recursion finds in the directories below a path. -/
inductive Below : Path → Path → Prop where
  | file {path : Path} (hfile : fs.isDir path = false) : Below path path
  | entry {path file : Path} {entries : List (Option String)} {name : String}
      (hdir : fs.isDir path = true) (hentries : fs.readDir path = some entries)
      (hname : some name ∈ entries) (hbelow : Below (path ++ [.normal name]) file) :
      Below path file

def MarkdownBelow (path file : Path) : Prop := Below fs path file ∧ Paths.extension file = some "md"

theorem mem_insertSource {source file : Path} {markdownSources : List Path} :
    file ∈ insertSource source markdownSources ↔ file ∈ markdownSources ∨ file = source := by
  unfold insertSource
  split
  · next hmem =>
      exact ⟨Or.inl, fun h => h.elim id fun heq => heq ▸ hmem⟩
  · rw [List.mem_orderedInsert, or_comm]

variable {fs}

theorem markdownBelow_file {path file : Path} (hfile : fs.isDir path = false) :
    MarkdownBelow fs path file ↔ file = path ∧ Paths.extension path = some "md" := by
  constructor
  · rintro ⟨hbelow, hmd⟩
    cases hbelow with
    | file _ => exact ⟨rfl, hmd⟩
    | entry hdir _ _ _ =>
        rw [hfile] at hdir
        cases hdir
  · rintro ⟨rfl, hmd⟩
    exact ⟨.file hfile, hmd⟩

theorem markdownBelow_dir {path file : Path} {entries : List (Option String)}
    (hdir : fs.isDir path = true) (hentries : fs.readDir path = some entries) :
    MarkdownBelow fs path file ↔
      ∃ entry ∈ entries, ∃ name, entry = some name ∧ MarkdownBelow fs (path ++ [.normal name]) file := by
  constructor
  · rintro ⟨hbelow, hmd⟩
    cases hbelow with
    | file hfile =>
        rw [hdir] at hfile
        cases hfile
    | entry _ hread hname hbelow =>
        obtain rfl := Option.some.inj (hentries.symm.trans hread)
        exact ⟨_, hname, _, rfl, hbelow, hmd⟩
  · rintro ⟨_, hname, name, rfl, hbelow, hmd⟩
    exact ⟨.entry hdir hentries hname hbelow, hmd⟩

theorem mem_validateResource {group : String} {file : Path} :
    ∀ {depth : Nat} {path : Path} {before after : List Path},
      validateResource fs group depth path before = .ok after →
        (file ∈ after ↔ file ∈ before ∨ MarkdownBelow fs path file)
  | 0, _, _, _, h => nomatch h
  | depth + 1, path, before, after, h => by
      rw [validateResource] at h
      cases hdir : fs.isDir path with
      | true =>
          rw [hdir, if_pos rfl] at h
          obtain ⟨entries, hentries, h⟩ := bind_eq_ok h
          obtain ⟨found, hfound, h⟩ := bind_eq_ok h
          obtain ⟨-, h⟩ := require_bind_eq_ok.mp h
          obtain rfl := Except.ok.inj h
          rw [markdownBelow_dir hdir (okOr_eq_ok.mp hentries)]
          refine foldlM_gathers (P := fun sources => file ∈ sources) (fun hstep => ?_) hfound
          obtain ⟨name, hname, hstep⟩ := bind_eq_ok hstep
          obtain rfl := okOr_eq_ok.mp hname
          rw [mem_validateResource hstep]
          simp
      | false =>
          rw [hdir, if_neg Bool.false_ne_true] at h
          obtain ⟨length, -, h⟩ := bind_eq_ok h
          obtain ⟨-, h⟩ := require_bind_eq_ok.mp h
          rw [markdownBelow_file hdir, ← Except.ok.inj h]
          split
          · next hmd => simp [mem_insertSource, hmd]
          · next hmd => simp [hmd]

/-! ## What a closure holds -/

/-- Under the repository root and not of the setup. -/
def Inside (root path : Path) : Prop := root <+: path ∧ setupShea ∉ path

/-- Inside, where it leads to. -/
def Contained (fs : FileSystem) (root path : Path) : Prop :=
  ∃ canonical, fs.canonicalize path = some canonical ∧ Inside root canonical

/-- Where an entry leads to. -/
def Resolves (fs : FileSystem) (manifestPath : Path) (entry : ResourceEntry) (canonical : Path) :
    Prop :=
  fs.canonicalize (Paths.join (manifestRoot manifestPath) entry.path) = some canonical

theorem Resolves.unique {manifestPath : Path} {entry : ResourceEntry} {canonical found : Path}
    (h : Resolves fs manifestPath entry canonical) (hfound : Resolves fs manifestPath entry found) :
    found = canonical :=
  Option.some.inj (hfound.symm.trans h)

theorem gatherEntry_spec {depth : Nat} {manifestPath : Path} {group : String}
    {before after : Gathered} {entry : ResourceEntry}
    (h : gatherEntry fs depth manifestPath group before entry = .ok after) :
    ∃ canonical, Resolves fs manifestPath entry canonical
      ∧ Inside (repositoryRoot fs manifestPath) canonical
      ∧ after.resources = before.resources ++ [⟨group, entry.kind, canonical⟩]
      ∧ validateResource fs group depth canonical before.markdownSources = .ok after.markdownSources := by
  unfold gatherEntry at h
  obtain ⟨canonical, hcanonical, h⟩ := bind_eq_ok h
  obtain ⟨hroot, h⟩ := require_bind_eq_ok.mp h
  obtain ⟨hsetup, h⟩ := require_bind_eq_ok.mp h
  obtain ⟨markdownSources, hsources, h⟩ := bind_eq_ok h
  obtain rfl := Except.ok.inj h
  refine ⟨canonical, okOr_eq_ok.mp hcanonical,
    ⟨List.isPrefixOf_iff_prefix.mp hroot, ?_⟩, rfl, hsources⟩
  simpa using hsetup

section Gathering

variable {depth : Nat} {configured : ConfiguredManifest} {selected : List String} {after : Gathered}

theorem gathered_iff {P : Gathered → Prop} {Q : String → ResourceEntry → Prop}
    (hentry : ∀ {group before entry after},
      gatherEntry fs depth configured.path group before entry = .ok after →
        (P after ↔ P before ∨ Q group entry))
    (hstart : ¬ P ⟨[], []⟩)
    (h : selected.foldlM (gatherGroup fs depth configured) ⟨[], []⟩ = .ok after) :
    P after ↔ ∃ group ∈ selected, ∃ entry ∈ configured.manifest.resources group, Q group entry := by
  have hgroup : ∀ {before group after}, gatherGroup fs depth configured before group = .ok after →
      (P after ↔ P before ∨ ∃ entry ∈ configured.manifest.resources group, Q group entry) :=
    fun {_ group _} hgroup => foldlM_gathers (P := P) (Q := Q group) hentry hgroup
  have hall := foldlM_gathers (P := P)
    (Q := fun group => ∃ entry ∈ configured.manifest.resources group, Q group entry) hgroup h
  rw [hall, or_iff_right hstart]

theorem inside_of_resolves
    (h : selected.foldlM (gatherGroup fs depth configured) ⟨[], []⟩ = .ok after) {group : String}
    (hgroup : group ∈ selected) {entry : ResourceEntry}
    (hentry : entry ∈ configured.manifest.resources group) {canonical : Path}
    (hresolves : Resolves fs configured.path entry canonical) :
    Inside (repositoryRoot fs configured.path) canonical := by
  obtain ⟨before, after, hvisited⟩ := foldlM_visits h group hgroup
  obtain ⟨before, after, hvisited⟩ := foldlM_visits hvisited entry hentry
  obtain ⟨found, hfound, hinside, -⟩ := gatherEntry_spec hvisited
  rwa [← hresolves.unique hfound]

theorem mem_resources
    (h : selected.foldlM (gatherGroup fs depth configured) ⟨[], []⟩ = .ok after)
    (resource : ResolvedResource) :
    resource ∈ after.resources ↔
      ∃ group ∈ selected, ∃ entry ∈ configured.manifest.resources group, ∃ canonical,
        Resolves fs configured.path entry canonical ∧ resource = ⟨group, entry.kind, canonical⟩ := by
  refine gathered_iff (P := fun gathered => resource ∈ gathered.resources) (fun hentry => ?_)
    List.not_mem_nil h
  obtain ⟨canonical, hresolves, -, hresources, -⟩ := gatherEntry_spec hentry
  rw [hresources, List.mem_append, List.mem_singleton]
  refine or_congr_right ⟨fun heq => ⟨canonical, hresolves, heq⟩, ?_⟩
  rintro ⟨found, hfound, rfl⟩
  rw [hresolves.unique hfound]

theorem mem_markdownSources
    (h : selected.foldlM (gatherGroup fs depth configured) ⟨[], []⟩ = .ok after) (file : Path) :
    file ∈ after.markdownSources ↔
      ∃ group ∈ selected, ∃ entry ∈ configured.manifest.resources group, ∃ canonical,
        Resolves fs configured.path entry canonical ∧ MarkdownBelow fs canonical file := by
  refine gathered_iff (P := fun gathered => file ∈ gathered.markdownSources) (fun hentry => ?_)
    List.not_mem_nil h
  obtain ⟨canonical, hresolves, -, -, hsources⟩ := gatherEntry_spec hentry
  rw [mem_validateResource hsources]
  refine or_congr_right ⟨fun hbelow => ⟨canonical, hresolves, hbelow⟩, ?_⟩
  rintro ⟨found, hfound, hbelow⟩
  rwa [← hresolves.unique hfound]

end Gathering

/-! ## Confinement -/

/-- An entry of a group that the requested ones reach. -/
def ConfiguredManifest.Lists (configured : ConfiguredManifest) (entry : ResourceEntry) : Prop :=
  ∃ requested,
    requestedGroups configured.manifest.toResourceManifest configured.enabledGroups = .ok requested
      ∧ ∃ root ∈ requested, ∃ group, configured.manifest.toResourceManifest.Reaches root group
        ∧ entry ∈ configured.manifest.resources group

theorem mem_selectedGroups {configured : ConfiguredManifest} {selected : List String}
    (h : configured.selectedGroups = .ok selected) (entry : ResourceEntry) :
    (∃ group ∈ selected, entry ∈ configured.manifest.resources group) ↔ configured.Lists entry := by
  rw [ConfiguredManifest.selectedGroups, mapError_eq_ok, resolveSelectedGroups] at h
  obtain ⟨-, h⟩ := require_bind_eq_ok.mp h
  obtain ⟨core, -, h⟩ := bind_eq_ok h
  obtain ⟨-, h⟩ := require_bind_eq_ok.mp h
  obtain ⟨requested, hrequested, h⟩ := bind_eq_ok h
  have hclosure : Closure configured.manifest.toResourceManifest requested selected := by
    rcases resolveGroups_outcome configured.manifest.toResourceManifest requested with
      ⟨found, hclosure, -, hresult⟩ | ⟨error, -, hresult⟩
    · rw [hresult _ (Nat.lt_succ_self _)] at h
      exact Except.ok.inj h ▸ hclosure
    · rw [hresult _ (Nat.lt_succ_self _)] at h
      cases h
  constructor
  · rintro ⟨group, hgroup, hentry⟩
    obtain ⟨root, hroot, hreaches⟩ := (hclosure.mem_iff group).mp hgroup
    exact ⟨requested, mapError_eq_ok.mp hrequested, root, hroot, group, hreaches, hentry⟩
  · rintro ⟨again, hagain, root, hroot, group, hreaches, hentry⟩
    obtain rfl := Except.ok.inj ((mapError_eq_ok.mp hrequested).symm.trans hagain)
    exact ⟨group, (hclosure.mem_iff group).mpr ⟨root, hroot, hreaches⟩, hentry⟩

variable (fs) in
/-- The Markdown files below every entry lead inside. -/
def LeadsInside (configured : ConfiguredManifest) : Prop :=
  ∀ entry, configured.Lists entry → ∀ canonical, Resolves fs configured.path entry canonical →
    ∀ file, MarkdownBelow fs canonical file → Contained fs (repositoryRoot fs configured.path) file

/-- The resources and the Markdown sources of a closure lead inside the repository. -/
structure Confined (fs : FileSystem) (closure : ResolvedResourceClosure) : Prop where
  resources : ∀ resource ∈ closure.resources,
    Contained fs (repositoryRoot fs closure.manifestPath) resource.path
  markdownSources : ∀ source ∈ closure.markdownSources,
    Contained fs (repositoryRoot fs closure.manifestPath) source

variable {parse : String → Except String ReleaseManifest} {depth : Nat} {workflowPath : Path}
  {config : Json} {closure : ResolvedResourceClosure}

theorem resolveResourceClosure_spec
    (h : resolveResourceClosure fs parse depth workflowPath config = .ok (some closure)) :
    ∃ configured, readManifest fs parse workflowPath config = .ok (some configured)
      ∧ closure.manifestPath = configured.path
      ∧ ∃ selected gathered, configured.selectedGroups = .ok selected
        ∧ selected.foldlM (gatherGroup fs depth configured) ⟨[], []⟩ = .ok gathered
        ∧ closure.resources = gathered.resources
        ∧ closure.markdownSources = gathered.markdownSources := by
  unfold resolveResourceClosure at h
  obtain ⟨configured?, hread, h⟩ := bind_eq_ok h
  cases configured? with
  | none => cases h
  | some configured =>
      obtain ⟨selected, hselected, h⟩ := bind_eq_ok h
      obtain ⟨gathered, hgathered, h⟩ := bind_eq_ok h
      obtain rfl := Option.some.inj (Except.ok.inj h)
      exact ⟨configured, hread, rfl, selected, gathered, hselected, hgathered, rfl, rfl⟩

theorem resources_contained
    (h : resolveResourceClosure fs parse depth workflowPath config = .ok (some closure)) :
    ∀ resource ∈ closure.resources,
      Contained fs (repositoryRoot fs closure.manifestPath) resource.path := by
  obtain ⟨configured, -, hpath, selected, gathered, -, hgathered, hresources, -⟩ :=
    resolveResourceClosure_spec h
  rw [hresources, hpath]
  intro resource hresource
  obtain ⟨group, hgroup, entry, hentry, canonical, hresolves, rfl⟩ :=
    (mem_resources hgathered resource).mp hresource
  exact ⟨canonical, fs.canonicalize_idem hresolves,
    inside_of_resolves hgathered hgroup hentry hresolves⟩

theorem confined_iff
    (h : resolveResourceClosure fs parse depth workflowPath config = .ok (some closure)) :
    Confined fs closure ↔
      ∀ configured, readManifest fs parse workflowPath config = .ok (some configured) →
        LeadsInside fs configured := by
  have hresources := resources_contained h
  obtain ⟨configured, hread, hpath, selected, gathered, hselected, hgathered, -, hsources⟩ :=
    resolveResourceClosure_spec h
  constructor
  · intro hconfined read hagain entry hlists canonical hresolves file hbelow
    obtain rfl : configured = read :=
      Option.some.inj (Except.ok.inj (hread.symm.trans hagain))
    obtain ⟨group, hgroup, hentry⟩ := (mem_selectedGroups hselected entry).mpr hlists
    rw [← hpath]
    refine hconfined.markdownSources file ?_
    rw [hsources, mem_markdownSources hgathered]
    exact ⟨group, hgroup, entry, hentry, canonical, hresolves, hbelow⟩
  · intro hinside
    refine ⟨hresources, fun source hsource => ?_⟩
    rw [hsources, mem_markdownSources hgathered] at hsource
    obtain ⟨group, hgroup, entry, hentry, canonical, hresolves, hbelow⟩ := hsource
    rw [hpath]
    exact hinside configured hread entry ((mem_selectedGroups hselected entry).mp ⟨group, hgroup, hentry⟩)
      canonical hresolves source hbelow

/-! ## A link out of the repository -/

def skillsManifest : ReleaseManifest where
  schemaVersion := 1
  coreGroup := "core"
  groups := [("core", { optional := false, available := true, dependsOn := [] })]
  resources _ := [⟨"skills", "../skills"⟩]

/-- A directory with one file, which may be a link to a file elsewhere. -/
def skillsTree (linked : Bool) : FileSystem where
  readToString _ := some "manifest"
  canonicalize path :=
    if path = Paths.ofText "/repo/resources/../skills" then some (Paths.ofText "/repo/skills")
    else if linked && path == Paths.ofText "/repo/skills/notes.md" then
      some (Paths.ofText "/etc/notes.md")
    else some path
  isDir path := path == Paths.ofText "/repo/skills"
  readDir path := if path = Paths.ofText "/repo/skills" then some [some "notes.md"] else none
  length _ := some 10
  canonicalize_idem := by
    intro path canonical h
    split at h
    · rw [← Option.some.inj h]
      cases linked <;> decide
    · split at h
      · rw [← Option.some.inj h]
        cases linked <;> decide
      · next hplain hunlinked =>
          obtain rfl := Option.some.inj h
          rw [if_neg hplain, if_neg hunlinked]

def skillsConfig : Json :=
  .obj [("resources", .obj [("manifest", .str "/repo/resources/manifest.json")])]

def skillsClosure : ResolvedResourceClosure where
  manifestPath := Paths.ofText "/repo/resources/manifest.json"
  selectedGroups := ["core"]
  resources := [⟨"core", "skills", Paths.ofText "/repo/skills"⟩]
  markdownSources := [Paths.ofText "/repo/skills/notes.md"]

theorem skills_resolve (linked : Bool) :
    resolveResourceClosure (skillsTree linked) (fun _ => .ok skillsManifest) 2
      (Paths.ofText "/repo/shea.md") skillsConfig = .ok (some skillsClosure) := by
  cases linked <;> decide

/-- The resolution takes a link to a file outside the repository. -/
theorem link_leads_outside :
    resolveResourceClosure (skillsTree true) (fun _ => .ok skillsManifest) 2
        (Paths.ofText "/repo/shea.md") skillsConfig = .ok (some skillsClosure)
      ∧ repositoryRoot (skillsTree true) skillsClosure.manifestPath = Paths.ofText "/repo"
      ∧ (skillsTree true).canonicalize (Paths.ofText "/repo/skills/notes.md")
        = some (Paths.ofText "/etc/notes.md")
      ∧ ¬ Confined (skillsTree true) skillsClosure := by
  refine ⟨skills_resolve true, by decide, by decide, fun h => ?_⟩
  obtain ⟨canonical, hcanonical, hinside, -⟩ :=
    h.markdownSources (Paths.ofText "/repo/skills/notes.md") (List.mem_singleton.mpr rfl)
  have hleads : (skillsTree true).canonicalize (Paths.ofText "/repo/skills/notes.md")
      = some (Paths.ofText "/etc/notes.md") := by decide
  rw [← Option.some.inj (hleads.symm.trans hcanonical)] at hinside
  exact absurd (List.isPrefixOf_iff_prefix.mpr hinside) (by decide)

/-! ## Trees without links -/

/-- No name of a directory is a link or that of the setup. -/
structure LinkFree (fs : FileSystem) : Prop where
  plain : ∀ {dir : Path} {entries : List (Option String)} {name : String},
    fs.canonicalize dir = some dir → fs.readDir dir = some entries → some name ∈ entries →
      fs.canonicalize (dir ++ [.normal name]) = some (dir ++ [.normal name])
  setup : ∀ {dir : Path} {entries : List (Option String)},
    fs.readDir dir = some entries → some "setup-shea" ∉ entries

theorem Inside.child {root path : Path} {name : String} (h : Inside root path)
    (hname : name ≠ "setup-shea") : Inside root (path ++ [.normal name]) := by
  refine ⟨h.1.trans (List.prefix_append _ _), fun hmem => ?_⟩
  rcases List.mem_append.mp hmem with hmem | hmem
  · exact h.2 hmem
  · rw [List.mem_singleton, setupShea, Paths.Component.normal.injEq] at hmem
    exact hname hmem.symm

theorem Below.contained (hlinks : LinkFree fs) {root path file : Path} (h : Below fs path file)
    (hpath : fs.canonicalize path = some path) (hinside : Inside root path) :
    Contained fs root file := by
  induction h with
  | file _ => exact ⟨_, hpath, hinside⟩
  | entry _ hentries hname _ ih =>
      refine ih (hlinks.plain hpath hentries hname) (hinside.child ?_)
      rintro rfl
      exact hlinks.setup hentries hname

theorem confined_of_linkFree (hlinks : LinkFree fs)
    (h : resolveResourceClosure fs parse depth workflowPath config = .ok (some closure)) :
    Confined fs closure := by
  refine ⟨resources_contained h, fun source hsource => ?_⟩
  obtain ⟨configured, -, hpath, selected, gathered, -, hgathered, hresources, hsources⟩ :=
    resolveResourceClosure_spec h
  rw [hsources, mem_markdownSources hgathered] at hsource
  obtain ⟨group, hgroup, entry, hentry, canonical, hresolves, hbelow, -⟩ := hsource
  rw [hpath]
  exact hbelow.contained hlinks (fs.canonicalize_idem hresolves)
    (inside_of_resolves hgathered hgroup hentry hresolves)

theorem skills_linkFree : LinkFree (skillsTree false) := by
  have honly : ∀ {dir : Path} {entries : List (Option String)},
      (skillsTree false).readDir dir = some entries →
        dir = Paths.ofText "/repo/skills" ∧ entries = [some "notes.md"] := by
    intro dir entries hentries
    unfold skillsTree at hentries
    dsimp only at hentries
    split at hentries
    · next hdir => exact ⟨hdir, (Option.some.inj hentries).symm⟩
    · cases hentries
  refine ⟨fun {dir entries name} _ hentries hname => ?_, fun {dir entries} hentries => ?_⟩
  · obtain ⟨rfl, rfl⟩ := honly hentries
    obtain rfl : name = "notes.md" := by simpa using hname
    decide
  · obtain ⟨rfl, rfl⟩ := honly hentries
    decide

/-- A directory without links stays inside. -/
theorem plain_skills_confined :
    Confined (skillsTree false) skillsClosure
      ∧ ∀ configured,
        readManifest (skillsTree false) (fun _ => .ok skillsManifest) (Paths.ofText "/repo/shea.md")
            skillsConfig = .ok (some configured) → LeadsInside (skillsTree false) configured := by
  have hconfined := confined_of_linkFree skills_linkFree (skills_resolve false)
  exact ⟨hconfined, (confined_iff (skills_resolve false)).mp hconfined⟩

end SheaSymphony.Resources

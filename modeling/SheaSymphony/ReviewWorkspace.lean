import Mathlib.Data.List.SplitOn
import SheaSymphony.Fallible
import SheaSymphony.Framing

/-!
# What a review sees of its workspace

`workspace_state` of `review/structured.rs`, which `review/codex.rs` repeats: the
bytes `git diff HEAD` prints, and after them every untracked file behind the lengths
of its path and of its contents. The bytes determine the diff and the untracked
files (`workspaceState_inj`). They say nothing of the commit the diff is taken
against.
-/

namespace SheaSymphony.ReviewWorker

open Framing Fallible

/-- A path as `git ls-files` prints it, relative to the worktree. No file system holds
paths of `2 ^ 56` bytes. -/
structure RelativePath where
  bytes : List UInt8
  nonempty : bytes ≠ []
  noNul : 0 ∉ bytes
  short : bytes.length < 2 ^ 56

/-- A worktree: the commit it is on, the contents of the tracked files, the untracked
files that are not ignored, and what reading a file answers. -/
structure Worktree (C T : Type) where
  head : C
  tracked : T
  untracked : List RelativePath
  read : List UInt8 → Except String Bytes

/-- The paths as a listing prints them, each ended by a zero byte. -/
def listed (paths : List RelativePath) : List UInt8 := paths.flatMap fun path => path.bytes ++ [0]

/-- What the commands print, and how an invalid encoding is worded. -/
structure Host (C T : Type) where
  diff : C → T → Except String (List UInt8)
  lsFiles : List RelativePath → Except String (List UInt8)
  utf8Error : List UInt8 → String

variable {C T : Type}

/-- What the commands are documented to print: a listing ends every path in a zero
byte, a binary diff can be applied to its commit, and where one diff goes on past
the end of another it begins a line of the patch format. -/
structure Host.Documented (host : Host C T) : Prop where
  lists : ∀ {paths listing}, host.lsFiles paths = .ok listing → listing = listed paths
  applies : ∃ apply : C → List UInt8 → T, ∀ head tracked patch,
    host.diff head tracked = .ok patch → apply head patch = tracked
  continues : ∀ {head tracked head' tracked' patch rest}, host.diff head tracked = .ok patch →
    host.diff head' tracked' = .ok (patch ++ rest) → Continues rest

def decodeUtf8 (path : List UInt8) : Option String := String.fromUTF8? ⟨path.toArray⟩

/-- One untracked file behind the snapshot so far. -/
def appendUntracked (host : Host C T) (workspace : Worktree C T) (snapshot path : List UInt8) :
    Except String (List UInt8) :=
  match decodeUtf8 path with
  | none =>
      .error ("Review workspace contains a non-UTF-8 untracked path: " ++ host.utf8Error path)
  | some relative =>
      match workspace.read path with
      | .error error =>
          .error ("could not snapshot untracked Review file " ++ relative ++ ": " ++ error)
      | .ok contents => .ok (snapshot ++ framed path ++ framed contents.bytes)

def workspaceState (host : Host C T) (workspace : Worktree C T) : Except String (List UInt8) := do
  let tracked ← (host.diff workspace.head workspace.tracked).mapError
    ("could not snapshot Review workspace: " ++ ·)
  let untracked ← (host.lsFiles workspace.untracked).mapError
    ("could not inventory Review workspace: " ++ ·)
  ((untracked.splitOn 0).filter fun path => !path.isEmpty).foldlM
    (appendUntracked host workspace) tracked

/-! ## The listing -/

theorem filter_splitOn_listed (paths : List RelativePath) :
    ((listed paths).splitOn 0).filter (fun path => !path.isEmpty) =
      paths.map RelativePath.bytes := by
  induction paths with
  | nil => rfl
  | cons path paths ih =>
      have hfirst : (listed (path :: paths)).splitOn 0 = path.bytes :: (listed paths).splitOn 0 := by
        rw [listed, List.flatMap_cons, List.append_assoc, List.singleton_append,
          List.splitOn_append_cons_self, List.splitOn_eq_singleton path.noNul,
          List.singleton_append, listed]
      rw [hfirst, List.filter_cons_of_pos (by simpa using path.nonempty), ih, List.map_cons]

/-! ## The bytes -/

/-- An untracked file as it is written into a snapshot. -/
structure Entry where
  path : RelativePath
  contents : Bytes

def Entry.bytes (entry : Entry) : List UInt8 :=
  framed entry.path.bytes ++ framed entry.contents.bytes

theorem Entry.ext_bytes {e f : Entry} (hpath : e.path.bytes = f.path.bytes)
    (hcontents : e.contents.bytes = f.contents.bytes) : e = f := by
  obtain ⟨⟨path, _, _, _⟩, ⟨contents, _⟩⟩ := e
  obtain ⟨⟨path', _, _, _⟩, ⟨contents', _⟩⟩ := f
  obtain rfl : path = path' := hpath
  obtain rfl : contents = contents' := hcontents
  rfl

theorem selfDelimiting_entry : Codes.SelfDelimiting Entry.bytes := by
  intro e f r s h
  rw [Entry.bytes, Entry.bytes, List.append_assoc, List.append_assoc] at h
  obtain ⟨hpath, hrest⟩ := framed_append_inj (e.path.short.trans (by decide))
    (f.path.short.trans (by decide)) h
  obtain ⟨hcontents, hrest⟩ := framed_append_inj e.contents.bounded f.contents.bounded hrest
  exact ⟨Entry.ext_bytes hpath hcontents, hrest⟩

theorem entry_bytes_ne_nil (entry : Entry) : entry.bytes ≠ [] := by
  intro h
  have hlength := congrArg List.length h
  rw [Entry.bytes, framed, List.append_assoc, List.length_append, length_leBytes] at hlength
  simp at hlength

theorem shortFramed_entry : ShortFramed Entry.bytes := by
  intro entry
  refine ⟨leBytes 8 entry.path.bytes.length, entry.path.bytes ++ framed entry.contents.bytes, ?_,
    length_leBytes _ _, zero_mem_leBytes (entry.path.short.trans_le (by decide))⟩
  rw [Entry.bytes, framed, List.append_assoc]

/-- The entries of the untracked files, if all of them can be read. -/
def Reads (workspace : Worktree C T) (entries : List Entry) : Prop :=
  entries.map Entry.path = workspace.untracked
    ∧ ∀ entry ∈ entries, (decodeUtf8 entry.path.bytes).isSome = true
      ∧ workspace.read entry.path.bytes = .ok entry.contents

theorem foldlM_appendUntracked {host : Host C T} {workspace : Worktree C T}
    {paths : List RelativePath} {snapshot result : List UInt8} :
    (paths.map RelativePath.bytes).foldlM (appendUntracked host workspace) snapshot = .ok result ↔
      ∃ entries : List Entry, entries.map Entry.path = paths
        ∧ (∀ entry ∈ entries, (decodeUtf8 entry.path.bytes).isSome = true
          ∧ workspace.read entry.path.bytes = .ok entry.contents)
        ∧ result = snapshot ++ entries.flatMap Entry.bytes := by
  induction paths generalizing snapshot with
  | nil =>
      rw [List.map_nil, List.foldlM_nil]
      constructor
      · intro h
        exact ⟨[], rfl, List.forall_mem_nil _, by simpa using (Except.ok.inj h).symm⟩
      · rintro ⟨entries, hentries, -, rfl⟩
        obtain rfl := List.map_eq_nil_iff.mp hentries
        rw [List.flatMap_nil, List.append_nil]
        rfl
  | cons path paths ih =>
      rw [List.map_cons, List.foldlM_cons]
      constructor
      · intro h
        obtain ⟨next, hnext, hrest⟩ := bind_eq_ok h
        obtain ⟨entries, hentries, hread, hresult⟩ := ih.mp hrest
        rw [appendUntracked] at hnext
        split at hnext
        · cases hnext
        · next relative hrelative =>
          split at hnext
          · cases hnext
          · next contents hcontents =>
            obtain rfl := Except.ok.inj hnext
            refine ⟨⟨path, contents⟩ :: entries, by rw [List.map_cons, hentries],
              List.forall_mem_cons.mpr ⟨⟨by rw [hrelative]; rfl, hcontents⟩, hread⟩, ?_⟩
            rw [hresult, List.flatMap_cons, Entry.bytes]
            simp only [List.append_assoc]
      · rintro ⟨entries, hentries, hread, hresult⟩
        cases entries with
        | nil => cases hentries
        | cons entry entries =>
            obtain ⟨rfl, hlater⟩ := List.cons.inj hentries
            obtain ⟨⟨hutf8, hcontents⟩, hread⟩ := List.forall_mem_cons.mp hread
            obtain ⟨relative, hrelative⟩ := Option.isSome_iff_exists.mp hutf8
            have hnext : appendUntracked host workspace snapshot entry.path.bytes =
                .ok (snapshot ++ framed entry.path.bytes ++ framed entry.contents.bytes) := by
              rw [appendUntracked, hrelative, hcontents]
            rw [hnext, ok_bind]
            refine ih.mpr ⟨entries, hlater, hread, ?_⟩
            rw [hresult, List.flatMap_cons, Entry.bytes]
            simp only [List.append_assoc]

theorem workspaceState_eq_ok {host : Host C T} (hhost : host.Documented)
    {workspace : Worktree C T} {snapshot : List UInt8} :
    workspaceState host workspace = .ok snapshot ↔
      ∃ patch listing entries, host.diff workspace.head workspace.tracked = .ok patch
        ∧ host.lsFiles workspace.untracked = .ok listing ∧ Reads workspace entries
        ∧ snapshot = patch ++ entries.flatMap Entry.bytes := by
  constructor
  · intro h
    obtain ⟨patch, hpatch, h⟩ := bind_eq_ok h
    obtain ⟨listing, hlisting, h⟩ := bind_eq_ok h
    have hpatch := mapError_eq_ok.mp hpatch
    have hlisting := mapError_eq_ok.mp hlisting
    rw [hhost.lists hlisting, filter_splitOn_listed] at h
    obtain ⟨entries, hentries, hread, hsnapshot⟩ := foldlM_appendUntracked.mp h
    exact ⟨patch, listing, entries, hpatch, hlisting, ⟨hentries, hread⟩, hsnapshot⟩
  · rintro ⟨patch, listing, entries, hpatch, hlisting, ⟨hentries, hread⟩, hsnapshot⟩
    rw [workspaceState, hpatch, hlisting, hhost.lists hlisting]
    show ((((listed workspace.untracked).splitOn 0).filter fun path => !path.isEmpty).foldlM
      (appendUntracked host workspace) patch) = .ok snapshot
    rw [filter_splitOn_listed]
    exact foldlM_appendUntracked.mpr ⟨entries, hentries, hread, hsnapshot⟩

theorem workspaceState_inj {host : Host C T} (hhost : host.Documented)
    {workspace workspace' : Worktree C T} {snapshot : List UInt8}
    (h : workspaceState host workspace = .ok snapshot)
    (h' : workspaceState host workspace' = .ok snapshot) :
    host.diff workspace.head workspace.tracked = host.diff workspace'.head workspace'.tracked
      ∧ workspace.untracked = workspace'.untracked
      ∧ ∀ path ∈ workspace.untracked, workspace.read path.bytes = workspace'.read path.bytes := by
  obtain ⟨patch, listing, entries, hpatch, -, ⟨hentries, hread⟩, hsnapshot⟩ :=
    (workspaceState_eq_ok hhost).mp h
  obtain ⟨patch', listing', entries', hpatch', -, ⟨hentries', hread'⟩, hsnapshot'⟩ :=
    (workspaceState_eq_ok hhost).mp h'
  have hcontinues : ∀ rest, patch' = patch ++ rest → Continues rest := by
    rintro rest rfl
    exact hhost.continues hpatch hpatch'
  have hcontinues' : ∀ rest, patch = patch' ++ rest → Continues rest := by
    rintro rest rfl
    exact hhost.continues hpatch' hpatch
  obtain ⟨rfl, hbytes⟩ := front_inj shortFramed_entry hcontinues hcontinues'
    (hsnapshot.symm.trans hsnapshot')
  obtain rfl := selfDelimiting_entry.flatMap_injective entry_bytes_ne_nil hbytes
  refine ⟨hpatch.trans hpatch'.symm, hentries.symm.trans hentries', fun path hpath => ?_⟩
  rw [← hentries] at hpath
  obtain ⟨entry, hentry, rfl⟩ := List.mem_map.mp hpath
  rw [(hread entry hentry).2, (hread' entry hentry).2]

end SheaSymphony.ReviewWorker

import SheaSymphony.Coordinator
import SheaSymphony.Lines

/-!
# Identities behind their database keys

The rows of the local state are found under `RepoId::database_key` and
`IssueRef::database_key`, which join their parts as they are. Backends and
numbers show where they end; the three parts of a repository do not, for the
coordinator accepts any part that is not blank. A key belongs to one accepted
issue exactly when no slash inside a part can be taken for a separator
(`databaseKey_unique_iff`); the workflow id escapes the parts and has no such
condition.
-/

namespace SheaSymphony.Coordinator

open LocalState Fallible Codes

/-- Some request for the issue is accepted. -/
def Accepted (issueRef : IssueRef) : Prop :=
  ∃ expectedTrackerState expectedTrackerRevision episodeTime sourceKind sourceRef auditReason
    request, CoordinatorActivationRequest.new issueRef expectedTrackerState
      expectedTrackerRevision episodeTime sourceKind sourceRef auditReason = .ok request

/-- Some text that is not blank stands before a slash. -/
def CutBefore (s : String) : Prop :=
  ∃ before after, Text.isBlank before = false ∧ s = before ++ "/" ++ after

/-- Some text that is not blank stands behind a slash. -/
def CutBehind (s : String) : Prop :=
  ∃ before after, Text.isBlank after = false ∧ s = before ++ "/" ++ after

/-- No slash inside a part leaves, taken for the separator next to it, a part
that the coordinator accepts. -/
structure Uncut (repo : RepoId) : Prop where
  host : ¬ CutBefore repo.host
  owner_before : ¬ CutBefore repo.owner
  owner_behind : ¬ CutBehind repo.owner
  repo : ¬ CutBehind repo.repo

/-! ## Acceptance -/

theorem validateIssueRef_eq_ok {issueRef : IssueRef} :
    validateIssueRef issueRef = .ok () ↔
      Text.isBlank issueRef.repoId.host = false ∧ Text.isBlank issueRef.repoId.owner = false
        ∧ Text.isBlank issueRef.repoId.repo = false ∧ issueRef.number ≠ 0 := by
  constructor
  · intro h
    obtain ⟨_, hhost, h⟩ := bind_eq_ok h
    obtain ⟨_, howner, h⟩ := bind_eq_ok h
    obtain ⟨_, hrepo, h⟩ := bind_eq_ok h
    exact ⟨by simpa using require_eq_ok.mp hhost,
      by simpa using require_eq_ok.mp howner,
      by simpa using require_eq_ok.mp hrepo, by simpa using require_eq_ok.mp h⟩
  · rintro ⟨hhost, howner, hrepo, hnumber⟩
    simp [validateIssueRef, hhost, howner, hrepo, hnumber, require]

theorem accepted_iff {issueRef : IssueRef} :
    Accepted issueRef ↔ validateIssueRef issueRef = .ok () := by
  constructor
  · rintro ⟨state, revision, time, kind, source, reason, request, h⟩
    unfold CoordinatorActivationRequest.new at h
    split at h
    · cases h
    · assumption
  · intro h
    have htime : validateEpisodeTime (Rfc3339.epochSecond 0) = .ok () := by decide
    have hsource : Text.isBlank "app" = false := by decide
    have hreason : Text.trim "activate" ≠ ""
        ∧ Text.byteLength (Text.trim "activate") ≤ maxAuditReasonBytes := by decide
    refine ⟨none, none, Rfc3339.epochSecond 0, .operatorAction, "app", "activate", ?_⟩
    unfold CoordinatorActivationRequest.new
    split
    · next e hissue => exact absurd (h.symm.trans hissue) nofun
    split
    · next e hepisode => exact absurd (htime.symm.trans hepisode) nofun
    split
    · next hrevision => cases hrevision
    split
    · next hblank => exact absurd (hsource.symm.trans hblank) nofun
    rw [dif_neg hreason.1, dif_neg (not_lt.mpr hreason.2)]
    exact ⟨_, rfl⟩

/-! ## Equal keys -/

theorem toList_databaseKey (repo : RepoId) :
    repo.databaseKey.toList
      = repo.host.toList ++ '/' :: (repo.owner.toList ++ '/' :: repo.repo.toList) := by
  simp [RepoId.databaseKey]

theorem issueRef_databaseKey_inj {a b : IssueRef} (h : a.databaseKey = b.databaseKey) :
    a.trackerBackend = b.trackerBackend ∧ a.repoId.databaseKey = b.repoId.databaseKey
      ∧ a.number = b.number := by
  have htext : ∀ i : IssueRef, i.databaseKey.toList = i.trackerBackend.asStr.toList
      ++ '|' :: (i.repoId.databaseKey.toList ++ '|' :: decimal i.number) := by
    intro i
    simp [IssueRef.databaseKey, decimal]
  have hbackend : ∀ i : IssueRef, '|' ∉ i.trackerBackend.asStr.toList := by
    intro i
    cases i.trackerBackend <;> decide
  have hnumber : ∀ n, '|' ∉ decimal n := fun n => not_mem_decimal rfl
  have hlist := congrArg String.toList h
  rw [htext, htext] at hlist
  obtain ⟨hfront, hrest⟩ := terminated_inj (hbackend a) (hbackend b) hlist
  obtain ⟨hrepo, hback⟩ := terminated_inj_last (hnumber _) (hnumber _) hrest
  refine ⟨?_, String.toList_inj.mp hrepo, decimal_injective hback⟩
  have hspelling := String.toList_inj.mp hfront
  cases ha : a.trackerBackend <;> cases hb : b.trackerBackend <;> rw [ha, hb] at hspelling
    <;> first | rfl | exact absurd hspelling (by decide)

/-! ## Cutting a key elsewhere -/

theorem isBlank_slash (before after : String) :
    Text.isBlank (before ++ "/" ++ after) = false := by
  refine Text.isBlank_eq_false_iff.mpr ⟨'/', ?_, rfl⟩
  simp

theorem cutBefore_of_toList {s : String} {before after : List Char}
    (hvisible : ∃ c ∈ before, Text.isWhitespace c = false)
    (h : s.toList = before ++ '/' :: after) : CutBefore s := by
  refine ⟨String.ofList before, String.ofList after, Text.isBlank_eq_false_iff.mpr (by simpa), ?_⟩
  rw [← String.toList_inj, h]
  simp

theorem cutBehind_of_toList {s : String} {before after : List Char}
    (hvisible : ∃ c ∈ after, Text.isWhitespace c = false)
    (h : s.toList = before ++ '/' :: after) : CutBehind s := by
  refine ⟨String.ofList before, String.ofList after, Text.isBlank_eq_false_iff.mpr (by simpa), ?_⟩
  rw [← String.toList_inj, h]
  simp

theorem visible_slash (before after : List Char) :
    ∃ c ∈ before ++ '/' :: after, Text.isWhitespace c = false :=
  ⟨'/', by simp, rfl⟩

/-- Two repositories under one key agree where the first cannot be cut elsewhere:
wherever the second puts a separator, it would cut a part of the first. -/
theorem repoId_eq_of_uncut {a b : RepoId} (ha : Uncut a) (hhost : Text.isBlank b.host = false)
    (howner : Text.isBlank b.owner = false) (hrepo : Text.isBlank b.repo = false)
    (h : a.databaseKey = b.databaseKey) : a = b := by
  rw [Text.isBlank_eq_false_iff] at hhost howner hrepo
  have hlist := congrArg String.toList h
  rw [toList_databaseKey, toList_databaseKey] at hlist
  rcases cut_cases hlist with ⟨hfirst, hrest⟩ | ⟨m, -, hrest⟩ | ⟨m, hcut, -⟩
  · rcases cut_cases hrest with ⟨hsecond, hlast⟩ | ⟨k, -, hcut⟩ | ⟨k, hcut, -⟩
    · cases a
      cases b
      simp only [RepoId.mk.injEq]
      exact ⟨String.toList_inj.mp hfirst, String.toList_inj.mp hsecond, String.toList_inj.mp hlast⟩
    · exact absurd (cutBehind_of_toList hrepo hcut) ha.repo
    · exact absurd (cutBefore_of_toList howner hcut) ha.owner_before
  · -- the first separator of `b` is behind the first of `a`
    rcases cut_cases hrest with ⟨-, hlast⟩ | ⟨k, -, hlast⟩ | ⟨k, hcut, hlast⟩
    · exact absurd (cutBehind_of_toList hrepo hlast) ha.repo
    · have hlast' : a.repo.toList = (k ++ '/' :: b.owner.toList) ++ '/' :: b.repo.toList := by
        rw [hlast]
        simp
      exact absurd (cutBehind_of_toList hrepo hlast') ha.repo
    · have hvisible : ∃ c ∈ k, Text.isWhitespace c = false := by
        rcases cut_cases hlast with ⟨hk, -⟩ | ⟨j, hk, -⟩ | ⟨j, -, hlast'⟩
        · rw [← hk]
          exact howner
        · rw [hk]
          exact visible_slash _ _
        · exact absurd (cutBehind_of_toList hrepo hlast') ha.repo
      exact absurd (cutBehind_of_toList hvisible hcut) ha.owner_behind
  · exact absurd (cutBefore_of_toList hhost hcut) ha.host

theorem ne_cut (before after : String) : before ≠ before ++ "/" ++ after := by
  intro h
  have hlength := congrArg (fun part => part.toList.length) h
  simp at hlength

theorem exists_same_key_of_not_uncut {a : RepoId} (hhost : Text.isBlank a.host = false)
    (howner : Text.isBlank a.owner = false) (hrepo : Text.isBlank a.repo = false)
    (h : ¬ Uncut a) :
    ∃ b : RepoId, b ≠ a ∧ a.databaseKey = b.databaseKey ∧ Text.isBlank b.host = false
      ∧ Text.isBlank b.owner = false ∧ Text.isBlank b.repo = false := by
  obtain ⟨host, owner, repo⟩ := a
  by_contra hunique
  simp only [not_exists, not_and, Bool.not_eq_false] at hunique
  refine h ⟨?_, ?_, ?_, ?_⟩
  · rintro ⟨before, after, hbefore, rfl⟩
    have hsame := hunique ⟨before, after ++ "/" ++ owner, repo⟩
      (by simp [ne_cut])
      (by simp [RepoId.databaseKey, String.append_assoc]) hbefore (isBlank_slash _ _)
    rw [hsame] at hrepo
    cases hrepo
  · rintro ⟨before, after, hbefore, rfl⟩
    have hsame := hunique ⟨host, before, after ++ "/" ++ repo⟩
      (by simp [ne_cut])
      (by simp [RepoId.databaseKey, String.append_assoc]) hhost hbefore
    rw [isBlank_slash] at hsame
    cases hsame
  · rintro ⟨before, after, hafter, rfl⟩
    have hsame := hunique ⟨host ++ "/" ++ before, after, repo⟩
      (by simp [(ne_cut host before).symm])
      (by simp [RepoId.databaseKey, String.append_assoc]) (isBlank_slash _ _) hafter
    rw [hsame] at hrepo
    cases hrepo
  · rintro ⟨before, after, hafter, rfl⟩
    have hsame := hunique ⟨host, owner ++ "/" ++ before, after⟩
      (by simp [(ne_cut owner before).symm])
      (by simp [RepoId.databaseKey, String.append_assoc]) hhost (isBlank_slash _ _)
    rw [hsame] at hafter
    cases hafter

/-- No other accepted issue is found under the keys of an accepted one exactly
when its repository cannot be cut elsewhere. -/
theorem databaseKey_unique_iff {a : IssueRef} (ha : Accepted a) :
    (∀ b, Accepted b → a.databaseKey = b.databaseKey →
      a.repoId.databaseKey = b.repoId.databaseKey → a = b) ↔ Uncut a.repoId := by
  obtain ⟨hhost, howner, hrepo, hnumber⟩ := validateIssueRef_eq_ok.mp (accepted_iff.mp ha)
  constructor
  · intro hunique
    by_contra hcut
    obtain ⟨repo, hne, hkey, hparts⟩ := exists_same_key_of_not_uncut hhost howner hrepo hcut
    have hother : Accepted { a with repoId := repo } :=
      accepted_iff.mpr (validateIssueRef_eq_ok.mpr ⟨hparts.1, hparts.2.1, hparts.2.2, hnumber⟩)
    have hissue : a.databaseKey = IssueRef.databaseKey { a with repoId := repo } := by
      rw [IssueRef.databaseKey, IssueRef.databaseKey, hkey]
    have hsame := hunique _ hother hissue hkey
    exact hne (congrArg IssueRef.repoId hsame).symm
  · intro huncut b hb hissue hkey
    obtain ⟨hhost', howner', hrepo', -⟩ := validateIssueRef_eq_ok.mp (accepted_iff.mp hb)
    obtain ⟨hbackend, -, hnumber'⟩ := issueRef_databaseKey_inj hissue
    have hrepoId := repoId_eq_of_uncut huncut hhost' howner' hrepo' hkey
    cases a
    cases b
    simp only [IssueRef.mk.injEq]
    exact ⟨hbackend, hrepoId, hnumber'⟩

theorem uncut_of_no_slash {repo : RepoId} (hhost : '/' ∉ repo.host.toList)
    (howner : '/' ∉ repo.owner.toList) (hrepo : '/' ∉ repo.repo.toList) : Uncut repo := by
  have hslash : ∀ before after : String, '/' ∈ (before ++ "/" ++ after).toList := by simp
  constructor
  all_goals
    rintro ⟨before, after, -, hcut⟩
    have hmem := hslash before after
    rw [← hcut] at hmem
    contradiction

def issueWithRepo (host owner repo : String) : IssueRef where
  trackerBackend := .githubProjectV2
  repoId := { host, owner, repo }
  number := 7

theorem databaseKey_unique_github :
    Uncut (issueWithRepo "github.com" "Alive24" "shea-symphony").repoId
      ∧ ∀ b, Accepted b →
        (issueWithRepo "github.com" "Alive24" "shea-symphony").databaseKey = b.databaseKey →
        (issueWithRepo "github.com" "Alive24" "shea-symphony").repoId.databaseKey
          = b.repoId.databaseKey →
        issueWithRepo "github.com" "Alive24" "shea-symphony" = b := by
  have haccepted : Accepted (issueWithRepo "github.com" "Alive24" "shea-symphony") :=
    accepted_iff.mpr (validateIssueRef_eq_ok.mpr (by decide))
  have huncut : Uncut (issueWithRepo "github.com" "Alive24" "shea-symphony").repoId :=
    uncut_of_no_slash (by decide) (by decide) (by decide)
  exact ⟨huncut, (databaseKey_unique_iff haccepted).mpr huncut⟩

/-- An owner with a slash, and the issue that shares its keys. -/
theorem databaseKey_collides :
    Accepted (issueWithRepo "github.com" "Alive/24" "shea-symphony")
      ∧ Accepted (issueWithRepo "github.com/Alive" "24" "shea-symphony")
      ∧ (issueWithRepo "github.com" "Alive/24" "shea-symphony").databaseKey
        = (issueWithRepo "github.com/Alive" "24" "shea-symphony").databaseKey
      ∧ (issueWithRepo "github.com" "Alive/24" "shea-symphony").repoId.databaseKey
        = (issueWithRepo "github.com/Alive" "24" "shea-symphony").repoId.databaseKey
      ∧ issueWithRepo "github.com" "Alive/24" "shea-symphony"
        ≠ issueWithRepo "github.com/Alive" "24" "shea-symphony" := by
  refine ⟨?_, ?_, by decide, by decide, by decide⟩
  · exact accepted_iff.mpr (validateIssueRef_eq_ok.mpr (by decide))
  · exact accepted_iff.mpr (validateIssueRef_eq_ok.mpr (by decide))

end SheaSymphony.Coordinator

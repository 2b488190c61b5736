import SheaSymphony.LiveHandoff

/-!
# The link of a handoff

`apply_live_handoff_pr_link` reads the linked pull requests, links the published one if it
is not among the natively linked, and reads them again. A pull request is recognised by
its URL or by its number alone, and behind a repair any linkage is evidence
(`live_handoff_link_verified`).
-/

namespace SheaSymphony.MainHandoff

open Codes
open Interrupted (Program)

/-! ## Pull requests by their address -/

/-- A host, an owner or a repository in an address. -/
def IsSegment (text : String) : Prop :=
  text ≠ "" ∧ ∀ c ∈ text.toList, Text.isWhitespace c = false ∧ c ≠ '/'

instance (text : String) : Decidable (IsSegment text) :=
  @instDecidableAnd _ _ _ (List.decidableBAll _ _)

structure PullRequestAddress where
  host : String
  owner : String
  repo : String
  number : Nat
  isHost : IsSegment host
  isOwner : IsSegment owner
  isRepo : IsSegment repo

namespace PullRequestAddress

def url (pr : PullRequestAddress) : String :=
  "https://" ++ pr.host ++ "/" ++ pr.owner ++ "/" ++ pr.repo ++ "/pull" ++ "/" ++ toString pr.number

/-- A linked pull request with the owner, the repository and the number. -/
def Is (pr : PullRequestAddress) (linked : LinkedPullRequest) : Prop :=
  ∃ other : PullRequestAddress, linked.url.map Text.trim = some other.url
    ∧ other.owner = pr.owner ∧ other.repo = pr.repo ∧ other.number = pr.number

/-- The tracker natively links this pull request. -/
def NativelyLinked (pr : PullRequestAddress) (linked : List LinkedPullRequest) : Prop :=
  ∃ entry ∈ linked, entry.isGithubNativeLinkage = true ∧ pr.Is entry

/-- The same URL, or the same number of whatever repository. -/
def Resembles (pr : PullRequestAddress) (linked : LinkedPullRequest) : Prop :=
  linked.url.map Text.trim = some pr.url
    ∨ linked.number = some pr.number ∧ pr.number < 18446744073709551616

variable {pr : PullRequestAddress}

theorem notWhitespace_of_mem_url {c : Char} (h : c ∈ pr.url.toList) : Text.isWhitespace c = false := by
  simp only [url, String.toList_append, List.mem_append] at h
  have hsegment : ∀ {text : String}, IsSegment text → c ∈ text.toList →
      Text.isWhitespace c = false := fun htext hc => (htext.2 c hc).1
  have hfixed : ∀ {text : List Char}, (text.all fun c => !Text.isWhitespace c) = true → c ∈ text →
      Text.isWhitespace c = false :=
    fun hall hc => Bool.not_eq_true' _ ▸ List.all_eq_true.mp hall c hc
  rcases h with (((((((h | h) | h) | h) | h) | h) | h) | h) | h
  · exact hfixed (by decide) h
  · exact hsegment pr.isHost h
  · exact hfixed (by decide) h
  · exact hsegment pr.isOwner h
  · exact hfixed (by decide) h
  · exact hsegment pr.isRepo h
  · exact hfixed (by decide) h
  · exact hfixed (by decide) h
  · refine Text.isWhitespace_of_isDigit (isDigit_of_mem_decimal (n := pr.number) ?_)
    rwa [show (toString pr.number).toList = decimal pr.number from Nat.toList_repr] at h

theorem trim_url : Text.trim pr.url = pr.url := by
  refine Text.trim_of_isTrimmed ⟨?_, ?_⟩
  · exact fun c hc => notWhitespace_of_mem_url (List.mem_of_mem_head? hc)
  · exact fun c hc => notWhitespace_of_mem_url (List.mem_of_mem_getLast? hc)

theorem toList_url : ∃ rest : List Char,
    pr.url.toList = 'h' :: rest ++ '/' :: Codes.decimal pr.number := by
  refine ⟨("ttps://" ++ pr.host ++ "/" ++ pr.owner ++ "/" ++ pr.repo ++ "/pull").toList, ?_⟩
  have hnumber : (toString pr.number).toList = decimal pr.number := Nat.toList_repr
  simp only [url, String.toList_append, hnumber]
  simp

theorem pullRequestNumberFromUrl_url :
    pullRequestNumberFromUrl pr.url =
      if pr.number < 18446744073709551616 then some pr.number else none := by
  obtain ⟨rest, hurl⟩ := pr.toList_url
  have hslash : '/' ∉ decimal pr.number := not_mem_decimal (by decide)
  have hend : pr.url.toList.rdropWhile (· == '/') = pr.url.toList := by
    have hne : decimal pr.number ≠ [] := Nat.toDigits_ne_nil
    rw [List.rdropWhile_eq_self_iff]
    intro hurlne hlast
    have hget : pr.url.toList.getLast hurlne ∈ decimal pr.number := by
      simp only [hurl, List.getLast_append_of_ne_nil _ (List.cons_ne_nil _ _),
        List.getLast_cons hne, List.getLast_mem]
    exact hslash (beq_iff_eq.mp hlast ▸ hget)
  have hlast : lastSegment pr.url = toString pr.number := by
    rw [lastSegment, Text.splitChar, hurl, List.splitOn_append_cons_self,
      List.splitOn_eq_singleton hslash, List.map_append, List.map_singleton,
      List.getLastD_concat]
    rw [← show (toString pr.number).toList = decimal pr.number from Nat.toList_repr,
      String.ofList_toList]
  rw [pullRequestNumberFromUrl, trim_url, hend, String.ofList_toList, hlast, parseU64,
    parseUnsigned_toString]

theorem pullRequestNumberFromRef_url :
    pullRequestNumberFromRef pr.url =
      if pr.number < 18446744073709551616 then some pr.number else none := by
  obtain ⟨rest, hurl⟩ := pr.toList_url
  have hhash : Text.trimStartMatches '#' pr.url = pr.url := by
    rw [Text.trimStartMatches, hurl, List.cons_append, List.dropWhile_cons_of_neg (by decide),
      ← List.cons_append, ← hurl, String.ofList_toList]
  have hkeeps : ∀ fuel, dropPrefixes "PR_".toList fuel pr.url.toList = pr.url.toList := by
    intro fuel
    cases fuel with
    | zero => rfl
    | succ fuel =>
        rw [dropPrefixes, if_neg]
        rw [hurl]
        exact Bool.false_ne_true
  have hparse : parseU64 pr.url = none :=
    parseUnsigned_of_head (hurl.trans (List.cons_append ..)) (by decide) (by decide)
  rw [pullRequestNumberFromRef, pullRequestNumberFromUrl_url, trim_url, hhash]
  simp only [hkeeps, String.ofList_toList, hparse]
  split <;> rfl

theorem linkedPullRequestMatches_iff {linked : LinkedPullRequest} :
    linkedPullRequestMatches linked pr.url = true ↔ pr.Resembles linked := by
  simp only [linkedPullRequestMatches, trim_url, pullRequestNumberFromRef_url, Resembles,
    Bool.or_eq_true, Bool.and_eq_true, beq_iff_eq, Option.any_eq_true, Option.map_eq_some_iff]
  refine or_congr Iff.rfl ?_
  split
  · next hlt => simp [hlt]
  · next hge => simp [hge]

end PullRequestAddress

/-! ## The lists -/

section
variable {pr : PullRequestAddress} {linked : List LinkedPullRequest}

theorem linkedPullRequestsContain_iff :
    linkedPullRequestsContain linked pr.url = true ↔ ∃ entry ∈ linked, pr.Resembles entry := by
  simp only [linkedPullRequestsContain, List.any_eq_true,
    PullRequestAddress.linkedPullRequestMatches_iff]

theorem nativeLinkedPullRequestsContain_iff :
    nativeLinkedPullRequestsContain linked pr.url = true ↔
      ∃ entry ∈ linked, entry.isGithubNativeLinkage = true ∧ pr.Resembles entry := by
  simp only [nativeLinkedPullRequestsContain, List.any_eq_true, List.mem_filter, and_assoc,
    PullRequestAddress.linkedPullRequestMatches_iff]

end

/-! ## Recording the link -/

section
variable {σ : Type} (outside : HandoffOutside σ) (issueRef : String) (pr : PullRequestAddress)
  (state : σ)

/-- The answers of the tracker: the list as it is found, that of the repair, and the list
behind it. -/
def foundList : Except String (List LinkedPullRequest) × σ :=
  outside.listLinkedPullRequests state issueRef

def repairAnswer : Except String Unit × σ :=
  outside.linkPullRequest (foundList outside issueRef state).2 issueRef pr.url

def repairedList : Except String (List LinkedPullRequest) × σ :=
  outside.listLinkedPullRequests (repairAnswer outside issueRef pr state).2 issueRef

def lastListed (log : List HandoffEvent) : Option (Except String (List LinkedPullRequest)) :=
  log.reverse.findSome? fun
    | .listed _ answer => some answer
    | _ => none

/-- What has been done for a verified link: it was natively there, or it has been linked and
is seen by whatever linkage. -/
def LinkEvidence (more : List HandoffEvent) : Prop :=
  (∃ found, more = [.listed issueRef (.ok found)]
    ∧ ∃ entry ∈ found, entry.isGithubNativeLinkage = true ∧ pr.Resembles entry)
  ∨ ∃ found repaired, more = [.listed issueRef (.ok found), .linked issueRef pr.url (.ok ()),
      .listed issueRef (.ok repaired)]
    ∧ ∃ entry ∈ repaired, pr.Resembles entry

/-- Where the link is verified, the last list that was read has this pull request as
natively linked. -/
def VerifiesOwn (ε : Type) (result : HandoffResult) : Prop :=
  ∀ (log : List HandoffEvent) (final : HandoffResult) (after : HandoffWorld σ),
    (applyLiveHandoffPrLink outside issueRef result :
      Program (HandoffWorld σ) ε (Bool × HandoffResult)) { outside := state, log }
      = (.ok (true, final), after) →
    ∃ linked, lastListed after.log = some (.ok linked) ∧ pr.NativelyLinked linked

/-- Where a list decides by a pull request that resembles this one, it has this one as
natively linked: the list that is found decides by what is natively linked, the one behind
the repair by any entry. -/
structure Unmistakable : Prop where
  found : ∀ linked, (foundList outside issueRef state).1 = .ok linked →
    (∃ entry ∈ linked, entry.isGithubNativeLinkage = true ∧ pr.Resembles entry) →
    pr.NativelyLinked linked
  repaired : ∀ before linked, (foundList outside issueRef state).1 = .ok before →
    (¬ ∃ entry ∈ before, entry.isGithubNativeLinkage = true ∧ pr.Resembles entry) →
    (repairAnswer outside issueRef pr state).1 = .ok () →
    (repairedList outside issueRef pr state).1 = .ok linked →
    (∃ entry ∈ linked, pr.Resembles entry) → pr.NativelyLinked linked

variable {outside issueRef pr state} {result : HandoffResult} {handoff : RunLoopLiveHandoff}
  {log : List HandoffEvent} {ε : Type}

theorem answered_eq_ok_iff {α : Type} {event : Except String α → HandoffEvent}
    {f : σ → Except String α × σ} {rest : Except String α → Program (HandoffWorld σ) String α}
    (hok : ∀ a, rest (.ok a) = pure a) {said : String → String}
    (herror : ∀ error, rest (.error error) = Program.stop (said error)) {a : α}
    {world after : HandoffWorld σ} :
    (call event f >>= rest) world = (.ok a, after) ↔ (f world.outside).1 = .ok a
      ∧ after = { outside := (f world.outside).2, log := world.log ++ [event (.ok a)] } := by
  have hcall : (call event f : Program (HandoffWorld σ) String (Except String α)) world
      = (.ok (f world.outside).1, { outside := (f world.outside).2
                                    log := world.log ++ [event (f world.outside).1] }) := rfl
  rw [Program.bind_ok hcall]
  cases (f world.outside).1 with
  | error error =>
      rw [herror]
      exact ⟨nofun, nofun⟩
  | ok answer =>
      rw [hok]
      constructor
      · intro h
        obtain ⟨rfl, rfl⟩ := Program.pure_eq_ok_iff.mp h
        exact ⟨rfl, rfl⟩
      · rintro ⟨h, rfl⟩
        obtain rfl := Except.ok.inj h
        rfl

theorem listLinkedPullRequests_eq_ok_iff {world after : HandoffWorld σ}
    {linked : List LinkedPullRequest} :
    listLinkedPullRequests outside issueRef world = (.ok linked, after) ↔
      (foundList outside issueRef world.outside).1 = .ok linked
        ∧ after = { outside := (foundList outside issueRef world.outside).2
                    log := world.log ++ [.listed issueRef (.ok linked)] } :=
  answered_eq_ok_iff (fun _ => rfl) fun _ => rfl

theorem linkPullRequest_eq_ok_iff {url : String} {u : Unit} {world after : HandoffWorld σ} :
    linkPullRequest outside issueRef url world = (.ok u, after) ↔
      (outside.linkPullRequest world.outside issueRef url).1 = .ok ()
        ∧ after = { outside := (outside.linkPullRequest world.outside issueRef url).2
                    log := world.log ++ [.linked issueRef url (.ok ())] } :=
  answered_eq_ok_iff (fun _ => rfl) fun _ => rfl

theorem recordLiveHandoffPrLink_eq_ok_iff (hresult : result.liveHandoff = some handoff)
    (hurl : handoff.publication.prUrl = pr.url) {after : HandoffWorld σ} :
    recordLiveHandoffPrLink outside issueRef result { outside := state, log } = (.ok (), after) ↔
      ∃ before, (foundList outside issueRef state).1 = .ok before
        ∧ ((nativeLinkedPullRequestsContain before pr.url = true
            ∧ after = { outside := (foundList outside issueRef state).2
                        log := log ++ [.listed issueRef (.ok before)] })
          ∨ nativeLinkedPullRequestsContain before pr.url = false
            ∧ (repairAnswer outside issueRef pr state).1 = .ok ()
            ∧ ∃ linked, (repairedList outside issueRef pr state).1 = .ok linked
              ∧ linkedPullRequestsContain linked pr.url = true
              ∧ after = { outside := (repairedList outside issueRef pr state).2
                          log := log ++ [.listed issueRef (.ok before)]
                            ++ [.linked issueRef pr.url (.ok ())]
                            ++ [.listed issueRef (.ok linked)] }) := by
  unfold recordLiveHandoffPrLink
  simp only [hresult, hurl, Program.bind_eq_ok_iff, listLinkedPullRequests_eq_ok_iff]
  constructor
  · rintro ⟨before, _, ⟨hfound, rfl⟩, h⟩
    refine ⟨before, hfound, ?_⟩
    split at h
    · next hnative =>
      obtain ⟨-, rfl⟩ := Program.pure_eq_ok_iff.mp h
      exact Or.inl ⟨hnative, rfl⟩
    · next hother =>
      simp only [Program.bind_eq_ok_iff, linkPullRequest_eq_ok_iff,
        listLinkedPullRequests_eq_ok_iff, Program.require_eq_ok_iff] at h
      obtain ⟨_, _, ⟨hrepair, rfl⟩, linked, _, ⟨hagain, rfl⟩, hcontain, rfl⟩ := h
      exact Or.inr ⟨eq_false_of_ne_true hother, hrepair, linked, hagain, hcontain, rfl⟩
  · rintro ⟨before, hfound, ⟨hnative, rfl⟩ | ⟨hother, hrepair, linked, hagain, hcontain, rfl⟩⟩
    · refine ⟨before, _, ⟨hfound, rfl⟩, ?_⟩
      rw [if_pos hnative]
      rfl
    · refine ⟨before, _, ⟨hfound, rfl⟩, ?_⟩
      rw [if_neg (by rw [hother]; exact Bool.false_ne_true)]
      simp only [Program.bind_eq_ok_iff, linkPullRequest_eq_ok_iff,
        listLinkedPullRequests_eq_ok_iff, Program.require_eq_ok_iff]
      exact ⟨(), _, ⟨hrepair, rfl⟩, linked, _, ⟨hagain, rfl⟩, hcontain, rfl⟩

theorem applyLiveHandoffPrLink_verified_iff (hresult : result.liveHandoff = some handoff)
    {after : HandoffWorld σ} {world : HandoffWorld σ} :
    (∃ final, (applyLiveHandoffPrLink outside issueRef result :
      Program (HandoffWorld σ) ε (Bool × HandoffResult)) world = (.ok (true, final), after)) ↔
      recordLiveHandoffPrLink outside issueRef result world = (.ok (), after) := by
  have hattempt : (attempt (recordLiveHandoffPrLink outside issueRef result) :
      Program (HandoffWorld σ) ε (Except String Unit)) world
      = (.ok (recordLiveHandoffPrLink outside issueRef result world).1,
          (recordLiveHandoffPrLink outside issueRef result world).2) := rfl
  unfold applyLiveHandoffPrLink
  simp only [hresult]
  rw [Program.bind_ok hattempt]
  cases hrun : recordLiveHandoffPrLink outside issueRef result world with
  | mk answer next =>
      cases answer with
      | ok u =>
          constructor
          · rintro ⟨final, h⟩
            obtain ⟨-, rfl⟩ := Program.pure_eq_ok_iff.mp h
            rfl
          · intro h
            obtain ⟨-, rfl⟩ := Prod.mk.inj h
            exact ⟨_, rfl⟩
      | error error =>
          constructor
          · rintro ⟨final, h⟩
            obtain ⟨hverdict, -⟩ := Program.pure_eq_ok_iff.mp h
            cases hverdict
          · intro h
            cases h

theorem lastListed_concat (log : List HandoffEvent) (issueRef : String)
    (answer : Except String (List LinkedPullRequest)) :
    lastListed (log ++ [.listed issueRef answer]) = some answer := by
  rw [lastListed, List.reverse_concat]
  rfl

theorem verifiesOwn_iff (hresult : result.liveHandoff = some handoff)
    (hurl : handoff.publication.prUrl = pr.url) :
    VerifiesOwn outside issueRef pr state ε result ↔ Unmistakable outside issueRef pr state := by
  have hverified : VerifiesOwn outside issueRef pr state ε result ↔
      ∀ log after, recordLiveHandoffPrLink outside issueRef result { outside := state, log }
        = (.ok (), after) →
        ∃ linked, lastListed after.log = some (.ok linked) ∧ pr.NativelyLinked linked := by
    constructor
    · intro h log after hrun
      obtain ⟨final, happly⟩ := (applyLiveHandoffPrLink_verified_iff hresult).mpr hrun
      exact h log final after happly
    · intro h log final after happly
      exact h log after ((applyLiveHandoffPrLink_verified_iff hresult).mp ⟨final, happly⟩)
  rw [hverified]
  simp only [recordLiveHandoffPrLink_eq_ok_iff hresult hurl]
  constructor
  · intro h
    constructor
    case found =>
      intro linked hfound hresembles
      obtain ⟨last, hlast, hown⟩ := h [] _ ⟨linked, hfound,
        Or.inl ⟨nativeLinkedPullRequestsContain_iff.mpr hresembles, rfl⟩⟩
      rw [lastListed_concat] at hlast
      cases hlast
      exact hown
    case repaired =>
      intro before linked hfound hother hrepair hagain hresembles
      obtain ⟨last, hlast, hown⟩ := h [] _ ⟨before, hfound, Or.inr ⟨eq_false_of_ne_true
        fun hnative => hother (nativeLinkedPullRequestsContain_iff.mp hnative), hrepair, linked,
        hagain, linkedPullRequestsContain_iff.mpr hresembles, rfl⟩⟩
      rw [lastListed_concat] at hlast
      cases hlast
      exact hown
  · rintro h log after ⟨before, hfound, ⟨hnative, rfl⟩ |
      ⟨hother, hrepair, linked, hagain, hcontain, rfl⟩⟩
    · exact ⟨before, lastListed_concat .., h.found before hfound
        (nativeLinkedPullRequestsContain_iff.mp hnative)⟩
    · refine ⟨linked, lastListed_concat .., ?_⟩
      refine h.repaired before linked hfound ?_ hrepair hagain
        (linkedPullRequestsContain_iff.mp hcontain)
      intro hresembles
      rw [nativeLinkedPullRequestsContain_iff.mpr hresembles] at hother
      cases hother

/-- A verified link has its evidence; it is that of this pull request exactly where the
tracker's answers cannot be mistaken. -/
theorem live_handoff_link_verified (hresult : result.liveHandoff = some handoff)
    (hurl : handoff.publication.prUrl = pr.url) :
    (∀ (log : List HandoffEvent) (final : HandoffResult) (after : HandoffWorld σ),
      (applyLiveHandoffPrLink outside issueRef result :
        Program (HandoffWorld σ) ε (Bool × HandoffResult)) { outside := state, log }
        = (.ok (true, final), after) →
      ∃ more, after.log = log ++ more ∧ LinkEvidence issueRef pr more)
      ∧ (VerifiesOwn outside issueRef pr state ε result ↔ Unmistakable outside issueRef pr state) := by
  refine ⟨?_, verifiesOwn_iff hresult hurl⟩
  intro log final after happly
  have hrun := (applyLiveHandoffPrLink_verified_iff hresult).mp ⟨final, happly⟩
  rcases (recordLiveHandoffPrLink_eq_ok_iff hresult hurl).mp hrun with
    ⟨before, hfound, ⟨hnative, rfl⟩ | ⟨-, hrepair, linked, hagain, hcontain, rfl⟩⟩
  · exact ⟨_, rfl, Or.inl ⟨before, rfl, nativeLinkedPullRequestsContain_iff.mp hnative⟩⟩
  · refine ⟨_, by rw [List.append_assoc, List.append_assoc]; rfl, Or.inr ⟨before, linked, rfl, ?_⟩⟩
    exact linkedPullRequestsContain_iff.mp hcontain

end

/-! ## A repair that is read back -/

def publishedAddress : PullRequestAddress where
  host := "github.com"
  owner := "o"
  repo := "r"
  number := 9
  isHost := by decide
  isOwner := by decide
  isRepo := by decide

def publishedRun : HandoffResult where
  workspacePath := "/work/issue-7-publish"
  backend := "codex"
  profileId := none
  instanceName := none
  success := true
  pendingSession := false
  sessionId := none
  runId := none
  backendLogPath := none
  backendAttachCommand := none
  message := "done"
  usageLimitPause := none
  actorRole := "Main Agent"
  actorLabel := "Shea Symphony Main"
  gitAuthor := none
  liveHandoff := some
    { worktree :=
        { workspacePath := "/work/issue-7-publish", branchName := "feature/issue-7-publish"
          created := true }
      publication := { branchPushed := true, prUrl := publishedAddress.url, prCreated := true }
      verification := "skipped:not_configured"
      projectPrLinkVerified := none
      pullRequestReady := none }
  handoffVerification := none

def linkedAs (url : String) (source : LinkedPullRequestSource) : LinkedPullRequest where
  number := some 9
  url := some url
  state := some "OPEN"
  isDraft := some false
  baseRefName := some "main"
  headSha := none
  id := none
  headRefName := none
  source := source

/-- A tracker that links nothing natively, or on the call to link. -/
def trackerOf (linked : Bool → List LinkedPullRequest) : HandoffOutside Bool where
  run state _ := (.error "no such file", state)
  pathExists state _ := (false, state)
  createParent state _ := (.ok (), state)
  verify state _ := (.ok (), state)
  listLinkedPullRequests state _ := (.ok (linked state), state)
  linkPullRequest _ _ _ := (.ok (), true)
  parseJson _ := .error "EOF while parsing a value at line 1 column 0"

/-- The pull request is not listed before it has been linked, and natively behind that. -/
theorem repaired_link_verified :
    VerifiesOwn (trackerOf fun linked => if linked then
      [linkedAs publishedAddress.url .githubNative] else []) "#7" publishedAddress false String
        publishedRun := by
  refine (live_handoff_link_verified rfl rfl).2.mpr ⟨?_, ?_⟩
  · rintro linked hfound ⟨entry, hentry, -⟩
    cases hfound
    cases hentry
  · rintro before linked - - - hagain -
    cases hagain
    refine ⟨_, List.mem_cons_self, rfl, publishedAddress, ?_, rfl, rfl, rfl⟩
    exact congrArg some PullRequestAddress.trim_url

/-- What is read back is a mention of a pull request of another repository. -/
theorem mentioned_number_verified :
    ¬ VerifiesOwn (trackerOf fun _ =>
        [linkedAs "https://github.com/o/other/pull/9" .fallbackDiagnostic]) "#7" publishedAddress
        false String publishedRun := by
  intro h
  obtain ⟨entry, hentry, hnative, -⟩ := ((verifiesOwn_iff rfl rfl).mp h).repaired _ _ rfl
    (by rintro ⟨entry, hentry, hnative, -⟩
        cases List.mem_singleton.mp hentry
        cases hnative) rfl rfl ⟨_, List.mem_cons_self, Or.inr ⟨rfl, by decide⟩⟩
  cases List.mem_singleton.mp hentry
  cases hnative

end SheaSymphony.MainHandoff

import SheaSymphony.JsonText
import SheaSymphony.LaneClaim
import SheaSymphony.ReviewDecision
import SheaSymphony.RuntimeStateStore
import SheaSymphony.SessionRegistry

/-!
# The status of running reviews

`review_status.rs` puts the running slots together from four sources: job ledgers, the session
registry, the runtime state and the claims of the project. Of the runtime states only the first is
loaded, so a worker further down is shown where another source knows its issue and nowhere else
(`workersShown_iff`).
-/

namespace SheaSymphony.ReviewStatus

open Json (DecodeError)
open Lanes (LaneClaim)
open Model (TrackerIssue)
open Review (ReviewJobState)
open SheaSymphony.Runtime (RuntimeState StateFile loadRuntimeStates saveRuntimeStates)
open Sessions (AgentSessionRecord SessionStatus)

/-! ## Entries -/

structure ReviewJobLedgerRecord where
  issueRef : String
  issueTitle : String
  jobId : String
  backend : String
  state : ReviewJobState
deriving DecidableEq

structure LedgerStatusRecord where
  record : ReviewJobLedgerRecord
  recordedAtMs : Option UInt64
deriving DecidableEq

structure ReviewStatusOptions where
  issueFilter : Option String
  recentLimit : Nat
deriving DecidableEq

structure ReviewStatusEntry where
  slot : Option String
  issueIdentifier : String
  issueTitle : Option String
  issueState : Option String
  jobId : Option String
  backend : Option String
  jobState : Option ReviewJobState
  sessionName : Option String
deriving DecidableEq

structure ReviewStatusPayload where
  runningSlots : List ReviewStatusEntry
  recentJobs : List ReviewStatusEntry
deriving DecidableEq

def isAsciiDigit (c : Char) : Bool := '0' ≤ c && c ≤ '9'

def normalizeIssueRef (value : String) : String :=
  let trimmed := Text.trim value
  if trimmed = "" then ""
  else
    let bare := Text.trimStartMatches '#' trimmed
    if bare.toList.all isAsciiDigit then "#" ++ bare else Text.toAsciiLowercase trimmed

def issueMatchesFilter (issueRef : String) (filter : Option String) : Bool :=
  filter.all fun filter => normalizeIssueRef issueRef == filter

def isRunningJobState : ReviewJobState → Bool
  | .queued | .running => true
  | _ => false

def isTerminalSessionStatus : SessionStatus → Bool
  | .completed | .failed | .recorded => true
  | _ => false

def reviewClaimValue (issue : TrackerIssue) : Option String :=
  ((issue.projectFields "Review Agent").map fun value => value.asStr.getD value.render).filter
    fun value => !Text.isBlank value && Text.trim value != "null"

def entryFromLedger (ledger : LedgerStatusRecord) (issue : Option TrackerIssue) :
    ReviewStatusEntry where
  slot := none
  issueIdentifier := ledger.record.issueRef
  issueTitle := some ((issue.map TrackerIssue.title).getD ledger.record.issueTitle)
  issueState := issue.map TrackerIssue.state
  jobId := some ledger.record.jobId
  backend := some ledger.record.backend
  jobState := some ledger.record.state
  sessionName := none

def entryFromSession (session : AgentSessionRecord) (index : Nat) (issue : Option TrackerIssue) :
    ReviewStatusEntry where
  slot := some ("session-" ++ toString index)
  issueIdentifier :=
    (session.issueIdentifier <|> issue.map TrackerIssue.identifier).getD "unknown"
  issueTitle := session.issueTitle <|> issue.map TrackerIssue.title
  issueState := issue.map TrackerIssue.state
  jobId := session.runId
  backend := some session.backend
  jobState := some .running
  sessionName := some session.sessionName

def entryFromRuntime (runtime : RuntimeState) (issue : Option TrackerIssue) :
    ReviewStatusEntry where
  slot := some "runtime"
  issueIdentifier := (runtime.identifier <|> issue.map TrackerIssue.identifier).getD "unknown"
  issueTitle := issue.map TrackerIssue.title
  issueState := issue.map TrackerIssue.state
  jobId := runtime.runId
  backend := some runtime.backend
  jobState := some .running
  sessionName := runtime.backendSessionId

def entryFromClaim (issue : TrackerIssue) : ReviewStatusEntry where
  slot := some "claim"
  issueIdentifier := issue.identifier
  issueTitle := some issue.title
  issueState := some issue.state
  jobId := ((LaneClaim.parse ((reviewClaimValue issue).getD "")).toOption).map LaneClaim.run
  backend := some "project-claim"
  jobState := some .running
  sessionName := none

/-- The key slots are told apart by. -/
def ReviewStatusEntry.issueKey (entry : ReviewStatusEntry) : String :=
  normalizeIssueRef entry.issueIdentifier

/-! ## The composed status -/

section
variable (projectIssues : List TrackerIssue) (filter : Option String)

/-- Of project issues with one key the last counts. -/
def projectByIssue (key : String) : Option TrackerIssue :=
  projectIssues.reverse.find? fun issue => normalizeIssueRef issue.identifier == key

/-- `None` is before every time, and the order is turned around. -/
def newestFirst (left right : LedgerStatusRecord) : Bool :=
  let time (ledger : LedgerStatusRecord) : Nat := (ledger.recordedAtMs.map (·.toNat + 1)).getD 0
  time right < time left
    || (time right == time left && !decide (left.record.jobId < right.record.jobId))

def matchingLedgers (ledgers : List LedgerStatusRecord) : List LedgerStatusRecord :=
  (ledgers.mergeSort newestFirst).filter fun ledger =>
    issueMatchesFilter ledger.record.issueRef filter

def ledgerEntry (ledger : LedgerStatusRecord) : ReviewStatusEntry :=
  entryFromLedger ledger (projectByIssue projectIssues (normalizeIssueRef ledger.record.issueRef))

def ledgerSlots (ledgers : List LedgerStatusRecord) : List ReviewStatusEntry :=
  ((matchingLedgers filter ledgers).filter fun ledger => isRunningJobState ledger.record.state).map
    (ledgerEntry projectIssues)

def reviewSessions (sessions : List AgentSessionRecord) : List AgentSessionRecord :=
  sessions.filter fun session => Text.eqIgnoreAsciiCase session.lane "review"
    && issueMatchesFilter (session.issueIdentifier.getD "") filter

def sessionEntry (session : AgentSessionRecord) (index : Nat) : ReviewStatusEntry :=
  entryFromSession session index
    (projectByIssue projectIssues (normalizeIssueRef (session.issueIdentifier.getD "")))

/-- Sessions that are over have a number as well. -/
def sessionSlots (sessions : List AgentSessionRecord) : List ReviewStatusEntry :=
  (((reviewSessions filter sessions).zipIdx 1).filter fun (session, _) =>
    !isTerminalSessionStatus session.status).map fun (session, index) =>
      sessionEntry projectIssues session index

def isReviewRuntime (runtime : RuntimeState) : Bool :=
  runtime.lane.any fun lane => Text.eqIgnoreAsciiCase lane "review"

def runtimeSlots (runtimeState : Option RuntimeState) (activeIssueKeys : List String) :
    List ReviewStatusEntry :=
  match runtimeState.filter isReviewRuntime with
  | none => []
  | some runtime =>
      match runtime.activeIssue with
      | none => []
      | some active =>
          let key := normalizeIssueRef active.identifier
          if issueMatchesFilter active.identifier filter && !activeIssueKeys.contains key then
            [entryFromRuntime runtime (projectByIssue projectIssues key)]
          else []

/-- A claim is shown where neither a ledger nor a slot so far is about its issue. -/
def claimSlots (ledgers : List LedgerStatusRecord) (activeIssueKeys : List String) :
    List ReviewStatusEntry :=
  (projectIssues.filter fun issue =>
    issueMatchesFilter issue.identifier filter && (reviewClaimValue issue).isSome
      && !((matchingLedgers filter ledgers).any fun ledger =>
        normalizeIssueRef ledger.record.issueRef == normalizeIssueRef issue.identifier
          && isRunningJobState ledger.record.state)
      && !activeIssueKeys.contains (normalizeIssueRef issue.identifier)).map entryFromClaim

end

def composeReviewStatus (projectIssues : List TrackerIssue) (ledgers : List LedgerStatusRecord)
    (sessions : List AgentSessionRecord) (runtimeState : Option RuntimeState)
    (options : ReviewStatusOptions) : ReviewStatusPayload :=
  let filter := options.issueFilter.map normalizeIssueRef
  let slots := ledgerSlots projectIssues filter ledgers ++ sessionSlots projectIssues filter sessions
  let active := slots ++ runtimeSlots projectIssues filter runtimeState
    (slots.map ReviewStatusEntry.issueKey)
  { runningSlots := active
      ++ claimSlots projectIssues filter ledgers (active.map ReviewStatusEntry.issueKey)
    recentJobs := (((matchingLedgers filter ledgers).filter fun ledger =>
      !isRunningJobState ledger.record.state).take options.recentLimit).map
        (ledgerEntry projectIssues) }

/-- `load_runtime_state`. -/
def loadRuntimeState (file : StateFile) : Except DecodeError (Option RuntimeState) := do
  let states ← loadRuntimeStates file
  return states.head?

def loadReviewStatus (file : StateFile) (projectIssues : List TrackerIssue)
    (ledgers : List LedgerStatusRecord) (sessions : List AgentSessionRecord)
    (options : ReviewStatusOptions) : Except DecodeError ReviewStatusPayload := do
  let runtimeState ← loadRuntimeState file
  return composeReviewStatus projectIssues ledgers sessions runtimeState options

/-! ## Who is shown -/

def Shows (slots : List ReviewStatusEntry) (key : String) : Prop :=
  ∃ entry ∈ slots, entry.issueKey = key

/-- A worker of the lane on this issue, which the filter lets through. -/
def ReviewsMatching (options : ReviewStatusOptions) (worker : RuntimeState) (key : String) : Prop :=
  isReviewRuntime worker = true ∧ ∃ active, worker.activeIssue = some active
    ∧ issueMatchesFilter active.identifier (options.issueFilter.map normalizeIssueRef) = true
    ∧ normalizeIssueRef active.identifier = key

/-- A source other than the worker itself knows of a review on this issue. -/
inductive KnownElsewhere (projectIssues : List TrackerIssue) (ledgers : List LedgerStatusRecord)
    (sessions : List AgentSessionRecord) (options : ReviewStatusOptions) (first : RuntimeState)
    (key : String) : Prop where
  | ledger (ledger : LedgerStatusRecord) (mem : ledger ∈ ledgers)
      (running : isRunningJobState ledger.record.state = true)
      (issue : normalizeIssueRef ledger.record.issueRef = key)
  | session (session : AgentSessionRecord)
      (mem : session ∈ reviewSessions (options.issueFilter.map normalizeIssueRef) sessions)
      (running : isTerminalSessionStatus session.status = false)
      (issue : ∀ index, (sessionEntry projectIssues session index).issueKey = key)
  | reported (reviews : ReviewsMatching options first key)
  | claim (issue : TrackerIssue) (mem : issue ∈ projectIssues)
      (claimed : (reviewClaimValue issue).isSome = true)
      (key : normalizeIssueRef issue.identifier = key)

theorem shows_append {slots slots' : List ReviewStatusEntry} {key : String} :
    Shows (slots ++ slots') key ↔ Shows slots key ∨ Shows slots' key := by
  constructor
  · rintro ⟨entry, hmem, hkey⟩
    exact (List.mem_append.mp hmem).imp (fun h => ⟨entry, h, hkey⟩) fun h => ⟨entry, h, hkey⟩
  · rintro (⟨entry, hmem, hkey⟩ | ⟨entry, hmem, hkey⟩)
    · exact ⟨entry, List.mem_append_left _ hmem, hkey⟩
    · exact ⟨entry, List.mem_append_right _ hmem, hkey⟩

variable {ledgers : List LedgerStatusRecord} {slots : List ReviewStatusEntry}

theorem contains_issueKey_iff {key : String} :
    (slots.map ReviewStatusEntry.issueKey).contains key = true ↔ Shows slots key := by
  rw [List.contains_iff_mem, List.mem_map]
  rfl

theorem mem_matchingLedgers {filter : Option String} {ledger : LedgerStatusRecord} :
    ledger ∈ matchingLedgers filter ledgers ↔
      ledger ∈ ledgers ∧ issueMatchesFilter ledger.record.issueRef filter = true := by
  rw [matchingLedgers, List.mem_filter, List.mem_mergeSort]

section
variable {projectIssues : List TrackerIssue} {filter : Option String} {key : String}

theorem issueMatchesFilter_of_key {issueRef other : String}
    (hother : issueMatchesFilter other filter = true)
    (h : normalizeIssueRef issueRef = normalizeIssueRef other) :
    issueMatchesFilter issueRef filter = true := by
  rw [issueMatchesFilter, h]
  exact hother

theorem shows_ledgerSlots_iff {other : String} (hother : issueMatchesFilter other filter = true)
    (hkey : normalizeIssueRef other = key) :
    Shows (ledgerSlots projectIssues filter ledgers) key ↔
      ∃ ledger ∈ ledgers, isRunningJobState ledger.record.state = true
        ∧ normalizeIssueRef ledger.record.issueRef = key := by
  constructor
  · rintro ⟨entry, hmem, hentry⟩
    obtain ⟨ledger, hledger, rfl⟩ := List.mem_map.mp hmem
    obtain ⟨hmatching, hrunning⟩ := List.mem_filter.mp hledger
    exact ⟨ledger, (mem_matchingLedgers.mp hmatching).1, hrunning, hentry⟩
  · rintro ⟨ledger, hmem, hrunning, hledger⟩
    have hmatches := issueMatchesFilter_of_key hother (hledger.trans hkey.symm)
    exact ⟨_, List.mem_map_of_mem (List.mem_filter.mpr
      ⟨mem_matchingLedgers.mpr ⟨hmem, hmatches⟩, hrunning⟩), hledger⟩

theorem shows_sessionSlots_iff {sessions : List AgentSessionRecord} :
    Shows (sessionSlots projectIssues filter sessions) key ↔
      ∃ session ∈ reviewSessions filter sessions, isTerminalSessionStatus session.status = false
        ∧ ∀ index, (sessionEntry projectIssues session index).issueKey = key := by
  constructor
  · rintro ⟨entry, hmem, hentry⟩
    obtain ⟨⟨session, index⟩, hsession, rfl⟩ := List.mem_map.mp hmem
    obtain ⟨hmem, hrunning⟩ := List.mem_filter.mp hsession
    have hlisted : session ∈ ((reviewSessions filter sessions).zipIdx 1).map Prod.fst :=
      List.mem_map_of_mem hmem
    rw [List.zipIdx_map_fst] at hlisted
    exact ⟨session, hlisted, by simpa using hrunning, fun _ => hentry⟩
  · rintro ⟨session, hmem, hrunning, hkey⟩
    rw [← List.zipIdx_map_fst 1 (reviewSessions filter sessions)] at hmem
    obtain ⟨⟨found, index⟩, hlisted, rfl⟩ := List.mem_map.mp hmem
    exact ⟨_, List.mem_map_of_mem (List.mem_filter.mpr ⟨hlisted, by simpa using hrunning⟩),
      hkey index⟩

theorem shows_runtimeSlots_iff {runtime : RuntimeState} {options : ReviewStatusOptions} :
    Shows (slots ++ runtimeSlots projectIssues (options.issueFilter.map normalizeIssueRef)
        (some runtime) (slots.map ReviewStatusEntry.issueKey)) key ↔
      Shows slots key ∨ ReviewsMatching options runtime key := by
  rw [shows_append]
  constructor
  · rintro (hslots | ⟨entry, hmem, hentry⟩)
    · exact Or.inl hslots
    · refine Or.inr ?_
      unfold runtimeSlots at hmem
      split at hmem
      · cases hmem
      · next found hfound =>
        obtain ⟨hsame, hreview⟩ := Option.filter_eq_some_iff.mp hfound
        obtain rfl := Option.some.inj hsame
        split at hmem
        · cases hmem
        · next active hactive =>
          dsimp only at hmem
          split at hmem
          · next hcond =>
            obtain rfl := List.mem_singleton.mp hmem
            have hidentifier : runtime.identifier = some active.identifier :=
              congrArg (Option.map _) hactive
            simp only [ReviewStatusEntry.issueKey, entryFromRuntime, hidentifier] at hentry
            exact ⟨hreview, active, hactive, (Bool.and_eq_true_iff.mp hcond).1, hentry⟩
          · cases hmem
  · rintro (hslots | ⟨hreview, active, hactive, hmatches, rfl⟩)
    · exact Or.inl hslots
    · by_cases hshown : Shows slots (normalizeIssueRef active.identifier)
      · exact Or.inl hshown
      · refine Or.inr ?_
        have hidentifier : runtime.identifier = some active.identifier :=
          congrArg (Option.map _) hactive
        have hnew := Bool.eq_false_iff.mpr (mt contains_issueKey_iff.mp hshown)
        simp only [runtimeSlots, Option.filter_some, hreview, if_true, hactive, hmatches, hnew,
          Bool.not_false, Bool.and_self]
        refine ⟨_, List.mem_singleton_self _, ?_⟩
        simp only [ReviewStatusEntry.issueKey, entryFromRuntime, hidentifier]
        rfl

theorem shows_claimSlots_iff {other : String} (hother : issueMatchesFilter other filter = true)
    (hkey : normalizeIssueRef other = key)
    (hledgers : Shows (ledgerSlots projectIssues filter ledgers) key → Shows slots key) :
    Shows (slots ++ claimSlots projectIssues filter ledgers
        (slots.map ReviewStatusEntry.issueKey)) key ↔
      Shows slots key ∨ ∃ issue ∈ projectIssues, (reviewClaimValue issue).isSome = true
        ∧ normalizeIssueRef issue.identifier = key := by
  rw [shows_append]
  constructor
  · rintro (hslots | ⟨entry, hmem, hentry⟩)
    · exact Or.inl hslots
    · obtain ⟨issue, hissue, rfl⟩ := List.mem_map.mp hmem
      obtain ⟨hlisted, hcond⟩ := List.mem_filter.mp hissue
      simp only [Bool.and_eq_true] at hcond
      exact Or.inr ⟨issue, hlisted, hcond.1.1.2, hentry⟩
  · rintro (hslots | ⟨issue, hlisted, hclaimed, hissue⟩)
    · exact Or.inl hslots
    · by_cases hshown : Shows slots key
      · exact Or.inl hshown
      · refine Or.inr ⟨entryFromClaim issue, List.mem_map_of_mem (List.mem_filter.mpr
          ⟨hlisted, ?_⟩), hissue⟩
        have hmatches := issueMatchesFilter_of_key hother (hissue.trans hkey.symm)
        have hnew := Bool.eq_false_iff.mpr (mt contains_issueKey_iff.mp hshown)
        -- A running ledger of this issue would have been shown.
        have hidle : (matchingLedgers filter ledgers).any (fun ledger =>
            normalizeIssueRef ledger.record.issueRef == normalizeIssueRef issue.identifier
              && isRunningJobState ledger.record.state) = false := by
          refine List.any_eq_false.mpr fun ledger hledger hrunning => hshown (hledgers ?_)
          obtain ⟨hsame, hrunning⟩ := Bool.and_eq_true_iff.mp hrunning
          exact (shows_ledgerSlots_iff hother hkey).mpr
            ⟨ledger, (mem_matchingLedgers.mp hledger).1, hrunning, (beq_iff_eq.mp hsame).trans hissue⟩
        rw [hmatches, hclaimed, hidle, hissue, hnew]
        rfl

/-- Beside the first stored worker a matching issue is shown on account of its ledgers, its
sessions and its claim. -/
theorem shows_compose_iff {sessions : List AgentSessionRecord} {options : ReviewStatusOptions}
    {first : RuntimeState} {other : String}
    (hother : issueMatchesFilter other (options.issueFilter.map normalizeIssueRef) = true)
    (hkey : normalizeIssueRef other = key) :
    Shows (composeReviewStatus projectIssues ledgers sessions (some first) options).runningSlots key ↔
      KnownElsewhere projectIssues ledgers sessions options first key := by
  rw [composeReviewStatus, shows_claimSlots_iff hother hkey
    (fun h => shows_append.mpr (Or.inl (shows_append.mpr (Or.inl h)))), shows_runtimeSlots_iff,
    shows_append, shows_ledgerSlots_iff hother hkey, shows_sessionSlots_iff]
  constructor
  · rintro (((⟨ledger, hmem, hrunning, hissue⟩ | ⟨session, hmem, hrunning, hissue⟩) | hreviews)
      | ⟨issue, hmem, hclaimed, hissue⟩)
    · exact .ledger ledger hmem hrunning hissue
    · exact .session session hmem hrunning hissue
    · exact .reported hreviews
    · exact .claim issue hmem hclaimed hissue
  · rintro (⟨ledger, hmem, hrunning, hissue⟩ | ⟨session, hmem, hrunning, hissue⟩ | ⟨hreviews⟩
      | ⟨issue, hmem, hclaimed, hissue⟩)
    · exact Or.inl (Or.inl (Or.inl ⟨ledger, hmem, hrunning, hissue⟩))
    · exact Or.inl (Or.inl (Or.inr ⟨session, hmem, hrunning, hissue⟩))
    · exact Or.inl (Or.inr hreviews)
    · exact Or.inr ⟨issue, hmem, hclaimed, hissue⟩

end

/-- Every stored worker behind the first that reviews a matching issue is shown. -/
def WorkersShown (file : StateFile) (projectIssues : List TrackerIssue)
    (ledgers : List LedgerStatusRecord) (sessions : List AgentSessionRecord)
    (options : ReviewStatusOptions) : Prop :=
  ∀ states payload, loadRuntimeStates file = .ok states →
    loadReviewStatus file projectIssues ledgers sessions options = .ok payload →
    ∀ worker ∈ states.tail, ∀ key, ReviewsMatching options worker key → Shows payload.runningSlots key

theorem workersShown_iff (file : StateFile) (projectIssues : List TrackerIssue)
    (ledgers : List LedgerStatusRecord) (sessions : List AgentSessionRecord)
    (options : ReviewStatusOptions) :
    WorkersShown file projectIssues ledgers sessions options ↔
      ∀ first others, loadRuntimeStates file = .ok (first :: others) →
        ∀ worker ∈ others, ∀ key, ReviewsMatching options worker key →
          KnownElsewhere projectIssues ledgers sessions options first key := by
  have hload : ∀ first others, loadRuntimeStates file = .ok (first :: others) →
      loadReviewStatus file projectIssues ledgers sessions options
        = .ok (composeReviewStatus projectIssues ledgers sessions (some first) options) := by
    intro first others hstates
    rw [loadReviewStatus, loadRuntimeState, hstates]
    rfl
  constructor
  · intro hshown first others hstates worker hworker key hreviews
    have hslots := hshown _ _ hstates (hload first others hstates) worker hworker key hreviews
    obtain ⟨-, active, -, hmatches, hkey⟩ := hreviews
    exact (shows_compose_iff hmatches hkey).mp hslots
  · intro hknown states payload hstates hpayload worker hworker key hreviews
    cases states with
    | nil => cases hworker
    | cons first others =>
        rw [hload first others hstates] at hpayload
        obtain rfl := Except.ok.inj hpayload
        have helsewhere := hknown first others hstates worker hworker key hreviews
        obtain ⟨-, active, -, hmatches, hkey⟩ := hreviews
        exact (shows_compose_iff hmatches hkey).mpr helsewhere

def reviewWorker (number : Nat) : RuntimeState :=
  { RuntimeState.active { id := "I_" ++ toString number, identifier := "#" ++ toString number }
      "codex" with
    lane := some "review" }

/-- Two workers review, each an issue of its own; the second has no slot. -/
theorem secondWorker_hidden :
    ∃ payload, loadReviewStatus (saveRuntimeStates [reviewWorker 7, reviewWorker 8]) [] [] []
        { issueFilter := none, recentLimit := 5 } = .ok payload
      ∧ ReviewsMatching { issueFilter := none, recentLimit := 5 } (reviewWorker 8) "#8"
      ∧ ¬ Shows payload.runningSlots "#8" := by
  refine ⟨composeReviewStatus [] [] [] (some (reviewWorker 7)) ⟨none, 5⟩, ?_, ?_, ?_⟩
  · rw [loadReviewStatus, loadRuntimeState, Runtime.load_save]
    rfl
  · exact ⟨by decide, _, rfl, by decide, by decide⟩
  · intro hshown
    have hkey : normalizeIssueRef "#8" = "#8" := by decide
    rcases (shows_compose_iff rfl hkey).mp hshown with
      ⟨_, hmem⟩ | ⟨_, hmem⟩ | ⟨-, active, hactive, -, hother⟩ | ⟨_, hmem⟩
    · cases hmem
    · cases hmem
    · obtain rfl := Option.some.inj hactive
      exact absurd hother (by decide)
    · cases hmem

end SheaSymphony.ReviewStatus

import SheaSymphony.ReviewPublication

/-!
# Writes with recovery

The wrappers of `orchestration/tracker_recovery.rs` around the writes to a tracker, and
the classification of its errors of `tracker/error.rs`. A wrapper looks at the issue it
is given, writes once, and looks again where the failure of the write may hide a success.

The tracker is any state with any answers. What is printed is left out.
-/

namespace SheaSymphony.Tracker

open Interrupted Review

/-! ## Errors -/

/-- An error of the tracker, by what has failed. -/
inductive AdapterError where
  | stateResolution (error : TrackerStateResolutionError)
  | fixture (message : String)
  | payload (message : String)
  | integrationUnavailable (message : String)
  | notImplemented (message : String)
deriving DecidableEq

def isTransportEofMessage (normalized : String) : Bool :=
  let trimmed := Text.trim normalized
  (trimmed == "eof" || Text.endsWith trimmed ": eof" || Text.endsWith trimmed " eof")
    && !(["invalid gh", "invalid github", "while parsing"].any (Text.contains normalized))
    && ["api.github.com", "graphql", "rest", "http://", "https://"].any (Text.contains normalized)

def classifyProjectStateFailureMessage (message : String) : ProjectStateFailureKind :=
  let normalized := Text.toAsciiLowercase message
  let mentions := fun (texts : List String) => texts.any (Text.contains normalized)
  if mentions ["rate limit", "secondary rate", "too many requests", "http 429"] then .rateLimit
  else if mentions ["resource limit", "resource limitation", "maximum node limit", "max node limit",
      "exceeds maximum", "query has complexity", "query is too complex"] then .resourceLimit
  else if mentions ["authentication", "authenticate", "auth login", "bad credentials",
      "unauthorized", "http 401", "http 403"] then .auth
  else if mentions ["http 500", "http 502", "http 503", "http 504", "bad gateway",
      "service unavailable", "gateway timeout", "internal server error"] then .transientBackend
  else if mentions ["could not resolve host", "error connecting to", "failed to connect",
      "could not connect", "connection timed out", "timed out after", "connection reset",
      "connection refused", "connection closed", "temporary failure in name resolution",
      "no route to host", "i/o timeout", "context deadline exceeded"]
      || isTransportEofMessage normalized || mentions ["network", "tls"] then .network
  else if mentions ["missing projectv2", "partial projectv2", "missing status field",
      "missing fieldvalues", "missing pageinfo"] then .partialResponse
  else if mentions ["could not resolve to a projectv2", "field ", "doesn't exist", "schema"] then
    .schema
  else if mentions ["invalid gh graphql json", "invalid github graphql json",
      "invalid gh api json", "invalid github api json"] then .payload
  else if mentions ["does not support", "not implemented", "missing cli capability", "cli gap"] then
    .missingCapability
  else .unknown

def classifyProjectStateError : AdapterError → ProjectStateFailureKind
  | .stateResolution _ => .schema
  | .fixture _ => .payload
  | .payload message | .integrationUnavailable message => classifyProjectStateFailureMessage message
  | .notImplemented _ => .missingCapability

/-! ## The tracker -/

/-- A write, with what it is called with. -/
inductive Mutation where
  | setProjectField (issueRef name value : String)
  | setState (issueRef normalizedState : String)
  | upsertWorkpad (issueRef markdown : String)
  | addIssueComment (issueRef markdown : String)
  | closeIssue (issueRef : String)
deriving DecidableEq

structure WriteAdapter (σ : Type) where
  getIssue : σ → String → Except AdapterError (Option ReviewedIssue) × σ
  mutate : σ → Mutation → Except AdapterError Unit × σ

/-- A call of the tracker, with its answer. -/
inductive AdapterCall where
  | readback (answer : Except AdapterError (Option ReviewedIssue))
  | mutated (mutation : Mutation) (answer : Except AdapterError Unit)

structure WriteWorld (σ : Type) where
  tracker : σ
  calls : List AdapterCall

inductive TrackerMutationOutcome where
  | applied
  | alreadyApplied
  | recovered
deriving DecidableEq

inductive WriteFailure where
  | tracker (error : AdapterError)
  | mutationUncertain (mutationType issueRef : String) (kind : ProjectStateFailureKind)
      (currentState : Option String) (error : AdapterError)
  | readbackFailed (mutationType issueRef : String) (kind readbackKind : ProjectStateFailureKind)
      (error readbackError : AdapterError)

abbrev Writing (σ : Type) := Program (WriteWorld σ) WriteFailure

section

variable {σ : Type} (adapter : WriteAdapter σ)

def readBack (issueRef : String) : Writing σ (Except AdapterError (Option ReviewedIssue)) :=
  Program.step fun world =>
    let (answer, tracker) := adapter.getIssue world.tracker issueRef
    (answer, { tracker, calls := world.calls ++ [.readback answer] })

def mutate (mutation : Mutation) : Writing σ (Except AdapterError Unit) :=
  Program.step fun world =>
    let (answer, tracker) := adapter.mutate world.tracker mutation
    (answer, { tracker, calls := world.calls ++ [.mutated mutation answer] })

/-! ## The wrappers -/

def recoverAfterAdapterError (issueRef mutationType : String) (error : AdapterError)
    (expected : ReviewedIssue → Bool) : Writing σ TrackerMutationOutcome := do
  let kind := classifyProjectStateError error
  Program.require (recoverableProjectStateFailure kind) (.tracker error)
  match ← readBack adapter issueRef with
  | .ok (some issue) =>
      if expected issue then return .recovered
      else Program.stop (.mutationUncertain mutationType issueRef kind (some issue.state) error)
  | .ok none => Program.stop (.mutationUncertain mutationType issueRef kind none error)
  | .error readbackError =>
      Program.stop (.readbackFailed mutationType issueRef kind
        (classifyProjectStateError readbackError) error readbackError)

/-- What the wrappers have in common: a look, a write and a recovery. -/
def writeWithRecovery (issueRef mutationType : String) (initial : Option ReviewedIssue)
    (expected : ReviewedIssue → Bool) (mutation : Mutation) : Writing σ TrackerMutationOutcome :=
  if initial.any expected then return .alreadyApplied
  else do
    match ← mutate adapter mutation with
    | .ok () => return .applied
    | .error error => recoverAfterAdapterError adapter issueRef mutationType error expected

def setProjectFieldWithRecovery (issue : ReviewedIssue) (name value mutationType : String) :
    Writing σ TrackerMutationOutcome :=
  writeWithRecovery adapter issue.identifier mutationType (some issue)
    (issueProjectFieldMatches name value) (.setProjectField issue.identifier name value)

def setStateWithRecovery (case : Text.UnicodeCase) (issueRef : String)
    (initialIssue : Option ReviewedIssue) (normalizedState mutationType : String) :
    Writing σ TrackerMutationOutcome :=
  writeWithRecovery adapter issueRef mutationType initialIssue
    (issueStateMatches case normalizedState) (.setState issueRef normalizedState)

def issueHasRecoveryMarker (key : String) (issue : ReviewedIssue) : Bool :=
  evidencePresent (trackerRecoveryMarker key) issue

def upsertWorkpadWithRecovery (issueRef : String) (initialIssue : Option ReviewedIssue)
    (markdown key : String) : Writing σ TrackerMutationOutcome :=
  writeWithRecovery adapter issueRef "workpad_write" initialIssue (issueHasRecoveryMarker key)
    (.upsertWorkpad issueRef (ensureTrackerRecoveryMarker markdown key))

def addTimelineCommentWithRecovery (issueRef : String) (initialIssue : Option ReviewedIssue)
    (markdown key mutationType : String) : Writing σ TrackerMutationOutcome :=
  writeWithRecovery adapter issueRef mutationType initialIssue (issueHasRecoveryMarker key)
    (.addIssueComment issueRef (ensureTrackerRecoveryMarker markdown key))

/-- A tracker that cannot close issues leaves them as they are. -/
def closeIssueWithRecovery (case : Text.UnicodeCase) (issueRef : String)
    (initialIssue : Option ReviewedIssue) : Writing σ TrackerMutationOutcome :=
  if initialIssue.any (issueIsClosed case) then return .alreadyApplied
  else do
    match ← mutate adapter (.closeIssue issueRef) with
    | .ok () => return .applied
    | .error (.notImplemented _) => return .alreadyApplied
    | .error error =>
        recoverAfterAdapterError adapter issueRef "issue_close" error (issueIsClosed case)

end

/-! ## Operations -/

/-- An operation that is wrapped, with what it is called with. -/
inductive WrappedOperation where
  | setProjectField (issue : ReviewedIssue) (name value mutationType : String)
  | setState (issueRef : String) (initialIssue : Option ReviewedIssue)
      (normalizedState mutationType : String)
  | upsertWorkpad (issueRef : String) (initialIssue : Option ReviewedIssue) (markdown key : String)
  | addTimelineComment (issueRef : String) (initialIssue : Option ReviewedIssue)
      (markdown key mutationType : String)
  | closeIssue (issueRef : String) (initialIssue : Option ReviewedIssue)

namespace WrappedOperation

variable (operation : WrappedOperation)

def run {σ : Type} (adapter : WriteAdapter σ) (case : Text.UnicodeCase) :
    WrappedOperation → Writing σ TrackerMutationOutcome
  | setProjectField issue name value mutationType =>
      setProjectFieldWithRecovery adapter issue name value mutationType
  | setState issueRef initialIssue normalizedState mutationType =>
      setStateWithRecovery adapter case issueRef initialIssue normalizedState mutationType
  | upsertWorkpad issueRef initialIssue markdown key =>
      upsertWorkpadWithRecovery adapter issueRef initialIssue markdown key
  | addTimelineComment issueRef initialIssue markdown key mutationType =>
      addTimelineCommentWithRecovery adapter issueRef initialIssue markdown key mutationType
  | closeIssue issueRef initialIssue => closeIssueWithRecovery adapter case issueRef initialIssue

/-- The issue as it was read before the operation. -/
def initial : WrappedOperation → Option ReviewedIssue
  | setProjectField issue _ _ _ => some issue
  | setState _ initialIssue _ _ | upsertWorkpad _ initialIssue _ _
  | addTimelineComment _ initialIssue _ _ _ | closeIssue _ initialIssue => initialIssue

/-- What the operation is to bring about. -/
def expected (case : Text.UnicodeCase) : WrappedOperation → ReviewedIssue → Bool
  | setProjectField _ name value _ => issueProjectFieldMatches name value
  | setState _ _ normalizedState _ => issueStateMatches case normalizedState
  | upsertWorkpad _ _ _ key | addTimelineComment _ _ _ key _ => issueHasRecoveryMarker key
  | closeIssue _ _ => issueIsClosed case

/-- The write of the operation. -/
def mutation : WrappedOperation → Mutation
  | setProjectField issue name value _ => .setProjectField issue.identifier name value
  | setState issueRef _ normalizedState _ => .setState issueRef normalizedState
  | upsertWorkpad issueRef _ markdown key =>
      .upsertWorkpad issueRef (ensureTrackerRecoveryMarker markdown key)
  | addTimelineComment issueRef _ markdown key _ =>
      .addIssueComment issueRef (ensureTrackerRecoveryMarker markdown key)
  | closeIssue issueRef _ => .closeIssue issueRef

/-- Closing may turn out to be nothing the tracker can do. -/
def Skips (error : AdapterError) : Prop :=
  (∃ issueRef initialIssue, operation = closeIssue issueRef initialIssue)
    ∧ ∃ message, error = .notImplemented message

end WrappedOperation

/-! ## What a wrapper does -/

/-- The ways a wrapper ends, with the calls it has made by then. -/
inductive WrittenBy (initial : Option ReviewedIssue) (expected : ReviewedIssue → Bool)
    (mutation : Mutation) (skips : AdapterError → Prop) :
    Except WriteFailure TrackerMutationOutcome → List AdapterCall → Prop
  | satisfied (h : initial.any expected = true) :
      WrittenBy initial expected mutation skips (.ok .alreadyApplied) []
  | applied : WrittenBy initial expected mutation skips (.ok .applied) [.mutated mutation (.ok ())]
  | skipped {error : AdapterError} (h : skips error) :
      WrittenBy initial expected mutation skips (.ok .alreadyApplied)
        [.mutated mutation (.error error)]
  | failed {error : AdapterError} (failure : WriteFailure) (hskips : ¬ skips error)
      (h : recoverableProjectStateFailure (classifyProjectStateError error) = false) :
      WrittenBy initial expected mutation skips (.error failure) [.mutated mutation (.error error)]
  | recovered {error : AdapterError} {issue : ReviewedIssue}
      (h : recoverableProjectStateFailure (classifyProjectStateError error) = true)
      (hissue : expected issue = true) :
      WrittenBy initial expected mutation skips (.ok .recovered)
        [.mutated mutation (.error error), .readback (.ok (some issue))]
  | uncertain {error : AdapterError} {answer : Except AdapterError (Option ReviewedIssue)}
      (failure : WriteFailure)
      (h : recoverableProjectStateFailure (classifyProjectStateError error) = true)
      (hanswer : ∀ issue, answer = .ok (some issue) → expected issue = false) :
      WrittenBy initial expected mutation skips (.error failure)
        [.mutated mutation (.error error), .readback answer]

section

variable {σ : Type} {adapter : WriteAdapter σ} {initial : Option ReviewedIssue}
  {expected : ReviewedIssue → Bool} {mutation : Mutation} {skips : AdapterError → Prop}

theorem writtenBy_of_mutate {rest : Except AdapterError Unit → Writing σ TrackerMutationOutcome}
    (hok : ∀ tracker, rest (.ok ()) { tracker, calls := [.mutated mutation (.ok ())] }
      = (.ok .applied, { tracker, calls := [.mutated mutation (.ok ())] }))
    (herror : ∀ error tracker,
      WrittenBy initial expected mutation skips
        (rest (.error error) { tracker, calls := [.mutated mutation (.error error)] }).1
        (rest (.error error) { tracker, calls := [.mutated mutation (.error error)] }).2.calls)
    (tracker : σ) :
    WrittenBy initial expected mutation skips
      ((mutate adapter mutation >>= rest) { tracker, calls := [] }).1
      ((mutate adapter mutation >>= rest) { tracker, calls := [] }).2.calls := by
  have hmutate : mutate adapter mutation { tracker, calls := [] }
      = (.ok (adapter.mutate tracker mutation).1,
        { tracker := (adapter.mutate tracker mutation).2
          calls := [.mutated mutation (adapter.mutate tracker mutation).1] }) := rfl
  rw [Program.bind_ok hmutate]
  cases (adapter.mutate tracker mutation).1 with
  | ok u =>
      rw [hok]
      exact .applied
  | error error => exact herror error _

theorem writtenBy_recover {error : AdapterError} (hskips : ¬ skips error)
    (issueRef mutationType : String) (tracker : σ) :
    WrittenBy initial expected mutation skips
      (recoverAfterAdapterError adapter issueRef mutationType error expected
        { tracker, calls := [.mutated mutation (.error error)] }).1
      (recoverAfterAdapterError adapter issueRef mutationType error expected
        { tracker, calls := [.mutated mutation (.error error)] }).2.calls := by
  unfold recoverAfterAdapterError
  cases hkind : recoverableProjectStateFailure (classifyProjectStateError error) with
  | false => exact .failed _ hskips hkind
  | true =>
      have hread : readBack adapter issueRef { tracker, calls := [.mutated mutation (.error error)] }
          = (.ok (adapter.getIssue tracker issueRef).1,
            { tracker := (adapter.getIssue tracker issueRef).2
              calls := [.mutated mutation (.error error),
                .readback (adapter.getIssue tracker issueRef).1] }) := rfl
      have hrequire : (Program.require true (.tracker error) : Writing σ Unit)
          { tracker, calls := [.mutated mutation (.error error)] }
          = (.ok (), { tracker, calls := [.mutated mutation (.error error)] }) := rfl
      rw [Program.bind_ok hrequire, Program.bind_ok hread]
      cases (adapter.getIssue tracker issueRef).1 with
      | error readbackError => exact .uncertain _ hkind nofun
      | ok found =>
          cases found with
          | none => exact .uncertain _ hkind nofun
          | some issue =>
              cases hissue : expected issue with
              | true =>
                  dsimp only
                  rw [hissue, if_pos rfl]
                  exact .recovered hkind hissue
              | false =>
                  dsimp only
                  rw [hissue, if_neg Bool.false_ne_true]
                  refine .uncertain _ hkind fun other hother => ?_
                  rwa [← Option.some.inj (Except.ok.inj hother)]

theorem writtenBy_writeWithRecovery (hskips : ∀ error, ¬ skips error)
    (issueRef mutationType : String) (tracker : σ) :
    WrittenBy initial expected mutation skips
      (writeWithRecovery adapter issueRef mutationType initial expected mutation
        { tracker, calls := [] }).1
      (writeWithRecovery adapter issueRef mutationType initial expected mutation
        { tracker, calls := [] }).2.calls := by
  unfold writeWithRecovery
  cases hinitial : initial.any expected with
  | true =>
      rw [if_pos rfl]
      exact .satisfied hinitial
  | false =>
      rw [if_neg Bool.false_ne_true]
      exact writtenBy_of_mutate (fun _ => rfl)
        (fun error tracker => writtenBy_recover (hskips error) issueRef mutationType tracker) tracker

end

namespace WrappedOperation

theorem writtenBy_run {σ : Type} (adapter : WriteAdapter σ) (case : Text.UnicodeCase) (tracker : σ) :
    ∀ operation : WrappedOperation,
      WrittenBy operation.initial (operation.expected case) operation.mutation operation.Skips
        (operation.run adapter case { tracker, calls := [] }).1
        (operation.run adapter case { tracker, calls := [] }).2.calls
  | setProjectField issue name value mutationType =>
      writtenBy_writeWithRecovery (by rintro error ⟨⟨_, _, h⟩, -⟩; cases h) _ _ tracker
  | setState issueRef initialIssue normalizedState mutationType =>
      writtenBy_writeWithRecovery (by rintro error ⟨⟨_, _, h⟩, -⟩; cases h) _ _ tracker
  | upsertWorkpad issueRef initialIssue markdown key =>
      writtenBy_writeWithRecovery (by rintro error ⟨⟨_, _, h⟩, -⟩; cases h) _ _ tracker
  | addTimelineComment issueRef initialIssue markdown key mutationType =>
      writtenBy_writeWithRecovery (by rintro error ⟨⟨_, _, h⟩, -⟩; cases h) _ _ tracker
  | closeIssue issueRef initialIssue => by
      show WrittenBy initialIssue (issueIsClosed case) (.closeIssue issueRef)
        (closeIssue issueRef initialIssue).Skips
        (closeIssueWithRecovery adapter case issueRef initialIssue { tracker, calls := [] }).1
        (closeIssueWithRecovery adapter case issueRef initialIssue { tracker, calls := [] }).2.calls
      unfold closeIssueWithRecovery
      cases hinitial : initialIssue.any (issueIsClosed case) with
      | true =>
          rw [if_pos rfl]
          exact .satisfied hinitial
      | false =>
          rw [if_neg Bool.false_ne_true]
          refine writtenBy_of_mutate (fun _ => rfl) (fun error tracker => ?_) tracker
          cases error with
          | notImplemented message =>
              exact .skipped ⟨⟨issueRef, initialIssue, rfl⟩, message, rfl⟩
          | stateResolution | fixture | payload | integrationUnavailable =>
              dsimp only
              exact writtenBy_recover (by rintro ⟨-, message, h⟩; cases h) issueRef "issue_close" tracker

end WrappedOperation

/-- What an outcome says about the calls that have been made. -/
structure Faithful (operation : WrappedOperation) (case : Text.UnicodeCase)
    (result : Except WriteFailure TrackerMutationOutcome) (calls : List AdapterCall) : Prop where
  once : (calls.countP fun call => call matches .mutated _ _) ≤ 1
  own : ∀ mutation answer, .mutated mutation answer ∈ calls → mutation = operation.mutation
  applied_iff : result = .ok .applied ↔ .mutated operation.mutation (.ok ()) ∈ calls
  alreadyApplied_iff : result = .ok .alreadyApplied ↔
    calls = [] ∧ operation.initial.any (operation.expected case) = true
      ∨ ∃ error, operation.Skips error ∧ .mutated operation.mutation (.error error) ∈ calls
  recovered_iff : result = .ok .recovered ↔
    ∃ error issue, .mutated operation.mutation (.error error) ∈ calls
      ∧ recoverableProjectStateFailure (classifyProjectStateError error) = true
      ∧ .readback (.ok (some issue)) ∈ calls ∧ operation.expected case issue = true

theorem WrittenBy.faithful {operation : WrappedOperation} {case : Text.UnicodeCase}
    {result : Except WriteFailure TrackerMutationOutcome} {calls : List AdapterCall}
    (h : WrittenBy operation.initial (operation.expected case) operation.mutation operation.Skips
      result calls) : Faithful operation case result calls := by
  have hnever : ∀ error, recoverableProjectStateFailure (classifyProjectStateError error) = true →
      ¬ operation.Skips error := by
    rintro error hkind ⟨-, message, rfl⟩
    cases hkind
  cases h with
  | satisfied h =>
      exact ⟨Nat.zero_le 1, nofun, ⟨nofun, nofun⟩, ⟨fun _ => Or.inl ⟨rfl, h⟩, fun _ => rfl⟩,
        ⟨nofun, nofun⟩⟩
  | applied =>
      refine ⟨Nat.le_refl 1, ?_, ⟨fun _ => List.mem_cons_self, fun _ => rfl⟩, ⟨nofun, ?_⟩,
        ⟨nofun, ?_⟩⟩
      · simp
      · simp
      · simp
  | @skipped error h =>
      refine ⟨Nat.le_refl 1, ?_, ⟨nofun, ?_⟩,
        ⟨fun _ => Or.inr ⟨error, h, List.mem_cons_self⟩, fun _ => rfl⟩, ⟨nofun, ?_⟩⟩
      · simp
      · simp
      · simp
  | @failed error failure hskips h =>
      refine ⟨Nat.le_refl 1, ?_, ⟨nofun, ?_⟩, ⟨nofun, ?_⟩, ⟨nofun, ?_⟩⟩
      · simp
      · simp
      · simp [hskips]
      · simp
  | @recovered error issue h hissue =>
      refine ⟨Nat.le_refl 1, ?_, ⟨nofun, ?_⟩, ⟨nofun, ?_⟩,
        ⟨fun _ => ⟨error, issue, by simp [h, hissue]⟩, fun _ => rfl⟩⟩
      · simp
      · simp
      · simp [hnever error h]
  | @uncertain error answer failure h hanswer =>
      refine ⟨Nat.le_refl 1, ?_, ⟨nofun, ?_⟩, ⟨nofun, ?_⟩, ⟨nofun, ?_⟩⟩
      · simp
      · simp
      · simp [hnever error h]
      · rintro ⟨other, issue, -, -, hread, hissue⟩
        have hsame : answer = .ok (some issue) := by simpa [eq_comm] using hread
        rw [hanswer issue hsame] at hissue
        cases hissue

/-- A wrapper writes once at most and reports what has come of it. -/
theorem recovery_faithful {σ : Type} (adapter : WriteAdapter σ) (case : Text.UnicodeCase)
    (operation : WrappedOperation) (tracker : σ) :
    Faithful operation case (operation.run adapter case { tracker, calls := [] }).1
      (operation.run adapter case { tracker, calls := [] }).2.calls :=
  (operation.writtenBy_run adapter case tracker).faithful

end SheaSymphony.Tracker

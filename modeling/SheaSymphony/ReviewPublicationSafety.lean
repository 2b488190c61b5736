import SheaSymphony.ReviewPublication
import SheaSymphony.Runs
import SheaSymphony.Traces

/-!
# Safety of publishing a review

Whatever the tracker answers and wherever a call is cut off: the receipt moves
forward, the claim, the body and the state of the issue are written only behind
a readback that shows the captured issue with the evidence of this job, and the
evidence is posted only behind a readback without it.

Every call is followed step by step with one assertion, about its log and the
state of the stored receipt; what is asserted where a call stops holds wherever
it is cut off.
-/

namespace SheaSymphony.Review

open Interrupted Lanes Model Tracker Traces

/-! ## Receipts move forward -/

def PublicationState.rank : PublicationState → Nat
  | starting => 0
  | running => 1
  | resultReady => 2
  | evidencePublished => 3
  | complete => 4
  | superseded => 4

/-- From the result over the evidence to the end; the two ends are final. -/
def PublicationState.Forward (before after : PublicationState) : Prop :=
  before = after ∨ before.rank < after.rank

theorem PublicationState.Forward.trans {a b c : PublicationState} (hab : a.Forward b)
    (hbc : b.Forward c) : a.Forward c := by
  rcases hab with rfl | hab
  · exact hbc
  · rcases hbc with rfl | hbc
    · exact .inr hab
    · exact .inr (hab.trans hbc)

theorem PublicationState.forward_reopened {state : PublicationState} (hcomplete : state ≠ .complete)
    (hsuperseded : state ≠ .superseded) :
    state.Forward (if state = .evidencePublished then .evidencePublished else .resultReady) := by
  cases state with
  | complete => exact absurd rfl hcomplete
  | superseded => exact absurd rfl hsuperseded
  | resultReady | evidencePublished => exact .inl rfl
  | starting | running => exact .inr (by decide)

def savedStates (log : List Event) : List PublicationState :=
  log.filterMap fun event =>
    match event with
    | .saved state => some state
    | _ => none

/-- The states the receipt has had, from the one at the start. -/
def statesOf (start : Option PublicationState) (log : List Event) : List PublicationState :=
  start.toList ++ savedStates log

/-- Each state of the receipt is one to go on to from all before it, and the
last one is stored. -/
structure Moves (start : Option PublicationState) (log : List Event)
    (stored : Option PublicationState) : Prop where
  pairwise : (statesOf start log).Pairwise PublicationState.Forward
  last : (statesOf start log).getLast? = stored

variable {log : List Event}

theorem Moves.behind {start stored : Option PublicationState} (h : Moves start log stored)
    {state : PublicationState} (hstate : state ∈ statesOf start log) :
    ∃ now, stored = some now ∧ state.Forward now := by
  cases hstates : statesOf start log using List.reverseRecOn with
  | nil => rw [hstates] at hstate; cases hstate
  | append_singleton states now =>
      refine ⟨now, by rw [← h.last, hstates]; simp, ?_⟩
      rw [hstates] at hstate
      rcases List.mem_append.mp hstate with hold | hnow
      · exact (List.pairwise_append.mp (hstates ▸ h.pairwise)).2.2 state hold now
          (List.mem_singleton_self now)
      · exact .inl (List.mem_singleton.mp hnow)

theorem Moves.start (start : Option PublicationState) : Moves start [] start where
  pairwise := by cases start <;> simp [statesOf, savedStates]
  last := by cases start <;> simp [statesOf, savedStates]

theorem Moves.append {start stored later : Option PublicationState} {log more : List Event}
    (h : Moves start log stored) (hmore : Moves stored more later) :
    Moves start (log ++ more) later := by
  have hsplit : statesOf start (log ++ more) = statesOf start log ++ savedStates more := by
    simp [statesOf, savedStates]
  constructor
  · rw [hsplit, List.pairwise_append]
    refine ⟨h.pairwise, (List.pairwise_append.mp hmore.pairwise).2.1, ?_⟩
    intro state hstate next hnext
    obtain ⟨now, rfl, hnow⟩ := h.behind hstate
    exact hnow.trans ((List.pairwise_append.mp hmore.pairwise).2.2 now
      (List.mem_singleton_self now) next hnext)
  · have hstored : stored.toList.getLast? = stored := by cases stored <;> rfl
    rw [hsplit, List.getLast?_append, h.last, ← hmore.last, statesOf, List.getLast?_append, hstored]

theorem Moves.other {start stored : Option PublicationState} {event : Event}
    (h : Moves start log stored) (hevent : savedStates [event] = []) :
    Moves start (log ++ [event]) stored := by
  have hstates : statesOf stored [event] = statesOf stored [] := by rw [statesOf, hevent]; rfl
  have hstay := Moves.start stored
  exact h.append ⟨hstates ▸ hstay.pairwise, hstates ▸ hstay.last⟩

theorem Moves.save {start stored : Option PublicationState} {state : PublicationState}
    (h : Moves start log stored) (hforward : ∀ now, stored = some now → now.Forward state) :
    Moves start (log ++ [.saved state]) (some state) := by
  refine h.append ⟨?_, by simp [statesOf, savedStates]⟩
  rw [statesOf, List.pairwise_append]
  refine ⟨by cases stored <;> simp, by simp [savedStates], ?_⟩
  intro now hnow next hnext
  obtain rfl : next = state := by simpa [savedStates] using hnext
  exact hforward now (by simpa using hnow)

/-! ## Readbacks -/

theorem completedReviewDecision_ne_stillRunning (case : Text.UnicodeCase)
    (report : Option AgentReviewReport) :
    (completedReviewDecision case report).outcome ≠ .stillRunning := by
  cases report with
  | none => rintro ⟨⟩
  | some report =>
      rw [completedReviewDecision]
      split
      · rintro ⟨⟩
      · split
        · rintro ⟨⟩
        · split <;> rintro ⟨⟩

theorem failedReviewDecision_ne_stillRunning
    (health : ReviewJob → Option GeminiReviewHealthDiagnostic) (job : ReviewJob) :
    (failedReviewDecision health job).outcome ≠ .stillRunning := by
  unfold failedReviewDecision
  split
  · split <;> rintro ⟨⟩
  · split <;> rintro ⟨⟩

theorem outcome_ne_stillRunning {health : ReviewJob → Option GeminiReviewHealthDiagnostic}
    {case : Text.UnicodeCase} {job : ReviewJob} {issue : TrackerIssue}
    (h : reviewJobIsTerminal job = true) :
    (reviewGateDecisionForIssue health case job issue).outcome ≠ .stillRunning := by
  unfold reviewGateDecisionForIssue
  dsimp only
  split
  · rintro ⟨⟩
  · have hne : ReviewActor.independentReviewAgent ≠ .mainImplementationAgent := by decide
    simp only [reviewGateDecision, reviewGateDecisionForActor, if_neg hne]
    cases hstate : job.state with
    | queued => simp [reviewJobIsTerminal, hstate] at h
    | running => simp [reviewJobIsTerminal, hstate] at h
    | cancelled => rintro ⟨⟩
    | completed => exact completedReviewDecision_ne_stillRunning case job.report
    | failed | timedOut => exact failedReviewDecision_ne_stillRunning health job

theorem terminalReviewLoopClaimValue_isSome {claim : LaneClaim} {job : ReviewJob}
    {decision : ReviewGateDecision} (h : decision.outcome ≠ .stillRunning) :
    ∃ value, terminalReviewLoopClaimValue (some claim) job decision = some value := by
  unfold terminalReviewLoopClaimValue
  cases houtcome : decision.outcome with
  | stillRunning => exact absurd houtcome h
  | _ => exact ⟨_, rfl⟩

def Event.isMutation : Event → Bool
  | .fieldSet _ _ | .contentUpdated _ _ | .stateSet _ => true
  | _ => false

namespace Publication

variable (publication : Publication)

/-- A readback the publication may go on from. -/
structure Fresh (current : ReviewedIssue) : Prop where
  id_eq : publication.issue.id = current.id
  identifier_eq : publication.issue.identifier = current.identifier
  isOpen : issueIsClosed publication.case current = false
  state : stateKey publication.case current.state
      = stateKey publication.case publication.stateMap.agentReview
    ∨ evidencePresent publication.marker current = true
      ∧ ∃ target, publication.decision.targetState = some target
        ∧ stateKey publication.case current.state
          = mappedStateKey publication.case publication.stateMap target
  title_eq : publication.issue.title = current.title
  body : canonicalBody current = canonicalBody publication.issue
    ∨ evidencePresent publication.marker current = true
      ∧ publication.decision.outcome.isPassed = true
      ∧ canonicalBody current
        = checkReviewVerifiedIssueBodyCheckboxes (canonicalBody publication.issue)
  pullRequest : readyPrs publication.issue = readyPrs current
    ∧ ∃ pr, readyPrs publication.issue = [pr] ∧ prIsReady pr = true
  claim : ∀ claim, publication.claim = some claim →
    projectTextField current.toTrackerIssue "Review Agent" = some claim.render
      ∨ evidencePresent publication.marker current = true
        ∧ projectTextField current.toTrackerIssue "Review Agent" = publication.terminalClaim

theorem freshness_eq_ok {current : ReviewedIssue} :
    publication.freshness current = .ok () ↔ publication.Fresh current := by
  unfold freshness validatePublicationFreshness
  simp only [Fallible.require_bind_eq_ok, Fallible.require_eq_ok]
  constructor
  · rintro ⟨hidentity, hopen, hstate, hcontract, hpr, hclaim⟩
    simp only [Bool.and_eq_true, Bool.or_eq_true, beq_iff_eq, Bool.not_eq_true',
      Option.any_eq_true] at hidentity hopen hstate hcontract hpr
    constructor
    case id_eq => exact hidentity.1
    case identifier_eq => exact hidentity.2
    case isOpen => exact hopen
    case state => simpa using hstate
    case title_eq => exact hcontract.1
    case body => simpa [and_assoc] using hcontract.2
    case pullRequest =>
      refine ⟨hpr.1, ?_⟩
      have hready := hpr.2
      split at hready
      · rename_i pr hsingle
        exact ⟨pr, hsingle, hready⟩
      · cases hready
    case claim =>
      intro claim howned
      simpa [howned] using hclaim
  · intro h
    obtain ⟨hsame, pr, hsingle, hready⟩ := h.pullRequest
    refine ⟨?_, ?_, ?_, ?_, ?_, ?_⟩
    · simp [h.id_eq, h.identifier_eq]
    · simp [h.isOpen]
    · simpa [Option.any_eq_true] using h.state
    · simpa [h.title_eq, and_assoc] using h.body
    · simp [← hsame, hsingle, hready]
    · cases howned : publication.claim with
      | none => rfl
      | some claim => simpa using h.claim claim howned

/-! ## Calls step by step -/

/-- What a log must show before it goes on with an event: behind the evidence in
a fresh readback the issue is written, and without it the evidence is posted,
once. -/
def Allows (earlier : List Event) : Event → Prop
  | .fieldSet _ _ | .contentUpdated _ _ | .stateSet _ =>
      ∃ issue, .readback (.ok (some issue)) ∈ earlier ∧ publication.Fresh issue
        ∧ evidencePresent publication.marker issue = true
  | .commented _ _ =>
      (∃ issue, .readback (.ok (some issue)) ∈ earlier
        ∧ evidencePresent publication.marker issue = false)
        ∧ ∀ body applied, .commented body applied ∉ earlier
  | .readback _ | .saved _ => True

structure Kept (start : Option PublicationState) (log : List Event)
    (stored : Option PublicationState) : Prop where
  moves : Moves start log stored
  allowed : Everywhere publication.Allows log

/-- The receipt is stored in a state, and more is known of the log. -/
structure Working (start : Option PublicationState) (state : PublicationState)
    (known : List Event → Prop) (log : List Event) (stored : Option PublicationState) : Prop where
  kept : publication.Kept start log stored
  stored_eq : stored = some state
  known : known log

variable {publication}

theorem Kept.readback {start stored : Option PublicationState}
    (h : publication.Kept start log stored) (answer : Except TrackerError (Option ReviewedIssue)) :
    publication.Kept start (log ++ [.readback answer]) stored where
  moves := h.moves.other rfl
  allowed := everywhere_concat.mpr ⟨h.allowed, trivial⟩

theorem Kept.save {start stored : Option PublicationState} {state : PublicationState}
    (h : publication.Kept start log stored)
    (hforward : ∀ now, stored = some now → now.Forward state) :
    publication.Kept start (log ++ [.saved state]) (some state) where
  moves := h.moves.save hforward
  allowed := everywhere_concat.mpr ⟨h.allowed, trivial⟩

theorem Kept.write {start stored : Option PublicationState} {event : Event}
    (h : publication.Kept start log stored) (hevent : savedStates [event] = [])
    (hallows : publication.Allows log event) :
    publication.Kept start (log ++ [event]) stored where
  moves := h.moves.other hevent
  allowed := everywhere_concat.mpr ⟨h.allowed, hallows⟩

/-- An assertion about the log and the state of the stored receipt. -/
abbrev Assertion := List Event → Option PublicationState → Prop

def Holds {σ : Type} (assertion : Assertion) (world : World σ) : Prop :=
  assertion world.log (world.receipt.map (·.state))

/-- What a readback does not disturb, and what a call may be cut off at. -/
structure Steady (publication : Publication) (start : Option PublicationState)
    (assertion : Assertion) : Prop where
  kept : ∀ {log stored}, assertion log stored → publication.Kept start log stored
  readback : ∀ {log stored} answer, assertion log stored →
    assertion (log ++ [.readback answer]) stored

section Steps
variable {σ : Type} (adapter : Adapter σ) {start : Option PublicationState}
  {assertion after : Assertion}

theorem triple_spend {stop : Assertion}
    (hstop : ∀ {log stored}, assertion log stored → stop log stored) :
    Triple (Holds assertion : World σ → Prop) spend (fun _ => Holds assertion) (Holds stop) := by
  refine Triple.of_run fun world h => ?_
  unfold spend
  split
  · rename_i hspent
    split at hspent <;> cases hspent
    exact h
  · rename_i hspent
    split at hspent <;> cases hspent
    exact hstop h

theorem triple_readIssue (h : Steady publication start assertion) (issueRef : String) :
    Triple (Holds assertion) (readIssue adapter issueRef)
      (fun answer => Holds fun log stored =>
        assertion log stored ∧ .readback answer ∈ log)
      (Holds (publication.Kept start)) := by
  refine Triple.bind (triple_spend h.kept) fun _ => Triple.step fun world hworld => ?_
  exact ⟨h.readback _ hworld, by simp⟩

theorem triple_getIssue (h : Steady publication start assertion) (issueRef missing : String) :
    Triple (Holds assertion) (getIssue adapter issueRef missing)
      (fun issue => Holds fun log stored =>
        assertion log stored ∧ .readback (.ok (some issue)) ∈ log)
      (Holds (publication.Kept start)) := by
  refine Triple.bind (triple_readIssue adapter h issueRef) fun answer => ?_
  match answer with
  | .ok (some issue) => exact Triple.pure fun _ hworld => hworld
  | .ok none => exact Triple.halt fun _ hworld => h.kept hworld.1
  | .error error => exact Triple.halt fun _ hworld => h.kept hworld.1

theorem triple_write {call : σ → Written × σ} {event : Bool → Event}
    (hkept : ∀ {log stored}, assertion log stored → publication.Kept start log stored)
    (hafter : ∀ {log stored} applied, assertion log stored → after (log ++ [event applied]) stored) :
    Triple (Holds assertion) (write call event) (fun _ => Holds after)
      (Holds (publication.Kept start)) :=
  Triple.bind (triple_spend hkept) fun _ => Triple.step fun _ hworld => hafter _ hworld

theorem triple_save (after : Assertion) (receipt : ReviewPublication)
    (hkept : ∀ {log stored}, assertion log stored → publication.Kept start log stored)
    (hafter : ∀ {log stored}, assertion log stored →
      after (log ++ [.saved receipt.state]) (some receipt.state)) :
    Triple (Holds assertion : World σ → Prop) receipt.save (fun _ => Holds after)
      (Holds (publication.Kept start)) :=
  Triple.bind (triple_spend hkept) fun _ => Triple.step fun _ hworld => hafter hworld

theorem triple_withRecovery {mutation : Publish σ (Except TrackerError Unit)}
    (hmutation : Triple (Holds assertion) mutation (fun _ => Holds after)
      (Holds (publication.Kept start)))
    (hafter : Steady publication start after) (issueRef mutationType : String)
    (expected : ReviewedIssue → Bool) :
    Triple (Holds assertion) (withRecovery adapter issueRef mutationType expected mutation)
      (fun _ => Holds after) (Holds (publication.Kept start)) := by
  refine Triple.bind hmutation fun result => ?_
  match result with
  | .ok () => exact Triple.pure fun _ hworld => hworld
  | .error error =>
      refine Triple.require_bind (fun _ => ?_) fun _ hworld => hafter.kept hworld
      refine Triple.bind (triple_readIssue adapter hafter issueRef) fun answer => ?_
      match answer with
      | .ok (some issue) =>
          exact Triple.require (fun _ _ hworld => hworld.1) fun _ hworld => hafter.kept hworld.1
      | .ok none => exact Triple.halt fun _ hworld => hafter.kept hworld.1
      | .error readbackError => exact Triple.halt fun _ hworld => hafter.kept hworld.1

end Steps

/-! ## The stages -/

section Stages
variable {σ : Type} (adapter : Adapter σ) {start : Option PublicationState}
  {state : PublicationState} {known : List Event → Prop}

theorem steady_working
    (hknown : ∀ {log} answer, known log → known (log ++ [.readback answer])) :
    Steady publication start (publication.Working start state known) where
  kept h := h.kept
  readback answer h := ⟨h.kept.readback answer, h.stored_eq, hknown answer h.known⟩

theorem triple_fresh {receipt : ReviewPublication} (hstate : state.rank < 4)
    (hknown : ∀ {log} answer, known log → known (log ++ [.readback answer])) :
    Triple (Holds (publication.Working start state known)) (publication.fresh adapter receipt)
      (fun current => Holds (publication.Working start state fun log =>
        known log ∧ .readback (.ok (some current)) ∈ log ∧ publication.Fresh current))
      (Holds (publication.Kept start)) := by
  refine Triple.bind (triple_getIssue adapter (steady_working hknown) _ _) fun current => ?_
  cases hfresh : publication.freshness current with
  | ok u =>
      refine Triple.pure fun world hworld => ?_
      exact ⟨hworld.1.kept, hworld.1.stored_eq, hworld.1.known, hworld.2,
        publication.freshness_eq_ok.mp hfresh⟩
  | error reason =>
      refine Triple.bind (triple_save (publication.Kept start) _
        (fun h => h.1.kept) fun h => ?_) fun _ => Triple.halt fun _ hworld => hworld
      exact h.1.kept.save fun now hnow =>
        .inr ((Option.some.inj (hnow.symm.trans h.1.stored_eq)) ▸ hstate)

/-- No evidence is posted yet. -/
def Quiet (log : List Event) : Prop := ∀ body applied, .commented body applied ∉ log

variable (publication) in
/-- A fresh readback has shown the evidence. -/
def Seen (log : List Event) : Prop :=
  ∃ issue, .readback (.ok (some issue)) ∈ log ∧ publication.Fresh issue
    ∧ evidencePresent publication.marker issue = true

theorem Seen.concat (h : publication.Seen log) (event : Event) :
    publication.Seen (log ++ [event]) := by
  obtain ⟨issue, hmem, hissue⟩ := h
  exact ⟨issue, List.mem_append_left _ hmem, hissue⟩

/-- Nothing has been done in this call. -/
structure Idle (start : Option PublicationState) (log : List Event)
    (stored : Option PublicationState) : Prop where
  log_eq : log = []
  stored_eq : stored = start

theorem Idle.kept {stored : Option PublicationState} (h : Idle start log stored) :
    publication.Kept start log stored := by
  rw [h.log_eq, h.stored_eq]
  exact ⟨Moves.start start, everywhere_nil⟩

theorem triple_readReceipt :
    Triple (Holds (Idle start) : World σ → Prop) readReceipt
      (fun saved => Holds fun log stored => Idle start log stored ∧ saved.map (·.state) = start)
      (Holds (publication.Kept start)) :=
  Triple.bind (triple_spend Idle.kept) fun _ => Triple.step fun _ hworld =>
    ⟨hworld, hworld.stored_eq⟩

theorem triple_openReceipt (render : String) :
    Triple (Holds (Idle start) : World σ → Prop) (publication.openReceipt render)
      (fun opened world => match opened with
        | none => Holds (publication.Kept start) world
        | some receipt => (receipt.state = .resultReady ∨ receipt.state = .evidencePublished)
            ∧ Holds (publication.Working start receipt.state Quiet) world)
      (Holds (publication.Kept start)) := by
  unfold openReceipt
  refine Triple.require_bind (fun _ => ?_) fun _ hworld => hworld.kept
  refine Triple.require_bind (fun _ => ?_) fun _ hworld => hworld.kept
  refine Triple.bind triple_readReceipt fun saved => ?_
  refine Triple.require_bind (fun _ => ?_) fun _ hworld => hworld.1.kept
  refine Triple.require_bind (fun _ => ?_) fun _ hworld => hworld.1.kept
  split
  · exact Triple.pure fun _ hworld => hworld.1.kept
  · rename_i hcomplete
    refine Triple.require_bind (fun hsuperseded => ?_) fun _ hworld => hworld.1.kept
    refine Triple.bind (triple_save (publication.Working start _ Quiet) _
      (fun h => h.1.kept) fun h => ?_) fun _ => Triple.pure fun _ hworld => ⟨?_, hworld⟩
    · obtain ⟨⟨rfl, rfl⟩, hstart⟩ := h
      refine ⟨(Idle.kept ⟨rfl, rfl⟩).save fun now hnow => ?_, rfl, by simp [Quiet]⟩
      obtain ⟨receipt, rfl, rfl⟩ := Option.map_eq_some_iff.mp (hstart.trans hnow)
      exact PublicationState.forward_reopened hcomplete (by simpa using hsuperseded)
    · dsimp only
      split <;> simp

theorem quiet_readback {answer : Except TrackerError (Option ReviewedIssue)} (h : Quiet log) :
    Quiet (log ++ [.readback answer]) := by
  intro body applied hmem
  simp only [List.mem_append, List.mem_singleton, reduceCtorEq, or_false] at hmem
  exact h body applied hmem

theorem steady_seen : Steady publication start (publication.Working start state publication.Seen) :=
  steady_working fun _ h => h.concat _

theorem triple_addTimelineComment {current : ReviewedIssue} {issueRef markdown mutationType : String}
    (hquiet : ∀ {log}, known log →
      Quiet log ∧ .readback (.ok (some current)) ∈ log) :
    Triple (Holds (publication.Working start state known) : World σ → Prop)
      (addTimelineCommentWithRecovery adapter issueRef current markdown publication.key mutationType)
      (fun _ => Holds (publication.Working start state fun _ => True))
      (Holds (publication.Kept start)) := by
  unfold addTimelineCommentWithRecovery
  dsimp only
  split
  · exact Triple.pure fun _ hworld => ⟨hworld.kept, hworld.stored_eq, trivial⟩
  · rename_i habsent
    refine triple_withRecovery adapter (triple_write (fun h => h.kept) fun applied h => ?_)
      (steady_working fun _ _ => trivial) _ _ _
    obtain ⟨hnone, hread⟩ := hquiet h.known
    exact ⟨h.kept.write rfl ⟨⟨current, hread, Bool.eq_false_iff.mpr habsent⟩, hnone⟩,
      h.stored_eq, trivial⟩

theorem triple_publishEvidence {receipt : ReviewPublication} (hstate : receipt.state.rank < 4) :
    Triple (Holds (publication.Working start receipt.state Quiet) : World σ → Prop)
      (publication.publishEvidence adapter receipt)
      (fun _ => Holds (publication.Working start receipt.state publication.Seen))
      (Holds (publication.Kept start)) := by
  unfold publishEvidence
  refine Triple.bind (triple_fresh adapter hstate fun _ h => quiet_readback h) fun current => ?_
  refine Triple.require_bind (fun _ => ?_) fun _ hworld => hworld.kept
  refine Triple.bind (triple_addTimelineComment adapter fun h => ⟨h.1, h.2.1⟩) fun _ => ?_
  refine Triple.bind (triple_fresh adapter hstate fun _ _ => trivial) fun current => ?_
  refine Triple.require_bind (fun hevidence => ?_) fun _ hworld => hworld.kept
  exact Triple.pure fun _ hworld => ⟨hworld.kept, hworld.stored_eq,
    current, hworld.known.2.1, hworld.known.2.2, hevidence⟩

variable (publication start state) in
/-- A program that goes on behind the evidence. -/
def KeepsSeen {α : Type} (program : Publish σ α) : Prop :=
  Triple (Holds (publication.Working start state publication.Seen)) program
    (fun _ => Holds (publication.Working start state publication.Seen))
    (Holds (publication.Kept start))

theorem keepsSeen_write {call : σ → Written × σ} {event : Event}
    (hsaved : savedStates [event] = [])
    (hallows : ∀ {log}, publication.Seen log → publication.Allows log event) :
    KeepsSeen publication start state (write call fun _ => event) :=
  triple_write (fun h => h.kept) fun _ h =>
    ⟨h.kept.write hsaved (hallows h.known), h.stored_eq, h.known.concat _⟩

theorem keepsSeen_fresh {receipt : ReviewPublication} (hstate : state.rank < 4) :
    KeepsSeen publication start state (publication.fresh adapter receipt) :=
  (triple_fresh adapter hstate fun _ h => h.concat _).weaken (fun _ h => h)
    (fun _ _ h => ⟨h.kept, h.stored_eq, h.known.1⟩) fun _ h => h

theorem keepsSeen_writeTerminalReviewClaim (fromState value : String) :
    KeepsSeen publication start state
      (publication.writeTerminalReviewClaim adapter fromState value) := by
  unfold writeTerminalReviewClaim
  refine Triple.bind (triple_getIssue adapter steady_seen _ _) fun issue => ?_
  unfold setProjectFieldWithRecovery
  split
  · exact Triple.pure fun _ hworld => hworld.1
  · have hset : KeepsSeen publication start state
        (setProjectField adapter issue.identifier "Review Agent" value) :=
      keepsSeen_write rfl fun h => h
    exact (triple_withRecovery adapter hset steady_seen _ _ _).weaken
      (fun _ h => h.1) (fun _ _ h => h) fun _ h => h

theorem keepsSeen_publishClaim (receipt : ReviewPublication) (hstate : state.rank < 4)
    (current : ReviewedIssue) :
    KeepsSeen publication start state (publication.publishClaim adapter receipt current) := by
  unfold publishClaim
  cases publication.terminalClaim with
  | none => exact Triple.pure fun _ hworld => hworld
  | some value =>
      refine Triple.bind (keepsSeen_writeTerminalReviewClaim adapter _ value) fun _ => ?_
      refine Triple.bind (keepsSeen_fresh adapter hstate) fun current => ?_
      refine Triple.require_bind (fun _ => ?_) fun _ hworld => hworld.kept
      exact Triple.pure fun _ hworld => hworld

theorem keepsSeen_updateReviewChecklistForPass (issue : ReviewedIssue) :
    KeepsSeen publication start state (updateReviewChecklistForPass adapter issue) := by
  unfold updateReviewChecklistForPass
  cases issue.description with
  | none => exact Triple.pure fun _ hworld => hworld
  | some description =>
      dsimp only
      generalize checkReviewVerifiedIssueBodyCheckboxes _ = updated
      split
      · exact Triple.pure fun _ hworld => hworld
      · have hupdate : KeepsSeen publication start state
            (updateIssueContent adapter issue.identifier issue.title updated) :=
          keepsSeen_write rfl fun h => h
        refine Triple.bind hupdate fun result => ?_
        match result with
        | .ok () => exact Triple.pure fun _ hworld => hworld
        | .error error => exact Triple.halt fun _ hworld => hworld.kept

theorem keepsSeen_publishChecklist (receipt : ReviewPublication) (hstate : state.rank < 4)
    (current : ReviewedIssue) :
    KeepsSeen publication start state (publication.publishChecklist adapter receipt current) := by
  unfold publishChecklist
  cases publication.decision.outcome.isPassed with
  | false => exact Triple.pure fun _ hworld => hworld
  | true =>
      rw [if_pos rfl]
      refine Triple.bind (keepsSeen_updateReviewChecklistForPass adapter current) fun _ => ?_
      refine Triple.bind (keepsSeen_fresh adapter hstate) fun current => ?_
      generalize (checkReviewVerifiedIssueBodyCheckboxes _ == canonicalBody current) = ticked
      refine Triple.require_bind (fun _ => ?_) fun _ hworld => hworld.kept
      exact Triple.pure fun _ hworld => hworld

theorem keepsSeen_setStateWithRecovery (issueRef : String) (issue : ReviewedIssue)
    (target : String) :
    KeepsSeen publication start state
      (setStateWithRecovery adapter publication.case issueRef issue target "state_change") := by
  unfold setStateWithRecovery
  split
  · exact Triple.pure fun _ hworld => hworld
  · have hset : KeepsSeen publication start state (setState adapter issueRef target) :=
      keepsSeen_write rfl fun h => h
    exact triple_withRecovery adapter hset steady_seen _ _ _

theorem keepsSeen_publishState (receipt : ReviewPublication) (hstate : state.rank < 4)
    (current : ReviewedIssue) :
    KeepsSeen publication start state (publication.publishState adapter receipt current) := by
  unfold publishState
  cases publication.decision.targetState with
  | none => exact Triple.pure fun _ hworld => hworld
  | some target =>
      refine Triple.bind (keepsSeen_setStateWithRecovery adapter _ _ _) fun _ => ?_
      refine Triple.bind (keepsSeen_fresh adapter hstate) fun current => ?_
      exact Triple.require (fun _ _ hworld => hworld) fun _ hworld => hworld.kept

theorem triple_applyReviewResult (render : String) :
    Triple (Holds (Idle start) : World σ → Prop) (publication.applyReviewResult adapter render)
      (fun _ => Holds (publication.Kept start)) (Holds (publication.Kept start)) := by
  unfold applyReviewResult
  refine Triple.bind (triple_openReceipt render) fun opened => ?_
  cases opened with
  | none => exact Triple.pure fun _ hworld => hworld
  | some receipt =>
      refine Triple.of_fact (fun _ hworld => hworld.1) fun hopened => ?_
      have hstate : receipt.state.rank < 4 := by rcases hopened with h | h <;> rw [h] <;> decide
      have hforward : receipt.state.Forward .evidencePublished := by
        rcases hopened with h | h <;> rw [h]
        · exact .inr (by decide)
        · exact .inl rfl
      refine Triple.bind ((triple_publishEvidence adapter hstate).weaken (fun _ h => h.2)
        (fun _ _ h => h) fun _ h => h) fun current => ?_
      refine Triple.bind (triple_save (publication.Working start .evidencePublished
        publication.Seen) _ (fun h => h.kept) fun h => ?_) fun _ => ?_
      · refine ⟨h.kept.save fun now hnow => ?_, rfl, h.known.concat _⟩
        exact Option.some.inj (hnow.symm.trans h.stored_eq) ▸ hforward
      · have hpublished : PublicationState.evidencePublished.rank < 4 := by decide
        refine Triple.bind (keepsSeen_publishClaim adapter _ hpublished _) fun current => ?_
        refine Triple.bind (keepsSeen_publishChecklist adapter _ hpublished _) fun current => ?_
        refine Triple.bind (keepsSeen_publishState adapter _ hpublished _) fun _ => ?_
        refine triple_save (publication.Kept start) _ (fun h => h.kept) fun h => ?_
        exact h.kept.save fun now hnow =>
          .inr ((Option.some.inj (hnow.symm.trans h.stored_eq)).symm ▸ hpublished)

end Stages

/-! ## Calls -/

/-- What a readback shows that the issue may be written behind. -/
structure Shown (publication : Publication) (issue : ReviewedIssue) : Prop where
  identity : issue.id = publication.issue.id ∧ issue.identifier = publication.issue.identifier
  isOpen : issueIsClosed publication.case issue = false
  title : issue.title = publication.issue.title
  body : canonicalBody issue = canonicalBody publication.issue
    ∨ publication.decision.outcome.isPassed = true
      ∧ canonicalBody issue
        = checkReviewVerifiedIssueBodyCheckboxes (canonicalBody publication.issue)
  pullRequest : ∃ pr, readyPrs publication.issue = [pr] ∧ readyPrs issue = [pr] ∧ prIsReady pr = true
  claim : ∀ claim, publication.claim = some claim →
    ∃ value, projectTextField issue.toTrackerIssue "Review Agent" = some value
      ∧ (value = claim.render ∨ publication.terminalClaim = some value)
  evidence : evidencePresent publication.marker issue = true

theorem Fresh.shown {issue : ReviewedIssue} (h : publication.Fresh issue)
    (hevidence : evidencePresent publication.marker issue = true)
    (hterminal : reviewJobIsTerminal publication.job.toReviewJob = true) :
    publication.Shown issue where
  identity := ⟨h.id_eq.symm, h.identifier_eq.symm⟩
  isOpen := h.isOpen
  title := h.title_eq.symm
  body := h.body.imp_right fun hbody => hbody.2
  pullRequest := by
    obtain ⟨hsame, pr, hsingle, hready⟩ := h.pullRequest
    exact ⟨pr, hsingle, hsame ▸ hsingle, hready⟩
  claim := by
    intro claim howned
    rcases h.claim claim howned with hactive | ⟨-, hfield⟩
    · exact ⟨claim.render, hactive, .inl rfl⟩
    · have hdecided : publication.decision.outcome ≠ .stillRunning :=
        outcome_ne_stillRunning hterminal
      obtain ⟨value, hvalue⟩ := terminalReviewLoopClaimValue_isSome hdecided
      have hterminalClaim : publication.terminalClaim = some value := by
        rw [terminalClaim, howned]
        exact hvalue
      exact ⟨value, hfield.trans hterminalClaim, .inr hterminalClaim⟩
  evidence := hevidence

/-- Behind a readback that shows the issue as captured, a call writes to it. -/
def Guarded (publication : Publication) (log : List Event) : Prop :=
  Everywhere (fun earlier event => event.isMutation = true →
    ∃ issue, .readback (.ok (some issue)) ∈ earlier ∧ publication.Shown issue) log

/-- Readbacks show the evidence once it is posted. -/
def Shows (publication : Publication) (log : List Event) : Prop :=
  Everywhere (fun earlier event => ∀ issue, event = .readback (.ok (some issue)) →
    (∃ body, .commented body true ∈ earlier) → evidencePresent publication.marker issue = true) log

theorem Kept.guarded {start stored : Option PublicationState}
    (h : publication.Kept start log stored)
    (hterminal : reviewJobIsTerminal publication.job.toReviewJob = true) :
    publication.Guarded log := by
  intro earlier event later heq hmutation
  have hallows := h.allowed earlier event later heq
  cases event with
  | fieldSet | contentUpdated | stateSet =>
      obtain ⟨issue, hmem, hfresh, hevidence⟩ := hallows
      exact ⟨issue, hmem, hfresh.shown hevidence hterminal⟩
  | readback | commented | saved => cases hmutation

theorem kept_call {σ : Type} (publication : Publication) (adapter : Adapter σ) (render : String)
    (tracker : σ) (receipt : Option ReviewPublication) (budget : Nat) :
    let world := (publication.applyReviewResult adapter render
      { tracker, receipt, log := [], budget }).2
    publication.Kept (receipt.map (·.state)) world.log (world.receipt.map (·.state)) := by
  have htriple : Triple (Holds (Idle (receipt.map (·.state))) : World σ → Prop)
      (publication.applyReviewResult adapter render) _ _ := triple_applyReviewResult adapter render
  have hidle : Holds (Idle (receipt.map (·.state))) ({ tracker, receipt, log := [], budget } : World σ) :=
    ⟨rfl, rfl⟩
  have hcall := htriple.run hidle
  dsimp only
  cases hrun : publication.applyReviewResult adapter render
      { tracker, receipt, log := [], budget } with
  | mk result world =>
      rw [hrun] at hcall
      cases result with
      | ok => exact hcall
      | error => exact hcall

theorem apply_of_not_terminal {σ : Type} {adapter : Adapter σ} {render : String} (world : World σ)
    (h : reviewJobIsTerminal publication.job.toReviewJob = false) :
    (publication.applyReviewResult adapter render world).2 = world := by
  unfold applyReviewResult openReceipt
  rw [h, Bool.false_and]
  rfl

theorem guarded_call {σ : Type} (publication : Publication) (adapter : Adapter σ) (render : String)
    (tracker : σ) (receipt : Option ReviewPublication) (budget : Nat) :
    publication.Guarded (publication.applyReviewResult adapter render
      { tracker, receipt, log := [], budget }).2.log := by
  cases hterminal : reviewJobIsTerminal publication.job.toReviewJob with
  | true => exact (kept_call publication adapter render tracker receipt budget).guarded hterminal
  | false =>
      rw [apply_of_not_terminal _ hterminal]
      exact everywhere_nil

/-! ## Posts -/

def Event.isPosted : Event → Bool
  | .commented _ applied => applied
  | _ => false

def posts (log : List Event) : Nat := log.countP Event.isPosted

theorem posts_le_one : ∀ {log : List Event}, Everywhere publication.Allows log → posts log ≤ 1 := by
  intro log
  induction log using List.reverseRecOn with
  | nil => exact fun _ => Nat.zero_le 1
  | append_singleton log event ih =>
      intro h
      obtain ⟨hlog, hevent⟩ := everywhere_concat.mp h
      rw [posts, List.countP_append, List.countP_singleton]
      split
      · rename_i hposted
        have hnone : log.countP Event.isPosted = 0 := by
          cases event with
          | commented body applied =>
              refine List.countP_eq_zero.mpr fun other hother hposted => ?_
              cases other with
              | commented body applied => exact hevent.2 body applied hother
              | readback | fieldSet | contentUpdated | stateSet | saved => cases hposted
          | readback | fieldSet | contentUpdated | stateSet | saved => cases hposted
        omega
      · exact ih hlog

theorem posts_eq_zero {log more : List Event} (hposted : 0 < posts log)
    (hmore : Everywhere publication.Allows more) (hshows : publication.Shows (log ++ more)) :
    posts more = 0 := by
  obtain ⟨post, hpost, hpostApplied⟩ := List.countP_pos_iff.mp hposted
  have hbody : ∃ body, .commented body true ∈ log := by
    cases post with
    | commented body applied =>
        obtain rfl : applied = true := hpostApplied
        exact ⟨body, hpost⟩
    | readback | fieldSet | contentUpdated | stateSet | saved => cases hpostApplied
  refine List.countP_eq_zero.mpr fun event hevent happlied => ?_
  obtain ⟨earlier, later, rfl⟩ := List.append_of_mem hevent
  cases event with
  | commented body applied =>
      obtain ⟨⟨issue, hread, habsent⟩, -⟩ := hmore earlier _ later rfl
      obtain ⟨front, back, rfl⟩ := List.append_of_mem hread
      -- the readback the post relies on comes behind the earlier post
      have hshown := hshows (log ++ front) _ (back ++ .commented body applied :: later)
        (by simp) issue rfl (hbody.imp fun _ hmem => List.mem_append_left _ hmem)
      exact absurd habsent (by simp [hshown])
  | readback | fieldSet | contentUpdated | stateSet | saved => cases happlied

theorem Shows.of_append {log more : List Event} (h : publication.Shows (log ++ more)) :
    publication.Shows log :=
  fun earlier event later heq => h earlier event (later ++ more) (by simp [heq])

/-- Safety of publishing one review in any number of calls. -/
structure PublicationSafe {σ : Type} (publication : Publication)
    (receipt : Option ReviewPublication) (system : System σ) : Prop where
  forward : (statesOf (receipt.map (·.state)) system.history.flatten).Pairwise
    PublicationState.Forward
  stored : (statesOf (receipt.map (·.state)) system.history.flatten).getLast?
    = system.receipt.map (·.state)
  guarded : ∀ log ∈ system.history, publication.Guarded log
  postedOnce : publication.Shows system.history.flatten → posts system.history.flatten ≤ 1

theorem PublicationSafe.call {σ : Type} {receipt : Option ReviewPublication} {system : System σ}
    (h : PublicationSafe publication receipt system) (adapter : Adapter σ) (call : Call) :
    PublicationSafe publication receipt (system.call publication adapter call) := by
  have hkept := kept_call publication adapter call.render system.tracker system.receipt call.budget
  have hmoves : Moves (receipt.map (·.state)) system.history.flatten
    (system.receipt.map (·.state)) := ⟨h.forward, h.stored⟩
  have hafter := hmoves.append hkept.moves
  have hhistory : (system.call publication adapter call).history.flatten
      = system.history.flatten ++ (publication.applyReviewResult adapter call.render
          { tracker := system.tracker, receipt := system.receipt, log := [],
            budget := call.budget }).2.log := by
    simp [System.call]
  constructor
  case forward => rw [hhistory]; exact hafter.pairwise
  case stored => rw [hhistory]; exact hafter.last
  case guarded =>
    intro log hlog
    rcases List.mem_append.mp hlog with hold | hnew
    · exact h.guarded log hold
    · rw [List.mem_singleton.mp hnew]
      exact guarded_call publication adapter call.render system.tracker system.receipt call.budget
  case postedOnce =>
    rw [hhistory]
    intro hshows
    have hold := h.postedOnce hshows.of_append
    have hnew := posts_le_one hkept.allowed
    rw [posts, List.countP_append]
    by_cases hposted : 0 < posts system.history.flatten
    · have hnone := posts_eq_zero hposted hkept.allowed hshows
      unfold posts at *
      omega
    · unfold posts at *
      omega

theorem publication_safe {σ : Type} (publication : Publication) (adapter : Adapter σ) (tracker : σ)
    (receipt : Option ReviewPublication) (calls : List Call) :
    PublicationSafe publication receipt
      (Runs.run (System.call publication adapter) { tracker, receipt, history := [] } calls) := by
  refine Runs.invariant_run (P := PublicationSafe publication receipt)
    (fun system call h => h.call adapter call) calls ?_
  have hstart := Moves.start (receipt.map (·.state))
  exact ⟨hstart.pairwise, hstart.last, fun _ hlog => absurd hlog List.not_mem_nil,
    fun _ => Nat.zero_le 1⟩

end Publication

end SheaSymphony.Review

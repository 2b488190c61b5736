import SheaSymphony.RecoveredWrite
import SheaSymphony.Runs
import SheaSymphony.RunId

/-!
# Two workers and one claim

The claim section of `run_loop_dispatch_write_candidate`: a main-lane worker reads
the issue once more, decides whether it may claim it, writes its claim over
whatever the claim field holds, writes the state and the ownership workpad and
starts the backend. Each of these is one atomic step on the tracker; workers take
them in any order among each other.

The decision is made on a snapshot and the write looks at nothing, so a worker
that reads between another's decision and its claim decides alike. Exclusion
holds in the runs where no worker reads there (`claims_exclusive`).
-/

namespace SheaSymphony.Lanes

open Config (RuntimeConfig)
open Model (TrackerIssue)
open Review (ReviewedIssue issueProjectFieldMatches issueStateMatches)

/-! ## Workers -/

/-- The identity of a worker: a trimmed text that is not empty. -/
structure WorkerId where
  id : String
  trimmed : Text.trim id = id
  named : id ≠ ""
deriving DecidableEq

/-! ## The claim a worker makes -/

def LaneClaim.active (issue : String) (lane : LaneClaimLane) (actor : LaneClaimActor)
    (source : LaneClaimSource) (nowMs : UInt64) : LaneClaim :=
  let run := generateRunId nowMs issue lane
  { lane, actor, source, issue, run
    worker := none
    state := .active
    thread := "unknown"
    registry := "run/" ++ run }

def LaneClaim.withWorker (claim : LaneClaim) (worker : String) : LaneClaim :=
  { claim with
    worker := if Text.trim worker = "" then none else some (Text.trim worker) }

def laneClaimForIssue (issue : TrackerIssue) (lane : LaneClaimLane) (actor : LaneClaimActor)
    (source : LaneClaimSource) (nowMs : UInt64) (existing : Option String) : LaneClaim :=
  ((existing.bind fun value => (LaneClaim.parse value).toOption).filter fun claim =>
      claim.lane == lane && claim.issue == issue.identifier && claim.state == .active).getD
    (LaneClaim.active issue.identifier lane actor source nowMs)

inductive ClaimDecision where
  | claimable
  | alreadyInProgress
  | stopAndReplan (currentState : String)
deriving DecidableEq

def claimDecision (case : Text.UnicodeCase) (issue : TrackerIssue) (config : RuntimeConfig) :
    ClaimDecision :=
  match Tracker.resolveConfiguredTrackerState case config.tracker.stateMap issue.state with
  | .ok state =>
      if state.canonicalKey = "in_progress" then .alreadyInProgress
      else if state.canonicalKey = "todo" ∨ state.canonicalKey = "rework" then .claimable
      else .stopAndReplan issue.state
  | .error _ => .stopAndReplan issue.state

/-! ## The steps of a dispatch -/

/-- What a worker goes on with after its decision: the issue as it read it and the
claim it will write. -/
structure DispatchDecision where
  latest : ReviewedIssue
  claim : LaneClaim
  resume : Bool

inductive DispatchPhase where
  | waiting
  | decided (decision : DispatchDecision)
  | claimed (decision : DispatchDecision)
  | staged (decision : DispatchDecision)
  | owning
  | started
  | stopped

/-- How a write ends: applied (or found applied when it was read back), written
although the worker gives up, or not written. -/
inductive WriteAnswer where
  | applied
  | uncertain
  | lost
deriving DecidableEq

/-- `refused` stands for the checks beside eligibility that may stop a worker after
it read the issue: the quality gate, the assignee and the ownership marker. -/
inductive DispatchStep where
  | read (worker : WorkerId) (nowMs : UInt64) (refused : Bool)
  | writeClaim (worker : WorkerId) (answer : WriteAnswer)
  | writeState (worker : WorkerId) (answer : WriteAnswer)
  | writeWorkpad (worker : WorkerId) (description : Option String) (answer : WriteAnswer)
  | startBackend (worker : WorkerId)
  | stop (worker : WorkerId)

/-- The issue as the tracker has it, and where every worker is. -/
structure ClaimBoard where
  issue : ReviewedIssue
  phase : WorkerId → DispatchPhase

namespace ClaimBoard

def enter (board : ClaimBoard) (worker : WorkerId) (phase : DispatchPhase) : ClaimBoard :=
  { board with phase := Function.update board.phase worker phase }

/-- A write of `worker`, which then goes on to `next` or gives up. -/
def write (board : ClaimBoard) (worker : WorkerId) (answer : WriteAnswer) (issue : ReviewedIssue)
    (next : DispatchPhase) : ClaimBoard :=
  match answer with
  | .applied => { board with issue }.enter worker next
  | .uncertain => { board with issue }.enter worker .stopped
  | .lost => board.enter worker .stopped

end ClaimBoard

def withProjectField (issue : ReviewedIssue) (name value : String) : ReviewedIssue :=
  { issue with projectFields := Function.update issue.projectFields name (some (.str value)) }

section
variable (case : Text.UnicodeCase) (config : RuntimeConfig)

/-- The post-readiness read: eligibility, the other checks, the claim action. -/
def decideDispatch (issue : ReviewedIssue) (worker : WorkerId) (nowMs : UInt64) (refused : Bool) :
    DispatchPhase :=
  if !(poolClaimEligibility case issue.toTrackerIssue .main worker.id config).isClaimable
      || refused then .stopped
  else
    let claim := (laneClaimForIssue issue.toTrackerIssue .main .codex .loop nowMs
      (projectTextField issue.toTrackerIssue WorkerLane.main.claimField)).withWorker worker.id
    match claimDecision case issue.toTrackerIssue config with
    | .claimable => .decided { latest := issue, claim, resume := false }
    | .alreadyInProgress => .decided { latest := issue, claim, resume := true }
    | .stopAndReplan _ => .stopped

/-- `write_lane_claim_field`: a claim that would not be read back is refused, and
one the snapshot already shows is not written again. -/
def writeClaimField (board : ClaimBoard) (worker : WorkerId) (decision : DispatchDecision)
    (answer : WriteAnswer) : ClaimBoard :=
  let value := decision.claim.render
  if LaneClaim.parse value ≠ .ok decision.claim then board.enter worker .stopped
  else if issueProjectFieldMatches WorkerLane.main.claimField value decision.latest then
    board.enter worker (.claimed decision)
  else
    board.write worker answer (withProjectField board.issue WorkerLane.main.claimField value)
      (.claimed decision)

/-- A resumed issue keeps its state, and so does one the snapshot shows in progress. -/
def writeInProgress (board : ClaimBoard) (worker : WorkerId) (decision : DispatchDecision)
    (answer : WriteAnswer) : ClaimBoard :=
  if decision.resume || issueStateMatches case "in_progress" decision.latest then
    board.enter worker (.staged decision)
  else
    board.write worker answer
      { board.issue with state := config.tracker.stateMap.inProgress } (.staged decision)

def dispatchStep (board : ClaimBoard) : DispatchStep → ClaimBoard
  | .read worker nowMs refused =>
      match board.phase worker with
      | .waiting => board.enter worker (decideDispatch case config board.issue worker nowMs refused)
      | _ => board
  | .writeClaim worker answer =>
      match board.phase worker with
      | .decided decision => writeClaimField board worker decision answer
      | _ => board
  | .writeState worker answer =>
      match board.phase worker with
      | .claimed decision => writeInProgress case config board worker decision answer
      | _ => board
  | .writeWorkpad worker description answer =>
      match board.phase worker with
      | .staged _ => board.write worker answer { board.issue with description } .owning
      | _ => board
  | .startBackend worker =>
      match board.phase worker with
      | .owning => board.enter worker .started
      | _ => board
  | .stop worker =>
      match board.phase worker with
      | .started => board
      | _ => board.enter worker .stopped

end

/-! ## The text of a claim -/

theorem getLast?_renderClaimValue {value : String} (hne : value ≠ "") {c : Char}
    (h : (renderClaimValue value).toList.getLast? = some c) : Text.isWhitespace c = false := by
  have hnil : value.toList ≠ [] := by simpa using hne
  unfold renderClaimValue at h
  split at h
  · rw [String.toList_ofList, List.getLast?_concat] at h
    obtain rfl := Option.some.inj h
    decide
  · next hbare =>
    have hany : value.toList.any needsQuotes = false := by
      simp only [Bool.or_eq_true, not_or, Bool.not_eq_true] at hbare
      exact hbare.2
    have hquotes := List.any_eq_false.mp hany c (List.mem_of_getLast? h)
    simp only [needsQuotes, Bool.or_eq_true, not_or, Bool.not_eq_true] at hquotes
    exact hquotes.1.1

variable {issue : ReviewedIssue} {claim : LaneClaim}

theorem isTrimmed_render (h : claim.NoEmptyText) :
    Text.IsTrimmed claim.render := by
  have htokens := toList_render claim
  have hregistry : ∃ front, renderedTokens claim.tokens
      = front ++ (renderClaimValue claim.registry).toList := by
    rw [renderedTokens, LaneClaim.tokens]
    refine ⟨(([("v", "1"), ("lane", claim.lane.asStr), ("actor", claim.actor.asStr)]
      ++ (claim.worker.map fun worker => ("worker", worker)).toList
      ++ [("source", claim.source.asStr), ("issue", claim.issue), ("run", claim.run),
        ("state", claim.state.asStr), ("thread", claim.thread)]).flatMap
          fun token => ' ' :: (claimToken token.1 token.2).toList) ++ " registry=".toList, ?_⟩
    have hkey : " registry=".toList = ' ' :: ("registry".toList ++ ['=']) := by decide
    simp [claimToken, hkey, String.toList_append, List.flatMap_append]
  have hvalue : (renderClaimValue claim.registry).toList ≠ [] := by
    have hnil : claim.registry.toList ≠ [] := by simpa using h.2.2.2.2
    unfold renderClaimValue
    split
    · simp
    · exact hnil
  constructor
  · intro c hc
    obtain ⟨rest, hrest⟩ : ∃ rest, claim.render.toList = 'v' :: rest := by
      rw [renderedTokens, LaneClaim.tokens] at htokens
      exact ⟨_, List.tail_eq_of_cons_eq htokens⟩
    rw [hrest] at hc
    obtain rfl := Option.some.inj hc
    decide
  · intro c hc
    obtain ⟨front, hfront⟩ := hregistry
    have hlast : (' ' :: claim.render.toList).getLast? = some c := by
      rw [List.getLast?_cons, hc]
      rfl
    rw [htokens, hfront, List.getLast?_append_of_ne_nil _ hvalue] at hlast
    exact getLast?_renderClaimValue h.2.2.2.2 hlast

/-! ## A claim keeps the others out -/

/-- The claim field shows an active main-lane claim of the worker. -/
def HeldBy (issue : ReviewedIssue) (worker : WorkerId) : Prop :=
  ∃ value claim, projectTextField issue.toTrackerIssue WorkerLane.main.claimField = some value ∧
    LaneClaim.parse value = .ok claim ∧ claim.lane = .main ∧ claim.state = .active ∧
      claim.worker = some worker.id

theorem not_claimable_of_heldBy (case : Text.UnicodeCase) (config : RuntimeConfig)
    {holder worker : WorkerId} (hheld : HeldBy issue holder) (hne : worker ≠ holder)
    (htext : projectTextField issue.toTrackerIssue WorkerLane.main.claimField ≠ some worker.id) :
    (poolClaimEligibility case issue.toTrackerIssue .main worker.id config).isClaimable = false := by
  obtain ⟨value, claim, hvalue, hparse, hlane, hstate, hworker⟩ := hheld
  have hid : holder.id ≠ worker.id := by
    intro hsame
    obtain ⟨id, _, _⟩ := holder
    obtain ⟨id', _, _⟩ := worker
    obtain rfl : id = id' := hsame
    exact hne rfl
  have howner : value ≠ worker.id := fun h => htext (h ▸ hvalue)
  unfold poolClaimEligibility
  cases eligibleState case issue.toTrackerIssue .main config with
  | false => rfl
  | true =>
      cases nativeSubissuesReason case issue.toTrackerIssue .main config with
      | some reason => rfl
      | none =>
          have hclaimLane : claim.lane = WorkerLane.main.claimLane := hlane
          have hnotTerminal : claim.state.isTerminalAuditPointer = false := by rw [hstate]; rfl
          have hnotSelf : claim.worker ≠ some worker.id := by
            rw [hworker]
            exact fun h => hid (Option.some.inj h)
          have hclaimed : claimOwnership issue.toTrackerIssue .main worker.id value
              = .claimedByOther claim.run := by
            simp only [claimOwnership, if_neg howner, hparse, hclaimLane, hnotTerminal, hnotSelf,
              Bool.false_eq_true, and_false, if_false, if_true]
          dsimp only
          rw [hvalue]
          dsimp only
          rw [hclaimed]
          rfl

/-! ## Exclusion -/

namespace DispatchPhase

/-- Between the decision and the claim. -/
def deciding : DispatchPhase → Bool
  | .decided _ => true
  | _ => false

/-- Behind the claim, and not given up. -/
def hasClaimed : DispatchPhase → Bool
  | .claimed _ | .staged _ | .owning | .started => true
  | .waiting | .decided _ | .stopped => false

def engaged (phase : DispatchPhase) : Bool := phase.deciding || phase.hasClaimed

end DispatchPhase

/-- A worker that reads does so while no other worker is between its decision and
its claim, and its identity is not the text of a claim another worker holds. -/
def Guarded (board : ClaimBoard) : DispatchStep → Prop
  | .read worker _ _ => ∀ other, other ≠ worker → (board.phase other).deciding = false ∧
      ((board.phase other).hasClaimed = true →
        projectTextField board.issue.toTrackerIssue WorkerLane.main.claimField ≠ some worker.id)
  | _ => True

/-- The claim a worker decided to write. -/
structure OwnClaim (worker : WorkerId) (claim : LaneClaim) : Prop where
  lane : claim.lane = .main
  state : claim.state = .active
  worker : claim.worker = some worker.id

/-- At most one worker is at the issue; its decision is about the issue as it
stands, and what it claimed is in the claim field. -/
structure Exclusive (board : ClaimBoard) : Prop where
  single : ∀ a b, (board.phase a).engaged = true → (board.phase b).engaged = true → a = b
  current : ∀ worker decision, board.phase worker = .decided decision →
    decision.latest = board.issue ∧ OwnClaim worker decision.claim
  held : ∀ worker, (board.phase worker).hasClaimed = true → HeldBy board.issue worker

theorem engaged_of_hasClaimed {phase : DispatchPhase} (h : phase.hasClaimed = true) :
    phase.engaged = true := Bool.or_eq_true_iff.mpr (Or.inr h)

theorem enter_same (board : ClaimBoard) (worker : WorkerId) (phase : DispatchPhase) :
    (board.enter worker phase).phase worker = phase := Function.update_self ..

theorem enter_other (board : ClaimBoard) {worker other : WorkerId} (phase : DispatchPhase)
    (h : other ≠ worker) : (board.enter worker phase).phase other = board.phase other :=
  Function.update_of_ne h ..

/-- A worker alone at the issue may go on, and may rewrite the issue, as long as
its claim stays in the field. -/
theorem exclusive_enter {board : ClaimBoard} {worker : WorkerId} {phase : DispatchPhase}
    (hothers : ∀ other, other ≠ worker → (board.phase other).engaged = false)
    (hcurrent : ∀ decision, phase = .decided decision →
      decision.latest = board.issue ∧ OwnClaim worker decision.claim)
    (hheld : phase.hasClaimed = true → HeldBy board.issue worker) :
    Exclusive (board.enter worker phase) := by
  have halone : ∀ other, ((board.enter worker phase).phase other).engaged = true →
      other = worker := by
    intro other hengaged
    by_contra hne
    rw [enter_other board phase hne, hothers other hne] at hengaged
    exact Bool.false_ne_true hengaged
  refine ⟨fun a b ha hb => (halone a ha).trans (halone b hb).symm, ?_, ?_⟩
  · intro other decision hdecided
    have hengaged : ((board.enter worker phase).phase other).engaged = true := by
      rw [hdecided]
      rfl
    obtain rfl := halone other hengaged
    rw [enter_same] at hdecided
    exact hcurrent decision hdecided
  · intro other hclaimed
    obtain rfl := halone other (engaged_of_hasClaimed hclaimed)
    rw [enter_same] at hclaimed
    exact hheld hclaimed

theorem exclusive_enter_held {board : ClaimBoard} {worker : WorkerId} {phase : DispatchPhase}
    (hothers : ∀ other, other ≠ worker → (board.phase other).engaged = false)
    (hphase : phase.deciding = false) (hheld : HeldBy board.issue worker) :
    Exclusive (board.enter worker phase) := by
  refine exclusive_enter hothers ?_ fun _ => hheld
  rintro decision rfl
  cases hphase

namespace Exclusive

variable {board : ClaimBoard} {worker : WorkerId}

theorem others (h : Exclusive board) (hengaged : (board.phase worker).engaged = true) :
    ∀ other, other ≠ worker → (board.phase other).engaged = false := by
  intro other hne
  rw [Bool.eq_false_iff]
  exact fun hother => hne (h.single other worker hother hengaged)

theorem leave (h : Exclusive board) {phase : DispatchPhase} (hphase : phase.engaged = false) :
    Exclusive (board.enter worker phase) := by
  have hsame : ∀ other, ((board.enter worker phase).phase other).engaged = true →
      (board.enter worker phase).phase other = board.phase other := by
    intro other hengaged
    by_cases hother : other = worker
    · subst hother
      rw [enter_same, hphase] at hengaged
      cases hengaged
    · exact enter_other board phase hother
  refine ⟨fun a b ha hb => ?_, fun other decision hdecided => ?_, fun other hclaimed => ?_⟩
  · exact h.single a b (hsame a ha ▸ ha) (hsame b hb ▸ hb)
  · have hengaged : ((board.enter worker phase).phase other).engaged = true := by
      rw [hdecided]
      rfl
    exact h.current other decision (hsame other hengaged ▸ hdecided)
  · have hengaged := engaged_of_hasClaimed hclaimed
    exact h.held other (hsame other hengaged ▸ hclaimed)

theorem write (h : Exclusive board) (hengaged : (board.phase worker).engaged = true)
    {answer : WriteAnswer} {next : DispatchPhase} (hnext : next.deciding = false)
    (hheld : HeldBy issue worker) :
    Exclusive (board.write worker answer issue next) := by
  have hothers := h.others hengaged
  cases answer with
  | applied =>
      exact @exclusive_enter_held { board with issue } worker next hothers hnext hheld
  | uncertain =>
      exact @exclusive_enter_held { board with issue } worker .stopped hothers rfl hheld
  | lost => exact h.leave rfl

end Exclusive

/-! ### One step -/

theorem ownClaim_withWorker (hlane : claim.lane = .main) (hstate : claim.state = .active)
    (worker : WorkerId) :
    OwnClaim worker (claim.withWorker worker.id) := by
  have hworker : claim.withWorker worker.id = { claim with worker := some worker.id } := by
    rw [LaneClaim.withWorker, if_neg (by rw [worker.trimmed]; exact worker.named), worker.trimmed]
  rw [hworker]
  exact ⟨hlane, hstate, rfl⟩

theorem laneClaimForIssue_lane_state (issue : TrackerIssue) (nowMs : UInt64)
    (existing : Option String) :
    (laneClaimForIssue issue .main .codex .loop nowMs existing).lane = .main
      ∧ (laneClaimForIssue issue .main .codex .loop nowMs existing).state = .active := by
  unfold laneClaimForIssue
  cases hkept : (existing.bind fun value => (LaneClaim.parse value).toOption).filter fun claim =>
      claim.lane == .main && claim.issue == issue.identifier && claim.state == .active with
  | none => exact ⟨rfl, rfl⟩
  | some claim =>
      have hfilter := (Option.filter_eq_some_iff.mp hkept).2
      simp only [Bool.and_eq_true, beq_iff_eq] at hfilter
      exact ⟨hfilter.1.1, hfilter.2⟩

theorem decideDispatch_eq_decided {case : Text.UnicodeCase} {config : RuntimeConfig}
    {worker : WorkerId} {nowMs : UInt64} {refused : Bool}
    (h : (decideDispatch case config issue worker nowMs refused).engaged = true) :
    (poolClaimEligibility case issue.toTrackerIssue .main worker.id config).isClaimable = true ∧
      ∃ decision, decideDispatch case config issue worker nowMs refused = .decided decision ∧
        decision.latest = issue ∧ OwnClaim worker decision.claim := by
  obtain ⟨hlane, hstate⟩ := laneClaimForIssue_lane_state issue.toTrackerIssue nowMs
    (projectTextField issue.toTrackerIssue WorkerLane.main.claimField)
  have hown := ownClaim_withWorker hlane hstate worker
  unfold decideDispatch at h ⊢
  generalize laneClaimForIssue issue.toTrackerIssue .main .codex .loop nowMs
    (projectTextField issue.toTrackerIssue WorkerLane.main.claimField) = claim at h hown ⊢
  cases hclaimable : (poolClaimEligibility case issue.toTrackerIssue .main worker.id
      config).isClaimable with
  | false =>
      rw [hclaimable] at h
      cases h
  | true =>
      rw [hclaimable] at h
      cases refused with
      | true => cases h
      | false =>
          refine ⟨rfl, ?_⟩
          rw [Bool.not_true, Bool.false_or, if_neg Bool.false_ne_true] at h ⊢
          cases hdecision : claimDecision case issue.toTrackerIssue config with
          | claimable => exact ⟨_, rfl, rfl, hown⟩
          | alreadyInProgress => exact ⟨_, rfl, rfl, hown⟩
          | stopAndReplan state =>
              rw [hdecision] at h
              cases h

theorem projectFields_withProjectField (issue : ReviewedIssue) (name value : String) :
    (withProjectField issue name value).projectFields name = some (.str value) := by
  simp [withProjectField]

theorem heldBy_withProjectField {worker : WorkerId} (hown : OwnClaim worker claim)
    (hparse : LaneClaim.parse claim.render = .ok claim) (issue : ReviewedIssue) :
    HeldBy (withProjectField issue WorkerLane.main.claimField claim.render) worker := by
  have hne : claim.render ≠ "" := by
    intro hempty
    rw [hempty] at hparse
    cases hparse
  refine ⟨claim.render, claim, ?_, hparse, hown.lane, hown.state, hown.worker⟩
  exact projectTextField_of_isTrimmed (projectFields_withProjectField issue _ claim.render)
    (isTrimmed_render (noEmptyText_of_parse hparse)) hne

theorem exclusive_read {case : Text.UnicodeCase} {config : RuntimeConfig} {board : ClaimBoard}
    (h : Exclusive board) {worker : WorkerId} {nowMs : UInt64} {refused : Bool}
    (hguarded : Guarded board (.read worker nowMs refused)) :
    Exclusive (board.enter worker (decideDispatch case config board.issue worker nowMs refused)) := by
  cases hengaged : (decideDispatch case config board.issue worker nowMs refused).engaged with
  | false => exact h.leave hengaged
  | true =>
      obtain ⟨hclaimable, decision, hdecided, hlatest, hown⟩ := decideDispatch_eq_decided hengaged
      rw [hdecided]
      refine exclusive_enter (fun other hne => ?_) ?_ nofun
      · obtain ⟨hnotDeciding, htext⟩ := hguarded other hne
        rw [DispatchPhase.engaged, hnotDeciding, Bool.false_or, Bool.eq_false_iff]
        intro hclaimed
        have hrefused := not_claimable_of_heldBy case config (h.held other hclaimed) hne.symm
          (htext hclaimed)
        rw [hclaimable] at hrefused
        cases hrefused
      · intro other hother
        obtain rfl := DispatchPhase.decided.inj hother
        exact ⟨hlatest, hown⟩

theorem exclusive_writeClaimField {board : ClaimBoard} (h : Exclusive board) {worker : WorkerId}
    {decision : DispatchDecision} (hphase : board.phase worker = .decided decision)
    (answer : WriteAnswer) : Exclusive (writeClaimField board worker decision answer) := by
  have hengaged : (board.phase worker).engaged = true := by rw [hphase]; rfl
  obtain ⟨hlatest, hown⟩ := h.current worker decision hphase
  unfold writeClaimField
  dsimp only
  split
  · exact h.leave rfl
  · next hparse =>
    rw [not_not] at hparse
    split
    · next hshown =>
      refine exclusive_enter_held (h.others hengaged) rfl ?_
      rw [hlatest] at hshown
      exact ⟨decision.claim.render, decision.claim, beq_iff_eq.mp hshown, hparse, hown.lane,
        hown.state, hown.worker⟩
    · exact h.write hengaged rfl (heldBy_withProjectField hown hparse board.issue)

theorem HeldBy.of_projectFields {issue issue' : ReviewedIssue} {worker : WorkerId}
    (h : HeldBy issue worker) (hfields : issue'.projectFields = issue.projectFields) :
    HeldBy issue' worker := by
  obtain ⟨value, claim, hvalue, hrest⟩ := h
  refine ⟨value, claim, ?_, hrest⟩
  rw [← hvalue, projectTextField, projectTextField, hfields]

theorem exclusive_step (case : Text.UnicodeCase) (config : RuntimeConfig) {board : ClaimBoard}
    (h : Exclusive board) {step : DispatchStep} (hguarded : Guarded board step) :
    Exclusive (dispatchStep case config board step) := by
  cases step with
  | read worker nowMs refused =>
      show Exclusive (match board.phase worker with | .waiting => _ | _ => board)
      cases board.phase worker with
      | waiting => exact exclusive_read h hguarded
      | _ => exact h
  | writeClaim worker answer =>
      show Exclusive (match board.phase worker with | .decided decision => _ | _ => board)
      cases hphase : board.phase worker with
      | decided decision => exact exclusive_writeClaimField h hphase answer
      | _ => exact h
  | writeState worker answer =>
      show Exclusive (match board.phase worker with | .claimed decision => _ | _ => board)
      cases hphase : board.phase worker with
      | claimed decision =>
          have hclaimed : (board.phase worker).hasClaimed = true := by rw [hphase]; rfl
          have hengaged := engaged_of_hasClaimed hclaimed
          show Exclusive (writeInProgress case config board worker decision answer)
          unfold writeInProgress
          split
          · exact exclusive_enter_held (h.others hengaged) rfl (h.held worker hclaimed)
          · exact h.write hengaged rfl ((h.held worker hclaimed).of_projectFields rfl)
      | _ => exact h
  | writeWorkpad worker description answer =>
      show Exclusive (match board.phase worker with | .staged _ => _ | _ => board)
      cases hphase : board.phase worker with
      | staged decision =>
          have hclaimed : (board.phase worker).hasClaimed = true := by rw [hphase]; rfl
          exact h.write (engaged_of_hasClaimed hclaimed) rfl
            ((h.held worker hclaimed).of_projectFields rfl)
      | _ => exact h
  | startBackend worker =>
      show Exclusive (match board.phase worker with | .owning => _ | _ => board)
      cases hphase : board.phase worker with
      | owning =>
          have hclaimed : (board.phase worker).hasClaimed = true := by rw [hphase]; rfl
          exact exclusive_enter_held (h.others (engaged_of_hasClaimed hclaimed)) rfl
            (h.held worker hclaimed)
      | _ => exact h
  | stop worker =>
      show Exclusive (match board.phase worker with | .started => board | _ => _)
      cases board.phase worker with
      | started => exact h
      | _ => exact h.leave rfl

/-! ### Runs -/

/-- An issue on which no worker has begun. -/
def ClaimBoard.opened (issue : ReviewedIssue) : ClaimBoard where
  issue := issue
  phase _ := .waiting

theorem exclusive_opened (issue : ReviewedIssue) : Exclusive (.opened issue) where
  single _ _ h := nomatch h
  current _ _ h := nomatch h
  held _ h := nomatch h

/-- No two workers have started their backends. -/
def ClaimBoard.Excludes (board : ClaimBoard) : Prop :=
  ∀ a b, board.phase a = .started → board.phase b = .started → a = b

/-- In every run whose steps are all guarded, at most one worker starts. -/
theorem claims_exclusive (case : Text.UnicodeCase) (config : RuntimeConfig) (issue : ReviewedIssue)
    (steps : List DispatchStep)
    (hguarded : Runs.Allowed (dispatchStep case config) Guarded (.opened issue) steps) :
    (Runs.run (dispatchStep case config) (.opened issue) steps).Excludes := by
  have hexclusive : Exclusive (Runs.run (dispatchStep case config) (.opened issue) steps) :=
    Runs.Allowed.invariant (P := Exclusive)
      (fun _ _ h hstep => exclusive_step case config h hstep) steps (exclusive_opened issue) hguarded
  intro a b ha hb
  exact hexclusive.single a b (by rw [ha]; rfl) (by rw [hb]; rfl)

/-! ### The race

Behind its decision nothing stops a worker but a failing write. -/

/-- The steps of a worker behind its decision, all applied. -/
def claimSteps (worker : WorkerId) : List DispatchStep :=
  [.writeClaim worker .applied, .writeState worker .applied, .writeWorkpad worker none .applied,
    .startBackend worker]

/-- `worker` has come to `phase`, and the issue may have been written. -/
def Reaches (board : ClaimBoard) (worker : WorkerId) (phase : DispatchPhase) (after : ClaimBoard) :
    Prop :=
  ∃ issue, after = ({ board with issue } : ClaimBoard).enter worker phase

theorem Reaches.phase {board after : ClaimBoard} {worker : WorkerId} {phase : DispatchPhase}
    (h : Reaches board worker phase after) : after.phase worker = phase := by
  obtain ⟨issue, rfl⟩ := h
  exact enter_same _ worker phase

theorem Reaches.phase_other {board after : ClaimBoard} {worker other : WorkerId}
    {phase : DispatchPhase} (h : Reaches board worker phase after) (hne : other ≠ worker) :
    after.phase other = board.phase other := by
  obtain ⟨issue, rfl⟩ := h
  exact enter_other _ phase hne

theorem Reaches.trans {board middle after : ClaimBoard} {worker : WorkerId}
    {phase next : DispatchPhase} (h : Reaches board worker phase middle)
    (hnext : Reaches middle worker next after) : Reaches board worker next after := by
  obtain ⟨issue, rfl⟩ := h
  obtain ⟨issue', rfl⟩ := hnext
  refine ⟨issue', ?_⟩
  show ClaimBoard.mk issue' _ = ClaimBoard.mk issue' _
  rw [ClaimBoard.enter, Function.update_idem]

theorem dispatchStep_read {case : Text.UnicodeCase} {config : RuntimeConfig} {board : ClaimBoard}
    {worker : WorkerId} {nowMs : UInt64} {refused : Bool} (h : board.phase worker = .waiting) :
    dispatchStep case config board (.read worker nowMs refused)
      = board.enter worker (decideDispatch case config board.issue worker nowMs refused) := by
  rw [dispatchStep, h]

theorem claimSteps_reach_started (case : Text.UnicodeCase) (config : RuntimeConfig)
    {board : ClaimBoard} {worker : WorkerId} {decision : DispatchDecision}
    (hphase : board.phase worker = .decided decision) (htext : decision.claim.NoEmptyText) :
    Reaches board worker .started
      (Runs.run (dispatchStep case config) board (claimSteps worker)) := by
  have hclaim : Reaches board worker (.claimed decision)
      (dispatchStep case config board (.writeClaim worker .applied)) := by
    rw [dispatchStep, hphase]
    dsimp only
    unfold writeClaimField
    dsimp only
    rw [if_neg (not_not.mpr htext.parse_render)]
    split
    · exact ⟨board.issue, rfl⟩
    · exact ⟨_, rfl⟩
  have hstate : ∀ middle : ClaimBoard, middle.phase worker = .claimed decision →
      Reaches middle worker (.staged decision)
        (dispatchStep case config middle (.writeState worker .applied)) := by
    intro middle hmiddle
    rw [dispatchStep, hmiddle]
    dsimp only
    unfold writeInProgress
    split
    · exact ⟨middle.issue, rfl⟩
    · exact ⟨_, rfl⟩
  have hworkpad : ∀ middle : ClaimBoard, middle.phase worker = .staged decision →
      Reaches middle worker .owning
        (dispatchStep case config middle (.writeWorkpad worker none .applied)) := by
    intro middle hmiddle
    rw [dispatchStep, hmiddle]
    exact ⟨_, rfl⟩
  have hstart : ∀ middle : ClaimBoard, middle.phase worker = .owning →
      Reaches middle worker .started (dispatchStep case config middle (.startBackend worker)) := by
    intro middle hmiddle
    rw [dispatchStep, hmiddle]
    exact ⟨middle.issue, rfl⟩
  have hstaged := hclaim.trans (hstate _ hclaim.phase)
  have howning := hstaged.trans (hworkpad _ hstaged.phase)
  exact howning.trans (hstart _ howning.phase)

def todoIssue : ReviewedIssue where
  id := "#7"
  identifier := "#7"
  title := "Retry the upload"
  description := none
  state := "Todo"
  priority := none
  blockedBy := []
  projectFields := fun _ => none
  createdAt := none
  linkedPullRequests := []

def defaultRuntime : RuntimeConfig where
  tracker := Config.parseTracker none
  agent := Config.parseAgent .ascii none
  backendKind := "codex-app-server"
  pollingIntervalMs := 30000

def alpha : WorkerId := ⟨"alpha", by decide, by decide⟩

def beta : WorkerId := ⟨"beta", by decide, by decide⟩

theorem alpha_ne_beta : alpha ≠ beta := fun h =>
  absurd (congrArg WorkerId.id h) (by decide)

theorem alpha_decides : ∃ decision,
    decideDispatch .ascii defaultRuntime todoIssue alpha 1000 false = .decided decision
      ∧ decision.claim.NoEmptyText :=
  ⟨_, rfl, by decide⟩

theorem beta_decides : ∃ decision,
    decideDispatch .ascii defaultRuntime todoIssue beta 2000 false = .decided decision
      ∧ decision.claim.NoEmptyText :=
  ⟨_, rfl, by decide⟩

theorem guarded_opened (issue : ReviewedIssue) (worker : WorkerId) (nowMs : UInt64)
    (refused : Bool) : Guarded (.opened issue) (.read worker nowMs refused) := by
  intro other hne
  exact ⟨rfl, nofun⟩

theorem allowed_claimSteps (case : Text.UnicodeCase) (config : RuntimeConfig) (board : ClaimBoard)
    (worker : WorkerId) :
    Runs.Allowed (dispatchStep case config) Guarded board (claimSteps worker) :=
  ⟨trivial, trivial, trivial, trivial, trivial⟩

/-- A worker that comes alone starts. -/
theorem claims_exclusive_alone :
    (Runs.run (dispatchStep .ascii defaultRuntime) (.opened todoIssue)
        (.read alpha 1000 false :: claimSteps alpha)).phase alpha = .started ∧
      (Runs.run (dispatchStep .ascii defaultRuntime) (.opened todoIssue)
        (.read alpha 1000 false :: claimSteps alpha)).Excludes := by
  obtain ⟨decision, hdecision, htext⟩ := alpha_decides
  have hread : (dispatchStep .ascii defaultRuntime (.opened todoIssue)
      (.read alpha 1000 false)).phase alpha = .decided decision := by
    rw [dispatchStep_read rfl, enter_same]
    exact hdecision
  constructor
  · rw [Runs.run_cons]
    exact (claimSteps_reach_started .ascii defaultRuntime hread htext).phase
  · exact claims_exclusive .ascii defaultRuntime todoIssue (.read alpha 1000 false :: claimSteps alpha)
      ⟨guarded_opened todoIssue alpha 1000 false, allowed_claimSteps .ascii defaultRuntime _ alpha⟩

/-- Both workers read the issue before either writes its claim. -/
def racingSteps : List DispatchStep :=
  .read alpha 1000 false :: .read beta 2000 false :: (claimSteps alpha ++ claimSteps beta)

theorem racing_workers_both_start :
    projectTextField todoIssue.toTrackerIssue WorkerLane.main.claimField = none ∧
      ¬(Runs.run (dispatchStep .ascii defaultRuntime) (.opened todoIssue) racingSteps).Excludes := by
  obtain ⟨decision, hdecision, htext⟩ := alpha_decides
  obtain ⟨decision', hdecision', htext'⟩ := beta_decides
  let board := ((ClaimBoard.opened todoIssue).enter alpha (.decided decision)).enter beta
    (.decided decision')
  have hread : dispatchStep .ascii defaultRuntime (.opened todoIssue) (.read alpha 1000 false)
      = (ClaimBoard.opened todoIssue).enter alpha (.decided decision) := by
    rw [dispatchStep_read rfl]
    exact congrArg _ hdecision
  have hread' : dispatchStep .ascii defaultRuntime
      ((ClaimBoard.opened todoIssue).enter alpha (.decided decision)) (.read beta 2000 false)
      = board := by
    rw [dispatchStep_read (enter_other _ _ alpha_ne_beta.symm)]
    exact congrArg _ hdecision'
  have halpha : board.phase alpha = .decided decision := by
    rw [enter_other _ _ alpha_ne_beta, enter_same]
  have hstarts := claimSteps_reach_started .ascii defaultRuntime halpha htext
  have hbeta := (hstarts.phase_other alpha_ne_beta.symm).trans (enter_same _ beta _)
  have hstarts' := claimSteps_reach_started .ascii defaultRuntime hbeta htext'
  refine ⟨rfl, fun hexcludes => ?_⟩
  rw [racingSteps, Runs.run_cons, Runs.run_cons, hread, hread', Runs.run_append] at hexcludes
  have halphaStarted := (hstarts'.phase_other alpha_ne_beta).trans hstarts.phase
  exact alpha_ne_beta (hexcludes alpha beta halphaStarted hstarts'.phase)

end SheaSymphony.Lanes

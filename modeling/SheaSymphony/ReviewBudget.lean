import SheaSymphony.ReviewPublication

/-!
# The accesses of a call

A call of the publication has no loops: it accesses the tracker and the receipt
twenty-two times at most, so that a process that lives long enough is not cut off.
-/

namespace SheaSymphony.Review

open Interrupted Lanes Model Tracker

variable {σ α β : Type}

/-- A program that makes no more accesses than that. -/
def Spends (accesses : Nat) (program : Publish σ α) : Prop :=
  ∀ world, world.budget ≤ (program world).2.budget + accesses

namespace Spends

variable {m n : Nat} {program : Publish σ α} {rest : α → Publish σ β}

theorem none (h : ∀ world, (program world).2.budget = world.budget) : Spends 0 program := by
  intro world
  rw [h world]
  exact Nat.le_refl _

theorem pure (a : α) : Spends 0 (Pure.pure a : Publish σ α) := none fun _ => rfl

theorem stop (e : Failure) : Spends 0 (Program.stop e : Publish σ α) := none fun _ => rfl

theorem require (condition : Bool) (e : Failure) :
    Spends 0 (Program.require condition e : Publish σ Unit) := by
  cases condition with
  | true => exact pure ()
  | false => exact stop e

theorem spend : Spends 1 (Review.spend : Publish σ Unit) := by
  intro world
  unfold Review.spend
  split
  · omega
  · show world.budget ≤ world.budget - 1 + 1
    omega

theorem bind (hprogram : Spends m program) (hrest : ∀ a, Spends n (rest a)) :
    Spends (m + n) (program >>= rest) := by
  intro world
  have hfirst := hprogram world
  cases hrun : program world with
  | mk result next =>
      rw [hrun] at hfirst
      dsimp only at hfirst
      cases result with
      | error e =>
          rw [Program.bind_error hrun]
          dsimp only
          omega
      | ok a =>
          have hsecond := hrest a next
          rw [Program.bind_ok hrun]
          omega

theorem behind {condition : Bool} {e : Failure} {rest : Unit → Publish σ β}
    (hrest : Spends n (rest ())) : Spends n (Program.require condition e >>= rest) := by
  have hbind := bind (require condition e) fun _ => hrest
  rwa [Nat.zero_add] at hbind

theorem mono (h : Spends m program) (hle : m ≤ n) : Spends n program := by
  intro world
  have hworld := h world
  omega

theorem access (f : World σ → α × World σ) (h : ∀ world, (f world).2.budget = world.budget) :
    Spends 1 (Review.spend >>= fun _ => Program.step f) :=
  bind spend fun _ => none h

end Spends

section

variable (adapter : Adapter σ)

theorem spends_readIssue (issueRef : String) : Spends 1 (readIssue adapter issueRef) :=
  Spends.access _ fun _ => rfl

theorem spends_getIssue (issueRef missing : String) : Spends 1 (getIssue adapter issueRef missing) := by
  refine Spends.bind (n := 0) (spends_readIssue adapter issueRef) fun answer => ?_
  match answer with
  | .ok (some issue) => exact Spends.pure issue
  | .ok none => exact Spends.stop _
  | .error error => exact Spends.stop _

theorem spends_write (call : σ → Written × σ) (event : Bool → Event) : Spends 1 (write call event) :=
  Spends.access _ fun _ => rfl

theorem spends_readReceipt : Spends 1 (readReceipt : Publish σ (Option ReviewPublication)) :=
  Spends.access _ fun _ => rfl

theorem spends_save (receipt : ReviewPublication) : Spends 1 (receipt.save : Publish σ Unit) :=
  Spends.access _ fun _ => rfl

theorem spends_withRecovery {issueRef mutationType : String} {expected : ReviewedIssue → Bool}
    {mutation : Publish σ (Except TrackerError Unit)} (h : Spends 1 mutation) :
    Spends 2 (withRecovery adapter issueRef mutationType expected mutation) := by
  refine Spends.bind (n := 1) h fun result => ?_
  match result with
  | .ok () => exact (Spends.pure ()).mono (Nat.zero_le 1)
  | .error error =>
      refine Spends.behind (Spends.bind (n := 0) (spends_readIssue adapter issueRef) fun answer => ?_)
      match answer with
      | .ok (some issue) => exact Spends.require _ _
      | .ok none => exact Spends.stop _
      | .error readbackError => exact Spends.stop _

end

namespace Publication

variable (publication : Publication) (adapter : Adapter σ)

theorem spends_fresh (receipt : ReviewPublication) : Spends 2 (publication.fresh adapter receipt) := by
  refine Spends.bind (n := 1) (spends_getIssue adapter _ _) fun current => ?_
  cases publication.freshness current with
  | ok u => exact (Spends.pure current).mono (Nat.zero_le 1)
  | error reason => exact Spends.bind (n := 0) (spends_save _) fun _ => Spends.stop _

theorem spends_openReceipt (render : String) :
    Spends 2 (publication.openReceipt render : Publish σ (Option ReviewPublication)) := by
  refine Spends.behind (Spends.behind (Spends.bind (n := 1) spends_readReceipt fun saved => ?_))
  refine Spends.behind (Spends.behind ?_)
  split
  · exact (Spends.pure _).mono (Nat.zero_le 1)
  · exact Spends.behind (Spends.bind (n := 0) (spends_save _) fun _ => Spends.pure _)

theorem spends_publishEvidence (receipt : ReviewPublication) :
    Spends 6 (publication.publishEvidence adapter receipt) := by
  refine Spends.bind (n := 4) (publication.spends_fresh adapter receipt) fun current => ?_
  refine Spends.behind (Spends.bind (m := 2) (n := 2) ?_ fun _ => ?_)
  · unfold addTimelineCommentWithRecovery
    dsimp only
    split
    · exact (Spends.pure ()).mono (Nat.zero_le 2)
    · exact spends_withRecovery adapter (spends_write _ _)
  · exact Spends.bind (n := 0) (publication.spends_fresh adapter receipt) fun current =>
      Spends.behind (Spends.pure current)

theorem spends_publishClaim (receipt : ReviewPublication) (current : ReviewedIssue) :
    Spends 5 (publication.publishClaim adapter receipt current) := by
  unfold publishClaim
  cases publication.terminalClaim with
  | none => exact (Spends.pure current).mono (Nat.zero_le 5)
  | some value =>
      refine Spends.bind (m := 3) (n := 2) ?_ fun _ => ?_
      · refine Spends.bind (n := 2) (spends_getIssue adapter _ _) fun issue => ?_
        unfold setProjectFieldWithRecovery
        split
        · exact (Spends.pure ()).mono (Nat.zero_le 2)
        · exact spends_withRecovery adapter (spends_write _ _)
      · exact Spends.bind (n := 0) (publication.spends_fresh adapter receipt) fun current =>
          Spends.behind (Spends.pure current)

theorem spends_publishChecklist (receipt : ReviewPublication) (current : ReviewedIssue) :
    Spends 3 (publication.publishChecklist adapter receipt current) := by
  unfold publishChecklist
  cases publication.decision.outcome.isPassed with
  | false => exact (Spends.pure current).mono (Nat.zero_le 3)
  | true =>
      rw [if_pos rfl]
      refine Spends.bind (m := 1) (n := 2) ?_ fun _ => ?_
      · unfold updateReviewChecklistForPass
        cases current.description with
        | none => exact (Spends.pure ()).mono (Nat.zero_le 1)
        | some description =>
            dsimp only
            generalize checkReviewVerifiedIssueBodyCheckboxes _ = updated
            split
            · exact (Spends.pure ()).mono (Nat.zero_le 1)
            · refine Spends.bind (n := 0) (spends_write _ _) fun result => ?_
              match result with
              | .ok () => exact Spends.pure ()
              | .error error => exact Spends.stop _
      · exact Spends.bind (n := 0) (publication.spends_fresh adapter receipt) fun current =>
          Spends.behind (Spends.pure current)

theorem spends_publishState (receipt : ReviewPublication) (current : ReviewedIssue) :
    Spends 4 (publication.publishState adapter receipt current) := by
  unfold publishState
  cases publication.decision.targetState with
  | none => exact (Spends.pure ()).mono (Nat.zero_le 4)
  | some target =>
      refine Spends.bind (m := 2) (n := 2) ?_ fun _ => ?_
      · unfold setStateWithRecovery
        split
        · exact (Spends.pure ()).mono (Nat.zero_le 2)
        · exact spends_withRecovery adapter (spends_write _ _)
      · exact Spends.bind (n := 0) (publication.spends_fresh adapter receipt) fun current =>
          Spends.require _ _

theorem spends_applyReviewResult (render : String) :
    Spends 22 (publication.applyReviewResult adapter render) := by
  refine Spends.bind (n := 20) (publication.spends_openReceipt render) fun opened => ?_
  cases opened with
  | none => exact (Spends.pure ()).mono (Nat.zero_le 20)
  | some receipt =>
      refine Spends.bind (n := 14) (publication.spends_publishEvidence adapter receipt) fun current => ?_
      refine Spends.bind (n := 13) (spends_save _) fun _ => ?_
      refine Spends.bind (n := 8) (publication.spends_publishClaim adapter _ current) fun current => ?_
      refine Spends.bind (n := 5) (publication.spends_publishChecklist adapter _ current)
        fun current => ?_
      exact Spends.bind (publication.spends_publishState adapter _ current) fun _ => spends_save _

end Publication

end SheaSymphony.Review

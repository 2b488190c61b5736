import Mathlib.Algebra.BigOperators.Group.Finset.Piecewise

/-!
# Greedy admission under capacity

Requests are taken in order. One is refused for a reason of its own, or because
the requests admitted so far use up the limit or the limit of its class; else it
is admitted. `verdicts` records what became of each; the lemmas say that every
request gets one verdict, that the limits are kept and that a verdict depends
only on what was admitted before it. How many were admitted is known without
running the loop: each class is served up to its limit, and all of them up to the
limit (`admitted_counts`).
-/

namespace Admission

variable {α : Type*} {κ : Type*} {ρ : Type*} [DecidableEq κ]

structure Policy (α : Type*) (κ : Type*) (ρ : Type*) where
  /-- Why a request is refused, whatever was admitted. -/
  refusal : α → Option ρ
  classOf : α → κ
  limit : Nat
  classLimit : κ → Nat
  overLimit : α → ρ
  overClassLimit : α → ρ

namespace Policy

variable (policy : Policy α κ ρ)

/-- How many of the admitted are of the class. -/
def used (admitted : List α) (k : κ) : Nat := admitted.countP fun a => policy.classOf a = k

theorem used_concat (admitted : List α) (a : α) (k : κ) :
    policy.used (admitted ++ [a]) k
      = policy.used admitted k + if policy.classOf a = k then 1 else 0 := by
  simp [used, List.countP_singleton]

/-- The refusal of a request behind those admitted; none when it is admitted. -/
def verdict (admitted : List α) (a : α) : Option ρ :=
  match policy.refusal a with
  | some r => some r
  | none =>
      if policy.limit ≤ admitted.length then some (policy.overLimit a)
      else if policy.classLimit (policy.classOf a) ≤ policy.used admitted (policy.classOf a) then
        some (policy.overClassLimit a)
      else none

theorem verdict_eq_none (admitted : List α) (a : α) :
    policy.verdict admitted a = none ↔
      policy.refusal a = none ∧ admitted.length < policy.limit
        ∧ policy.used admitted (policy.classOf a) < policy.classLimit (policy.classOf a) := by
  rw [verdict]
  split
  · next r hr => simp [hr]
  · next hr =>
    split_ifs with hlimit hclass
    · simp [hr, Nat.not_lt.mpr hlimit]
    · simp [hr, Nat.not_lt.mpr hclass]
    · simpa [hr] using ⟨Nat.not_le.mp hlimit, Nat.not_le.mp hclass⟩

/-- The admitted after one more request. -/
def accept (admitted : List α) (a : α) : List α :=
  if policy.verdict admitted a = none then admitted ++ [a] else admitted

/-- What becomes of the requests behind those admitted. -/
def verdictsFrom : List α → List α → List (α × Option ρ)
  | _, [] => []
  | admitted, a :: requests =>
      (a, policy.verdict admitted a) :: verdictsFrom (policy.accept admitted a) requests

def verdicts (requests : List α) : List (α × Option ρ) := policy.verdictsFrom [] requests

end Policy

/-- The requests a list of verdicts admits. -/
def admitted (verdicts : List (α × Option ρ)) : List α :=
  verdicts.filterMap fun v => if v.2.isNone then some v.1 else none

/-- Its refusals. -/
def refused (verdicts : List (α × Option ρ)) : List ρ := verdicts.filterMap Prod.snd

@[simp] theorem admitted_nil : admitted ([] : List (α × Option ρ)) = [] := rfl

@[simp] theorem admitted_append (v w : List (α × Option ρ)) :
    admitted (v ++ w) = admitted v ++ admitted w := List.filterMap_append

@[simp] theorem refused_nil : refused ([] : List (α × Option ρ)) = [] := rfl

@[simp] theorem refused_append (v w : List (α × Option ρ)) :
    refused (v ++ w) = refused v ++ refused w := List.filterMap_append

theorem mem_admitted {verdicts : List (α × Option ρ)} {a : α} :
    a ∈ admitted verdicts ↔ (a, none) ∈ verdicts := by
  simp [admitted, List.mem_filterMap]

namespace Policy

variable (policy : Policy α κ ρ)

theorem map_fst_verdictsFrom : ∀ (before requests : List α),
    (policy.verdictsFrom before requests).map Prod.fst = requests
  | _, [] => rfl
  | before, a :: requests =>
      congrArg (a :: ·) (map_fst_verdictsFrom (policy.accept before a) requests)

@[simp] theorem map_fst_verdicts (requests : List α) :
    (policy.verdicts requests).map Prod.fst = requests := policy.map_fst_verdictsFrom [] requests

theorem accept_eq (before : List α) (a : α) :
    policy.accept before a = before ++ admitted [(a, policy.verdict before a)] := by
  rw [accept]
  split
  · next h => simp [admitted, h]
  · next h =>
    obtain ⟨r, hr⟩ := Option.ne_none_iff_exists'.mp h
    simp [admitted, hr]

theorem verdictsFrom_append : ∀ (before requests more : List α),
    policy.verdictsFrom before (requests ++ more)
      = policy.verdictsFrom before requests
        ++ policy.verdictsFrom (before ++ admitted (policy.verdictsFrom before requests)) more
  | before, [], more => by simp [verdictsFrom]
  | before, a :: requests, more => by
      have ih := verdictsFrom_append (policy.accept before a) requests more
      have hsplit : admitted (policy.verdictsFrom before (a :: requests))
          = admitted [(a, policy.verdict before a)]
            ++ admitted (policy.verdictsFrom (policy.accept before a) requests) := by
        rw [← admitted_append]
        rfl
      rw [List.cons_append, verdictsFrom, ih, hsplit, ← List.append_assoc, ← accept_eq]
      rfl

theorem verdicts_split (requests more : List α) (a : α) :
    policy.verdicts (requests ++ a :: more)
      = policy.verdicts requests
        ++ (a, policy.verdict (admitted (policy.verdicts requests)) a)
        :: policy.verdictsFrom (policy.accept (admitted (policy.verdicts requests)) a) more := by
  rw [verdicts, verdictsFrom_append, List.nil_append]
  rfl

theorem verdict_of_split {requests : List α} {front back : List (α × Option ρ)} {a : α}
    {v : Option ρ} (h : policy.verdicts requests = front ++ (a, v) :: back) :
    front = policy.verdicts (front.map Prod.fst) ∧ v = policy.verdict (admitted front) a := by
  have hrequests : requests = front.map Prod.fst ++ a :: back.map Prod.fst := by
    rw [← policy.map_fst_verdicts requests, h]
    simp
  rw [hrequests, verdicts_split] at h
  have hlength : (policy.verdicts (front.map Prod.fst)).length = front.length := by
    have h := congrArg List.length (policy.map_fst_verdicts (front.map Prod.fst))
    rwa [List.length_map, List.length_map] at h
  obtain ⟨hfront, hback⟩ := List.append_inj h hlength
  rw [hfront] at hback
  exact ⟨hfront.symm, (Prod.mk.inj (List.cons.inj hback).1).2.symm⟩

theorem within_accept {before : List α} (a : α)
    (h : before.length ≤ policy.limit ∧ ∀ k, policy.used before k ≤ policy.classLimit k) :
    (policy.accept before a).length ≤ policy.limit
      ∧ ∀ k, policy.used (policy.accept before a) k ≤ policy.classLimit k := by
  obtain ⟨hlimit, hclass⟩ := h
  rw [accept]
  split
  · next hverdict =>
    obtain ⟨-, hroom, hclassRoom⟩ := (policy.verdict_eq_none before a).mp hverdict
    refine ⟨by simpa using Nat.succ_le_of_lt hroom, fun k => ?_⟩
    rw [used_concat]
    split
    · next heq => exact heq ▸ hclassRoom
    · exact hclass k
  · exact ⟨hlimit, hclass⟩

theorem within_verdictsFrom : ∀ (requests before : List α),
    (before.length ≤ policy.limit ∧ ∀ k, policy.used before k ≤ policy.classLimit k) →
      (before ++ admitted (policy.verdictsFrom before requests)).length ≤ policy.limit
        ∧ ∀ k, policy.used (before ++ admitted (policy.verdictsFrom before requests)) k
          ≤ policy.classLimit k
  | [], before, h => by simpa [verdictsFrom] using h
  | a :: requests, before, h => by
      have ih := within_verdictsFrom requests (policy.accept before a) (policy.within_accept a h)
      rw [accept_eq, List.append_assoc, ← admitted_append, ← accept_eq] at ih
      exact ih

theorem length_admitted_le (requests : List α) :
    (admitted (policy.verdicts requests)).length ≤ policy.limit :=
  (policy.within_verdictsFrom requests [] ⟨Nat.zero_le _, fun _ => Nat.zero_le _⟩).1

theorem used_admitted_le (requests : List α) (k : κ) :
    policy.used (admitted (policy.verdicts requests)) k ≤ policy.classLimit k :=
  (policy.within_verdictsFrom requests [] ⟨Nat.zero_le _, fun _ => Nat.zero_le _⟩).2 k

/-! ## Counting without running -/

/-- How many requests of the class no reason of their own refuses. -/
def demand (requests : List α) (k : κ) : Nat :=
  requests.countP fun a => (policy.refusal a).isNone && decide (policy.classOf a = k)

/-- What the class limits let through, over a set of classes. -/
def served (classes : Finset κ) (requests : List α) : Nat :=
  ∑ k ∈ classes, min (policy.classLimit k) (policy.demand requests k)

theorem demand_concat_of_refused (requests : List α) {a : α} {r : ρ}
    (h : policy.refusal a = some r) : policy.demand (requests ++ [a]) = policy.demand requests := by
  funext k
  simp [demand, h]

theorem demand_concat (requests : List α) {a : α} (h : policy.refusal a = none) (k : κ) :
    policy.demand (requests ++ [a]) k
      = policy.demand requests k + if policy.classOf a = k then 1 else 0 := by
  simp [demand, List.countP_singleton, h]

theorem served_concat {classes : Finset κ} (requests : List α) {a : α}
    (h : policy.refusal a = none) (hclass : policy.classOf a ∈ classes) :
    policy.served classes (requests ++ [a])
      = policy.served classes requests
        + if policy.demand requests (policy.classOf a) < policy.classLimit (policy.classOf a)
          then 1 else 0 := by
  have hterm : ∀ k, min (policy.classLimit k) (policy.demand (requests ++ [a]) k)
      = min (policy.classLimit k) (policy.demand requests k)
        + if k = policy.classOf a then
            (if policy.demand requests (policy.classOf a) < policy.classLimit (policy.classOf a)
              then 1 else 0) else 0 := by
    intro k
    rw [policy.demand_concat requests h]
    by_cases hk : k = policy.classOf a
    · subst hk
      split_ifs <;> omega
    · rw [if_neg (Ne.symm hk), if_neg hk]
      rfl
  rw [served, Finset.sum_congr rfl fun k _ => hterm k, Finset.sum_add_distrib,
    Finset.sum_ite_eq' classes (policy.classOf a), if_pos hclass]
  rfl

/-- The admitted are as many as the limits let through, and before the limit is
reached every class is served up to its own. -/
theorem admitted_counts (classes : Finset κ) (requests : List α) :
    (∀ a ∈ requests, policy.classOf a ∈ classes) →
      (admitted (policy.verdicts requests)).length
          = min policy.limit (policy.served classes requests)
        ∧ (policy.served classes requests < policy.limit → ∀ k,
          policy.used (admitted (policy.verdicts requests)) k
            = min (policy.classLimit k) (policy.demand requests k)) := by
  induction requests using List.reverseRecOn with
  | nil =>
      intro _
      simp [verdicts, verdictsFrom, served, demand, used]
  | append_singleton requests a ih =>
      intro hclasses
      obtain ⟨hlength, hused⟩ := ih fun b hb => hclasses b (List.mem_append_left _ hb)
      have hclass := hclasses a (List.mem_append_right _ (List.mem_singleton_self a))
      have hsplit := policy.verdicts_split requests [] a
      rw [verdictsFrom] at hsplit
      rw [hsplit, admitted_append, ← accept_eq]
      cases hrefusal : policy.refusal a with
      | some r =>
          have hverdict : ¬ policy.verdict (admitted (policy.verdicts requests)) a = none := by
            rw [verdict_eq_none, hrefusal]
            exact fun h => nomatch h.1
          have hdemand := policy.demand_concat_of_refused requests hrefusal
          rw [accept, if_neg hverdict, served, hdemand]
          exact ⟨hlength, hused⟩
      | none =>
          have hserved := policy.served_concat requests hrefusal hclass
          have hdemand := policy.demand_concat requests hrefusal
          have hverdict := policy.verdict_eq_none (admitted (policy.verdicts requests)) a
          rw [hrefusal, hlength] at hverdict
          rw [accept, hserved]
          by_cases hroom : policy.served classes requests < policy.limit
          · have hclassUsed := hused hroom (policy.classOf a)
            by_cases hwaiting : policy.demand requests (policy.classOf a)
                < policy.classLimit (policy.classOf a)
            · rw [if_pos (hverdict.mpr ⟨rfl, by omega, by omega⟩), if_pos hwaiting]
              refine ⟨by rw [List.length_append, hlength, List.length_singleton]; omega, ?_⟩
              intro _ k
              rw [used_concat, hdemand, hused hroom k]
              split
              · next heq => subst heq; omega
              · rfl
            · have hfull : ¬ policy.verdict (admitted (policy.verdicts requests)) a = none := by
                rw [hverdict]
                omega
              rw [if_neg hfull, if_neg hwaiting, Nat.add_zero]
              refine ⟨hlength, fun _ k => ?_⟩
              rw [hdemand, hused hroom k]
              split
              · next heq => subst heq; omega
              · rfl
          · have hfull : ¬ policy.verdict (admitted (policy.verdicts requests)) a = none := by
              rw [hverdict]
              omega
            rw [if_neg hfull, hlength]
            refine ⟨by omega, fun h => absurd h (by omega)⟩

/-- Is there room for a request behind others? -/
def HasRoom (requests : List α) (a : α) : Prop :=
  policy.served (requests.map policy.classOf).toFinset requests < policy.limit
    ∧ policy.demand requests (policy.classOf a) < policy.classLimit (policy.classOf a)

instance (requests : List α) (a : α) : Decidable (policy.HasRoom requests a) :=
  inferInstanceAs (Decidable (_ ∧ _))

/-- A request is admitted exactly when nothing of its own refuses it and the
requests before it leave room. -/
theorem verdict_verdicts_eq_none (requests : List α) (a : α) :
    policy.verdict (admitted (policy.verdicts requests)) a = none
      ↔ policy.refusal a = none ∧ policy.HasRoom requests a := by
  have hclasses : ∀ b ∈ requests, policy.classOf b ∈ (requests.map policy.classOf).toFinset :=
    fun b hb => List.mem_toFinset.mpr (List.mem_map_of_mem hb)
  obtain ⟨hlength, hused⟩ := policy.admitted_counts _ requests hclasses
  rw [verdict_eq_none, hlength, HasRoom]
  refine and_congr_right fun _ => ?_
  constructor
  · rintro ⟨hroom, hclassRoom⟩
    have hserved : policy.served (requests.map policy.classOf).toFinset requests < policy.limit := by
      omega
    rw [hused hserved] at hclassRoom
    exact ⟨hserved, by omega⟩
  · rintro ⟨hserved, hwaiting⟩
    rw [hused hserved]
    exact ⟨by omega, by omega⟩

theorem mem_admitted_iff {requests : List α} {a : α} :
    a ∈ admitted (policy.verdicts requests) ↔
      ∃ before after, requests = before ++ a :: after ∧ policy.refusal a = none
        ∧ policy.HasRoom before a := by
  rw [mem_admitted]
  constructor
  · intro h
    obtain ⟨front, back, hsplit⟩ := List.append_of_mem h
    obtain ⟨hfront, hverdict⟩ := policy.verdict_of_split hsplit
    rw [hfront] at hverdict
    refine ⟨front.map Prod.fst, back.map Prod.fst, ?_,
      (policy.verdict_verdicts_eq_none _ _).mp hverdict.symm⟩
    rw [← policy.map_fst_verdicts requests, hsplit]
    simp
  · rintro ⟨before, after, rfl, hadmitted⟩
    rw [verdicts_split, (policy.verdict_verdicts_eq_none before a).mpr hadmitted]
    simp

end Policy

end Admission

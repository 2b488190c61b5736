import Mathlib.Logic.Relation
import Mathlib.Data.List.Nodup

/-!
# Orders of dependencies

A list is in the order of a relation `r` when everything an element needs stands in
front of it. Such a list is closed under `r`, and without repetitions it shows that
nothing in it needs itself. An element is grounded when all that it needs, however far
away, is sound and nothing of it needs itself; the elements of an ordered list of sound
elements are.
-/

namespace Dependencies

open Relation

variable {ι : Type*} {r : ι → ι → Prop} {sound : ι → Prop} {order : List ι} {i j : ι}

/-- Everything an element of the list needs stands in front of it. -/
def Ordered (r : ι → ι → Prop) (order : List ι) : Prop :=
  ∀ front i back, order = front ++ i :: back → ∀ j, r i j → j ∈ front

/-- All that `i` needs is sound, and nothing of it needs itself. -/
structure Grounded (r : ι → ι → Prop) (sound : ι → Prop) (i : ι) : Prop where
  sound : ∀ j, ReflTransGen r i j → sound j
  acyclic : ∀ j, ReflTransGen r i j → ¬ TransGen r j j

theorem Ordered.nil : Ordered r [] := by
  intro front i back h
  cases front <;> cases h

theorem Ordered.concat (h : Ordered r order) (hi : ∀ j, r i j → j ∈ order) :
    Ordered r (order ++ [i]) := by
  intro front k back hsplit j hj
  rcases List.eq_nil_or_concat back with rfl | ⟨back, last, rfl⟩
  · obtain ⟨rfl, hlast⟩ := List.append_inj' hsplit rfl
    obtain rfl := List.singleton_inj.mp hlast
    exact hi j hj
  · rw [List.concat_eq_append, ← List.cons_append, ← List.append_assoc] at hsplit
    obtain ⟨hfront, -⟩ := List.append_inj' hsplit rfl
    exact h front k back hfront j hj

theorem Ordered.closed (h : Ordered r order) (hi : i ∈ order) (hj : r i j) : j ∈ order := by
  obtain ⟨front, back, rfl⟩ := List.append_of_mem hi
  exact List.mem_append_left _ (h front i back rfl j hj)

theorem Ordered.reached (h : Ordered r order) (hi : i ∈ order) (hj : ReflTransGen r i j) :
    j ∈ order := by
  induction hj with
  | refl => exact hi
  | tail _ hstep ih => exact h.closed ih hstep

theorem Ordered.idxOf_lt [DecidableEq ι] (h : Ordered r order) (hnodup : order.Nodup)
    (hi : i ∈ order) (hj : TransGen r i j) : order.idxOf j < order.idxOf i := by
  have hstep : ∀ {k l}, k ∈ order → r k l → order.idxOf l < order.idxOf k := by
    intro k l hk hl
    obtain ⟨front, back, rfl⟩ := List.append_of_mem hk
    have hfront := h front k back rfl l hl
    have hnot : k ∉ front := fun hmem =>
      (List.nodup_append.mp hnodup).2.2 k hmem k List.mem_cons_self rfl
    rw [List.idxOf_append_of_mem hfront, List.idxOf_append_of_notMem hnot, List.idxOf_cons_self]
    have hlt := List.idxOf_lt_length_of_mem hfront
    omega
  induction hj with
  | single hj => exact hstep hi hj
  | tail hmiddle hlast ih => exact Nat.lt_trans (hstep (h.reached hi hmiddle.to_reflTransGen) hlast) ih

theorem Ordered.grounded [DecidableEq ι] (h : Ordered r order) (hnodup : order.Nodup)
    (hsound : ∀ j ∈ order, sound j) (hi : i ∈ order) : Grounded r sound i where
  sound _ hj := hsound _ (h.reached hi hj)
  acyclic _ hj hcycle := Nat.lt_irrefl _ (h.idxOf_lt hnodup (h.reached hi hj) hcycle)

end Dependencies

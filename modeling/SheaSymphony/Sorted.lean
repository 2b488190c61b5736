import Mathlib.Data.List.Nodup
import Mathlib.Order.Lattice

/-!
# Sorting by a key

A sorted list has its keys in order, and in strict order where no two elements have one
key. What is cut off such a list comes behind everything that is kept.
-/

namespace Sorted

variable {α β : Type*} [LinearOrder β] {key : α → β}

theorem pairwise_mergeSort (key : α → β) {le : α → α → Bool}
    (hle : ∀ a b, le a b = true ↔ key a ≤ key b) (items : List α) : (items.mergeSort le).Pairwise fun a b => key a ≤ key b := by
  have htrans : ∀ a b c, le a b = true → le b c = true → le a c = true := fun a b c hab hbc =>
    (hle a c).mpr (le_trans ((hle a b).mp hab) ((hle b c).mp hbc))
  have htotal : ∀ a b, (le a b || le b a) = true := by
    intro a b
    rw [Bool.or_eq_true, hle, hle]
    exact le_total (key a) (key b)
  exact (List.pairwise_mergeSort htrans htotal items).imp fun h => (hle _ _).mp h

theorem pairwise_of_ne {items : List α} (hsorted : items.Pairwise fun a b => key a ≤ key b)
    (hnodup : items.Nodup) (hne : ∀ a ∈ items, ∀ b ∈ items, key a = key b → a = b) :
    items.Pairwise fun a b => key a < key b := by
  refine (hsorted.and hnodup).imp_of_mem fun {a b} ha hb hab => ?_
  exact lt_of_le_of_ne hab.1 fun hkey => hab.2 (hne a ha b hb hkey)

theorem mem_take_or {items : List α} (hsorted : items.Pairwise fun a b => key a < key b)
    (limit : Nat) {item : α} (hmem : item ∈ items) : item ∈ items.take limit
      ∨ (items.take limit).length = limit ∧ ∀ kept ∈ items.take limit, key kept < key item := by
  rw [← List.take_append_drop limit items] at hmem hsorted
  refine (List.mem_append.mp hmem).imp_right fun hbehind => ?_
  have hlong := List.length_pos_of_mem hbehind
  rw [List.length_drop] at hlong
  refine ⟨by rw [List.length_take]; omega, fun kept hkept => ?_⟩
  exact (List.pairwise_append.mp hsorted).2.2 kept hkept item hbehind

end Sorted

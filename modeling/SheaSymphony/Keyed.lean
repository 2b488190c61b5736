import Mathlib.Data.List.Nodup
import Mathlib.Data.List.Induction

/-!
# Lists with keys

A list whose elements have keys, and what happens when elements are put into it one
after the other: an element replaces the first one with its key, or is appended. A
list with distinct keys is known by the order of its keys and by what is found under
each (`ext_find?`), and both are simple for `upsertAll`.
-/

namespace Collected

variable {α κ : Type*} [DecidableEq κ] (key : α → κ) (merge : α → α → α)

def push : List α → α → List α
  | [], item => [item]
  | first :: items, item =>
      if key first = key item then merge first item :: items else first :: push items item

def collect (mentions : List α) : List α := mentions.foldl (push key merge) []

variable {key merge}

theorem push_of_fresh {items : List α} {item : α} (h : key item ∉ items.map key) :
    push key merge items item = items ++ [item] := by
  induction items with
  | nil => rfl
  | cons first items ih =>
      rw [List.map_cons, List.mem_cons, not_or] at h
      rw [push, if_neg (Ne.symm h.1), ih h.2, List.cons_append]

theorem collect_of_nodup {mentions : List α} (hnodup : (mentions.map key).Nodup) :
    collect key merge mentions = mentions := by
  induction mentions using List.reverseRecOn with
  | nil => rfl
  | append_singleton mentions mention ih =>
      rw [List.map_append, List.map_singleton, List.nodup_append] at hnodup
      have hfresh : key mention ∉ mentions.map key := fun h => hnodup.2.2 _ h _ List.mem_cons_self rfl
      rw [collect, List.foldl_concat]
      exact (congrArg (push key merge · mention) (ih hnodup.1)).trans (push_of_fresh hfresh)

section
variable (hkeep : ∀ a b, key a = key b → key (merge a b) = key a)
include hkeep

theorem map_key_push (items : List α) (item : α) :
    (push key merge items item).map key =
      if key item ∈ items.map key then items.map key else items.map key ++ [key item] := by
  induction items with
  | nil => simp [push]
  | cons first items ih =>
      rw [push]
      by_cases hfirst : key first = key item
      · simp [hfirst, hkeep first item hfirst]
      · rw [if_neg hfirst, List.map_cons, ih, List.map_cons]
        by_cases hmem : key item ∈ items.map key
        · rw [if_pos hmem, if_pos (List.mem_cons_of_mem _ hmem)]
        · rw [if_neg hmem, if_neg (by simpa [Ne.symm hfirst] using hmem), List.cons_append]

theorem find?_push (items : List α) (item : α) (k : κ) :
    (push key merge items item).find? (fun x => decide (key x = k)) =
      if key item = k then
        some ((items.find? fun x => decide (key x = k)).elim item (merge · item))
      else items.find? fun x => decide (key x = k) := by
  induction items with
  | nil => by_cases hitem : key item = k <;> simp [push, hitem]
  | cons first items ih =>
      rw [push]
      by_cases hfirst : key first = key item
      · by_cases hitem : key item = k <;> simp [hfirst, hitem, hkeep first item hfirst]
      · rw [if_neg hfirst]
        by_cases hk : key first = k
        · have hitem : key item ≠ k := fun h => hfirst (hk.trans h.symm)
          simp [hk, hitem]
        · simp only [List.find?_cons, decide_eq_false hk, ih]

end

end Collected

namespace Keyed

open Collected

variable {α κ : Type*} [DecidableEq κ] (key : α → κ)

def upsert : List α → α → List α
  | [], item => [item]
  | first :: items, item =>
      if key first = key item then item :: items else first :: upsert items item

def upsertAll (items more : List α) : List α := more.foldl (upsert key) items

/-- `position` of the key, then an assignment or a `push`. -/
theorem upsert_eq_set (items : List α) (item : α) :
    upsert key items item =
      match items.findIdx? fun existing => decide (key existing = key item) with
      | some index => items.set index item
      | none => items ++ [item] := by
  induction items with
  | nil => rfl
  | cons first items ih =>
      rw [upsert, List.findIdx?_cons]
      by_cases hfirst : key first = key item
      · simp [hfirst]
      · simp only [if_neg hfirst, decide_eq_false hfirst, ih]
        cases items.findIdx? fun existing => decide (key existing = key item) <;> simp

variable {key} {items : List α}

theorem mem_upsert {item x : α} (h : x ∈ upsert key items item) :
    x = item ∨ x ∈ items := by
  induction items with
  | nil => exact Or.inl (List.mem_singleton.mp h)
  | cons first items ih =>
      rw [upsert] at h
      split at h
      · rcases List.mem_cons.mp h with rfl | h
        · exact Or.inl rfl
        · exact Or.inr (List.mem_cons_of_mem _ h)
      · rcases List.mem_cons.mp h with rfl | h
        · exact Or.inr List.mem_cons_self
        · exact (ih h).imp_right (List.mem_cons_of_mem _)

theorem upsert_eq_push (items : List α) (item : α) :
    upsert key items item = push key (fun _ item => item) items item := by
  induction items with
  | nil => rfl
  | cons first items ih => rw [upsert, push, ih]

theorem map_key_upsert (items : List α) (item : α) :
    (upsert key items item).map key =
      if key item ∈ items.map key then items.map key else items.map key ++ [key item] := by
  rw [upsert_eq_push, map_key_push fun _ _ hsame => hsame.symm]

theorem find?_upsert (items : List α) (item : α) (k : κ) :
    (upsert key items item).find? (fun x => decide (key x = k)) =
      if key item = k then some item else items.find? fun x => decide (key x = k) := by
  rw [upsert_eq_push, find?_push fun _ _ hsame => hsame.symm]
  cases items.find? fun x => decide (key x = k) <;> rfl

theorem filter_upsert (items : List α) (item : α) :
    (upsert key items item).filter (fun x => decide (key x ≠ key item))
      = items.filter fun x => decide (key x ≠ key item) := by
  induction items with
  | nil => simp [upsert]
  | cons first items ih =>
      rw [upsert]
      by_cases hfirst : key first = key item
      · simp [hfirst]
      · rw [if_neg hfirst, List.filter_cons_of_pos (by simpa using hfirst),
          List.filter_cons_of_pos (by simpa using hfirst), ih]

/-! ## Many elements -/

@[simp] theorem upsertAll_nil (items : List α) : upsertAll key items [] = items := rfl

theorem upsertAll_concat (items more : List α) (item : α) :
    upsertAll key items (more ++ [item]) = upsert key (upsertAll key items more) item :=
  List.foldl_concat _ _ _ _

theorem mem_upsertAll {items more : List α} {x : α} (h : x ∈ upsertAll key items more) :
    x ∈ items ∨ x ∈ more := by
  induction more using List.reverseRecOn with
  | nil => exact Or.inl h
  | append_singleton more item ih =>
      rw [upsertAll_concat] at h
      rcases mem_upsert h with rfl | h
      · exact Or.inr (List.mem_append_right _ List.mem_cons_self)
      · exact (ih h).imp_right (List.mem_append_left _)

/-- The keys in their order: those that are there, then the new ones. -/
def upsertKeys (keys more : List κ) : List κ :=
  more.foldl (fun keys k => if k ∈ keys then keys else keys ++ [k]) keys

theorem upsertKeys_concat (keys more : List κ) (k : κ) :
    upsertKeys keys (more ++ [k]) =
      if k ∈ upsertKeys keys more then upsertKeys keys more else upsertKeys keys more ++ [k] :=
  List.foldl_concat _ _ _ _

theorem map_key_upsertAll (items more : List α) :
    (upsertAll key items more).map key = upsertKeys (items.map key) (more.map key) := by
  induction more using List.reverseRecOn with
  | nil => rfl
  | append_singleton more item ih =>
      rw [upsertAll_concat, map_key_upsert, ih, List.map_append, List.map_singleton,
        upsertKeys_concat]

theorem nodup_upsertKeys {keys : List κ} (h : keys.Nodup) (more : List κ) :
    (upsertKeys keys more).Nodup := by
  induction more using List.reverseRecOn with
  | nil => exact h
  | append_singleton more k ih =>
      rw [upsertKeys_concat]
      split
      · exact ih
      · next hk => exact (List.concat_eq_append ▸ List.Nodup.concat hk ih)

theorem subset_upsertKeys (keys more : List κ) : keys ⊆ upsertKeys keys more ∧
    more ⊆ upsertKeys keys more := by
  induction more using List.reverseRecOn with
  | nil => exact ⟨fun _ h => h, List.nil_subset _⟩
  | append_singleton more k ih =>
      rw [upsertKeys_concat]
      split
      · next hk =>
        exact ⟨ih.1, List.append_subset.mpr ⟨ih.2, by simpa using hk⟩⟩
      · exact ⟨List.subset_append_of_subset_left _ ih.1,
          List.append_subset.mpr ⟨List.subset_append_of_subset_left _ ih.2, by simp⟩⟩

theorem mem_upsertKeys {keys more : List κ} {k : κ} (h : k ∈ upsertKeys keys more) :
    k ∈ keys ∨ k ∈ more := by
  induction more using List.reverseRecOn with
  | nil => exact Or.inl h
  | append_singleton more other ih =>
      rw [upsertKeys_concat] at h
      split at h
      · exact (ih h).imp_right (List.mem_append_left _)
      · rcases List.mem_append.mp h with h | h
        · exact (ih h).imp_right (List.mem_append_left _)
        · exact Or.inr (List.mem_append_right _ h)

theorem find?_upsertAll (items more : List α) (k : κ) :
    (upsertAll key items more).find? (fun x => decide (key x = k)) =
      (more.reverse.find? fun x => decide (key x = k)).or
        (items.find? fun x => decide (key x = k)) := by
  induction more using List.reverseRecOn with
  | nil => rfl
  | append_singleton more item ih =>
      rw [upsertAll_concat, find?_upsert, ih, List.reverse_concat, List.find?_cons]
      by_cases hitem : key item = k <;> simp [hitem]

theorem nodup_upsertAll (h : (items.map key).Nodup) (more : List α) :
    ((upsertAll key items more).map key).Nodup := by
  rw [map_key_upsertAll]
  exact nodup_upsertKeys h _

theorem find?_eq_of_mem (hnodup : (items.map key).Nodup) {item : α} (h : item ∈ items) : items.find? (fun x => decide (key x = key item)) = some item := by
  induction items with
  | nil => exact absurd h List.not_mem_nil
  | cons first items ih =>
      obtain ⟨hfresh, hnodup⟩ := List.nodup_cons.mp hnodup
      rcases List.mem_cons.mp h with rfl | h
      · rw [List.find?_cons_of_pos (by simp)]
      · have hne : key first ≠ key item := fun heq => hfresh (heq ▸ List.mem_map_of_mem h)
        rw [List.find?_cons_of_neg (by simpa using hne), ih hnodup h]

theorem upsertAll_nil_subset (items more : List α) :
    upsertAll key [] more ⊆ upsertAll key items more := by
  intro item hitem
  have hfind := find?_eq_of_mem (nodup_upsertAll (by simp) more) hitem
  rw [find?_upsertAll, List.find?_nil, Option.or_none] at hfind
  refine List.mem_of_find?_eq_some (p := fun x => decide (key x = key item)) ?_
  rw [find?_upsertAll, hfind]
  rfl

theorem mem_upsertAll_of_fresh {items more : List α} {item : α} (h : item ∈ items)
    (hfresh : key item ∉ more.map key) : item ∈ upsertAll key items more := by
  have hupsert : ∀ {items : List α} {other : α}, item ∈ items → key other ≠ key item →
      item ∈ upsert key items other := by
    intro items other hmem hne
    induction items with
    | nil => exact absurd hmem List.not_mem_nil
    | cons first items ih =>
        rw [upsert]
        rcases List.mem_cons.mp hmem with rfl | hmem
        · rw [if_neg (Ne.symm hne)]
          exact List.mem_cons_self
        · split
          · exact List.mem_cons_of_mem _ hmem
          · exact List.mem_cons_of_mem _ (ih hmem)
  induction more using List.reverseRecOn with
  | nil => exact h
  | append_singleton more other ih =>
      rw [List.map_append, List.mem_append, not_or] at hfresh
      rw [upsertAll_concat]
      exact hupsert (ih hfresh.1) fun heq => hfresh.2 (List.mem_singleton.mpr heq.symm)

theorem filter_of_mem (hnodup : (items.map key).Nodup) {item : α} (h : item ∈ items) :
    items.filter (fun x => decide (key x = key item)) = [item] := by
  obtain ⟨front, back, rfl⟩ := List.append_of_mem h
  rw [List.map_append, List.map_cons, List.nodup_append, List.nodup_cons] at hnodup
  obtain ⟨-, ⟨hback, -⟩, hfront⟩ := hnodup
  have hnone : ∀ l : List α, key item ∉ l.map key →
      l.filter (fun x => decide (key x = key item)) = [] := fun l hl =>
    List.filter_eq_nil_iff.mpr fun x hx heq =>
      hl (of_decide_eq_true heq ▸ List.mem_map_of_mem hx)
  rw [List.filter_append, List.filter_cons_of_pos (by simp), hnone back hback, hnone front ?_,
    List.nil_append]
  exact fun hmem => hfront _ hmem _ List.mem_cons_self rfl

theorem mem_upsertAll_of_last {more : List α} {item : α} {k : κ}
    (h : (more.filter fun x => decide (key x = k)).getLast? = some item) :
    item ∈ upsertAll key items more := by
  refine List.mem_of_find?_eq_some (p := fun x => decide (key x = k)) ?_
  rw [find?_upsertAll, ← List.head?_filter, List.filter_reverse, List.head?_reverse, h]
  rfl

end Keyed

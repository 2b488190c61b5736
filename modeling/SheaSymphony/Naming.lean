import Mathlib.Data.List.Induction
import Mathlib.Data.List.Nodup

/-!
# Names with a way out

Items are named one after the other: by a base name, or by a longer one where the base
name has been given before. The longer name is not looked up, so it may have been given
as well; `nodup_assign_iff` says when no name is given twice.
-/

namespace Naming

section
variable {α ν : Type*} [DecidableEq ν] (base long : α → ν)

def pick (used : List ν) (a : α) : ν := if base a ∈ used then long a else base a

/-- The names of the items, with those in `used` given before. -/
def assign : List ν → List α → List ν
  | _, [] => []
  | used, a :: rest => pick base long used a :: assign (pick base long used a :: used) rest

/-- The names the items take: every base name, and the long ones of those that come late. -/
inductive Taken : List α → ν → Prop
  | earlier {items : List α} {a : α} {name : ν} (h : Taken items name) : Taken (items ++ [a]) name
  | base {items : List α} {a : α} : Taken (items ++ [a]) (base a)
  | long {items : List α} {a : α} (h : Taken items (base a)) : Taken (items ++ [a]) (long a)

variable {base long}

theorem assign_append (first second : List α) : ∀ used : List ν,
    assign base long used (first ++ second)
      = assign base long used first
        ++ assign base long ((assign base long used first).reverse ++ used) second := by
  induction first with
  | nil => exact fun _ => rfl
  | cons a rest ih =>
      intro used
      rw [List.cons_append, assign, assign, ih, List.reverse_cons, List.append_assoc,
        List.singleton_append, List.cons_append]

theorem pick_congr {used other : List ν} {a : α} (h : base a ∈ used ↔ base a ∈ other) :
    pick base long used a = pick base long other a := by
  unfold pick
  simp only [h]

theorem assign_concat (items : List α) (a : α) :
    assign base long [] (items ++ [a])
      = assign base long [] items ++ [pick base long (assign base long [] items) a] := by
  rw [assign_append, List.append_nil, assign, assign, pick_congr List.mem_reverse]

theorem not_taken_nil {name : ν} : ¬ Taken base long [] name := by
  intro h
  generalize hitems : ([] : List α) = items at h
  cases h with
  | _ => simp at hitems

theorem taken_concat_iff {items : List α} {a : α} {name : ν} :
    Taken base long (items ++ [a]) name ↔ Taken base long items name ∨ name = base a
      ∨ Taken base long items (base a) ∧ name = long a := by
  constructor
  · intro h
    generalize hitems : items ++ [a] = all at h
    cases h with
    | earlier h =>
        obtain ⟨rfl, -⟩ := List.append_inj' hitems rfl
        exact Or.inl h
    | base =>
        obtain ⟨-, hlast⟩ := List.append_inj' hitems rfl
        rw [← List.singleton_inj.mp hlast]
        exact Or.inr (Or.inl rfl)
    | long h =>
        obtain ⟨rfl, hlast⟩ := List.append_inj' hitems rfl
        rw [← List.singleton_inj.mp hlast] at h ⊢
        exact Or.inr (Or.inr ⟨h, rfl⟩)
  · rintro (h | rfl | ⟨h, rfl⟩)
    · exact .earlier h
    · exact .base
    · exact .long h

theorem mem_assign_iff {items : List α} {name : ν} :
    name ∈ assign base long [] items ↔ Taken base long items name := by
  induction items using List.reverseRecOn generalizing name with
  | nil => exact iff_of_false List.not_mem_nil not_taken_nil
  | append_singleton items a ih =>
      rw [assign_concat, List.mem_append, List.mem_singleton, taken_concat_iff, ← ih, ← ih]
      unfold pick
      by_cases hbase : base a ∈ assign base long [] items
      · rw [if_pos hbase]
        constructor
        · exact fun h => h.imp_right fun hlong => Or.inr ⟨hbase, hlong⟩
        · rintro (h | rfl | ⟨-, h⟩)
          · exact Or.inl h
          · exact Or.inl hbase
          · exact Or.inr h
      · rw [if_neg hbase]
        exact or_congr_right ⟨Or.inl, fun h => h.elim id fun hlong => absurd hlong.1 hbase⟩

theorem nodup_assign_iff {items : List α} :
    (assign base long [] items).Nodup ↔ ∀ before a, before ++ [a] <+: items →
      Taken base long before (base a) → ¬ Taken base long before (long a) := by
  induction items using List.reverseRecOn with
  | nil =>
      refine iff_of_true List.nodup_nil fun before a h => ?_
      exact absurd (List.prefix_nil.mp h) (by simp)
  | append_singleton items last ih =>
      have hlast : pick base long (assign base long [] items) last ∉ assign base long [] items
          ↔ (Taken base long items (base last) → ¬ Taken base long items (long last)) := by
        unfold pick
        rw [← mem_assign_iff, ← mem_assign_iff]
        by_cases hbase : base last ∈ assign base long [] items
        · rw [if_pos hbase]
          exact ⟨fun h _ => h, fun h => h hbase⟩
        · rw [if_neg hbase]
          exact iff_of_true hbase fun h => absurd h hbase
      rw [assign_concat, List.nodup_append_comm, List.singleton_append, List.nodup_cons, ih, hlast]
      constructor
      · rintro ⟨hnow, hbefore⟩ before a hbegins
        rcases List.prefix_concat_iff.mp hbegins with heq | hearlier
        · obtain ⟨rfl, hsingle⟩ := List.append_inj' heq rfl
          rw [List.singleton_inj.mp hsingle]
          exact hnow
        · exact hbefore before a hearlier
      · intro h
        exact ⟨h items last (List.prefix_refl _),
          fun before a hbegins => h before a (hbegins.trans (List.prefix_append _ _))⟩

theorem assign_eq_map {items : List α} (h : (items.map base).Nodup) : ∀ {used : List ν},
    (∀ a ∈ items, base a ∉ used) → assign base long used items = items.map base := by
  induction items with
  | nil => exact fun _ => rfl
  | cons a rest ih =>
      intro used hfree
      rw [List.map_cons, List.nodup_cons] at h
      rw [assign, pick, if_neg (hfree a List.mem_cons_self), List.map_cons, ih h.2]
      intro b hb
      refine List.not_mem_cons_of_ne_of_not_mem ?_ (hfree b (List.mem_cons_of_mem a hb))
      exact fun heq => h.1 (heq ▸ List.mem_map_of_mem hb)

end

end Naming

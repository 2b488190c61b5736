import Mathlib.Data.List.Nodup
import Mathlib.Data.List.Pairwise

/-!
# Keyed stores with a partial unique slot

A table of rows under two constraints a relational engine enforces: a primary
key, and a partial unique index, given by a function `slot` that assigns some
rows a value no other row may share. The constraints are fields of `Store`, so
a store that violates them cannot be built; `insert` and `rewrite` return
`none` where the engine would report a constraint violation.

The lemmas say what the two writes do to `lookup`: the key written reads back
the new row, every other key reads what it read before.
-/

/-- Rows with a primary key and a partial unique index. -/
@[ext]
structure Store {ρ : Type*} {κ : Type*} {τ : Type*} (key : ρ → κ) (slot : ρ → Option τ) where
  rows : List ρ
  primaryKey : (rows.map key).Nodup
  uniqueSlot : (rows.filterMap slot).Nodup

namespace Store

variable {ρ : Type*} {κ : Type*} {τ : Type*} {key : ρ → κ} {slot : ρ → Option τ}

def empty : Store key slot := ⟨[], List.nodup_nil, List.nodup_nil⟩

theorem eq_of_key_eq {s : Store key slot} {a b : ρ} (ha : a ∈ s.rows) (hb : b ∈ s.rows)
    (h : key a = key b) : a = b :=
  List.inj_on_of_nodup_map s.primaryKey ha hb h

theorem eq_of_slot_eq {s : Store key slot} {a b : ρ} (ha : a ∈ s.rows) (hb : b ∈ s.rows) {t : τ}
    (hat : slot a = some t) (hbt : slot b = some t) : a = b := by
  by_contra hne
  have : Std.Symm fun a b => ∀ t, slot a = some t → ∀ t', slot b = some t' → t ≠ t' :=
    ⟨fun _ _ h t ht t' ht' => (h t' ht' t ht).symm⟩
  exact (List.pairwise_filterMap.mp s.uniqueSlot).forall ha hb hne t hat t hbt rfl

theorem countP_key_le_one [DecidableEq κ] (s : Store key slot) (k : κ) :
    s.rows.countP (fun r => key r = k) ≤ 1 := by
  have h := List.nodup_iff_count_le_one.mp s.primaryKey k
  rw [List.count, List.countP_map] at h
  refine le_of_eq_of_le (List.countP_congr fun r _ => ?_) h
  simp

theorem countP_slot_le_one [DecidableEq τ] (s : Store key slot) (t : τ) :
    s.rows.countP (fun r => slot r = some t) ≤ 1 := by
  have h := List.nodup_iff_count_le_one.mp s.uniqueSlot t
  rw [List.count, List.countP_filterMap] at h
  refine le_of_eq_of_le (List.countP_congr fun r _ => ?_) h
  cases slot r <;> simp

/-! ## Reading -/

section Lookup

variable [DecidableEq κ]

def lookup (s : Store key slot) (k : κ) : Option ρ := s.rows.find? fun r => key r = k

theorem lookup_eq_none {s : Store key slot} {k : κ} :
    s.lookup k = none ↔ ∀ r ∈ s.rows, key r ≠ k := by
  simp [lookup, List.find?_eq_none]

theorem mem_of_lookup {s : Store key slot} {k : κ} {r : ρ} (h : s.lookup k = some r) :
    r ∈ s.rows ∧ key r = k :=
  ⟨List.mem_of_find?_eq_some h, by simpa using List.find?_some h⟩

theorem lookup_of_mem {s : Store key slot} {r : ρ} (h : r ∈ s.rows) :
    s.lookup (key r) = some r := by
  cases hl : s.lookup (key r) with
  | none => exact absurd rfl (lookup_eq_none.mp hl r h)
  | some r' =>
      obtain ⟨hm, hk⟩ := mem_of_lookup hl
      rw [eq_of_key_eq hm h hk]

end Lookup

section Occupant

variable [DecidableEq τ]

def occupant (s : Store key slot) (t : τ) : Option ρ := s.rows.find? fun r => slot r = some t

theorem occupant_eq_none {s : Store key slot} {t : τ} :
    s.occupant t = none ↔ ∀ r ∈ s.rows, slot r ≠ some t := by
  simp [occupant, List.find?_eq_none]

theorem mem_of_occupant {s : Store key slot} {t : τ} {r : ρ} (h : s.occupant t = some r) :
    r ∈ s.rows ∧ slot r = some t :=
  ⟨List.mem_of_find?_eq_some h, by simpa using List.find?_some h⟩

end Occupant

variable [DecidableEq κ] [DecidableEq τ]

/-! ## Inserting -/

/-- Appends a row; `none` is a constraint violation. -/
def insert (s : Store key slot) (r : ρ) : Option (Store key slot) :=
  if h : (key r ∉ s.rows.map key) ∧ (∀ t ∈ slot r, t ∉ s.rows.filterMap slot) then
    some
      { rows := s.rows ++ [r]
        primaryKey := by
          rw [List.map_append, List.map_singleton]
          exact List.Nodup.append s.primaryKey (List.nodup_singleton _)
            (by simpa [List.disjoint_singleton] using h.1)
        uniqueSlot := by
          rw [List.filterMap_append]
          refine List.Nodup.append s.uniqueSlot ?_ ?_
          · cases hs : slot r <;> simp [hs]
          · intro t ht htr
            obtain ⟨r', hr', hslot⟩ := List.mem_filterMap.mp htr
            obtain rfl := List.mem_singleton.mp hr'
            exact h.2 t hslot ht }
  else none

theorem insert_eq_none {s : Store key slot} {r : ρ} :
    s.insert r = none ↔ (∃ r' ∈ s.rows, key r' = key r)
      ∨ ∃ t, slot r = some t ∧ ∃ r' ∈ s.rows, slot r' = some t := by
  unfold insert
  split
  · next h =>
    simp only [reduceCtorEq, false_iff, not_or, not_exists, not_and]
    exact ⟨fun r' hr' he => h.1 (List.mem_map.mpr ⟨r', hr', he⟩),
      fun t ht r' hr' he => h.2 t ht (List.mem_filterMap.mpr ⟨r', hr', he⟩)⟩
  · next h =>
    simp only [true_iff]
    rw [not_and_or] at h
    rcases h with hk | hs
    · obtain ⟨r', hr', he⟩ := List.mem_map.mp (not_not.mp hk)
      exact Or.inl ⟨r', hr', he⟩
    · push Not at hs
      obtain ⟨t, ht, hm⟩ := hs
      obtain ⟨r', hr', he⟩ := List.mem_filterMap.mp hm
      exact Or.inr ⟨t, ht, r', hr', he⟩

theorem rows_insert {s s' : Store key slot} {r : ρ} (h : s.insert r = some s') :
    s'.rows = s.rows ++ [r] := by
  unfold insert at h
  split at h
  · rw [← Option.some.inj h]
  · cases h

theorem lookup_insert_self {s s' : Store key slot} {r : ρ} (h : s.insert r = some s') :
    s'.lookup (key r) = some r :=
  lookup_of_mem (by rw [rows_insert h]; exact List.mem_append_right _ List.mem_cons_self)

theorem lookup_insert_of_ne {s s' : Store key slot} {r : ρ} (h : s.insert r = some s')
    {k : κ} (hk : key r ≠ k) : s'.lookup k = s.lookup k := by
  simp [lookup, rows_insert h, List.find?_append, hk]

/-! ## Rewriting -/

/-- The rows with `f` applied to those under the key `k`. -/
def rewriteRows (key : ρ → κ) (rows : List ρ) (k : κ) (f : ρ → ρ) : List ρ :=
  rows.map fun r => if key r = k then f r else r

theorem map_key_rewriteRows {f : ρ → ρ} (hf : ∀ r, key (f r) = key r) (rows : List ρ) (k : κ) :
    (rewriteRows key rows k f).map key = rows.map key := by
  rw [rewriteRows, List.map_map]
  refine List.map_congr_left fun r _ => ?_
  by_cases h : key r = k <;> simp [h, hf]

/-- Applies `f` to the row under a key; `none` is a constraint violation. -/
def rewrite (s : Store key slot) (k : κ) (f : ρ → ρ) (hf : ∀ r, key (f r) = key r) :
    Option (Store key slot) :=
  if h : ((rewriteRows key s.rows k f).filterMap slot).Nodup then
    some
      { rows := rewriteRows key s.rows k f
        primaryKey := by rw [map_key_rewriteRows hf]; exact s.primaryKey
        uniqueSlot := h }
  else none

section Rewrite

variable {s s' : Store key slot} {k : κ} {f : ρ → ρ} {hf : ∀ r, key (f r) = key r}

theorem rows_rewrite (h : s.rewrite k f hf = some s') : s'.rows = rewriteRows key s.rows k f := by
  unfold rewrite at h
  split at h
  · rw [← Option.some.inj h]
  · cases h

theorem rewrite_ne_none (hslot : ∀ r ∈ s.rows, key r = k → slot (f r) = slot r ∨ slot (f r) = none) :
    s.rewrite k f hf ≠ none := by
  have hsub : ∀ rows : List ρ,
      (∀ r ∈ rows, key r = k → slot (f r) = slot r ∨ slot (f r) = none) →
      ((rewriteRows key rows k f).filterMap slot).Sublist (rows.filterMap slot) := by
    intro rows
    induction rows with
    | nil => intro _; exact List.Sublist.refl _
    | cons r rows ih =>
        intro hrows
        have htail := ih fun r' hr' => hrows r' (List.mem_cons_of_mem _ hr')
        rw [rewriteRows, List.map_cons, ← rewriteRows]
        by_cases hk : key r = k
        · rw [if_pos hk]
          rcases hrows r List.mem_cons_self hk with hs | hs
          · cases hr : slot r with
            | none =>
                rw [List.filterMap_cons_none (hs.trans hr), List.filterMap_cons_none hr]
                exact htail
            | some t =>
                rw [List.filterMap_cons_some (hs.trans hr), List.filterMap_cons_some hr]
                exact htail.cons_cons t
          · rw [List.filterMap_cons_none hs]
            cases hr : slot r with
            | none => rw [List.filterMap_cons_none hr]; exact htail
            | some t => rw [List.filterMap_cons_some hr]; exact htail.cons t
        · rw [if_neg hk]
          cases hr : slot r with
          | none => rw [List.filterMap_cons_none hr, List.filterMap_cons_none hr]; exact htail
          | some t =>
              rw [List.filterMap_cons_some hr, List.filterMap_cons_some hr]
              exact htail.cons_cons t
  have hnd : ((rewriteRows key s.rows k f).filterMap slot).Nodup :=
    s.uniqueSlot.sublist (hsub s.rows hslot)
  rw [rewrite, dif_pos hnd]
  exact Option.some_ne_none _

theorem lookup_rewrite_of_ne (h : s.rewrite k f hf = some s') {k' : κ} (hk : k ≠ k') :
    s'.lookup k' = s.lookup k' := by
  rw [lookup, lookup, rows_rewrite h, rewriteRows]
  induction s.rows with
  | nil => rfl
  | cons r rows ih =>
      rw [List.map_cons, List.find?_cons, List.find?_cons, ih]
      by_cases hr : key r = k
      · have hr' : key r ≠ k' := fun he => hk (hr.symm.trans he)
        simp [hr, hf, hk]
      · rw [if_neg hr]

theorem lookup_rewrite_self (h : s.rewrite k f hf = some s') {r : ρ} (hr : s.lookup k = some r) :
    s'.lookup k = some (f r) := by
  obtain ⟨hm, hk⟩ := mem_of_lookup hr
  have hm' : f r ∈ s'.rows := by
    rw [rows_rewrite h, rewriteRows]
    exact List.mem_map.mpr ⟨r, hm, if_pos hk⟩
  have := lookup_of_mem hm'
  rwa [hf, hk] at this

end Rewrite

end Store

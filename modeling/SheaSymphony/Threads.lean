import Mathlib.Algebra.Ring.Parity

/-!
# Threads on something shared

Threads share a state and take steps one at a time: a step looks at what is shared,
changes it, and leaves the thread at another place, perhaps with threads it has started.
Which thread is next is anyone's choice. How many threads are at a kind of place
(`countP_advance`), what the threads weigh together (`total_advance`) and what holds of
each of them (`Every.advance`) follows from the one step that is taken.
-/

namespace Threads

variable {φ τ : Type*}

structure State (φ τ : Type*) where
  shared : φ
  threads : List τ

/-- What a step leaves: what is shared, where the thread is, and the threads it starts. -/
structure Move (φ τ : Type*) where
  shared : φ
  next : τ
  started : List τ := []

/-- A thread comes in from outside. -/
def State.start (s : State φ τ) (t : τ) : State φ τ := { s with threads := s.threads ++ [t] }

/-- Something outside the threads changes what is shared. -/
def State.put (s : State φ τ) (shared : φ) : State φ τ := { s with shared }

/-- The thread at a place takes its next step. -/
def advance (act : φ → τ → Move φ τ) (s : State φ τ) (i : Nat) : State φ τ :=
  match s.threads[i]? with
  | none => s
  | some t =>
      { shared := (act s.shared t).shared
        threads := s.threads.set i (act s.shared t).next ++ (act s.shared t).started }

variable {act : φ → τ → Move φ τ} {s : State φ τ} {i : Nat} {t u : τ}

theorem advance_none (h : s.threads[i]? = none) : advance act s i = s := by
  rw [advance, h]

theorem advance_some (h : s.threads[i]? = some t) :
    advance act s i =
      { shared := (act s.shared t).shared
        threads := s.threads.set i (act s.shared t).next ++ (act s.shared t).started } := by
  rw [advance, h]

@[simp] theorem shared_start : (s.start t).shared = s.shared := rfl

@[simp] theorem shared_put {shared : φ} : (s.put shared).shared = shared := rfl

@[simp] theorem threads_put {shared : φ} : (s.put shared).threads = s.threads := rfl

theorem mem_start : u ∈ (s.start t).threads ↔ u ∈ s.threads ∨ u = t := by
  rw [State.start, List.mem_append, List.mem_singleton]

theorem mem_advance (h : s.threads[i]? = some t) (hu : u ∈ (advance act s i).threads) :
    u ∈ s.threads ∨ u = (act s.shared t).next ∨ u ∈ (act s.shared t).started := by
  rw [advance_some h] at hu
  rcases List.mem_append.mp hu with hset | hstarted
  · rcases List.mem_or_eq_of_mem_set hset with hmem | heq
    · exact Or.inl hmem
    · exact Or.inr (Or.inl heq)
  · exact Or.inr (Or.inr hstarted)

/-! ## Counting -/

theorem countP_start (p : τ → Bool) :
    (s.start t).threads.countP p = s.threads.countP p + (p t).toNat := by
  rw [State.start, List.countP_append, List.countP_singleton]
  cases p t <;> rfl

theorem countP_set_add (p : τ → Bool) :
    ∀ {l : List τ} {i : Nat}, l[i]? = some t →
      (l.set i u).countP p + (p t).toNat = l.countP p + (p u).toNat
  | [], _, h => by cases h
  | a :: l, 0, h => by
      obtain rfl := Option.some.inj h
      rw [List.set_cons_zero, List.countP_cons, List.countP_cons]
      cases p a <;> cases p u <;> simp
  | a :: l, i + 1, h => by
      have ih := countP_set_add p (show l[i]? = some t from h)
      rw [List.set_cons_succ, List.countP_cons, List.countP_cons]
      omega

theorem countP_advance (p : τ → Bool) (h : s.threads[i]? = some t) :
    (advance act s i).threads.countP p + (p t).toNat
      = s.threads.countP p + (p (act s.shared t).next).toNat
        + (act s.shared t).started.countP p := by
  rw [advance_some h, List.countP_append]
  have hset := @countP_set_add _ t (act s.shared t).next p s.threads i h
  omega

theorem exists_countP_advance (p : τ → Bool) (h : s.threads[i]? = some t) :
    ∃ others, s.threads.countP p = others + (p t).toNat
      ∧ (advance act s i).threads.countP p
        = others + (p (act s.shared t).next).toNat + (act s.shared t).started.countP p := by
  have hcount := @countP_advance _ _ act s i t p h
  have hle : (p t).toNat ≤ s.threads.countP p := by
    cases hp : p t with
    | false => exact Nat.zero_le _
    | true => exact List.countP_pos_iff.mpr ⟨t, List.mem_of_getElem? h, hp⟩
  exact ⟨s.threads.countP p - (p t).toNat, by omega, by omega⟩

/-! ## Weighing -/

/-- What the threads weigh together. -/
def total (f : τ → Nat) (threads : List τ) : Nat := (threads.map f).sum

@[simp] theorem total_nil (f : τ → Nat) : total f [] = 0 := rfl

@[simp] theorem total_cons (f : τ → Nat) (t : τ) (l : List τ) :
    total f (t :: l) = f t + total f l := by
  rw [total, List.map_cons, List.sum_cons, total]

@[simp] theorem total_append (f : τ → Nat) (l m : List τ) :
    total f (l ++ m) = total f l + total f m := by
  rw [total, List.map_append, List.sum_append, total, total]

theorem total_eq_zero {f : τ → Nat} {l : List τ} (h : ∀ t ∈ l, f t = 0) : total f l = 0 := by
  rw [total, List.sum_eq_zero_iff_forall_eq_nat]
  intro n hn
  obtain ⟨t, ht, rfl⟩ := List.mem_map.mp hn
  exact h t ht

theorem total_eraseIdx (f : τ → Nat) :
    ∀ {l : List τ} {i : Nat}, l[i]? = some t → total f l = total f (l.eraseIdx i) + f t
  | [], _, h => by cases h
  | a :: l, 0, h => by
      obtain rfl := Option.some.inj h
      rw [List.eraseIdx_cons_zero, total_cons, Nat.add_comm]
  | a :: l, i + 1, h => by
      have ih := total_eraseIdx f (show l[i]? = some t from h)
      rw [List.eraseIdx_cons_succ, total_cons, total_cons]
      omega

theorem total_set (f : τ → Nat) :
    ∀ {l : List τ} {i : Nat}, l[i]? = some t →
      total f (l.set i u) = total f (l.eraseIdx i) + f u
  | [], _, h => by cases h
  | a :: l, 0, _ => by rw [List.set_cons_zero, List.eraseIdx_cons_zero, total_cons, Nat.add_comm]
  | a :: l, i + 1, h => by
      have ih := @total_set f l i (show l[i]? = some t from h)
      rw [List.set_cons_succ, List.eraseIdx_cons_succ, total_cons, total_cons]
      omega

theorem total_advance (act : φ → τ → Move φ τ) (f : τ → Nat) (h : s.threads[i]? = some t) :
    total f (advance act s i).threads
      = total f (s.threads.eraseIdx i) + f (act s.shared t).next
        + total f (act s.shared t).started := by
  rw [advance_some h, total_append, total_set f h]

/-! ## The threads of a kind -/

theorem filter_start (p : τ → Bool) :
    (s.start t).threads.filter p = s.threads.filter p ++ [t].filter p := by
  rw [State.start, List.filter_append]

/-- Among the threads of a kind, a step puts its own thread's next place where it was, and
the threads it starts at the end. -/
theorem filter_advance (act : φ → τ → Move φ τ) (p : τ → Bool) (h : s.threads[i]? = some t) :
    ∃ front back, s.threads.filter p = front ++ [t].filter p ++ back
      ∧ (advance act s i).threads.filter p
        = front ++ [(act s.shared t).next].filter p ++ back ++ (act s.shared t).started.filter p := by
  obtain ⟨hlt, hget⟩ := List.getElem?_eq_some_iff.mp h
  have hthreads : s.threads = s.threads.take i ++ [t] ++ s.threads.drop (i + 1) := by
    rw [← hget, List.append_assoc, List.singleton_append, List.getElem_cons_drop,
      List.take_append_drop]
  have hset : s.threads.set i (act s.shared t).next
      = s.threads.take i ++ [(act s.shared t).next] ++ s.threads.drop (i + 1) := by
    rw [List.set_eq_take_append_cons_drop, if_pos hlt, List.append_assoc, List.singleton_append]
  refine ⟨(s.threads.take i).filter p, (s.threads.drop (i + 1)).filter p, ?_, ?_⟩
  · rw [← List.filter_append, ← List.filter_append, ← hthreads]
  · rw [advance_some h, hset, List.filter_append, List.filter_append, List.filter_append]

/-! ## What holds of every thread -/

/-- Each thread stands in a relation to what is shared. -/
def Every (P : φ → τ → Prop) (s : State φ τ) : Prop := ∀ t ∈ s.threads, P s.shared t

theorem Every.of_getElem? {P : φ → τ → Prop} (h : Every P s) (ht : s.threads[i]? = some t) :
    P s.shared t :=
  h t (List.mem_of_getElem? ht)

theorem Every.start {P : φ → τ → Prop} (h : Every P s) (ht : P s.shared t) :
    Every P (s.start t) := by
  intro u hu
  rcases mem_start.mp hu with hu | rfl
  · exact h u hu
  · exact ht

theorem Every.put {P : φ → τ → Prop} {shared : φ} (h : Every P s)
    (hkept : ∀ u, P s.shared u → P shared u) : Every P (s.put shared) :=
  fun u hu => hkept u (h u hu)

/-- The others are as they were with what is shared now, and the step puts its own thread
and those it starts in order. -/
theorem Every.advance {P : φ → τ → Prop} (h : Every P s) (ht : s.threads[i]? = some t)
    (hkept : ∀ u, P s.shared u → P (act s.shared t).shared u)
    (hnext : P (act s.shared t).shared (act s.shared t).next)
    (hstarted : ∀ u ∈ (act s.shared t).started, P (act s.shared t).shared u) :
    Every P (advance act s i) := by
  intro u hu
  have hshared : (Threads.advance act s i).shared = (act s.shared t).shared := by
    rw [advance_some ht]
  rw [hshared]
  rcases mem_advance ht hu with hu | rfl | hu
  · exact hkept u (h u hu)
  · exact hnext
  · exact hstarted u hu

end Threads

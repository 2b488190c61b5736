import Mathlib.Order.Defs.PartialOrder

/-!
# Runs of a step function

A deterministic system is a step function on states and inputs; its runs are
folds. What one step preserves, a run preserves (`invariant_run`), and what
relates one state to the next relates the ends of a run (`related_run`); both
inductions are made here once.
-/

namespace Runs

variable {σ : Type*} {ι : Type*} (step : σ → ι → σ)

/-- The state a list of inputs leads to. -/
def run (s : σ) (inputs : List ι) : σ := inputs.foldl step s

@[simp] theorem run_nil (s : σ) : run step s [] = s := rfl

@[simp] theorem run_cons (s : σ) (i : ι) (l : List ι) :
    run step s (i :: l) = run step (step s i) l := rfl

@[simp] theorem run_append (s : σ) (l m : List ι) :
    run step s (l ++ m) = run step (run step s l) m := List.foldl_append

theorem run_concat (s : σ) (l : List ι) (i : ι) :
    run step s (l ++ [i]) = step (run step s l) i := by simp

/-- The states some list of inputs leads to. -/
def Reachable (init s : σ) : Prop := ∃ inputs, run step init inputs = s

variable {step}

theorem Reachable.run {init s : σ} (h : Reachable step init s) (l : List ι) :
    Reachable step init (run step s l) := by
  obtain ⟨m, rfl⟩ := h
  exact ⟨m ++ l, run_append step init m l⟩

theorem invariant_run {P : σ → Prop} (hstep : ∀ s i, P s → P (step s i)) :
    ∀ (l : List ι) {s : σ}, P s → P (Runs.run step s l)
  | [], _, h => h
  | i :: l, _, h => invariant_run hstep l (hstep _ i h)

theorem Reachable.invariant {P : σ → Prop} {init s : σ} (h : Reachable step init s)
    (hinit : P init) (hstep : ∀ s i, P s → P (step s i)) : P s := by
  obtain ⟨l, rfl⟩ := h
  exact invariant_run hstep l hinit

theorem related_run {P : σ → Prop} {R : σ → σ → Prop} (hrefl : ∀ s, R s s)
    (htrans : ∀ {a b c}, R a b → R b c → R a c)
    (hinv : ∀ s i, P s → P (step s i)) (hstep : ∀ s i, P s → R s (step s i)) :
    ∀ (l : List ι) {s : σ}, P s → R s (Runs.run step s l)
  | [], s, _ => hrefl s
  | i :: l, s, h =>
      htrans (hstep s i h) (related_run hrefl htrans hinv hstep l (hinv s i h))

/-! ## Runs of allowed steps -/

variable (step) in
/-- Every step of the run is allowed where it is taken. -/
def Allowed (guard : σ → ι → Prop) (s : σ) : List ι → Prop
  | [] => True
  | i :: l => guard s i ∧ Allowed guard (step s i) l

theorem Allowed.invariant {guard : σ → ι → Prop} {P : σ → Prop}
    (hstep : ∀ s i, P s → guard s i → P (step s i)) :
    ∀ (l : List ι) {s : σ}, P s → Allowed step guard s l → P (Runs.run step s l)
  | [], _, h, _ => h
  | i :: l, s, h, hallowed =>
      Allowed.invariant hstep l (hstep s i h hallowed.1) hallowed.2

theorem Allowed.and {guard guard' : σ → ι → Prop} :
    ∀ (l : List ι) {s : σ}, Allowed step guard s l → Allowed step guard' s l →
      Allowed step (fun s i => guard s i ∧ guard' s i) s l
  | [], _, _, _ => trivial
  | _ :: l, _, h, h' => ⟨⟨h.1, h'.1⟩, Allowed.and l h.2 h'.2⟩

theorem Allowed.append {guard : σ → ι → Prop} {back : List ι} :
    ∀ (front : List ι) {s : σ}, Allowed step guard s (front ++ back) →
      Allowed step guard s front ∧ Allowed step guard (Runs.run step s front) back
  | [], _, h => ⟨trivial, h⟩
  | i :: front, s, h => by
      have hrest := Allowed.append front h.2
      exact ⟨⟨h.1, hrest.1⟩, hrest.2⟩

theorem Allowed.constant {α : Type*} {guard guard' : σ → ι → Prop} {P : σ → Prop} {f : σ → α}
    (hinv : ∀ s i, P s → guard s i → P (step s i))
    (hf : ∀ s i, P s → guard' s i → f (step s i) = f s) :
    ∀ (l : List ι) {s : σ}, P s → Allowed step guard s l → Allowed step guard' s l →
      f (Runs.run step s l) = f s
  | [], _, _, _, _ => rfl
  | i :: l, s, h, hallowed, hallowed' => by
      rw [run_cons, ← hf s i h hallowed'.1]
      exact Allowed.constant hinv hf l (hinv s i h hallowed.1) hallowed.2 hallowed'.2

end Runs

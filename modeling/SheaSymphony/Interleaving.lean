import Mathlib.Logic.Function.Basic
import SheaSymphony.Runs

/-!
# Interleavings of processes

Each process has a list of atomic calls to make on something shared. A schedule
names the process that makes its next call; what the calls do to a view of what is
shared decides the view of every run (`run_view`). A list of items tagged with
processes merges the processes' own lists when each of them is what the list shows
of it (`Merges`).
-/

namespace Interleaving

variable {P α φ ψ : Type*}

/-- What is shared, and the calls each process has yet to make. -/
structure State (P α φ : Type*) where
  shared : φ
  rest : P → List α

/-- Every process has made its calls. -/
def Finished (s : State P α φ) : Prop := ∀ p, s.rest p = []

section
variable [DecidableEq P]

def step (perform : P → α → φ → φ) (s : State P α φ) (p : P) : State P α φ :=
  match s.rest p with
  | [] => s
  | call :: rest =>
      { shared := perform p call s.shared, rest := Function.update s.rest p rest }

variable {perform : P → α → φ → φ}

theorem step_nil {s : State P α φ} {p : P} (h : s.rest p = []) : step perform s p = s := by
  rw [step, h]

theorem step_cons {s : State P α φ} {p : P} {call : α} {rest : List α}
    (h : s.rest p = call :: rest) :
    step perform s p =
      { shared := perform p call s.shared, rest := Function.update s.rest p rest } := by
  rw [step, h]

theorem step_rest_of_ne {s : State P α φ} {p q : P} (h : q ≠ p) :
    (step perform s p).rest q = s.rest q := by
  cases hrest : s.rest p with
  | nil => rw [step_nil hrest]
  | cons call rest =>
      rw [step_cons hrest]
      exact Function.update_of_ne h rest s.rest

/-- The same calls to make, and a view of what is shared. -/
def State.view (f : φ → ψ) (s : State P α φ) : State P α ψ where
  shared := f s.shared
  rest := s.rest

theorem step_view {perform' : P → α → ψ → ψ} {f : φ → ψ}
    (h : ∀ p call x, f (perform p call x) = perform' p call (f x)) (s : State P α φ) (p : P) :
    (step perform s p).view f = step perform' (s.view f) p := by
  cases hrest : s.rest p with
  | nil =>
      have hview : (s.view f).rest p = [] := hrest
      rw [step_nil hrest, step_nil hview]
  | cons call rest =>
      have hview : (s.view f).rest p = call :: rest := hrest
      rw [step_cons hrest, step_cons hview, State.view, h]
      rfl

theorem run_view {perform' : P → α → ψ → ψ} {f : φ → ψ}
    (h : ∀ p call x, f (perform p call x) = perform' p call (f x)) (schedule : List P)
    (s : State P α φ) :
    (Runs.run (step perform) s schedule).view f = Runs.run (step perform') (s.view f) schedule := by
  induction schedule generalizing s with
  | nil => rfl
  | cons p schedule ih => rw [Runs.run_cons, Runs.run_cons, ih, step_view h]

theorem allowed_view {perform' : P → α → ψ → ψ} {f : φ → ψ}
    (h : ∀ p call x, f (perform p call x) = perform' p call (f x))
    {guard : State P α φ → P → Prop} {guard' : State P α ψ → P → Prop}
    (hguard : ∀ s p, guard' (s.view f) p ↔ guard s p) (schedule : List P) (s : State P α φ) :
    Runs.Allowed (step perform') guard' (s.view f) schedule ↔
      Runs.Allowed (step perform) guard s schedule := by
  induction schedule generalizing s with
  | nil => exact Iff.rfl
  | cons p schedule ih =>
      rw [Runs.Allowed, Runs.Allowed, ← step_view h, ih, hguard]

end

/-! ## Merged lists -/

/-- What a tagged list shows of one process. -/
def shownOf [DecidableEq P] (p : P) (order : List (P × α)) : List α :=
  (order.filter fun item => decide (item.1 = p)).map Prod.snd

/-- The list is made of the processes' own lists, each in its order. -/
def Merges [DecidableEq P] (order : List (P × α)) (own : P → List α) : Prop :=
  ∀ p, shownOf p order = own p

section
variable [DecidableEq P]

@[simp] theorem shownOf_nil (p : P) : shownOf p ([] : List (P × α)) = [] := rfl

@[simp] theorem shownOf_append (p : P) (front back : List (P × α)) :
    shownOf p (front ++ back) = shownOf p front ++ shownOf p back := by
  rw [shownOf, List.filter_append, List.map_append, shownOf, shownOf]

@[simp] theorem shownOf_self (p : P) (a : α) : shownOf p [(p, a)] = [a] := by
  simp [shownOf]

theorem shownOf_ne {p q : P} (h : q ≠ p) (a : α) : shownOf p [(q, a)] = [] := by
  simp [shownOf, h]

theorem mem_shownOf {item : P × α} {order : List (P × α)} (h : item ∈ order) :
    item.2 ∈ shownOf item.1 order :=
  List.mem_map_of_mem (List.mem_filter.mpr ⟨h, decide_eq_true rfl⟩)

end

end Interleaving

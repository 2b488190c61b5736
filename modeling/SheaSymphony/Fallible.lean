import Mathlib.Data.List.Forall2

/-!
# Fallible computations

Peeling `Except` apart: a sequence of steps succeeds only if each step does,
and the lemmas here name the intermediate results.
-/

namespace Fallible

variable {ε ε' α β : Type} {x : Except ε α} {f : α → Except ε β}

theorem bind_eq_ok {b : β} (h : (x >>= f) = .ok b) : ∃ a, x = .ok a ∧ f a = .ok b := by
  cases x with
  | error e => cases h
  | ok a => exact ⟨a, rfl, h⟩

theorem bind_eq_error {e : ε} (h : (x >>= f) = .error e) : x = .error e ∨ ∃ a, f a = .error e := by
  cases x with
  | error e' => exact .inl (congrArg Except.error (Except.error.inj h))
  | ok a => exact .inr ⟨a, h⟩

@[simp] theorem pure_eq (a : α) : (pure a : Except ε α) = .ok a := rfl

@[simp] theorem ok_bind (a : α) (f : α → Except ε β) : ((.ok a : Except ε α) >>= f) = f a := rfl

@[simp] theorem error_bind (e : ε) (f : α → Except ε β) :
    ((.error e : Except ε α) >>= f) = .error e := rfl

@[simp] theorem mapError_eq_ok {f : ε → ε'} {a : α} :
    x.mapError f = .ok a ↔ x = .ok a := by
  cases x <;> simp [Except.mapError]

theorem map_eq_ok {f : α → β} {b : β} (h : x.map f = .ok b) :
    ∃ a, x = .ok a ∧ f a = b := by
  cases x with
  | error e => cases h
  | ok a => exact ⟨a, rfl, Except.ok.inj h⟩

/-- `Option::ok_or`. -/
def okOr (x : Option α) (e : ε) : Except ε α :=
  match x with
  | some a => .ok a
  | none => .error e

@[simp] theorem okOr_eq_ok {x : Option α} {e : ε} {a : α} : okOr x e = .ok a ↔ x = some a := by
  cases x <;> simp [okOr]

/-- `if !condition { return Err(e) }`. -/
def require (condition : Bool) (e : ε) : Except ε Unit :=
  if condition then .ok () else .error e

@[simp] theorem require_eq_ok {condition : Bool} {e : ε} {u : Unit} :
    require condition e = .ok u ↔ condition = true := by
  cases condition <;> simp [require]

theorem require_eq_error {condition : Bool} {e e' : ε}
    (h : require condition e = .error e') : e = e' := by
  cases condition with
  | true => cases h
  | false => exact Except.error.inj h

@[simp] theorem require_true (e : ε) : require true e = .ok () := rfl

@[simp] theorem require_false (e : ε) : require false e = .error e := rfl

theorem require_bind_eq_ok {condition : Bool} {e : ε} {f : Unit → Except ε β} {b : β} :
    (require condition e >>= f) = .ok b ↔ condition = true ∧ f () = .ok b := by
  cases condition <;> simp

/-- A list of steps that each undo `encode` undoes a map of it. -/
theorem mapM_map_eq_ok {encode : α → β} {decode : β → Except ε α}
    (h : ∀ a, decode (encode a) = .ok a) (items : List α) :
    (items.map encode).mapM decode = .ok items := by
  induction items with
  | nil => rfl
  | cons a items ih =>
      rw [List.map_cons, List.mapM_cons, h, ok_bind, ih]
      rfl

theorem mapM_eq_ok {items : List α} {out : List β} :
    items.mapM f = .ok out ↔ List.Forall₂ (fun a b => f a = .ok b) items out := by
  induction items generalizing out with
  | nil =>
      rw [List.mapM_nil, pure_eq, List.forall₂_nil_left_iff]
      exact ⟨fun h => (Except.ok.inj h).symm, fun h => congrArg Except.ok h.symm⟩
  | cons a items ih =>
      rw [List.mapM_cons]
      constructor
      · intro h
        obtain ⟨b, hb, hrest⟩ := bind_eq_ok h
        obtain ⟨rest, hitems, hout⟩ := bind_eq_ok hrest
        rw [← Except.ok.inj hout]
        exact List.Forall₂.cons hb (ih.mp hitems)
      · rintro (- | ⟨hb, hitems⟩)
        rw [hb, ok_bind, ih.mpr hitems]
        rfl

theorem foldlM_gathers {step : β → α → Except ε β} {P : β → Prop} {Q : α → Prop}
    (hstep : ∀ {before item after}, step before item = .ok after → (P after ↔ P before ∨ Q item))
    {items : List α} {before after : β} (h : items.foldlM step before = .ok after) :
    P after ↔ P before ∨ ∃ item ∈ items, Q item := by
  induction items generalizing before with
  | nil =>
      rw [← Except.ok.inj h]
      simp
  | cons item items ih =>
      rw [List.foldlM_cons] at h
      obtain ⟨middle, hfirst, hrest⟩ := bind_eq_ok h
      rw [ih hrest, hstep hfirst, or_assoc, List.exists_mem_cons_iff]

theorem foldlM_visits {step : β → α → Except ε β} {items : List α} {before after : β}
    (h : items.foldlM step before = .ok after) :
    ∀ item ∈ items, ∃ middle next, step middle item = .ok next := by
  induction items generalizing before with
  | nil => exact nofun
  | cons first items ih =>
      rw [List.foldlM_cons] at h
      obtain ⟨middle, hfirst, hrest⟩ := bind_eq_ok h
      intro item hmem
      rcases List.mem_cons.mp hmem with rfl | hmem
      · exact ⟨before, middle, hfirst⟩
      · exact ih hrest item hmem

theorem foldlM_deeper {shallow deep : β → α → Except ε β} {halt : ε}
    (h : ∀ before item, shallow before item ≠ .error halt → deep before item = shallow before item) :
    ∀ (items : List α) (before : β), items.foldlM shallow before ≠ .error halt →
      items.foldlM deep before = items.foldlM shallow before
  | [], _, _ => rfl
  | item :: items, before, hends => by
      rw [List.foldlM_cons] at hends
      rw [List.foldlM_cons, List.foldlM_cons]
      cases hfirst : shallow before item with
      | ok middle =>
          rw [hfirst, ok_bind] at hends
          have hdeep : deep before item = .ok middle := by
            rw [h before item (by rw [hfirst]; nofun), hfirst]
          rw [hdeep, ok_bind, ok_bind, foldlM_deeper h items middle hends]
      | error e =>
          rw [hfirst, error_bind] at hends
          rw [h before item (by rwa [hfirst]), hfirst]
          rfl

end Fallible

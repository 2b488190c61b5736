import Mathlib.Order.Lattice

/-!
# Keeping the highest-ranked evidence

A replicated register that receives evidence in any order, with repetitions,
and shows the highest-ranked piece it has seen. `Latest rank view seen shown`
says that `shown` is what such a register shows after `seen`: nothing before
the first piece, afterwards the view of a piece no other outranks. A register
keeps the relation when it ignores outranked evidence (`Latest.keep`) and
adopts evidence that outranks everything (`Latest.adopt`).

When equally ranked evidence looks the same, what is shown depends only on the
*set* of evidence seen (`Latest.eq_of_same`): delivery order and repetition
cannot be observed.
-/

/-- `shown` is the view of a highest-ranked piece of `seen`. -/
def Latest {ε : Type*} {ν : Type*} {κ : Type*} [LinearOrder κ] (rank : ε → κ) (view : ε → ν)
    (seen : List ε) : Option ν → Prop
  | none => seen = []
  | some shown => ∃ e ∈ seen, view e = shown ∧ ∀ a ∈ seen, rank a ≤ rank e

namespace Latest

variable {ε : Type*} {ν : Type*} {κ : Type*} [LinearOrder κ] {rank : ε → κ} {view : ε → ν}

theorem nil : Latest rank view [] none := rfl

theorem keep {seen : List ε} {o e : ε} (he : e ∈ seen) (hmax : ∀ a ∈ seen, rank a ≤ rank e)
    (ho : rank o ≤ rank e) : Latest rank view (seen ++ [o]) (some (view e)) :=
  ⟨e, List.mem_append_left _ he, rfl, fun a ha => by
    rcases List.mem_append.mp ha with ha | ha
    · exact hmax a ha
    · rw [List.mem_singleton.mp ha]; exact ho⟩

theorem adopt {seen : List ε} {o : ε} (hmax : ∀ a ∈ seen, rank a ≤ rank o) :
    Latest rank view (seen ++ [o]) (some (view o)) :=
  ⟨o, List.mem_append_right _ List.mem_cons_self, rfl, fun a ha => by
    rcases List.mem_append.mp ha with ha | ha
    · exact hmax a ha
    · rw [List.mem_singleton.mp ha]⟩

theorem eq_of_same {seen seen' : List ε} {shown shown' : Option ν}
    (hsame : ∀ e, e ∈ seen ↔ e ∈ seen')
    (hcoherent : ∀ a ∈ seen, ∀ b ∈ seen, rank a = rank b → view a = view b)
    (h : Latest rank view seen shown) (h' : Latest rank view seen' shown') :
    shown = shown' := by
  cases shown with
  | none =>
      cases shown' with
      | none => rfl
      | some v' =>
          obtain ⟨e, he, -, -⟩ := h'
          have hin := (hsame e).mpr he
          rw [show seen = [] from h] at hin
          exact absurd hin List.not_mem_nil
  | some v =>
      obtain ⟨e, he, rfl, hmax⟩ := h
      cases shown' with
      | none =>
          have hin := (hsame e).mp he
          rw [show seen' = [] from h'] at hin
          exact absurd hin List.not_mem_nil
      | some v' =>
          obtain ⟨e', he', rfl, hmax'⟩ := h'
          have hle := hmax e' ((hsame e').mpr he')
          have hge := hmax' e ((hsame e).mp he)
          rw [hcoherent e he e' ((hsame e').mpr he') (le_antisymm hge hle)]

end Latest

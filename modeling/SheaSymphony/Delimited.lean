import Mathlib.Data.List.Basic
import Mathlib.Data.List.Induction
import Mathlib.Data.List.TakeWhile

/-!
# Occurrences that stand alone

An occurrence of a pattern stands alone when neither character around it goes on a word;
what goes on a word is said for each side. A search that looks at one occurrence after
another, each behind the end of the one before, finds such an occurrence whenever there is
one, provided that the first character of the pattern does not come again in it: then no
two occurrences overlap. A word stands alone where it is one of the pieces between the
characters that go on no word.
-/

namespace Delimited

variable {α : Type*} [DecidableEq α] (left right : α → Bool) (pattern : List α)

/-- Look behind the next `skip` elements, which belong to an occurrence; `previous` is what
stands in front. -/
def search : Nat → Option α → List α → Bool
  | _, _, [] => false
  | skip + 1, _, c :: s => search skip (some c) s
  | 0, previous, c :: s =>
      if pattern.isPrefixOf (c :: s) then
        (!previous.any left && !((c :: s).drop pattern.length).head?.any right)
          || search (pattern.length - 1) (some c) s
      else search 0 (some c) s

/-- The pattern stands alone somewhere in `s`, behind `previous`. -/
def Alone (previous : Option α) (s : List α) : Prop :=
  ∃ before after, s = before ++ pattern ++ after
    ∧ (before.getLast?.or previous).any left = false ∧ after.head?.any right = false

variable {left right} {pattern} {previous : Option α}

theorem search_skip (l s : List α) :
    search left right pattern l.length previous (l ++ s)
      = search left right pattern 0 (l.getLast?.or previous) s := by
  induction l generalizing previous with
  | nil => rfl
  | cons c l ih =>
      rw [List.length_cons, List.cons_append, search, ih, List.getLast?_cons]
      cases l.getLast? <;> rfl

theorem alone_cons_iff {c : α} {s : List α} (h : ¬ pattern <+: c :: s) :
    Alone left right pattern previous (c :: s) ↔ Alone left right pattern (some c) s := by
  constructor
  · rintro ⟨before, after, heq, hbefore, hafter⟩
    cases before with
    | nil => exact absurd ⟨after, heq.symm⟩ h
    | cons d before =>
        obtain ⟨rfl, rfl⟩ := List.cons.inj heq
        refine ⟨before, after, rfl, ?_, hafter⟩
        rw [List.getLast?_cons] at hbefore
        cases hlast : before.getLast? <;> simpa [hlast] using hbefore
  · rintro ⟨before, after, rfl, hbefore, hafter⟩
    refine ⟨c :: before, after, rfl, ?_, hafter⟩
    rw [List.getLast?_cons]
    cases hlast : before.getLast? <;> simpa [hlast] using hbefore

theorem alone_skip {tail l s : List α} (htail : ∀ c ∈ pattern.head?, c ∉ tail)
    (hne : pattern ≠ []) (hl : l <:+ tail) :
    Alone left right pattern previous (l ++ s) ↔
      Alone left right pattern (l.getLast?.or previous) s := by
  induction l generalizing previous with
  | nil => rfl
  | cons c l ih =>
      have hstart : ¬ pattern <+: c :: (l ++ s) := by
        intro hbegins
        obtain ⟨first, rest, rfl⟩ := List.exists_cons_of_ne_nil hne
        obtain ⟨rfl, -⟩ := List.cons_prefix_cons.mp hbegins
        exact htail first rfl (hl.subset List.mem_cons_self)
      rw [List.cons_append, alone_cons_iff hstart, ih ((List.suffix_cons c l).trans hl),
        List.getLast?_cons]
      cases l.getLast? <;> rfl

theorem alone_append_iff {first : α} {tail s : List α} (hfirst : first ∉ tail) :
    Alone left right (first :: tail) previous (first :: tail ++ s) ↔
      (previous.any left = false ∧ s.head?.any right = false)
        ∨ Alone left right (first :: tail) (some first) (tail ++ s) := by
  constructor
  · rintro ⟨before, after, heq, hbefore, hafter⟩
    cases before with
    | nil =>
        rw [List.nil_append] at heq
        rw [List.append_cancel_left heq]
        exact Or.inl ⟨hbefore, hafter⟩
    | cons d before =>
        obtain ⟨rfl, hrest⟩ := List.cons.inj heq
        refine Or.inr ⟨before, after, hrest, ?_, hafter⟩
        rw [List.getLast?_cons] at hbefore
        cases hlast : before.getLast? <;> simpa [hlast] using hbefore
  · rintro (⟨hprevious, hafter⟩ | ⟨before, after, heq, hbefore, hafter⟩)
    · exact ⟨[], s, rfl, hprevious, hafter⟩
    · refine ⟨first :: before, after, by rw [List.cons_append, heq]; rfl, ?_, hafter⟩
      rw [List.getLast?_cons]
      cases hlast : before.getLast? <;> simpa [hlast] using hbefore

theorem search_iff {first : α} {tail : List α} (hfirst : first ∉ tail) (s : List α) :
    search left right (first :: tail) 0 previous s = true ↔
      Alone left right (first :: tail) previous s := by
  induction hlength : s.length using Nat.strongRecOn generalizing previous s with
  | ind n ih =>
      cases s with
      | nil =>
          refine ⟨nofun, fun ⟨before, after, heq, _⟩ => ?_⟩
          exact absurd heq.symm (by simp)
      | cons c s =>
          rw [search]
          by_cases hbegins : first :: tail <+: c :: s
          · obtain ⟨rest, hrest⟩ := hbegins
            rw [List.cons_append] at hrest
            obtain ⟨rfl, rfl⟩ := List.cons.inj hrest
            have hstart : (first :: tail).isPrefixOf (first :: (tail ++ rest)) = true :=
              List.isPrefixOf_iff_prefix.mpr ⟨rest, rfl⟩
            have hshort : rest.length < n := by simp at hlength; omega
            rw [if_pos hstart, ← List.cons_append, List.drop_left, List.length_cons,
              Nat.add_sub_cancel, search_skip, Bool.or_eq_true, Bool.and_eq_true,
              ih rest.length hshort rest rfl,
              alone_append_iff hfirst, alone_skip
                (fun _ hc => by cases hc; exact hfirst) (by simp) (List.suffix_refl tail)]
            simp
          · rw [if_neg fun h => hbegins (List.isPrefixOf_iff_prefix.mp h), alone_cons_iff hbegins]
            exact ih s.length (by simp at hlength; omega) s rfl

/-! ## Words -/

section
variable {inner : α → Bool}

theorem alone_of_forall {l : List α} (hl : ∀ c ∈ l, inner c = true)
    (h : Alone inner inner pattern none l) : pattern = l := by
  obtain ⟨before, after, rfl, hbefore, hafter⟩ := h
  have hnone : before = [] := by
    cases before using List.reverseRecOn with
    | nil => rfl
    | append_singleton before c =>
        have hc := hl c (by simp)
        simp [hc] at hbefore
  have hend : after = [] := by
    cases after with
    | nil => rfl
    | cons c after =>
        have hc := hl c (by simp)
        simp [hc] at hafter
  rw [hnone, hend, List.nil_append, List.append_nil]

/-- Behind the first character that goes on no word, the word is the one in front or
stands alone later. -/
theorem alone_append_cons_iff (hpattern : ∀ c ∈ pattern, inner c = true) {front back : List α}
    {separator : α} (hfront : ∀ c ∈ front, inner c = true) (hseparator : inner separator = false) :
    Alone inner inner pattern none (front ++ separator :: back) ↔
      pattern = front ∨ Alone inner inner pattern none back := by
  constructor
  · rintro ⟨before, after, heq, hbefore, hafter⟩
    rw [List.append_assoc] at heq
    rcases List.append_eq_append_iff.mp heq with ⟨between, rfl, hlater⟩ | ⟨between, rfl, hlater⟩
    · -- the word begins behind what stands in front
      cases between with
      | nil =>
          rw [List.nil_append] at hlater
          rw [List.append_nil] at hbefore
          cases pattern with
          | nil =>
              refine Or.inl (Eq.symm (List.eq_nil_iff_forall_not_mem.mpr fun c hc => ?_))
              obtain ⟨init, last, rfl⟩ := (List.eq_nil_or_concat front).resolve_left
                (List.ne_nil_of_mem hc)
              have hlast := hfront last (by simp)
              simp [hlast] at hbefore
          | cons c pattern =>
              obtain ⟨rfl, -⟩ := List.cons.inj hlater
              exact absurd (hpattern _ List.mem_cons_self) (by simp [hseparator])
      | cons c between =>
          obtain ⟨rfl, rfl⟩ := List.cons.inj hlater
          refine Or.inr ⟨between, after, (List.append_assoc ..).symm, ?_, hafter⟩
          rw [List.getLast?_append, List.getLast?_cons] at hbefore
          cases hlast : between.getLast? with
          | none => rfl
          | some last => simpa [hlast] using hbefore
    · -- it begins in front, and does not reach behind the separator
      have hnone : before = [] := by
        cases before using List.reverseRecOn with
        | nil => rfl
        | append_singleton before c =>
            have hc := hfront c (by simp)
            simp [hc] at hbefore
      subst hnone
      rw [List.nil_append] at hfront ⊢
      rcases List.append_eq_append_iff.mp hlater.symm with ⟨rest, rfl, hrest⟩ | ⟨rest, rfl, hrest⟩
      · cases rest with
        | nil => exact Or.inl (List.append_nil _)
        | cons c rest =>
            obtain ⟨rfl, -⟩ := List.cons.inj hrest
            have hc := hpattern separator (by simp)
            simp [hc] at hseparator
      · cases rest with
        | nil => exact Or.inl (List.append_nil _).symm
        | cons c rest =>
            rw [hrest] at hafter
            have hc := hfront c (by simp)
            simp [hc] at hafter
  · rintro (rfl | ⟨before, after, rfl, hbefore, hafter⟩)
    · exact ⟨[], separator :: back, rfl, rfl, by simpa using hseparator⟩
    · refine ⟨front ++ separator :: before, after, by simp, ?_, hafter⟩
      rw [List.getLast?_append, List.getLast?_cons]
      cases hlast : before.getLast? with
      | none => simpa using hseparator
      | some last => simpa [hlast] using hbefore

theorem mem_splitOnP_iff (hpattern : ∀ c ∈ pattern, inner c = true) (l : List α) :
    pattern ∈ l.splitOnP (fun c => !inner c) ↔ Alone inner inner pattern none l := by
  induction hlength : l.length using Nat.strongRecOn generalizing l with
  | ind n ih =>
      by_cases hall : ∀ c ∈ l, inner c = true
      · rw [List.splitOnP_eq_singleton fun c hc => by rw [hall c hc]; rfl, List.mem_singleton]
        refine ⟨fun h => ⟨[], [], by simp [h], rfl, rfl⟩, alone_of_forall hall⟩
      · have hcut := List.takeWhile_append_dropWhile (p := inner) (l := l)
        cases hdrop : l.dropWhile inner with
        | nil => exact absurd (List.dropWhile_eq_nil_iff.mp hdrop) hall
        | cons separator back =>
            have hseparator : inner separator = false := by
              have hhead := List.head?_dropWhile_not inner l
              rw [hdrop] at hhead
              simpa using hhead
            have hfront : ∀ c ∈ l.takeWhile inner, inner c = true := fun c hc =>
              List.mem_takeWhile_imp hc
            rw [hdrop] at hcut
            have hshort : back.length < n := by
              have hlen := congrArg List.length hcut
              simp only [List.length_append, List.length_cons] at hlen
              omega
            rw [← hcut, List.splitOnP_append_cons_of_forall_mem
              (fun c hc => by rw [hfront c hc]; rfl) separator (by rw [hseparator]; rfl),
              List.mem_cons, ih back.length hshort back rfl,
              alone_append_cons_iff hpattern hfront hseparator]

end

end Delimited

import SheaSymphony.Lines

/-!
# Occurrences in a sum of texts

A text that occurs in a sum occurs in one of the parts, or it begins in the first and ends
in the second. Where no end of the first part can begin it, or the second part begins with
a character it does not have, only the parts are left.
-/

namespace Text

theorem forall_mem_of_all {α : Type*} {P : α → Prop} [DecidablePred P] {l : List α}
    (h : (l.all fun a => decide (P a)) = true) : ∀ a ∈ l, P a := fun a ha =>
  of_decide_eq_true (List.all_eq_true.mp h a ha)

theorem infix_append_cases {α : Type*} {pattern front back : List α} (h : pattern <:+: front ++ back) :
    pattern <:+: front ∨ pattern <:+: back ∨
      ∃ first second, first ≠ [] ∧ second ≠ [] ∧ pattern = first ++ second ∧ first <:+ front
        ∧ second <+: back := by
  obtain ⟨before, after, heq⟩ := h
  rcases List.append_eq_append_iff.mp heq with ⟨rest, hfront, -⟩ | ⟨rest, hpattern, hback⟩
  · exact Or.inl ⟨before, rest, hfront.symm⟩
  · rcases List.append_eq_append_iff.mp hpattern with ⟨inner, hfront, hsplit⟩ | ⟨inner, hbefore, hrest⟩
    · by_cases hinner : inner = []
      · refine Or.inr (Or.inl ⟨[], after, ?_⟩)
        rw [hsplit, hinner, hback]
        rfl
      · by_cases hend : rest = []
        · refine Or.inl ⟨before, [], ?_⟩
          rw [hsplit, hend, hfront, List.append_nil, List.append_nil]
        · exact Or.inr (Or.inr ⟨inner, rest, hinner, hend, hsplit, ⟨before, hfront.symm⟩,
            ⟨after, hback.symm⟩⟩)
    · refine Or.inr (Or.inl ⟨inner, after, ?_⟩)
      rw [hback, hrest]

section
variable {front back pattern : String}

theorem contains_append_iff (h : ∀ first second, first ≠ [] → second ≠ [] →
      pattern.toList = first ++ second → first <:+ front.toList → ¬ second <+: back.toList) :
    contains (front ++ back) pattern = true
      ↔ contains front pattern = true ∨ contains back pattern = true := by
  constructor
  · intro hcontains
    have hinfix : pattern.toList <:+: front.toList ++ back.toList := by
      rw [← String.toList_append]
      exact of_decide_eq_true hcontains
    rcases infix_append_cases hinfix with hfront | hback | ⟨first, second, hfirst, hsecond, heq, hleft,
      hright⟩
    · exact Or.inl (decide_eq_true hfront)
    · exact Or.inr (decide_eq_true hback)
    · exact absurd hright (h first second hfirst hsecond heq hleft)
  · rintro (hfront | hback)
    · exact contains_append_left hfront back
    · exact contains_append_right hback front

theorem contains_append_of_ends
    (h : ∀ ending ∈ front.toList.tails, ending ≠ [] → ¬ ending <+: pattern.toList) :
    contains (front ++ back) pattern = true
      ↔ contains front pattern = true ∨ contains back pattern = true :=
  contains_append_iff fun first second hfirst _ heq hleft _ =>
    h first ((List.mem_tails first _).mpr hleft) hfirst ⟨second, heq.symm⟩

theorem contains_append_of_head {c : Char} (hback : back.toList.head? = some c)
    (hc : c ∉ pattern.toList) :
    contains (front ++ back) pattern = true
      ↔ contains front pattern = true ∨ contains back pattern = true := by
  refine contains_append_iff fun first second _ hsecond heq _ hright => ?_
  cases second with
  | nil => exact hsecond rfl
  | cons d rest =>
      obtain ⟨more, hmore⟩ := hright
      rw [← hmore, List.cons_append, List.head?_cons] at hback
      obtain rfl : d = c := Option.some.inj hback
      exact hc (heq ▸ List.mem_append_right first List.mem_cons_self)

theorem not_contains_of_mem {c : Char} {s pattern : String} (hpattern : c ∈ pattern.toList)
    (hs : c ∉ s.toList) : contains s pattern = false :=
  decide_eq_false fun h => hs (h.subset hpattern)

theorem contains_append_of_skip {c : Char} (hpattern : pattern.toList.head? = some c)
    (hc : c ∉ front.toList) : contains (front ++ back) pattern = contains back pattern := by
  have hmem : c ∈ pattern.toList := List.mem_of_mem_head? hpattern
  have hfront : contains front pattern ≠ true := fun h => hc ((of_decide_eq_true h).subset hmem)
  refine Bool.eq_iff_iff.mpr ((contains_append_iff fun first second hfirst _ heq hleft _ => ?_).trans
    (or_iff_right hfront))
  cases first with
  | nil => exact hfirst rfl
  | cons d rest =>
      rw [heq, List.cons_append, List.head?_cons] at hpattern
      obtain rfl : d = c := Option.some.inj hpattern
      exact hc (hleft.subset List.mem_cons_self)

theorem exists_head? (hne : pattern ≠ "") : ∃ c, pattern.toList.head? = some c := by
  cases hpattern : pattern.toList with
  | nil => exact absurd (String.toList_inj.mp hpattern) hne
  | cons c rest => exact ⟨c, rfl⟩

theorem contains_append_of_strange (hne : pattern ≠ "")
    (hback : ∀ c ∈ pattern.toList, c ∉ back.toList) :
    contains (front ++ back) pattern = contains front pattern := by
  obtain ⟨c, hc⟩ := exists_head? hne
  have hmem : c ∈ pattern.toList := List.mem_of_mem_head? hc
  have hnot : contains back pattern ≠ true := fun h =>
    hback c hmem ((of_decide_eq_true h).subset hmem)
  refine Bool.eq_iff_iff.mpr ((contains_append_iff fun first second _ hsecond heq _ hright => ?_).trans
    (or_iff_left hnot))
  obtain ⟨d, rest, rfl⟩ := List.exists_cons_of_ne_nil hsecond
  exact hback d (heq ▸ List.mem_append_right first List.mem_cons_self)
    (hright.subset List.mem_cons_self)

theorem contains_trim_of_visible (s : String) (hne : pattern ≠ "")
    (hvisible : ∀ c ∈ pattern.toList, isWhitespace c = false) :
    contains (trim s) pattern = contains s pattern := by
  obtain ⟨space, space', hspace, hspace', heq⟩ := trim_infix s
  have hstrange : ∀ {t : String}, IsSpace t → ∀ c ∈ pattern.toList, c ∉ t.toList := by
    intro t ht c hc hmem
    exact Bool.false_ne_true ((hvisible c hc).symm.trans (ht c hmem))
  obtain ⟨c, hc⟩ := exists_head? hne
  calc contains (trim s) pattern = contains (space ++ trim s) pattern :=
        (contains_append_of_skip hc (hstrange hspace c (List.mem_of_mem_head? hc))).symm
    _ = contains (space ++ trim s ++ space') pattern :=
        (contains_append_of_strange hne (hstrange hspace')).symm
    _ = contains s pattern := by rw [heq]

theorem contains_join_iff {separator : String} {parts : List String} (hne : pattern ≠ "")
    (hsome : separator ≠ "") (hseparator : ∀ c ∈ pattern.toList, c ∉ separator.toList) :
    contains (join separator parts) pattern = true ↔
      ∃ part ∈ parts, contains part pattern = true := by
  induction parts with
  | nil =>
      rw [join_nil, contains_empty hne]
      simp
  | cons part parts ih =>
      by_cases hparts : parts = []
      · rw [hparts, join_singleton]
        simp
      · obtain ⟨c, hc⟩ := exists_head? hne
        obtain ⟨d, hd⟩ := exists_head? hsome
        have hhead : (separator ++ join separator parts).toList.head? = some d := by
          rw [String.toList_append, List.head?_append, hd]
          rfl
        have hnot : d ∉ pattern.toList := fun hmem =>
          hseparator d hmem (List.mem_of_mem_head? hd)
        rw [join_cons part hparts, String.append_assoc, contains_append_of_head hhead hnot,
          contains_append_of_skip hc (hseparator c (List.mem_of_mem_head? hc)), ih]
        simp

end

end Text

import SheaSymphony.Occurrences
import SheaSymphony.Pieces

/-!
# Text between two marks

A block is a text between a start mark and the first end mark behind it, each on a line of
its own. A mark is found where it is written (`cut_eq_some_iff`), so the first block of a text is
known by how the text is composed (`firstBlock_eq_some_iff`). An update writes a block in the place of
the first one, or behind the text. It is idempotent only on a text with a block
(`updateBlock_idempotent_iff`), and it leaves the lines around the block alone only where there are
none (`solidLines_replaced_iff`).
-/

namespace Text

/-! ## Visible ends -/

def BeginsVisible (s : String) : Prop := ∃ c rest, s.toList = c :: rest ∧ isWhitespace c = false

def EndsVisible (s : String) : Prop := ∃ init c, s.toList = init ++ [c] ∧ isWhitespace c = false

theorem BeginsVisible.append {s : String} (h : BeginsVisible s) (t : String) : BeginsVisible (s ++ t) := by
  obtain ⟨c, rest, hs, hc⟩ := h
  exact ⟨c, rest ++ t.toList, by rw [String.toList_append, hs, List.cons_append], hc⟩

theorem EndsVisible.append {t : String} (h : EndsVisible t) (s : String) : EndsVisible (s ++ t) := by
  obtain ⟨init, c, ht, hc⟩ := h
  exact ⟨s.toList ++ init, c, by rw [String.toList_append, ht, List.append_assoc], hc⟩

theorem EndsVisible.ne_empty {s : String} (h : EndsVisible s) : s ≠ "" := by
  rintro rfl
  obtain ⟨init, c, hs, -⟩ := h
  cases init <;> cases hs

theorem EndsVisible.trimEnd {s : String} (h : EndsVisible s) : trimEnd s = s := by
  obtain ⟨init, c, hs, hc⟩ := h
  rw [Text.trimEnd, hs, List.rdropWhile_concat_neg _ _ _ (by simp [hc]), ← hs, String.ofList_toList]

theorem trimStart_append_visible {t : String} (h : BeginsVisible t) (s : String) :
    trimStart (s ++ t) = trimStart s ++ t := by
  obtain ⟨c, rest, ht, hc⟩ := h
  have htrim : t.toList.dropWhile isWhitespace = t.toList := by
    rw [ht, List.dropWhile_cons_of_neg (by simp [hc])]
  rw [← String.toList_inj, String.toList_append, trimStart, trimStart, String.toList_ofList,
    String.toList_ofList, String.toList_append, List.dropWhile_append, htrim]
  split
  · next hempty => rw [List.isEmpty_iff.mp hempty, List.nil_append]
  · rfl

theorem trimStart_append_of_not_isSpace {s : String} (h : ¬ IsSpace s) (t : String) :
    trimStart (s ++ t) = trimStart s ++ t := by
  rw [← String.toList_inj, String.toList_append, trimStart, trimStart, String.toList_ofList,
    String.toList_ofList, String.toList_append, List.dropWhile_append, if_neg]
  rw [List.isEmpty_iff, List.dropWhile_eq_nil_iff]
  exact h

theorem trimStart_eq_empty_iff {s : String} : trimStart s = "" ↔ IsSpace s := by
  rw [trimStart, ← String.toList_inj, String.toList_ofList]
  exact List.dropWhile_eq_nil_iff

theorem trimEnd_eq_empty_iff {s : String} : trimEnd s = "" ↔ IsSpace s := by
  rw [trimEnd, ← String.toList_inj, String.toList_ofList]
  exact List.rdropWhile_eq_nil_iff

theorem endsVisible_trimEnd {s : String} (h : ¬ IsSpace s) : EndsVisible (trimEnd s) := by
  have hne : s.toList.rdropWhile isWhitespace ≠ [] := by
    intro hnil
    exact h (trimEnd_eq_empty_iff.mp (by rw [trimEnd, hnil]))
  have hvisible := List.rdropWhile_last_not _ _ hne
  refine ⟨(s.toList.rdropWhile isWhitespace).dropLast, (s.toList.rdropWhile isWhitespace).getLast hne,
    ?_, by simpa using hvisible⟩
  rw [trimEnd, String.toList_ofList, List.dropLast_append_getLast]

theorem beginsVisible_trimStart {s : String} (h : ¬ IsSpace s) : BeginsVisible (trimStart s) := by
  have hne : s.toList.dropWhile isWhitespace ≠ [] := by
    intro hnil
    exact h (trimStart_eq_empty_iff.mp (by rw [trimStart, hnil]))
  refine ⟨(s.toList.dropWhile isWhitespace).head hne, (s.toList.dropWhile isWhitespace).tail,
    ?_, List.head_dropWhile_not isWhitespace hne⟩
  rw [trimStart, String.toList_ofList, List.cons_head_tail]

@[simp] theorem trimEnd_trimEnd (s : String) : trimEnd (trimEnd s) = trimEnd s := by
  by_cases h : IsSpace s
  · rw [trimEnd_eq_empty_iff.mpr h]
    rfl
  · exact (endsVisible_trimEnd h).trimEnd

@[simp] theorem trimStart_trimStart (s : String) : trimStart (trimStart s) = trimStart s := by
  by_cases h : IsSpace s
  · rw [trimStart_eq_empty_iff.mpr h]
    rfl
  · have hblank := trimStart_append_visible (beginsVisible_trimStart h) ""
    rw [String.empty_append] at hblank
    rw [hblank]
    exact String.empty_append

/-! ## Lines of a sum -/

section
variable {front back : String}

theorem solidLines_append_feed (front back : String) :
    solidLines (front ++ "\n" ++ back) = solidLines front ++ solidLines back := by
  rw [solidLines_eq, solidLines_eq, solidLines_eq, terminated_append, solid_append]

@[simp] theorem solidLines_trimEnd (s : String) : solidLines (trimEnd s) = solidLines s := by
  rw [solidLines_eq, solid_blockwise.trimEnd, ← solidLines_eq]

@[simp] theorem solidLines_trimStart (s : String) : solidLines (trimStart s) = solidLines s := by
  rw [solidLines_eq, solid_blockwise.trimStart, ← solidLines_eq]

theorem solidLines_of_isSpace {s : String} (h : IsSpace s) : solidLines s = [] := by
  rw [← solidLines_trim, trim_of_isSpace h, solidLines_empty]

theorem length_solidLines_of_isLine {line : String} (h : IsLine line) (hvisible : ¬ IsSpace line) :
    (solidLines line).length = 1 := by
  have hne : trim (chomp line) ≠ "" := by
    rw [trim_chomp]
    exact fun hempty => hvisible (isSpace_of_trim_eq hempty)
  rw [solidLines_eq, terminated, splitChar_of_isLine h, List.map_singleton, solid_cons [] hne,
    solid_nil, List.length_singleton]

theorem BeginsVisible.not_isSpace {s : String} (h : BeginsVisible s) : ¬ IsSpace s := by
  obtain ⟨c, rest, hs, hc⟩ := h
  intro hspace
  exact Bool.false_ne_true (hc.symm.trans (hspace c (hs ▸ List.mem_cons_self)))

theorem EndsVisible.not_isSpace {s : String} (h : EndsVisible s) : ¬ IsSpace s := by
  obtain ⟨init, c, hs, hc⟩ := h
  intro hspace
  exact Bool.false_ne_true (hc.symm.trans (hspace c (hs ▸ by simp)))

theorem exists_first_line (s : String) :
    IsLine s ∨ ∃ line rest, IsLine line ∧ s = line ++ "\n" ++ rest := by
  by_cases hfeed : '\n' ∈ s.toList
  · obtain ⟨line, rest, hs, hline⟩ := List.eq_append_cons_of_mem hfeed
    refine Or.inr ⟨String.ofList line, String.ofList rest, ?_, ?_⟩
    · rwa [IsLine, String.toList_ofList]
    · rw [← String.toList_inj, hs]
      simp [String.toList_append]
  · exact Or.inl hfeed

theorem exists_last_line (s : String) :
    IsLine s ∨ ∃ rest line, IsLine line ∧ s = rest ++ "\n" ++ line := by
  by_cases hfeed : '\n' ∈ s.toList
  · obtain ⟨line, rest, hs, hline⟩ := List.eq_append_cons_of_mem (List.mem_reverse.mpr hfeed)
    refine Or.inr ⟨String.ofList rest.reverse, String.ofList line.reverse, ?_, ?_⟩
    · rw [IsLine, String.toList_ofList, List.mem_reverse]
      exact hline
    · rw [← String.toList_inj, ← List.reverse_reverse s.toList, hs]
      simp [String.toList_append]
  · exact Or.inl hfeed

theorem length_solidLines_append (hfront : EndsVisible front) (hback : BeginsVisible back) :
    (solidLines (front ++ back)).length + 1
      = (solidLines front).length + (solidLines back).length := by
  have hseam : ∀ {line next : String}, IsLine line → IsLine next → EndsVisible line →
      (solidLines (line ++ next)).length = 1 := by
    intro line next hline hnext hvisible
    refine length_solidLines_of_isLine ?_ ?_
    · rw [IsLine, String.toList_append, List.mem_append]
      exact fun h => h.elim hline hnext
    · intro hspace
      refine hvisible.not_isSpace fun c hc => hspace c ?_
      rw [String.toList_append]
      exact List.mem_append_left _ hc
  have hend : ∀ {rest line : String}, front = rest ++ "\n" ++ line → EndsVisible line := by
    rintro rest line rfl
    obtain ⟨init, c, hchars, hc⟩ := hfront
    rcases List.eq_nil_or_concat line.toList with hnil | ⟨before, d, hd⟩
    · rw [String.toList_append, String.toList_append, hnil, List.append_nil] at hchars
      obtain ⟨-, hfeed⟩ := List.append_inj' hchars rfl
      obtain rfl : '\n' = c := List.singleton_inj.mp hfeed
      cases hc
    · rw [List.concat_eq_append] at hd
      rw [String.toList_append, hd, ← List.append_assoc] at hchars
      obtain ⟨-, hlast⟩ := List.append_inj' hchars rfl
      exact ⟨before, d, hd, List.singleton_inj.mp hlast ▸ hc⟩
  have hstart : ∀ {line rest : String}, back = line ++ "\n" ++ rest → BeginsVisible line := by
    rintro line rest rfl
    obtain ⟨c, more, hchars, hc⟩ := hback
    cases hline : line.toList with
    | nil =>
        rw [String.toList_append, String.toList_append, hline, List.nil_append] at hchars
        obtain ⟨rfl, -⟩ := List.cons.inj hchars
        cases hc
    | cons d before =>
        rw [String.toList_append, String.toList_append, hline, List.cons_append, List.cons_append]
          at hchars
        exact ⟨d, before, hline, (List.cons.inj hchars).1 ▸ hc⟩
  have hone : ∀ {line : String}, IsLine line → ¬ IsSpace line → (solidLines line).length = 1 :=
    length_solidLines_of_isLine
  rcases exists_last_line front with hline | ⟨rest, line, hline, heq⟩ <;>
    rcases exists_first_line back with hnext | ⟨next, more, hnext, hmore⟩
  · rw [hseam hline hnext hfront, hone hline hfront.not_isSpace, hone hnext hback.not_isSpace]
  · have hfirst := hstart hmore
    subst hmore
    rw [← String.append_assoc, ← String.append_assoc, solidLines_append_feed, solidLines_append_feed,
      List.length_append, List.length_append, hseam hline hnext hfront, hone hline hfront.not_isSpace,
      hone hnext hfirst.not_isSpace]
    omega
  · have hlast := hend heq
    subst heq
    rw [String.append_assoc, solidLines_append_feed, solidLines_append_feed,
      List.length_append, List.length_append, hseam hline hnext hlast, hone hline hlast.not_isSpace,
      hone hnext hback.not_isSpace]
  · have hlast := hend heq
    have hfirst := hstart hmore
    have hsum : front ++ back = rest ++ "\n" ++ (line ++ next ++ "\n" ++ more) := by
      rw [heq, hmore]
      simp only [String.append_assoc]
    rw [hsum, heq, hmore, solidLines_append_feed, solidLines_append_feed, solidLines_append_feed,
      solidLines_append_feed]
    simp only [List.length_append]
    rw [hseam hline hnext hlast, hone hline hlast.not_isSpace, hone hnext hfirst.not_isSpace]
    omega

theorem length_solidLines_trimEnd_append_le (front : String) (hback : BeginsVisible back) :
    (solidLines (trimEnd front ++ back)).length ≤ (solidLines front).length + (solidLines back).length := by
  by_cases h : IsSpace front
  · rw [trimEnd_eq_empty_iff.mpr h, String.empty_append]
    exact Nat.le_add_left _ _
  · have hsum := length_solidLines_append (endsVisible_trimEnd h) hback
    rw [solidLines_trimEnd] at hsum
    omega

theorem length_solidLines_append_trimStart_le (hfront : EndsVisible front) (back : String) :
    (solidLines (front ++ trimStart back)).length ≤ (solidLines front).length + (solidLines back).length := by
  by_cases h : IsSpace back
  · rw [trimStart_eq_empty_iff.mpr h, String.append_empty]
    exact Nat.le_add_right _ _
  · have hsum := length_solidLines_append hfront (beginsVisible_trimStart h)
    rw [solidLines_trimStart] at hsum
    omega

end

/-! ## Marks -/

/-- A mark stands within a line, and its first character does not come again in it. -/
structure IsMark (mark : String) : Prop where
  sharp : ∃ c rest, mark.toList = c :: rest ∧ c ∉ rest
  isLine : IsLine mark
  begins : BeginsVisible mark
  ends : EndsVisible mark

theorem IsMark.of_comment {mark : String} (text : List Char)
    (hmark : mark.toList = '<' :: (text ++ ['>'])) (h : '<' ∉ text ∧ '\n' ∉ text) :
    IsMark mark where
  sharp := ⟨'<', text ++ ['>'], hmark, by simpa using h.1⟩
  isLine := by
    show '\n' ∉ mark.toList
    simpa [hmark] using h.2
  begins := ⟨'<', text ++ ['>'], hmark, by decide⟩
  ends := ⟨'<' :: text, '>', hmark, by decide⟩

theorem cutList_append_sharp {c : Char} {rest before : List Char} (hsharp : c ∉ rest)
    (h : ¬ c :: rest <:+: before) (after : List Char) :
    cutList (c :: rest) (before ++ (c :: rest ++ after)) = some (before, after) := by
  induction before with
  | nil =>
      have hfound : (c :: rest).isPrefixOf (c :: (rest ++ after)) = true :=
        List.isPrefixOf_iff_prefix.mpr (List.prefix_append (c :: rest) after)
      rw [List.nil_append, List.cons_append, cutList, if_pos hfound, ← List.cons_append,
        List.drop_left]
  | cons d before ih =>
      rw [List.infix_cons_iff, not_or] at h
      have hnot : ¬ (c :: rest).isPrefixOf (d :: (before ++ (c :: rest ++ after))) = true := by
        rw [List.isPrefixOf_iff_prefix, ← List.cons_append]
        intro hfound
        rcases List.prefix_or_prefix_of_prefix hfound (List.prefix_append (d :: before) _) with
          hshort | ⟨more, hmore⟩
        · exact h.1 hshort
        · -- What goes beyond the text in front would begin with the first character again.
          rw [← hmore, List.prefix_append_right_inj] at hfound
          rw [List.cons_append] at hmore
          obtain ⟨rfl, hrest⟩ := List.cons.inj hmore
          cases more with
          | nil =>
              refine h.1 ?_
              rw [← hrest, List.append_nil]
          | cons e more =>
              obtain ⟨rfl, -⟩ := List.cons_prefix_cons.mp hfound
              exact hsharp (hrest ▸ List.mem_append_right _ List.mem_cons_self)
      rw [List.cons_append, cutList, if_neg hnot, ih h.2]
      rfl

section
variable {mark : String}

theorem IsMark.ne_empty (hmark : IsMark mark) : mark ≠ "" := hmark.ends.ne_empty

theorem cut_eq_some_iff (hmark : IsMark mark) {s before after : String} :
    cut s mark = some (before, after) ↔ s = before ++ mark ++ after ∧ contains before mark = false := by
  constructor
  · intro h
    refine ⟨(cut_eq_some h).symm, ?_⟩
    obtain ⟨⟨front, back⟩, hcut, hpair⟩ := Option.map_eq_some_iff.mp h
    obtain ⟨rfl, rfl⟩ := Prod.mk.inj hpair
    have hne : mark.toList ≠ [] := fun hnil => hmark.ne_empty (String.toList_inj.mp hnil)
    rw [contains, String.toList_ofList]
    exact decide_eq_false (not_infix_of_cutList hne hcut)
  · rintro ⟨rfl, hbefore⟩
    obtain ⟨c, rest, hchars, hsharp⟩ := hmark.sharp
    have hnot : ¬ c :: rest <:+: before.toList := by
      rw [← hchars]
      exact of_decide_eq_false hbefore
    rw [cut, String.toList_append, String.toList_append, List.append_assoc, hchars,
      cutList_append_sharp hsharp hnot, Option.map_some]
    dsimp only
    rw [String.ofList_toList, String.ofList_toList]

theorem cut_eq_none_iff (hne : mark ≠ "") {s : String} : cut s mark = none ↔ contains s mark = false := by
  rw [cut, Option.map_eq_none_iff,
    cutList_eq_none_iff fun hnil => hne (String.toList_inj.mp hnil)]
  exact decide_eq_false_iff_not.symm

theorem contains_append_line (hmark : IsMark mark) (s t : String) :
    contains (s ++ "\n" ++ t) mark = false ↔ contains s mark = false ∧ contains t mark = false := by
  constructor
  · intro h
    constructor
    · by_contra hs
      rw [contains_append_left (contains_append_left (Bool.not_eq_false _ ▸ hs) "\n") t] at h
      cases h
    · by_contra ht
      rw [contains_append_right (Bool.not_eq_false _ ▸ ht)] at h
      cases h
  · rintro ⟨hs, ht⟩
    by_contra h
    rcases contains_line hmark.isLine (Bool.not_eq_false _ ▸ h) with hfound | hfound
    · rw [hs] at hfound
      cases hfound
    · rw [ht] at hfound
      cases hfound

theorem not_contains_trimEnd {s : String} (h : contains s mark = false) :
    contains (trimEnd s) mark = false := by
  by_contra hfound
  have hwithin : mark.toList <:+: (trimEnd s).toList := of_decide_eq_true (Bool.not_eq_false _ ▸ hfound)
  exact of_decide_eq_false h (hwithin.trans (trimEnd_isPrefix s).isInfix)

theorem append_mark_inj (hmark : IsMark mark) {a b x y : String} (ha : contains a mark = false)
    (hb : contains b mark = false) (h : a ++ mark ++ x = b ++ mark ++ y) : a = b ∧ x = y := by
  have hcut : cut (a ++ mark ++ x) mark = some (a, x) := (cut_eq_some_iff hmark).mpr ⟨rfl, ha⟩
  rw [h, (cut_eq_some_iff hmark).mpr ⟨rfl, hb⟩] at hcut
  obtain ⟨hfront, hback⟩ := Prod.mk.inj (Option.some.inj hcut)
  exact ⟨hfront.symm, hback.symm⟩

theorem exists_before_first (hmark : IsMark mark) (text : String) : ∃ front rest,
    text ++ mark = front ++ mark ++ rest ∧ contains front mark = false ∧
      (contains text mark = false → front = text ∧ rest = "") ∧
      (contains text mark = true → EndsVisible rest) := by
  cases hcut : cut text mark with
  | none =>
      have hnot := (cut_eq_none_iff hmark.ne_empty).mp hcut
      refine ⟨text, "", String.append_empty.symm, hnot, fun _ => ⟨rfl, rfl⟩, fun h => ?_⟩
      rw [hnot] at h
      cases h
  | some parts =>
      obtain ⟨before, after⟩ := parts
      obtain ⟨rfl, hbefore⟩ := (cut_eq_some_iff hmark).mp hcut
      refine ⟨before, after ++ mark, by simp only [String.append_assoc], hbefore, fun h => ?_,
        fun _ => hmark.ends.append after⟩
      rw [contains_append_left (contains_append_right (contains_self mark) before)] at h
      cases h

end

/-! ## Blocks -/

/-- What stands before the first block, in it and behind it. -/
def firstBlock (start stop s : String) : Option (String × String × String) := do
  let (before, rest) ← cut s start
  let (inner, behind) ← cut rest stop
  return (before, inner, behind)

def block (start stop text : String) : String := start ++ "\n" ++ text ++ "\n" ++ stop

/-- The block takes the place of the first one, or stands behind the text. -/
def updateBlock (start stop text s : String) : String :=
  match firstBlock start stop s with
  | some (before, _, behind) => trimEnd before ++ block start stop text ++ trimStart behind
  | none => trimEnd s ++ "\n\n" ++ block start stop text

section
variable {start stop : String} (hstart : IsMark start) (hstop : IsMark stop)
include hstart hstop

theorem firstBlock_eq_some_iff {s before inner behind : String} :
    firstBlock start stop s = some (before, inner, behind) ↔
      s = before ++ start ++ (inner ++ stop ++ behind) ∧ contains before start = false
        ∧ contains inner stop = false := by
  constructor
  · intro h
    obtain ⟨⟨front, rest⟩, hcut, hrest⟩ := Option.bind_eq_some_iff.mp h
    obtain ⟨⟨inside, back⟩, hinside, hpair⟩ := Option.bind_eq_some_iff.mp hrest
    cases hpair
    obtain ⟨rfl, hbefore⟩ := (cut_eq_some_iff hstart).mp hcut
    obtain ⟨rfl, hinner⟩ := (cut_eq_some_iff hstop).mp hinside
    exact ⟨rfl, hbefore, hinner⟩
  · rintro ⟨rfl, hbefore, hinner⟩
    rw [firstBlock, (cut_eq_some_iff hstart).mpr ⟨rfl, hbefore⟩, Option.bind_eq_bind,
      Option.bind_some]
    dsimp only
    rw [(cut_eq_some_iff hstop).mpr ⟨rfl, hinner⟩]
    rfl

theorem firstBlock_eq_none {s : String} (h : firstBlock start stop s = none) :
    contains s start = false ∨ ∃ before rest, s = before ++ start ++ rest ∧
      contains before start = false ∧ contains rest stop = false := by
  cases hcut : cut s start with
  | none => exact Or.inl ((cut_eq_none_iff hstart.ne_empty).mp hcut)
  | some parts =>
      obtain ⟨before, rest⟩ := parts
      obtain ⟨hs, hbefore⟩ := (cut_eq_some_iff hstart).mp hcut
      refine Or.inr ⟨before, rest, hs, hbefore, (cut_eq_none_iff hstop.ne_empty).mp ?_⟩
      rw [firstBlock, hcut, Option.bind_eq_bind, Option.bind_some] at h
      dsimp only at h
      cases hrest : cut rest stop with
      | none => rfl
      | some inner =>
          rw [hrest] at h
          cases h

end

section
variable {start stop : String} {text s before inner behind : String}

theorem updateBlock_of_firstBlock (h : firstBlock start stop s = some (before, inner, behind)) :
    updateBlock start stop text s = trimEnd before ++ block start stop text ++ trimStart behind := by
  rw [updateBlock, h]

theorem updateBlock_of_none (h : firstBlock start stop s = none) :
    updateBlock start stop text s = trimEnd s ++ "\n\n" ++ block start stop text := by
  rw [updateBlock, h]

variable (stop text) in
theorem beginsVisible_block (hstart : IsMark start) : BeginsVisible (block start stop text) := by
  rw [block, String.append_assoc, String.append_assoc, String.append_assoc]
  exact hstart.begins.append _

variable (start text) in
theorem endsVisible_block (hstop : IsMark stop) : EndsVisible (block start stop text) :=
  hstop.ends.append _

theorem contains_text_feed (hstop : IsMark stop) :
    contains (text ++ "\n") stop = contains text stop := by
  have hiff := contains_append_line hstop text ""
  rw [String.append_empty] at hiff
  cases htext : contains text stop with
  | false => exact hiff.mpr ⟨htext, contains_empty hstop.ne_empty⟩
  | true => exact contains_append_left htext _

theorem updateBlock_again_iff (hstart : IsMark start) (hstop : IsMark stop)
    (h : firstBlock start stop s = some (before, inner, behind)) :
    updateBlock start stop text (updateBlock start stop text s) = updateBlock start stop text s ↔
      contains text stop = false := by
  obtain ⟨-, hbefore, -⟩ := (firstBlock_eq_some_iff hstart hstop).mp h
  obtain ⟨front, rest, hsplit, hfront, hwhole, hcut⟩ := exists_before_first hstop (text ++ "\n")
  rw [contains_text_feed hstop] at hwhole hcut
  have hagain : firstBlock start stop (trimEnd before ++ block start stop text ++ trimStart behind)
      = some (trimEnd before, "\n" ++ front, rest ++ trimStart behind) := by
    refine (firstBlock_eq_some_iff hstart hstop).mpr ⟨?_, not_contains_trimEnd hbefore, ?_⟩
    · calc trimEnd before ++ block start stop text ++ trimStart behind
          = trimEnd before ++ start ++ "\n" ++ (text ++ "\n" ++ stop) ++ trimStart behind := by
            simp only [block, String.append_assoc]
        _ = _ := by
            rw [hsplit]
            simp only [String.append_assoc]
    · have hline := contains_append_line hstop "" front
      rw [String.empty_append] at hline
      exact hline.mpr ⟨contains_empty hstop.ne_empty, hfront⟩
  rw [updateBlock_of_firstBlock h, updateBlock_of_firstBlock hagain, trimEnd_trimEnd,
    String.append_right_inj]
  constructor
  · intro hsame
    by_contra hshown
    have hvisible := (hcut (Bool.not_eq_false _ ▸ hshown)).not_isSpace
    rw [trimStart_append_of_not_isSpace hvisible] at hsame
    refine hvisible (trimStart_eq_empty_iff.mp ?_)
    rwa [← String.empty_append (s := trimStart behind), ← String.append_assoc,
      String.append_left_inj, String.append_empty] at hsame
  · intro hnone
    rw [(hwhole hnone).2, String.empty_append, trimStart_trimStart]

theorem updateBlock_again_ne (hstart : IsMark start) (hstop : IsMark stop)
    (hapart : contains start stop = false) (h : firstBlock start stop s = none) :
    updateBlock start stop text (updateBlock start stop text s) ≠ updateBlock start stop text s := by
  obtain ⟨front, rest, hsplit, hfront, -, -⟩ := exists_before_first hstop (text ++ "\n")
  have hempty : contains "" stop = false := contains_empty hstop.ne_empty
  rw [updateBlock_of_none h]
  rcases firstBlock_eq_none hstart hstop h with hnone | ⟨before, more, rfl, hbefore, hmore⟩
  · have hagain : firstBlock start stop (trimEnd s ++ "\n\n" ++ block start stop text)
        = some (trimEnd s ++ "\n\n", "\n" ++ front, rest) := by
      refine (firstBlock_eq_some_iff hstart hstop).mpr ⟨?_, ?_, ?_⟩
      · calc trimEnd s ++ "\n\n" ++ block start stop text
            = trimEnd s ++ "\n\n" ++ start ++ "\n" ++ (text ++ "\n" ++ stop) := by
              simp only [block, String.append_assoc]
          _ = _ := by
              rw [hsplit]
              simp only [String.append_assoc]
      · have hblank := blank_line_eq (trimEnd s) ""
        rw [String.append_empty] at hblank
        rw [hblank]
        have hnil : contains "" start = false := contains_empty hstart.ne_empty
        exact (contains_append_line hstart _ _).mpr ⟨not_contains_trimEnd hnone,
          (contains_append_line hstart "" "").mpr ⟨hnil, hnil⟩⟩
      · have hline := contains_append_line hstop "" front
        rw [String.empty_append] at hline
        exact hline.mpr ⟨hempty, hfront⟩
    have hfeeds : trimEnd "\n\n" = "" := by decide
    rw [updateBlock_of_firstBlock hagain, trimEnd_append, if_pos hfeeds, trimEnd_trimEnd,
      String.append_assoc, String.append_assoc, ne_eq, String.append_right_inj]
    obtain ⟨c, more, hchars, hc⟩ := beginsVisible_block stop text hstart
    intro hsame
    have hhead := congrArg (fun s => s.toList.head?) hsame
    simp only [String.toList_append, hchars] at hhead
    obtain rfl : c = '\n' := Option.some.inj hhead
    cases hc
  · have hkept : trimEnd (before ++ start ++ more) = before ++ start ++ trimEnd more :=
      trimEnd_append_of_trimEnd (hstart.ends.append before).trimEnd more
    have hinside : contains (trimEnd more ++ "\n\n" ++ (start ++ "\n" ++ front)) stop = false := by
      rw [blank_line_eq]
      exact (contains_append_line hstop _ _).mpr ⟨not_contains_trimEnd hmore,
        (contains_append_line hstop _ _).mpr ⟨hempty,
          (contains_append_line hstop _ _).mpr ⟨hapart, hfront⟩⟩⟩
    have hcomposed : before ++ start ++ trimEnd more ++ "\n\n" ++ block start stop text
        = before ++ start ++ (trimEnd more ++ "\n\n" ++ (start ++ "\n" ++ front) ++ stop ++ rest) := by
      calc before ++ start ++ trimEnd more ++ "\n\n" ++ block start stop text
          = before ++ start ++ trimEnd more ++ "\n\n" ++ start ++ "\n" ++ (text ++ "\n" ++ stop) := by
            simp only [block, String.append_assoc]
        _ = _ := by
            rw [hsplit]
            simp only [String.append_assoc]
    have hagain := (firstBlock_eq_some_iff hstart hstop).mpr ⟨hcomposed, hbefore, hinside⟩
    rw [hkept, updateBlock_of_firstBlock hagain, hcomposed]
    intro hsame
    have hreplaced : trimEnd before ++ block start stop text ++ trimStart rest
        = trimEnd before ++ start ++ ("\n" ++ front ++ stop ++ (rest ++ trimStart rest)) := by
      calc trimEnd before ++ block start stop text ++ trimStart rest
          = trimEnd before ++ start ++ "\n" ++ (text ++ "\n" ++ stop) ++ trimStart rest := by
            simp only [block, String.append_assoc]
        _ = _ := by
            rw [hsplit]
            simp only [String.append_assoc]
    rw [hreplaced] at hsame
    obtain ⟨-, htail⟩ := append_mark_inj hstart (not_contains_trimEnd hbefore) hbefore hsame
    have hline := contains_append_line hstop "" front
    rw [String.empty_append] at hline
    obtain ⟨hlong, -⟩ := append_mark_inj hstop (hline.mpr ⟨hempty, hfront⟩) hinside htail
    have hlength := congrArg String.length hlong
    simp only [String.length_append] at hlength
    have hfeeds : ("\n\n" : String).length = 2 := rfl
    omega

theorem updateBlock_idempotent_iff (hstart : IsMark start) (hstop : IsMark stop)
    (hapart : contains start stop = false) :
    updateBlock start stop text (updateBlock start stop text s) = updateBlock start stop text s ↔
      (firstBlock start stop s).isSome ∧ contains text stop = false := by
  cases h : firstBlock start stop s with
  | none =>
      refine ⟨fun hsame => absurd hsame (updateBlock_again_ne hstart hstop hapart h), fun hsome => ?_⟩
      cases hsome.1
  | some parts =>
      obtain ⟨before, inner, behind⟩ := parts
      rw [updateBlock_again_iff hstart hstop h]
      simp

theorem solidLines_replaced_iff (hstart : IsMark start) (hstop : IsMark stop) :
    solidLines (trimEnd before ++ block start stop text ++ trimStart behind)
        = solidLines before ++ solidLines (block start stop text) ++ solidLines behind ↔
      IsSpace before ∧ IsSpace behind := by
  have hbegins := beginsVisible_block stop text hstart
  have hends := endsVisible_block start text hstop
  constructor
  · intro h
    have hlength := congrArg List.length h
    rw [String.append_assoc, List.length_append, List.length_append] at hlength
    constructor
    · by_contra hvisible
      have hshared := length_solidLines_append (endsVisible_trimEnd hvisible)
        (hbegins.append (trimStart behind))
      rw [solidLines_trimEnd] at hshared
      have hrest := length_solidLines_append_trimStart_le hends behind
      omega
    · by_contra hvisible
      have hshared := length_solidLines_append hends (beginsVisible_trimStart hvisible)
      rw [solidLines_trimStart] at hshared
      have hrest := length_solidLines_trimEnd_append_le before (hbegins.append (trimStart behind))
      omega
  · rintro ⟨hbefore, hbehind⟩
    rw [trimEnd_eq_empty_iff.mpr hbefore, trimStart_eq_empty_iff.mpr hbehind,
      solidLines_of_isSpace hbefore, solidLines_of_isSpace hbehind, String.empty_append,
      String.append_empty, List.nil_append, List.append_nil]

end

end Text

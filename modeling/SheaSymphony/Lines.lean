import SheaSymphony.Text

/-!
# Lines and paragraphs

A text read line by line, as `str::lines` does, and written again from lines. What
a program computes from lines is often blind to the blank ends of the text and of
its first and last line: `Blockwise`. Such a function does not see whether the text
was trimmed, and it does not see how its last line ends, so that every line may be
taken as a terminated one (`terminated`), for which concatenation is simple.
-/

namespace Text

/-! ## Whitespace at the ends -/

def IsSpace (s : String) : Prop := ∀ c ∈ s.toList, isWhitespace c = true

variable {s : String} {line : String} {c : Char}

theorem visible_of_any (h : s.toList.any isWhitespace = false) :
    ∀ c ∈ s.toList, isWhitespace c = false := fun c hc =>
  Bool.eq_false_iff.mpr (List.any_eq_false.mp h c hc)

theorem isWhitespace_of_isDigit (h : c.isDigit = true) : isWhitespace c = false := by
  simp only [Char.isDigit, Bool.and_eq_true, decide_eq_true_eq, UInt32.le_iff_toNat_le] at h
  change 48 ≤ c.toNat ∧ c.toNat ≤ 57 at h
  simp only [isWhitespace, Bool.or_eq_false_iff, Bool.and_eq_false_iff, decide_eq_false_iff_not,
    beq_eq_false_iff_ne]
  omega

theorem isSpace_newline : IsSpace "\n" := by
  simp [IsSpace, isWhitespace]

theorem IsSpace.append {s t : String} (hs : IsSpace s) (ht : IsSpace t) : IsSpace (s ++ t) := by
  intro c hc
  rw [String.toList_append] at hc
  rcases List.mem_append.mp hc with hc | hc
  · exact hs c hc
  · exact ht c hc

/-- `trim` on characters. -/
def trimList (l : List Char) : List Char := (l.dropWhile isWhitespace).rdropWhile isWhitespace

theorem toList_trim (s : String) : (trim s).toList = trimList s.toList := String.toList_ofList

theorem trimList_space_append {space l : List Char} (h : ∀ c ∈ space, isWhitespace c = true) :
    trimList (space ++ l) = trimList l := by
  rw [trimList, List.dropWhile_append_of_pos h, trimList]

theorem rdropWhile_append_space {space l : List Char} (h : ∀ c ∈ space, isWhitespace c = true) :
    (l ++ space).rdropWhile isWhitespace = l.rdropWhile isWhitespace := by
  have hreverse : ∀ c ∈ space.reverse, isWhitespace c = true := fun c hc =>
    h c (List.mem_reverse.mp hc)
  rw [List.rdropWhile, List.reverse_append, List.dropWhile_append_of_pos hreverse, List.rdropWhile]

theorem trimList_append_space {space l : List Char} (h : ∀ c ∈ space, isWhitespace c = true) :
    trimList (l ++ space) = trimList l := by
  rw [trimList, trimList, List.dropWhile_append]
  split
  · next hempty =>
    have hspace : space.dropWhile isWhitespace = [] := List.dropWhile_eq_nil_iff.mpr h
    rw [List.isEmpty_iff.mp hempty, hspace]
  · exact rdropWhile_append_space h

theorem trim_space_append {space s : String} (h : IsSpace space) : trim (space ++ s) = trim s := by
  rw [← String.toList_inj, toList_trim, toList_trim, String.toList_append, trimList_space_append h]

theorem trim_append_space {space s : String} (h : IsSpace space) : trim (s ++ space) = trim s := by
  rw [← String.toList_inj, toList_trim, toList_trim, String.toList_append, trimList_append_space h]

theorem trim_of_isSpace (h : IsSpace s) : trim s = "" := by
  have hempty : trim ("" ++ s) = trim "" := trim_append_space h
  simpa [trim, trimMatches] using hempty

theorem trim_trimEnd (s : String) : trim (trimEnd s) = trim s := by
  have hsplit : s = trimEnd s ++ String.ofList (s.toList.rtakeWhile isWhitespace) := by
    rw [← String.toList_inj, String.toList_append, trimEnd, String.toList_ofList,
      String.toList_ofList, List.rdropWhile_append_rtakeWhile]
  have hspace : IsSpace (String.ofList (s.toList.rtakeWhile isWhitespace)) := by
    intro c hc
    rw [String.toList_ofList] at hc
    exact List.mem_rtakeWhile_imp hc
  conv_rhs => rw [hsplit]
  exact (trim_append_space hspace).symm

theorem isBlank_eq_false_iff :
    isBlank s = false ↔ ∃ c ∈ s.toList, isWhitespace c = false := by
  constructor
  · intro h
    by_contra hspace
    have hblank : trim s = "" := trim_of_isSpace (by simpa [IsSpace] using hspace)
    rw [isBlank, hblank] at h
    cases h
  · rintro ⟨c, hc, hvisible⟩
    by_contra h
    rw [Bool.not_eq_false, isBlank, List.isEmpty_iff, toList_trim, trimList,
      List.rdropWhile_eq_nil_iff] at h
    have hfront : s.toList.dropWhile isWhitespace = [] := by
      by_contra hne
      have hhead := List.head_dropWhile_not isWhitespace hne
      rw [h _ (List.head_mem hne)] at hhead
      cases hhead
    rw [List.dropWhile_eq_nil_iff.mp hfront c hc] at hvisible
    cases hvisible

theorem trimEnd_append (s t : String) :
    trimEnd (s ++ t) = if trimEnd t = "" then trimEnd s else s ++ trimEnd t := by
  have hlist : (s.toList ++ t.toList).rdropWhile isWhitespace =
      if t.toList.rdropWhile isWhitespace = [] then s.toList.rdropWhile isWhitespace
      else s.toList ++ t.toList.rdropWhile isWhitespace := by
    simp only [List.rdropWhile, List.reverse_append, List.dropWhile_append, List.isEmpty_iff,
      List.reverse_eq_nil_iff]
    split <;> simp
  have hempty : trimEnd t = "" ↔ t.toList.rdropWhile isWhitespace = [] := by
    rw [trimEnd, ← String.toList_inj, String.toList_ofList]
    rfl
  simp only [hempty]
  rw [trimEnd, String.toList_append, hlist]
  split
  · rfl
  · rw [String.ofList_append, String.ofList_toList, trimEnd]

/-! ## Occurrences -/

theorem contains_iff {s pattern : String} :
    contains s pattern = true ↔ ∃ front back, front ++ pattern ++ back = s := by
  rw [contains, decide_eq_true_iff]
  constructor
  · rintro ⟨front, back, h⟩
    refine ⟨String.ofList front, String.ofList back, ?_⟩
    rw [← String.toList_inj, String.toList_append, String.toList_append, String.toList_ofList,
      String.toList_ofList, h]
  · rintro ⟨front, back, rfl⟩
    exact ⟨front.toList, back.toList, by simp [String.toList_append]⟩

theorem contains_self (s : String) : contains s s = true :=
  contains_iff.mpr ⟨"", "", by simp⟩

theorem length_le_of_contains {s pattern : String} (h : contains s pattern = true) :
    pattern.toList.length ≤ s.toList.length :=
  (of_decide_eq_true h).length_le

theorem trimEnd_isPrefix (s : String) : (trimEnd s).toList <+: s.toList := by
  rw [trimEnd, String.toList_ofList]
  exact List.rdropWhile_prefix _ _

theorem contains_append_left {s pattern : String} (h : contains s pattern = true) (t : String) :
    contains (s ++ t) pattern = true := by
  obtain ⟨front, back, rfl⟩ := contains_iff.mp h
  exact contains_iff.mpr ⟨front, back ++ t, by simp only [String.append_assoc]⟩

theorem contains_append_right {t pattern : String} (h : contains t pattern = true) (s : String) :
    contains (s ++ t) pattern = true := by
  obtain ⟨front, back, rfl⟩ := contains_iff.mp h
  exact contains_iff.mpr ⟨s ++ front, back, by simp only [String.append_assoc]⟩

theorem contains_trimEnd {s pattern : String} (h : contains s pattern = true)
    (hpattern : trimEnd pattern = pattern) : contains (trimEnd s) pattern = true := by
  obtain ⟨front, back, rfl⟩ := contains_iff.mp h
  rw [trimEnd_append]
  split
  · rw [trimEnd_append, hpattern]
    split
    · next hempty =>
      rw [hempty]
      exact contains_iff.mpr ⟨"", trimEnd front, by simp⟩
    · exact contains_append_right (contains_self pattern) front
  · exact contains_append_left (contains_append_right (contains_self pattern) front) _

theorem cutList_eq_some {pattern l before after : List Char}
    (h : cutList pattern l = some (before, after)) : before ++ pattern ++ after = l := by
  induction l generalizing before after with
  | nil =>
      rw [cutList] at h
      split at h
      · next hempty =>
        obtain ⟨rfl, rfl⟩ := Prod.mk.inj (Option.some.inj h)
        rw [List.isEmpty_iff.mp hempty]
        rfl
      · cases h
  | cons c l ih =>
      rw [cutList] at h
      split at h
      · next hfront =>
        obtain ⟨rfl, rfl⟩ := Prod.mk.inj (Option.some.inj h)
        exact (List.prefix_iff_eq_append.mp (List.isPrefixOf_iff_prefix.mp hfront))
      · obtain ⟨⟨front, back⟩, hcut, hpair⟩ := Option.map_eq_some_iff.mp h
        obtain ⟨rfl, rfl⟩ := Prod.mk.inj hpair
        rw [List.cons_append, List.cons_append, ih hcut]

theorem cut_eq_some {s pattern before after : String} (h : cut s pattern = some (before, after)) :
    before ++ pattern ++ after = s := by
  obtain ⟨⟨front, back⟩, hcut, hpair⟩ := Option.map_eq_some_iff.mp h
  obtain ⟨rfl, rfl⟩ := Prod.mk.inj hpair
  rw [← String.toList_inj, String.toList_append, String.toList_append, String.toList_ofList,
    String.toList_ofList, cutList_eq_some hcut]

theorem trimEnd_append_of_trimEnd (h : trimEnd s = s) (t : String) :
    trimEnd (s ++ t) = s ++ trimEnd t := by
  rw [trimEnd_append, h]
  split
  · next hempty => rw [hempty, String.append_empty]
  · rfl

/-! ## Splitting at a line feed -/

theorem splitOnP_concat {α : Type*} (p : α → Bool) (l : List α) :
    ∃ init last, l.splitOnP p = init ++ [last] ∧
      ∀ x, p x = false → (l ++ [x]).splitOnP p = init ++ [last ++ [x]] := by
  induction l with
  | nil => exact ⟨[], [], rfl, fun x hx => by simp [List.splitOnP_eq_singleton, hx]⟩
  | cons a l ih =>
      obtain ⟨init, last, hl, hconcat⟩ := ih
      simp only [List.cons_append, List.splitOnP_cons_eq_if_modifyHead]
      cases ha : p a with
      | true =>
          refine ⟨[] :: init, last, by simp [hl], fun x hx => by simp [hconcat x hx]⟩
      | false =>
          cases init with
          | nil => exact ⟨[], a :: last, by simp [hl], fun x hx => by simp [hconcat x hx]⟩
          | cons first init =>
              exact ⟨(a :: first) :: init, last, by simp [hl], fun x hx => by simp [hconcat x hx]⟩

theorem mem_of_mem_splitOnP {α : Type*} {p : α → Bool} {l piece : List α} {x : α}
    (hpiece : piece ∈ l.splitOnP p) (hx : x ∈ piece) : x ∈ l ∧ p x = false := by
  induction l generalizing piece with
  | nil =>
      rw [List.splitOnP_nil, List.mem_singleton] at hpiece
      rw [hpiece] at hx
      exact absurd hx List.not_mem_nil
  | cons a l ih =>
      rw [List.splitOnP_cons_eq_if_modifyHead] at hpiece
      cases ha : p a with
      | true =>
          rw [if_pos ha] at hpiece
          rcases List.mem_cons.mp hpiece with rfl | hpiece
          · exact absurd hx List.not_mem_nil
          · exact (ih hpiece hx).imp_left (List.mem_cons_of_mem _)
      | false =>
          rw [if_neg (by simp [ha])] at hpiece
          obtain ⟨first, pieces, hsplit⟩ :=
            List.exists_cons_of_ne_nil (List.splitOnP_ne_nil p l)
          rw [hsplit, List.modifyHead_cons] at hpiece
          rcases List.mem_cons.mp hpiece with rfl | hpiece
          · rcases List.mem_cons.mp hx with rfl | hx
            · exact ⟨List.mem_cons_self, ha⟩
            · have hfirst : first ∈ l.splitOnP p := hsplit ▸ List.mem_cons_self
              exact (ih hfirst hx).imp_left (List.mem_cons_of_mem _)
          · have hmem : piece ∈ l.splitOnP p := hsplit ▸ List.mem_cons_of_mem _ hpiece
            exact (ih hmem hx).imp_left (List.mem_cons_of_mem _)

/-! ## Terminated lines -/

/-- A line without the carriage return at its end. -/
def chompList (line : List Char) : List Char :=
  if line.getLast? = some '\r' then line.dropLast else line

def chomp (line : String) : String := String.ofList (chompList line.toList)

/-- The lines of a text, the last one read as if it were terminated too. -/
def terminated (s : String) : List String := (splitChar '\n' s).map chomp

theorem chompList_append (line : List Char) :
    ∃ space, (∀ c ∈ space, isWhitespace c = true) ∧ chompList line ++ space = line := by
  unfold chompList
  split
  · next h =>
    refine ⟨['\r'], by simp [isWhitespace], ?_⟩
    obtain ⟨init, rfl⟩ := List.getLast?_eq_some_iff.mp h
    rw [List.dropLast_concat]
  · exact ⟨[], by simp, List.append_nil line⟩

theorem chomp_append (line : String) : ∃ space, IsSpace space ∧ chomp line ++ space = line := by
  obtain ⟨space, hspace, happend⟩ := chompList_append line.toList
  refine ⟨String.ofList space, by simpa [IsSpace] using hspace, ?_⟩
  rw [← String.toList_inj, String.toList_append, chomp, String.toList_ofList, String.toList_ofList,
    happend]

@[simp] theorem chomp_empty : chomp "" = "" := by decide

@[simp] theorem trim_chomp (line : String) : trim (chomp line) = trim line := by
  obtain ⟨space, hspace, happend⟩ := chomp_append line
  rw [← trim_append_space hspace, happend]

theorem chompList_cons (hc : isWhitespace c = true) (line : List Char) :
    ∃ space, (∀ c ∈ space, isWhitespace c = true) ∧
      chompList (c :: line) = space ++ chompList line := by
  cases line with
  | nil =>
      refine ⟨chompList [c], fun d hd => ?_, by simp [chompList]⟩
      unfold chompList at hd
      split at hd
      · exact absurd hd (by simp)
      · rw [List.mem_singleton.mp hd]
        exact hc
  | cons d line =>
      refine ⟨[c], by simpa using hc, ?_⟩
      simp only [chompList, List.getLast?_cons_cons]
      split <;> simp

theorem chompList_concat (hc : isWhitespace c = true) (line : List Char) :
    ∃ space, (∀ d ∈ space, isWhitespace d = true) ∧
      chompList (line ++ [c]) = chompList line ++ space := by
  obtain ⟨space, hspace, happend⟩ := chompList_append line
  by_cases hreturn : c = '\r'
  · subst hreturn
    refine ⟨space, hspace, ?_⟩
    rw [happend, chompList, List.getLast?_concat, if_pos rfl, List.dropLast_concat]
  · refine ⟨space ++ [c], ?_, ?_⟩
    · intro d hd
      rcases List.mem_append.mp hd with hd | hd
      · exact hspace d hd
      · rw [List.mem_singleton.mp hd]
        exact hc
    · rw [← List.append_assoc, happend, chompList, List.getLast?_concat,
        if_neg (by simpa using hreturn)]

theorem terminated_eq_map (s : String) :
    terminated s = (s.toList.splitOn '\n').map fun line => String.ofList (chompList line) := by
  simp only [terminated, splitChar, List.map_map]
  exact List.map_congr_left fun line hline => by simp [chomp]

@[simp] theorem terminated_empty : terminated "" = [""] := by decide

theorem splitChar_append (s t : String) :
    splitChar '\n' (s ++ "\n" ++ t) = splitChar '\n' s ++ splitChar '\n' t := by
  have hlist : (s ++ "\n" ++ t).toList = s.toList ++ '\n' :: t.toList := by
    simp [String.toList_append]
  rw [splitChar, hlist, List.splitOn_append_cons_self, List.map_append, splitChar, splitChar]

theorem terminated_append (s t : String) :
    terminated (s ++ "\n" ++ t) = terminated s ++ terminated t := by
  rw [terminated, splitChar_append, List.map_append, terminated, terminated]

theorem lines_feed (s : String) : lines (s ++ "\n") = terminated s := by
  have hfeed : (s ++ "\n").toList.splitOn '\n' = s.toList.splitOn '\n' ++ [[]] := by
    rw [String.toList_append]
    exact List.splitOn_append_cons_self s.toList []
  rw [lines, hfeed, List.dropLast_concat, List.getLast?_concat, terminated_eq_map]
  simp [chompList]

/-- No line holds a line feed. -/
def IsLine (line : String) : Prop := '\n' ∉ line.toList

theorem splitChar_of_isLine (h : IsLine line) : splitChar '\n' line = [line] := by
  rw [splitChar, List.splitOn_eq_singleton h, List.map_singleton, String.ofList_toList]

theorem isLine_of_mem_splitChar {s line : String} (h : line ∈ splitChar '\n' s) : IsLine line := by
  obtain ⟨piece, hpiece, rfl⟩ := List.mem_map.mp h
  have hcut : piece ∈ s.toList.splitOnP (· == '\n') := hpiece
  intro hmem
  rw [String.toList_ofList] at hmem
  have hfree := (mem_of_mem_splitOnP hcut hmem).2
  simp at hfree

theorem IsLine.chomp (h : IsLine line) : IsLine (chomp line) := by
  obtain ⟨space, -, happend⟩ := chomp_append line
  intro hmem
  refine h ?_
  rw [← happend, String.toList_append]
  exact List.mem_append_left _ hmem

theorem IsLine.of_infix {line part : String} (h : IsLine line)
    (hpart : part.toList <:+: line.toList) : IsLine part := fun hmem => h (hpart.subset hmem)

theorem isLine_of_mem_terminated {s line : String} (h : line ∈ terminated s) : IsLine line := by
  obtain ⟨piece, hpiece, rfl⟩ := List.mem_map.mp h
  exact (isLine_of_mem_splitChar hpiece).chomp

theorem isLine_of_mem_lines {s line : String} (h : line ∈ lines s) : IsLine line := by
  obtain ⟨piece, hpiece, rfl⟩ := List.mem_map.mp h
  have hsplit : ∀ l ∈ s.toList.splitOn '\n', IsLine (String.ofList l) := fun l hl =>
    isLine_of_mem_splitChar (List.mem_map_of_mem hl)
  rcases List.mem_append.mp hpiece with hpiece | hpiece
  · obtain ⟨l, hl, rfl⟩ := List.mem_map.mp hpiece
    have hchomp := (hsplit l (List.mem_of_mem_dropLast hl)).chomp
    rwa [chomp, String.toList_ofList] at hchomp
  · obtain ⟨hlast, -⟩ := List.mem_filter.mp hpiece
    exact hsplit piece (List.mem_of_getLast? (Option.mem_toList.mp hlast))

theorem terminated_ne_nil (s : String) : terminated s ≠ [] := by
  simp [terminated_eq_map]

/-- The lines of a text are its terminated lines, but for the carriage return of an
unterminated last line and a last line that is empty. -/
theorem lines_eq_terminated (s : String) :
    ∃ init last space, terminated s = init ++ [last] ∧ IsSpace space ∧
      (lines s = init ++ [last ++ space] ∨ (last = "" ∧ lines s = init)) := by
  obtain ⟨init, last, hsplit, -⟩ := splitOnP_concat (· == '\n') s.toList
  rw [← List.splitOn_eq_splitOnP] at hsplit
  obtain ⟨space, hspace, happend⟩ := chomp_append (String.ofList last)
  have hlines : lines s = (init.map fun line => String.ofList (chompList line)) ++
      ([last].filter fun line => !line.isEmpty).map String.ofList := by
    rw [lines, hsplit, List.dropLast_concat, List.getLast?_concat]
    simp [chompList, Function.comp_def]
  refine ⟨init.map fun line => String.ofList (chompList line), chomp (String.ofList last), space,
    by simp [terminated_eq_map, hsplit, chomp], hspace, ?_⟩
  rw [happend, hlines]
  cases last with
  | nil => exact Or.inr ⟨chomp_empty, by simp⟩
  | cons c last => exact Or.inl (by simp)

/-! ## Texts from lines -/

theorem toList_join (separator : String) (parts : List String) :
    (join separator parts).toList = separator.toList.intercalate (parts.map String.toList) :=
  String.toList_ofList

@[simp] theorem join_nil (separator : String) : join separator [] = "" := rfl

@[simp] theorem join_singleton (separator part : String) : join separator [part] = part := by
  rw [← String.toList_inj, toList_join]
  simp

theorem join_cons {separator : String} {parts : List String} (part : String) (h : parts ≠ []) :
    join separator (part :: parts) = part ++ separator ++ join separator parts := by
  rw [← String.toList_inj, String.toList_append, String.toList_append, toList_join, toList_join]
  simp [List.intercalate_cons_of_ne_nil, h]

theorem contains_join {separator part : String} {parts : List String} (h : part ∈ parts) :
    contains (join separator parts) part = true := by
  induction parts with
  | nil => exact absurd h List.not_mem_nil
  | cons first parts ih =>
      cases parts with
      | nil =>
          rw [List.mem_singleton.mp h, join_singleton]
          exact contains_self first
      | cons next parts =>
          rw [join_cons _ (List.cons_ne_nil next parts)]
          rcases List.mem_cons.mp h with rfl | h
          · exact contains_append_left (contains_append_left (contains_self part) _) _
          · exact contains_append_right (ih h) _

theorem join_append {separator : String} {parts more : List String} (hparts : parts ≠ [])
    (hmore : more ≠ []) :
    join separator (parts ++ more) =
      join separator parts ++ separator ++ join separator more := by
  induction parts with
  | nil => exact absurd rfl hparts
  | cons part parts ih =>
      cases parts with
      | nil => rw [List.singleton_append, join_cons part hmore, join_singleton]
      | cons next parts =>
          rw [List.cons_append, join_cons part (by simp), ih (by simp),
            join_cons part (List.cons_ne_nil next parts)]
          simp only [String.append_assoc]

theorem terminated_join {lines : List String} (hne : lines ≠ [])
    (h : ∀ line ∈ lines, IsLine line) : terminated (join "\n" lines) = lines.map chomp := by
  induction lines with
  | nil => exact absurd rfl hne
  | cons line lines ih =>
      have hline : terminated line = [chomp line] := by
        rw [terminated, splitChar_of_isLine (h line List.mem_cons_self), List.map_singleton]
      cases lines with
      | nil => simpa using hline
      | cons next lines =>
          rw [join_cons line (by simp), terminated_append, hline,
            ih (by simp) fun l hl => h l (List.mem_cons_of_mem _ hl)]
          rfl

/-! ## Patterns within a line -/

theorem contains_trans {s t pattern : String} (hs : contains s t = true)
    (ht : contains t pattern = true) : contains s pattern = true := by
  obtain ⟨front, back, rfl⟩ := contains_iff.mp hs
  exact contains_append_left (contains_append_right ht front) back

theorem occurrence_line {pattern front back s t : String} (hline : IsLine pattern)
    (h : front ++ pattern ++ back = s ++ "\n" ++ t) :
    (∃ rest, front ++ pattern ++ rest = s) ∨
      ∃ rest, s ++ "\n" ++ rest = front ∧ rest ++ pattern ++ back = t := by
  have hfeed : ("\n" : String).toList = ['\n'] := rfl
  have hlist : (front.toList ++ pattern.toList) ++ back.toList = s.toList ++ '\n' :: t.toList := by
    have hchars := congrArg String.toList h
    simpa [String.toList_append, hfeed] using hchars
  rcases List.append_eq_append_iff.mp hlist with ⟨rest, hs, -⟩ | ⟨rest, hfront, hrest⟩
  · refine Or.inl ⟨String.ofList rest, ?_⟩
    rw [← String.toList_inj, String.toList_append, String.toList_append, String.toList_ofList, hs]
  · cases rest with
    | nil =>
        refine Or.inl ⟨"", ?_⟩
        rw [String.append_empty, ← String.toList_inj, String.toList_append, hfront, List.append_nil]
    | cons c rest =>
        obtain ⟨rfl, ht⟩ := List.cons.inj hrest
        rcases List.append_eq_append_iff.mp hfront with ⟨inner, -, hpattern⟩ | ⟨inner, hs, hinner⟩
        · exact absurd (hpattern ▸ List.mem_append_right _ List.mem_cons_self) hline
        · cases inner with
          | nil =>
              rw [List.nil_append] at hinner
              exact absurd (hinner ▸ List.mem_cons_self) hline
          | cons d inner =>
              obtain ⟨rfl, hrest⟩ := List.cons.inj hinner
              rw [List.append_eq] at ht hrest
              refine Or.inr ⟨String.ofList inner, ?_, ?_⟩
              · rw [← String.toList_inj, String.toList_append, String.toList_append, hs, hfeed,
                  List.append_assoc, List.singleton_append, String.toList_ofList]
              · rw [← String.toList_inj, String.toList_append, String.toList_append,
                  String.toList_ofList, ht, hrest]

theorem contains_line {pattern s t : String} (hline : IsLine pattern)
    (h : contains (s ++ "\n" ++ t) pattern = true) :
    contains s pattern = true ∨ contains t pattern = true := by
  obtain ⟨front, back, happend⟩ := contains_iff.mp h
  rcases occurrence_line hline happend with ⟨rest, hrest⟩ | ⟨rest, -, hrest⟩
  · exact Or.inl (contains_iff.mpr ⟨front, rest, hrest⟩)
  · exact Or.inr (contains_iff.mpr ⟨rest, back, hrest⟩)

theorem blank_line_eq (s t : String) : s ++ "\n\n" ++ t = s ++ "\n" ++ ("" ++ "\n" ++ t) := by
  rw [← String.toList_inj]
  simp [String.toList_append]

theorem contains_blank_line {pattern s t : String} (hline : IsLine pattern) (hne : pattern ≠ "")
    (h : contains (s ++ "\n\n" ++ t) pattern = true) :
    contains s pattern = true ∨ contains t pattern = true := by
  rw [blank_line_eq] at h
  rcases contains_line hline h with h | h
  · exact Or.inl h
  · rcases contains_line hline h with h | h
    · rw [contains_empty hne] at h
      cases h
    · exact Or.inr h

theorem exists_contains_of_join {separator pattern : String} (hne : pattern ≠ "")
    (hcut : ∀ s t, contains (s ++ separator ++ t) pattern = true →
      contains s pattern = true ∨ contains t pattern = true)
    {parts : List String} (h : contains (join separator parts) pattern = true) :
    ∃ part ∈ parts, contains part pattern = true := by
  induction parts with
  | nil =>
      rw [join_nil, contains_empty hne] at h
      cases h
  | cons part parts ih =>
      cases parts with
      | nil => exact ⟨part, List.mem_cons_self, by rwa [join_singleton] at h⟩
      | cons next parts =>
          rw [join_cons part (List.cons_ne_nil next parts)] at h
          rcases hcut _ _ h with h | h
          · exact ⟨part, List.mem_cons_self, h⟩
          · obtain ⟨p, hp, h⟩ := ih h
            exact ⟨p, List.mem_cons_of_mem _ hp, h⟩

/-! ## Functions blind to blank ends -/

/-- What is computed from lines does not depend on blank lines at either end, nor on
whitespace before the first line and behind the last. -/
structure Blockwise {β : Type*} (f : List String → β) : Prop where
  blank_cons : ∀ lines, f ("" :: lines) = f lines
  space_cons : ∀ space line lines, IsSpace space → f ((space ++ line) :: lines) = f (line :: lines)
  concat_blank : ∀ lines, f (lines ++ [""]) = f lines
  concat_space : ∀ lines line space, IsSpace space →
    f (lines ++ [line ++ space]) = f (lines ++ [line])

namespace Blockwise

variable {β : Type*} {f : List String → β}

theorem of_map_trim (g : List String → β) (hcons : ∀ lines, g ("" :: lines) = g lines)
    (hconcat : ∀ lines, g (lines ++ [""]) = g lines) : Blockwise fun lines => g (lines.map trim) where
  blank_cons lines := hcons _
  space_cons space line lines h := by simp only [List.map_cons, trim_space_append h]
  concat_blank lines := by
    rw [List.map_append]
    exact hconcat _
  concat_space lines line space h := by
    simp only [List.map_append, List.map_cons, List.map_nil, trim_append_space h]

theorem cons_isSpace (hf : Blockwise f) {space : String} (h : IsSpace space)
    (lines : List String) : f (space :: lines) = f lines := by
  have hspace := hf.space_cons space "" lines h
  rw [String.append_empty] at hspace
  rw [hspace, hf.blank_cons]

theorem append_isSpace (hf : Blockwise f) (lines : List String) {blanks : List String}
    (h : ∀ blank ∈ blanks, IsSpace blank) : f (lines ++ blanks) = f lines := by
  induction blanks using List.reverseRecOn with
  | nil => rw [List.append_nil]
  | append_singleton blanks blank ih =>
      have hblank := hf.concat_space (lines ++ blanks) "" blank (h blank (by simp))
      rw [String.empty_append] at hblank
      rw [← List.append_assoc, hblank, hf.concat_blank,
        ih fun b hb => h b (List.mem_append_left _ hb)]

theorem behind (hf : Blockwise f) {p : String → Bool} (hp : p "" = false) :
    Blockwise fun lines => f ((lines.dropWhile fun line => !p (Text.trim line)).drop 1) where
  blank_cons lines := by
    have hblank : Text.trim "" = "" := by decide
    rw [List.dropWhile_cons_of_pos (by simp [hblank, hp])]
  space_cons space line lines h := by
    have htrim : Text.trim (space ++ line) = Text.trim line := trim_space_append h
    cases hline : p (Text.trim line) with
    | true =>
        rw [List.dropWhile_cons_of_neg (by simp [htrim, hline]),
          List.dropWhile_cons_of_neg (by simp [hline])]
        rfl
    | false =>
        rw [List.dropWhile_cons_of_pos (by simp [htrim, hline]),
          List.dropWhile_cons_of_pos (by simp [hline])]
  concat_blank lines := by
    rw [List.dropWhile_append]
    cases hdrop : lines.dropWhile fun line => !p (Text.trim line) with
    | nil =>
        have hblank : Text.trim "" = "" := by decide
        simp [hblank, hp]
    | cons line rest => exact hf.concat_blank rest
  concat_space lines line space h := by
    have htrim : Text.trim (line ++ space) = Text.trim line := trim_append_space h
    rw [List.dropWhile_append, List.dropWhile_append]
    cases hdrop : lines.dropWhile fun line => !p (Text.trim line) with
    | nil =>
        simp only [List.isEmpty_nil, if_true, List.dropWhile_cons, htrim, List.dropWhile_nil]
        split <;> rfl
    | cons first rest => exact hf.concat_space rest line space h

theorem lines (hf : Blockwise f) (s : String) : f (lines s) = f (terminated s) := by
  obtain ⟨init, last, space, hterminated, hspace, hlines | ⟨rfl, hlines⟩⟩ := lines_eq_terminated s
  · rw [hterminated, hlines, hf.concat_space init last space hspace]
  · rw [hterminated, hlines, hf.concat_blank]

theorem terminated_cons (hf : Blockwise f) (hc : isWhitespace c = true) (l : List Char) :
    f (terminated (String.ofList (c :: l))) = f (terminated (String.ofList l)) := by
  simp only [terminated_eq_map, String.toList_ofList, List.splitOn_cons_eq_if_modifyHead]
  split
  · exact hf.blank_cons _
  · obtain ⟨first, pieces, hsplit⟩ := List.exists_cons_of_ne_nil (List.splitOn_ne_nil '\n' l)
    obtain ⟨space, hspace, hchomp⟩ := chompList_cons hc first
    simp only [hsplit, List.modifyHead_cons, List.map_cons, hchomp, String.ofList_append]
    exact hf.space_cons _ _ _ (by simpa [IsSpace] using hspace)

theorem terminated_concat (hf : Blockwise f) (hc : isWhitespace c = true) (l : List Char) :
    f (terminated (String.ofList (l ++ [c]))) = f (terminated (String.ofList l)) := by
  simp only [terminated_eq_map, String.toList_ofList]
  by_cases hfeed : c = '\n'
  · subst hfeed
    rw [List.splitOn_append_cons_self, List.splitOn_nil, List.map_append]
    exact hf.concat_blank _
  · obtain ⟨init, last, hsplit, hconcat⟩ := splitOnP_concat (· == '\n') l
    have hl : l.splitOn '\n' = init ++ [last] := hsplit
    have hlc : (l ++ [c]).splitOn '\n' = init ++ [last ++ [c]] := hconcat c (by simpa using hfeed)
    obtain ⟨space, hspace, hchomp⟩ := chompList_concat hc last
    rw [hl, hlc, List.map_append, List.map_append, List.map_singleton, List.map_singleton, hchomp,
      String.ofList_append]
    exact hf.concat_space _ _ _ (by simpa [IsSpace] using hspace)

theorem trimStart (hf : Blockwise f) (s : String) :
    f (terminated (trimStart s)) = f (terminated s) := by
  have hlist : ∀ l : List Char, f (terminated (String.ofList (l.dropWhile isWhitespace))) =
      f (terminated (String.ofList l)) := by
    intro l
    induction l with
    | nil => rfl
    | cons c l ih =>
        cases hc : isWhitespace c with
        | true => rw [List.dropWhile_cons_of_pos hc, ih, hf.terminated_cons hc]
        | false => rw [List.dropWhile_cons_of_neg (by simp [hc])]
  rw [Text.trimStart, hlist, String.ofList_toList]

theorem trimEnd (hf : Blockwise f) (s : String) :
    f (terminated (trimEnd s)) = f (terminated s) := by
  have hlist : ∀ l : List Char, f (terminated (String.ofList (l.rdropWhile isWhitespace))) =
      f (terminated (String.ofList l)) := by
    intro l
    induction l using List.reverseRecOn with
    | nil => rfl
    | append_singleton l c ih =>
        cases hc : isWhitespace c with
        | true => rw [List.rdropWhile_concat_pos _ _ _ hc, ih, hf.terminated_concat hc]
        | false => rw [List.rdropWhile_concat_neg _ _ _ (by simp [hc])]
  rw [Text.trimEnd, hlist, String.ofList_toList]

theorem trim (hf : Blockwise f) (s : String) : f (terminated (trim s)) = f (terminated s) := by
  have htrim : Text.trim s = Text.trimEnd (Text.trimStart s) := by
    rw [Text.trim, trimMatches, Text.trimEnd, Text.trimStart, String.toList_ofList]
  rw [htrim, hf.trimEnd, hf.trimStart]

end Blockwise

/-! ## Paragraphs -/

theorem isTrimmed_trim (s : String) : IsTrimmed (trim s) := by
  have hfront : (trim s).toList <+: s.toList.dropWhile isWhitespace := by
    rw [toList_trim]
    exact List.rdropWhile_prefix _ _
  refine ⟨fun c hc => ?_, fun c hc => ?_⟩
  · have hhead : (s.toList.dropWhile isWhitespace).head? = some c := by
      obtain ⟨rest, hrest⟩ := hfront
      rw [← hrest, List.head?_append, hc]
      rfl
    have hnot := List.head?_dropWhile_not isWhitespace s.toList
    rw [hhead] at hnot
    simpa using hnot
  · rw [toList_trim, trimList] at hc
    have hne : (s.toList.dropWhile isWhitespace).rdropWhile isWhitespace ≠ [] := by
      intro h
      rw [h] at hc
      cases hc
    have hlast := List.rdropWhile_last_not _ _ hne
    rw [List.getLast?_eq_some_getLast hne] at hc
    rw [Option.some.inj hc] at hlast
    simpa using hlast

@[simp] theorem trim_trim (s : String) : trim (trim s) = trim s :=
  trim_of_isTrimmed (isTrimmed_trim s)

theorem trim_append_append {front back : String} (middle : String) (hfront : trim front = front)
    (hback : trim back = back) (hfrontNe : front ≠ "") (hbackNe : back ≠ "") :
    trim (front ++ middle ++ back) = front ++ middle ++ back := by
  have hfrontList : front.toList ≠ [] := fun h => hfrontNe (String.toList_inj.mp h)
  have hbackList : back.toList ≠ [] := fun h => hbackNe (String.toList_inj.mp h)
  have hends := hfront ▸ isTrimmed_trim front
  have hends' := hback ▸ isTrimmed_trim back
  refine trim_of_isTrimmed ⟨fun c hc => hends.1 c ?_, fun c hc => hends'.2 c ?_⟩
  · rwa [String.toList_append, String.toList_append, List.append_assoc,
      List.head?_append_of_ne_nil _ hfrontList] at hc
  · rwa [String.toList_append, List.getLast?_append_of_ne_nil _ hbackList] at hc

/-- Lines written as a text, without the blank at both ends. -/
def paragraph (lines : List String) : String := trim (join "\n" lines)

theorem join_space_cons (separator space line : String) (lines : List String) :
    join separator ((space ++ line) :: lines) = space ++ join separator (line :: lines) := by
  cases lines with
  | nil => rw [join_singleton, join_singleton]
  | cons next lines =>
      rw [join_cons _ (List.cons_ne_nil next lines), join_cons _ (List.cons_ne_nil next lines)]
      simp only [String.append_assoc]

theorem join_concat_space (separator line space : String) (lines : List String) :
    join separator (lines ++ [line ++ space]) = join separator (lines ++ [line]) ++ space := by
  cases lines with
  | nil => rw [List.nil_append, List.nil_append, join_singleton, join_singleton]
  | cons first lines =>
      rw [join_append (by simp) (by simp), join_append (by simp) (by simp), join_singleton,
        join_singleton, ← String.append_assoc]

theorem paragraph_blockwise : Blockwise paragraph where
  blank_cons lines := by
    cases lines with
    | nil => rfl
    | cons line lines =>
        rw [paragraph, join_cons _ (by simp), String.empty_append,
          trim_space_append isSpace_newline, paragraph]
  space_cons space line lines h := by
    rw [paragraph, join_space_cons, trim_space_append h, paragraph]
  concat_blank lines := by
    cases lines with
    | nil => rfl
    | cons line lines =>
        rw [paragraph, join_append (by simp) (by simp), join_singleton, String.append_empty,
          trim_append_space isSpace_newline, paragraph]
  concat_space lines line space h := by
    rw [paragraph, join_concat_space, trim_append_space h, paragraph]

@[simp] theorem trim_paragraph (lines : List String) : trim (paragraph lines) = paragraph lines :=
  trim_trim _

@[simp] theorem paragraph_nil : paragraph [] = "" := by decide

/-- A text read line by line and written again. -/
def reread (s : String) : String := paragraph (lines s)

theorem reread_eq (s : String) : reread s = paragraph (terminated s) := paragraph_blockwise.lines s

@[simp] theorem trim_reread (s : String) : trim (reread s) = reread s := trim_trim _

/-! ## What is not whitespace -/

/-- The characters of a text that are not whitespace. -/
def ink (s : String) : List Char := s.toList.filter fun c => !isWhitespace c

theorem ink_append (s t : String) : ink (s ++ t) = ink s ++ ink t := by
  rw [ink, String.toList_append, List.filter_append, ink, ink]

theorem ink_of_isSpace (h : IsSpace s) : ink s = [] := by
  rw [ink, List.filter_eq_nil_iff]
  intro c hc
  simp [h c hc]

theorem trim_of_ink_eq_nil (h : ink s = []) : trim s = "" := by
  refine trim_of_isSpace fun c hc => ?_
  simpa using List.filter_eq_nil_iff.mp h c hc

theorem ink_chomp (line : String) : ink (chomp line) = ink line := by
  obtain ⟨space, hspace, happend⟩ := chomp_append line
  have hink := ink_append (chomp line) space
  rw [happend, ink_of_isSpace hspace, List.append_nil] at hink
  exact hink.symm

theorem ink_join {separator : String} (h : IsSpace separator) (parts : List String) :
    ink (join separator parts) = parts.flatMap ink := by
  induction parts with
  | nil => rfl
  | cons part parts ih =>
      cases parts with
      | nil => simp
      | cons next parts =>
          rw [join_cons part (List.cons_ne_nil next parts), ink_append, ink_append,
            ink_of_isSpace h, ih, List.append_nil]
          rfl

/-- The text between the ends that `trim` drops. -/
theorem trim_infix (s : String) : ∃ front back, IsSpace front ∧ IsSpace back ∧
    front ++ trim s ++ back = s := by
  refine ⟨String.ofList (s.toList.takeWhile isWhitespace),
    String.ofList ((s.toList.dropWhile isWhitespace).rtakeWhile isWhitespace), ?_, ?_, ?_⟩
  · intro c hc
    rw [String.toList_ofList] at hc
    exact List.mem_takeWhile_imp hc
  · intro c hc
    rw [String.toList_ofList] at hc
    exact List.mem_rtakeWhile_imp hc
  · rw [← String.toList_inj]
    simp only [String.toList_append, String.toList_ofList, toList_trim, trimList, List.append_assoc,
      List.rdropWhile_append_rtakeWhile, List.takeWhile_append_dropWhile]

theorem contains_trim {s pattern : String} (h : contains (trim s) pattern = true) :
    contains s pattern = true := by
  obtain ⟨front, back, -, -, happend⟩ := trim_infix s
  rw [← happend]
  exact contains_append_left (contains_append_right h front) back

theorem isSpace_of_trim_eq (h : trim s = "") : IsSpace s := by
  obtain ⟨front, back, hfront, hback, happend⟩ := trim_infix s
  rw [← happend, h, String.append_empty]
  exact hfront.append hback

theorem IsLine.trim (h : IsLine line) : IsLine (trim line) := by
  obtain ⟨front, back, -, -, happend⟩ := trim_infix line
  refine h.of_infix ⟨front.toList, back.toList, ?_⟩
  rw [← String.toList_append, ← String.toList_append, happend]

theorem ink_trim (s : String) : ink (trim s) = ink s := by
  obtain ⟨front, back, hfront, hback, happend⟩ := trim_infix s
  rw [← happend, ink_append, ink_append, ink_of_isSpace hfront, ink_of_isSpace hback,
    List.nil_append, List.append_nil, happend]

theorem join_splitChar (s : String) : join "\n" (splitChar '\n' s) = s := by
  rw [← String.toList_inj, toList_join, splitChar, List.map_map]
  have hid : (String.toList ∘ String.ofList) = id := by
    funext l
    exact String.toList_ofList
  rw [hid, List.map_id]
  exact List.intercalate_splitOn '\n'

theorem contains_of_mem_splitChar {s piece : String} (h : piece ∈ splitChar '\n' s) :
    contains s piece = true := by
  have hjoin : contains (join "\n" (splitChar '\n' s)) piece = true := contains_join h
  rwa [join_splitChar] at hjoin

theorem contains_of_mem_lines {s line : String} (h : line ∈ lines s) : contains s line = true := by
  have hpieces : ∀ l ∈ s.toList.splitOn '\n', contains s (String.ofList l) = true := fun l hl =>
    contains_of_mem_splitChar (List.mem_map_of_mem hl)
  obtain ⟨piece, hpiece, rfl⟩ := List.mem_map.mp h
  rcases List.mem_append.mp hpiece with hpiece | hpiece
  · obtain ⟨l, hl, rfl⟩ := List.mem_map.mp hpiece
    refine contains_trans (hpieces l (List.mem_of_mem_dropLast hl)) ?_
    obtain ⟨space, -, happend⟩ := chomp_append (String.ofList l)
    rw [chomp, String.toList_ofList] at happend
    exact contains_iff.mpr ⟨"", space, by rw [String.empty_append]; exact happend⟩
  · obtain ⟨hlast, -⟩ := List.mem_filter.mp hpiece
    exact hpieces piece (List.mem_of_getLast? (Option.mem_toList.mp hlast))

theorem contains_paragraph {pattern s : String} (hline : IsLine pattern) (hne : pattern ≠ "")
    {block : List String} (hblock : ∀ line ∈ block, line ∈ lines s)
    (h : contains (paragraph block) pattern = true) : contains s pattern = true := by
  obtain ⟨line, hmem, hcontains⟩ :=
    exists_contains_of_join hne (fun _ _ => contains_line hline) (contains_trim h)
  exact contains_trans (contains_of_mem_lines (hblock line hmem)) hcontains

@[simp] theorem ink_reread (s : String) : ink (reread s) = ink s := by
  rw [reread_eq, paragraph, ink_trim, ink_join isSpace_newline, terminated, List.flatMap_map]
  simp only [ink_chomp]
  rw [← ink_join isSpace_newline, join_splitChar]

theorem reread_ne_empty (hne : s ≠ "") (htrim : trim s = s) : reread s ≠ "" := by
  intro h
  refine hne ?_
  rw [← htrim]
  refine trim_of_ink_eq_nil ?_
  rw [← ink_reread, h]
  rfl

/-! ## Solid lines -/

/-- The lines that are not blank, trimmed. -/
def solid (lines : List String) : List String := (lines.map trim).filter (· != "")

def solidLines (s : String) : List String := solid (lines s)

theorem solid_blockwise : Blockwise solid :=
  Blockwise.of_map_trim (List.filter (· != "")) (fun lines => by simp) (fun lines => by simp)

@[simp] theorem solid_nil : solid [] = [] := rfl

@[simp] theorem solid_append (front back : List String) :
    solid (front ++ back) = solid front ++ solid back := by
  rw [solid, List.map_append, List.filter_append, solid, solid]

@[simp] theorem solid_map_chomp (lines : List String) : solid (lines.map chomp) = solid lines := by
  rw [solid, List.map_map, solid]
  exact congrArg _ (List.map_congr_left fun line _ => trim_chomp line)

theorem mem_solid {lines : List String} :
    line ∈ solid lines ↔ line ≠ "" ∧ ∃ l ∈ lines, trim l = line := by
  simp [solid, and_comm]

theorem solid_cons_blank (lines : List String) (h : trim line = "") :
    solid (line :: lines) = solid lines := by
  simp [solid, h]

theorem solid_cons (lines : List String) (h : trim line ≠ "") :
    solid (line :: lines) = trim line :: solid lines := by
  simp [solid, h]

theorem find?_solid {p : String → Bool} (hp : p "" = false) (lines : List String) :
    (solid lines).find? p = (lines.map trim).find? p := by
  rw [solid, List.find?_filter]
  congr 1
  funext line
  rcases eq_or_ne line "" with rfl | hne
  · simpa using hp.symm
  · simp [hne]

theorem solidLines_eq (s : String) : solidLines s = solid (terminated s) := solid_blockwise.lines s

@[simp] theorem solidLines_empty : solidLines "" = [] := by decide

@[simp] theorem solidLines_trim (s : String) : solidLines (trim s) = solidLines s := by
  rw [solidLines_eq, solid_blockwise.trim, ← solidLines_eq]

theorem solidLines_paragraph {lines : List String} (h : ∀ line ∈ lines, IsLine line) :
    solidLines (paragraph lines) = solid lines := by
  cases lines with
  | nil => simp
  | cons line lines =>
      rw [paragraph, solidLines_trim, solidLines_eq, terminated_join (by simp) h, solid_map_chomp]

@[simp] theorem solidLines_reread (s : String) : solidLines (reread s) = solidLines s :=
  solidLines_paragraph fun _ => isLine_of_mem_lines

theorem ink_of_solidLines_eq_nil (h : solidLines s = []) : ink s = [] := by
  rw [← ink_reread, reread, paragraph, ink_trim, ink_join isSpace_newline]
  refine List.flatMap_eq_nil_iff.mpr fun line hline => ?_
  have hblank : trim line = "" := by
    by_contra hne
    have hmem : trim line ∈ solidLines s := mem_solid.mpr ⟨hne, line, hline, rfl⟩
    rw [h] at hmem
    exact List.not_mem_nil hmem
  rw [← ink_trim, hblank]
  rfl

theorem solidLines_ne_nil (hne : s ≠ "") (htrim : trim s = s) : solidLines s ≠ [] :=
  fun h => hne (htrim ▸ trim_of_ink_eq_nil (ink_of_solidLines_eq_nil h))

/-! ## Texts that read back as they are -/

theorem reread_paragraph {lines : List String} (h : ∀ line ∈ lines, IsLine line) :
    reread (paragraph lines) = paragraph (lines.map chomp) := by
  cases lines with
  | nil => decide
  | cons line lines =>
      rw [reread_eq]
      show paragraph (terminated (trim (join "\n" (line :: lines)))) = _
      rw [paragraph_blockwise.trim, terminated_join (by simp) h]

/-- The terminated lines of a text, written again. -/
def relay (s : String) : String := join "\n" (terminated s)

theorem reread_eq_trim_relay (s : String) : reread s = trim (relay s) := reread_eq s

theorem relay_append (s t : String) : relay (s ++ "\n" ++ t) = relay s ++ "\n" ++ relay t := by
  rw [relay, terminated_append, join_append (terminated_ne_nil s) (terminated_ne_nil t), relay,
    relay]

theorem trim_sublist (s : String) : (trim s).toList.Sublist s.toList := by
  obtain ⟨front, back, -, -, happend⟩ := trim_infix s
  have hinfix : (trim s).toList <:+: s.toList := by
    refine ⟨front.toList, back.toList, ?_⟩
    rw [← String.toList_append, ← String.toList_append, happend]
  exact hinfix.sublist

theorem chomp_sublist (line : String) : (chomp line).toList.Sublist line.toList := by
  obtain ⟨space, -, happend⟩ := chomp_append line
  have hfront : (chomp line).toList <+: line.toList := by
    refine ⟨space.toList, ?_⟩
    rw [← String.toList_append, happend]
  exact hfront.sublist

theorem join_map_chomp_sublist (lines : List String) :
    (join "\n" (lines.map chomp)).toList.Sublist (join "\n" lines).toList := by
  induction lines with
  | nil => exact List.Sublist.refl _
  | cons line lines ih =>
      cases lines with
      | nil => simpa using chomp_sublist line
      | cons next lines =>
          rw [List.map_cons, join_cons _ (by simp), join_cons _ (List.cons_ne_nil next lines)]
          simp only [String.toList_append]
          exact ((chomp_sublist line).append (List.Sublist.refl _)).append ih

theorem relay_sublist (s : String) : (relay s).toList.Sublist s.toList := by
  have hsublist := join_map_chomp_sublist (splitChar '\n' s)
  rwa [join_splitChar] at hsublist

theorem reread_sublist (s : String) : (reread s).toList.Sublist s.toList := by
  rw [reread_eq_trim_relay]
  exact (trim_sublist _).trans (relay_sublist s)

theorem ink_relay (s : String) : ink (relay s) = ink s := by
  rw [← ink_reread s, reread_eq_trim_relay, ink_trim]

theorem exists_cons_of_sublist {α : Type*} {p : α → Bool} {l m : List α} {a : α}
    (h : l.Sublist (a :: m)) (ha : p a = true) (hfilter : l.filter p = (a :: m).filter p) :
    ∃ rest, l = a :: rest := by
  cases h with
  | cons _ h =>
      have hshort := (h.filter p).length_le
      rw [hfilter, List.filter_cons_of_pos ha, List.length_cons] at hshort
      omega
  | cons_cons _ _ => exact ⟨_, rfl⟩

theorem relay_of_trim (h : trim s = s) : relay s = reread s := by
  have hends := h ▸ isTrimmed_trim s
  have hink : (relay s).toList.filter (fun c => !isWhitespace c) =
      s.toList.filter fun c => !isWhitespace c := ink_relay s
  have hsublist := relay_sublist s
  refine ((reread_eq_trim_relay s).trans (trim_of_isTrimmed ⟨fun c hc => ?_, fun c hc => ?_⟩)).symm
  · cases hs : s.toList with
    | nil =>
        rw [hs, List.sublist_nil] at hsublist
        rw [hsublist] at hc
        cases hc
    | cons first rest =>
        have hfirst : isWhitespace first = false := hends.1 first (by rw [hs]; rfl)
        rw [hs] at hsublist hink
        obtain ⟨tail, htail⟩ := exists_cons_of_sublist hsublist (by rw [hfirst]; rfl) hink
        rw [htail, List.head?_cons] at hc
        rw [← Option.some.inj hc, hfirst]
  · have hreverse := hsublist.reverse
    have hinkReverse : (relay s).toList.reverse.filter (fun c => !isWhitespace c) =
        s.toList.reverse.filter fun c => !isWhitespace c := by
      rw [List.filter_reverse, List.filter_reverse, hink]
    cases hs : s.toList.reverse with
    | nil =>
        rw [hs, List.sublist_nil, List.reverse_eq_nil_iff] at hreverse
        rw [hreverse] at hc
        cases hc
    | cons last rest =>
        have hlast : isWhitespace last = false :=
          hends.2 last (by rw [← List.head?_reverse, hs]; rfl)
        rw [hs] at hreverse hinkReverse
        obtain ⟨tail, htail⟩ := exists_cons_of_sublist hreverse (by rw [hlast]; rfl) hinkReverse
        rw [← List.head?_reverse, htail, List.head?_cons] at hc
        rw [← Option.some.inj hc, hlast]

theorem reread_of_reread_reread (h : reread (reread s) = s) : reread s = s := by
  have hshort := (reread_sublist (reread s)).length_le
  rw [h] at hshort
  exact String.toList_inj.mp ((reread_sublist s).eq_of_length_le hshort)

end Text

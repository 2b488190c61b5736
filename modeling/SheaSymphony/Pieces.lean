import SheaSymphony.Lines

/-!
# Splitting at a text

`str::split` at a text: what stands between its occurrences, from left to right and
without overlaps. A pattern within a line is never found across a line feed, so the
pieces of two texts on lines of their own are the pieces of each, of which the last
of the first and the first of the second run together.
-/

namespace Text

/-- The pieces behind the next `skip` characters, which belong to an occurrence. -/
def splitList (pattern : List Char) : Nat → List Char → List (List Char)
  | _, [] => [[]]
  | skip + 1, _ :: s => splitList pattern skip s
  | 0, c :: s =>
      if pattern.isPrefixOf (c :: s) then [] :: splitList pattern (pattern.length - 1) s
      else (splitList pattern 0 s).modifyHead (c :: ·)

/-- The pieces of `s` between the occurrences of a text that is not empty. -/
def splitText (pattern s : String) : List String :=
  (splitList pattern.toList 0 s.toList).map String.ofList

section

variable {pattern : List Char}

theorem splitList_ne_nil (skip : Nat) (s : List Char) : splitList pattern skip s ≠ [] := by
  induction s generalizing skip with
  | nil => simp [splitList]
  | cons c s ih =>
      cases skip with
      | succ skip =>
          rw [splitList]
          exact ih skip
      | zero =>
          rw [splitList]
          split
          · exact List.cons_ne_nil _ _
          · obtain ⟨head, tail, hsplit⟩ := List.exists_cons_of_ne_nil (ih 0)
            rw [hsplit]
            exact List.cons_ne_nil _ _

theorem isPrefixOf_append_feed {u t : List Char} (h : '\n' ∉ pattern) :
    pattern.isPrefixOf (u ++ '\n' :: t) = pattern.isPrefixOf u := by
  induction pattern generalizing u with
  | nil => rfl
  | cons c pattern ih =>
      cases u with
      | nil =>
          have hc : c ≠ '\n' := fun hc => h (hc ▸ List.mem_cons_self)
          simp [List.isPrefixOf, hc]
      | cons d u =>
          have hrest := ih (u := u) fun hmem => h (List.mem_cons_of_mem _ hmem)
          simp only [List.cons_append, List.isPrefixOf, hrest]

theorem splitList_line (hne : pattern ≠ []) (hline : '\n' ∉ pattern) (t : List Char) :
    ∀ (u : List Char) (skip : Nat), skip ≤ u.length → ∃ init last head tail,
      splitList pattern skip u = init ++ [last] ∧ splitList pattern 0 t = head :: tail
        ∧ splitList pattern skip (u ++ '\n' :: t) = init ++ (last ++ '\n' :: head) :: tail
  | [], skip, hskip => by
      obtain rfl := Nat.le_zero.mp hskip
      obtain ⟨head, tail, ht⟩ := List.exists_cons_of_ne_nil (@splitList_ne_nil pattern 0 t)
      have hnot : ¬ pattern.isPrefixOf ('\n' :: t) = true := by
        rw [← List.nil_append ('\n' :: t), isPrefixOf_append_feed hline]
        simpa [List.isPrefixOf_iff_prefix] using hne
      refine ⟨[], [], head, tail, rfl, ht, ?_⟩
      rw [List.nil_append, splitList, if_neg hnot, ht]
      rfl
  | c :: u, skip + 1, hskip => by
      have hle : skip ≤ u.length := Nat.le_of_succ_le_succ hskip
      exact splitList_line hne hline t u skip hle
  | c :: u, 0, _ => by
      have hfront := isPrefixOf_append_feed (u := c :: u) (t := t) hline
      by_cases hfound : pattern.isPrefixOf (c :: u) = true
      · have hlength : pattern.length - 1 ≤ u.length := by
          have := (List.isPrefixOf_iff_prefix.mp hfound).length_le
          rw [List.length_cons] at this
          omega
        obtain ⟨init, last, head, tail, hu, ht, hut⟩ :=
          splitList_line hne hline t u (pattern.length - 1) hlength
        refine ⟨[] :: init, last, head, tail, ?_, ht, ?_⟩
        · rw [splitList, if_pos hfound, hu, List.cons_append]
        · rw [List.cons_append, splitList, ← List.cons_append, hfront, if_pos hfound, hut,
            List.cons_append]
      · obtain ⟨init, last, head, tail, hu, ht, hut⟩ := splitList_line hne hline t u 0 (Nat.zero_le _)
        have hnot : ¬ pattern.isPrefixOf (c :: (u ++ '\n' :: t)) = true := by
          rw [← List.cons_append, hfront]
          exact hfound
        cases init with
        | nil =>
            refine ⟨[], c :: last, head, tail, ?_, ht, ?_⟩
            · rw [splitList, if_neg hfound, hu]
              rfl
            · rw [List.cons_append, splitList, if_neg hnot, hut]
              rfl
        | cons first init =>
            refine ⟨(c :: first) :: init, last, head, tail, ?_, ht, ?_⟩
            · rw [splitList, if_neg hfound, hu]
              rfl
            · rw [List.cons_append, splitList, if_neg hnot, hut]
              rfl

/-! ## Cutting in front of what a pattern cannot end in -/

variable {u w : List Char} {c : Char}

theorem cutList_eq_none_iff (hne : pattern ≠ []) {l : List Char} :
    cutList pattern l = none ↔ ¬ pattern <:+: l := by
  induction l with
  | nil => simp [cutList, hne]
  | cons d l ih =>
      rw [cutList, List.infix_cons_iff, ← List.isPrefixOf_iff_prefix]
      split
      · next hfront => simp [hfront]
      · next hfront => simp [hfront, ih]

theorem not_infix_of_cutList (hne : pattern ≠ []) {l before after : List Char}
    (h : cutList pattern l = some (before, after)) : ¬ pattern <:+: before := by
  induction l generalizing before after with
  | nil => simp [cutList, hne] at h
  | cons d l ih =>
      have hwhole := cutList_eq_some h
      rw [cutList] at h
      split at h
      · obtain ⟨rfl, -⟩ := Prod.mk.inj (Option.some.inj h)
        simpa using hne
      · next hnot =>
        obtain ⟨⟨front, back⟩, hcut, hpair⟩ := Option.map_eq_some_iff.mp h
        obtain ⟨rfl, rfl⟩ := Prod.mk.inj hpair
        rw [List.infix_cons_iff, not_or]
        refine ⟨fun hfront => hnot (List.isPrefixOf_iff_prefix.mpr ?_), ih hcut⟩
        rw [← hwhole, List.append_assoc]
        exact hfront.trans (List.prefix_append _ _)

theorem cutList_line (hne : pattern ≠ []) (hline : '\n' ∉ pattern) (u t : List Char) :
    cutList pattern (u ++ '\n' :: t) =
      match cutList pattern u with
      | some (before, after) => some (before, after ++ '\n' :: t)
      | none => (cutList pattern t).map fun (before, after) => (u ++ '\n' :: before, after) := by
  induction u with
  | nil =>
      have hnot : ¬ pattern.isPrefixOf ('\n' :: t) = true := by
        rw [← List.nil_append ('\n' :: t), isPrefixOf_append_feed hline]
        simpa [List.isPrefixOf_iff_prefix] using hne
      have hnil : cutList pattern [] = none := (cutList_eq_none_iff hne).mpr (by simpa using hne)
      rw [hnil, List.nil_append, cutList, if_neg hnot]
      rfl
  | cons d u ih =>
      have hfront := isPrefixOf_append_feed (u := d :: u) (t := t) hline
      rw [List.cons_append] at hfront
      rw [List.cons_append, cutList, cutList, hfront]
      by_cases hfound : pattern.isPrefixOf (d :: u) = true
      · have hlength := (List.isPrefixOf_iff_prefix.mp hfound).length_le
        rw [if_pos hfound, if_pos hfound]
        dsimp only
        rw [← List.cons_append, List.drop_append_of_le_length hlength]
      · rw [if_neg hfound, if_neg hfound, ih]
        cases cutList pattern u with
        | some cut => rfl
        | none =>
            dsimp only
            rw [Option.map_map, Option.map_none]
            rfl

theorem cutList_skip {p w s : List Char} (hc : c ∉ w) :
    cutList (c :: p) (w ++ s) = (cutList (c :: p) s).map fun (before, after) => (w ++ before, after) := by
  induction w with
  | nil => simp
  | cons d w ih =>
      have hne : ¬ (c :: p).isPrefixOf (d :: (w ++ s)) = true := by
        rw [List.isPrefixOf_iff_prefix, List.cons_prefix_cons]
        exact fun h => hc (h.1 ▸ List.mem_cons_self)
      rw [List.cons_append, cutList, if_neg hne, ih fun h => hc (List.mem_cons_of_mem d h),
        Option.map_map]
      rfl

end

/-- Two texts on lines of their own: the pieces of the first up to its last, a piece that
runs on, and the other pieces of the second. -/
theorem splitText_line {pattern : String} (hne : pattern ≠ "") (hline : IsLine pattern)
    (s t : String) : ∃ init last head tail,
      splitText pattern s = init ++ [last] ∧ splitText pattern t = head :: tail
        ∧ splitText pattern (s ++ "\n" ++ t) = init ++ (last ++ "\n" ++ head) :: tail := by
  have hchars : pattern.toList ≠ [] := fun h => hne (String.toList_inj.mp h)
  obtain ⟨init, last, head, tail, hs, ht, hst⟩ :=
    splitList_line hchars hline t.toList s.toList 0 (Nat.zero_le _)
  refine ⟨init.map String.ofList, String.ofList last, String.ofList head, tail.map String.ofList,
    ?_, ?_, ?_⟩
  · rw [splitText, hs, List.map_append]
    rfl
  · rw [splitText, ht]
    rfl
  · have hfeed : ("\n" : String).toList = ['\n'] := rfl
    have hrun : String.ofList last ++ "\n" ++ String.ofList head
        = String.ofList (last ++ '\n' :: head) := by
      rw [← String.toList_inj]
      simp [String.toList_append, hfeed]
    rw [splitText, String.toList_append, String.toList_append, hfeed, List.append_assoc,
      List.singleton_append, hst, List.map_append, List.map_cons, hrun]

/-! ## Texts of lines -/

theorem splitChar_join {lines : List String} (hne : lines ≠ []) (h : ∀ line ∈ lines, IsLine line) :
    splitChar '\n' (join "\n" lines) = lines := by
  have hfeed : ("\n" : String).toList = ['\n'] := rfl
  have hlines : ∀ l ∈ lines.map String.toList, '\n' ∉ l := by
    intro l hl
    obtain ⟨line, hline, rfl⟩ := List.mem_map.mp hl
    exact h line hline
  rw [splitChar, toList_join, hfeed, List.splitOn_intercalate '\n' hlines (by simpa using hne),
    List.map_map]
  exact List.map_id'' (fun line => String.ofList_toList) lines

variable {s : String}

theorem splitChar_of_trimEnd (h : trimEnd s = s) (hne : s ≠ "") :
    ∃ init last c, isWhitespace c = false ∧
      s.toList.splitOn '\n' = init ++ [last ++ [c]] := by
  have hchars : s.toList ≠ [] := fun hnil => hne (String.toList_inj.mp hnil)
  obtain ⟨front, c, hs⟩ := List.eq_nil_or_concat s.toList |>.resolve_left hchars
  have hdrop : s.toList.rdropWhile isWhitespace = s.toList := by
    conv_rhs => rw [← h]
    rw [trimEnd, String.toList_ofList]
  have hc : isWhitespace c = false := by
    have hlast := List.rdropWhile_eq_self_iff.mp hdrop hchars
    simpa [hs] using hlast
  obtain ⟨init, last, -, hconcat⟩ := splitOnP_concat (· == '\n') front
  have hcut : (c == '\n') = false := by
    rw [beq_eq_false_iff_ne]
    rintro rfl
    exact absurd hc (by decide)
  refine ⟨init, last, c, hc, ?_⟩
  rw [hs, List.concat_eq_append, List.splitOn_eq_splitOnP]
  exact hconcat c hcut

theorem chompList_concat_of_visible {c : Char} (hc : isWhitespace c = false) (line : List Char) :
    chompList (line ++ [c]) = line ++ [c] := by
  have hreturn : c ≠ '\r' := by
    rintro rfl
    exact absurd hc (by decide)
  rw [chompList, List.getLast?_concat, if_neg (by simpa using hreturn)]

theorem lines_of_trimEnd (h : trimEnd s = s) (hne : s ≠ "") : lines s = terminated s := by
  obtain ⟨init, last, c, hc, hsplit⟩ := splitChar_of_trimEnd h hne
  rw [terminated_eq_map, lines, hsplit, List.dropLast_concat, List.getLast?_concat, List.map_append,
    List.map_append, List.map_map, List.map_singleton, chompList_concat_of_visible hc]
  simp [Function.comp_def, chompList]

theorem suffix_join_concat (separator : String) (parts : List String) (last : String) :
    last.toList <:+ (join separator (parts ++ [last])).toList := by
  cases parts with
  | nil => simp
  | cons part parts =>
      rw [join_append (List.cons_ne_nil part parts) (List.cons_ne_nil last []), join_singleton,
        String.toList_append]
      exact List.suffix_append _ _

theorem trimEnd_eq_self_of_suffix {line : List Char} {c : Char} (hc : isWhitespace c = false)
    (h : line ++ [c] <:+ s.toList) : trimEnd s = s := by
  obtain ⟨front, hfront⟩ := h
  have hdrop : s.toList.rdropWhile isWhitespace = s.toList := by
    rw [List.rdropWhile_eq_self_iff]
    intro hne
    simp [← hfront, ← List.append_assoc, hc]
  rw [trimEnd, hdrop, String.ofList_toList]

theorem trimEnd_relay (h : trimEnd s = s) : trimEnd (relay s) = relay s := by
  by_cases hne : s = ""
  · rw [hne]
    decide
  · obtain ⟨init, last, c, hc, hsplit⟩ := splitChar_of_trimEnd h hne
    have hterminated : terminated s
        = init.map (fun line => String.ofList (chompList line)) ++ [String.ofList (last ++ [c])] := by
      rw [terminated_eq_map, hsplit, List.map_append, List.map_singleton,
        chompList_concat_of_visible hc]
    have hsuffix := suffix_join_concat "\n"
      (init.map fun line => String.ofList (chompList line)) (String.ofList (last ++ [c]))
    rw [← hterminated, String.toList_ofList] at hsuffix
    exact trimEnd_eq_self_of_suffix hc hsuffix

theorem suffix_or_infix_of_feed {q u t : List Char} (hu : '\n' ∉ u) (hq : '\n' ∉ q)
    (h : q ++ ['\n'] <:+: u ++ '\n' :: t) : q <:+ u ∨ q ++ ['\n'] <:+: t := by
  obtain ⟨front, back, happend⟩ := h
  have hcut : (front ++ q) ++ '\n' :: back = u ++ '\n' :: t := by simpa using happend
  rcases List.append_eq_append_iff.mp hcut with ⟨rest, rfl, hrest⟩ | ⟨rest, hfront, hrest⟩
  · cases rest with
    | nil => exact Or.inl (by simp)
    | cons c rest =>
        obtain ⟨rfl, -⟩ := List.cons.inj hrest
        exact absurd (List.mem_append_right _ List.mem_cons_self) hu
  · cases rest with
    | nil =>
        rw [List.append_nil] at hfront
        exact Or.inl ⟨front, hfront⟩
    | cons c rest =>
        obtain ⟨rfl, rfl⟩ := List.cons.inj hrest
        -- the feed behind `u` is not in `q`, so `q` begins behind it
        rcases List.append_eq_append_iff.mp hfront with ⟨inner, -, hinner⟩ | ⟨inner, -, hinner⟩
        · exact absurd (hinner ▸ List.mem_append_right _ List.mem_cons_self) hq
        · cases inner with
          | nil =>
              rw [List.nil_append] at hinner
              exact absurd (hinner ▸ List.mem_cons_self) hq
          | cons d inner =>
              obtain ⟨-, rfl⟩ := List.cons.inj hinner
              exact Or.inr ⟨inner, back, by simp⟩

theorem contains_join_feed {q : String} (hq : IsLine q) {lines : List String}
    (h : ∀ line ∈ lines, IsLine line) :
    contains (join "\n" lines) (q ++ "\n") = true ↔
      ∃ line ∈ lines.dropLast, q.toList <:+ line.toList := by
  have hfeed : ("\n" : String).toList = ['\n'] := rfl
  have hnone : ∀ line : String, IsLine line → contains line (q ++ "\n") = false := by
    intro line hline
    rw [contains, decide_eq_false_iff_not, String.toList_append, hfeed]
    exact fun hin => hline (hin.subset (by simp))
  induction lines with
  | nil => simpa using hnone "" (by simp [IsLine])
  | cons line lines ih =>
      have hline := h line List.mem_cons_self
      cases lines with
      | nil => simpa using hnone line hline
      | cons next lines =>
          specialize ih fun l hl => h l (List.mem_cons_of_mem _ hl)
          simp only [join_cons line (List.cons_ne_nil next lines), List.dropLast_cons_cons,
            List.mem_cons, exists_eq_or_imp]
          refine Iff.trans ?_ (or_congr_right ih)
          rw [contains, contains, decide_eq_true_iff, decide_eq_true_iff, String.toList_append,
            String.toList_append, String.toList_append, hfeed, List.append_assoc,
            List.singleton_append]
          constructor
          · exact suffix_or_infix_of_feed hline hq
          · rintro (⟨front, hfront⟩ | hin)
            · exact ⟨front, (join "\n" (next :: lines)).toList, by simp [← hfront]⟩
            · exact hin.trans (List.suffix_append_of_suffix (List.suffix_cons _ _)).isInfix

/-! ## Segments -/

theorem splitOn_eq_cons_iff {α : Type*} [DecidableEq α] {a : α} {l piece : List α}
    {pieces : List (List α)} :
    l.splitOn a = piece :: pieces
      ↔ a ∉ piece ∧ (l = piece ∧ pieces = [] ∨ ∃ rest, l = piece ++ a :: rest
        ∧ rest.splitOn a = pieces) := by
  constructor
  · intro h
    have hfree : ∀ p ∈ l.splitOn a, a ∉ p := by
      intro p hp hmem
      rw [List.splitOn_eq_splitOnP] at hp
      simpa using (mem_of_mem_splitOnP hp hmem).2
    have hl : [a].intercalate (l.splitOn a) = l := List.intercalate_splitOn a
    rw [h] at hfree hl
    refine ⟨hfree piece List.mem_cons_self, ?_⟩
    cases pieces with
    | nil => exact .inl ⟨by simpa using hl.symm, rfl⟩
    | cons next pieces =>
        refine .inr ⟨[a].intercalate (next :: pieces), ?_, ?_⟩
        · rw [← hl, List.intercalate_cons_of_ne_nil (List.cons_ne_nil next pieces)]
          simp
        · exact List.splitOn_intercalate a (fun p hp => hfree p (List.mem_cons_of_mem _ hp))
            (List.cons_ne_nil next pieces)
  · rintro ⟨hfree, ⟨rfl, rfl⟩ | ⟨rest, rfl, rfl⟩⟩
    · exact List.splitOn_eq_singleton hfree
    · rw [List.splitOn_append_cons_self, List.splitOn_eq_singleton hfree]
      rfl

theorem exists_of_splitOn_eq_cons_cons {α : Type*} [DecidableEq α] {a : α}
    {l piece next : List α} {pieces : List (List α)}
    (h : l.splitOn a = piece :: next :: pieces) :
    ∃ rest, l = piece ++ a :: rest ∧ rest.splitOn a = next :: pieces := by
  obtain ⟨-, ⟨-, hnil⟩ | hrest⟩ := splitOn_eq_cons_iff.mp h
  · cases hnil
  · exact hrest

theorem splitOn_append_cons {α : Type*} [DecidableEq α] {a : α} {piece : List α}
    (h : a ∉ piece) (rest : List α) :
    (piece ++ a :: rest).splitOn a = piece :: rest.splitOn a :=
  splitOn_eq_cons_iff.mpr ⟨h, .inr ⟨rest, rfl, rfl⟩⟩

/-- What stands in front of the first `a` is the first piece. -/
theorem exists_splitOn_eq_cons {α : Type*} [DecidableEq α] (a : α) (l : List α) :
    ∃ front pieces, l.splitOn a = front :: pieces ∧ front <+: l := by
  cases h : l.splitOn a with
  | nil => exact absurd h (by simp)
  | cons front pieces =>
      obtain ⟨-, ⟨rfl, -⟩ | ⟨rest, rfl, -⟩⟩ := splitOn_eq_cons_iff.mp h
      · exact ⟨l, pieces, rfl, List.prefix_refl l⟩
      · exact ⟨front, pieces, rfl, List.prefix_append _ _⟩

/-! ## Texts separated by commas -/

theorem splitOn_cons_of_ne {α : Type*} [DecidableEq α] {c d : α} (h : d ≠ c) (l : List α) :
    (d :: l).splitOn c = (l.splitOn c).modifyHead (d :: ·) := by
  rw [List.splitOn_eq_splitOnP, List.splitOnP_cons_eq_if_modifyHead, if_neg (by simpa using h),
    List.splitOn_eq_splitOnP]

theorem map_trim_splitChar_comma (s t : String) :
    (splitChar ',' (s ++ ", " ++ t)).map trim
      = (splitChar ',' s).map trim ++ (splitChar ',' t).map trim := by
  have hlist : (s ++ ", " ++ t).toList = s.toList ++ ',' :: (' ' :: t.toList) := by
    simp [String.toList_append]
  have hblank : ∀ piece : List Char, trim (String.ofList (' ' :: piece)) = trim (String.ofList piece) := by
    intro piece
    have hspace : IsSpace " " := by simp [IsSpace, isWhitespace]
    have happend : String.ofList ([' '] ++ piece) = " " ++ String.ofList piece :=
      String.ofList_append
    exact (congrArg trim happend).trans (trim_space_append hspace)
  rw [splitChar, hlist, List.splitOn_append_cons_self, splitOn_cons_of_ne (by decide), List.map_append,
    List.map_append, splitChar, splitChar]
  cases t.toList.splitOn ',' with
  | nil => rfl
  | cons head tail =>
      simp only [List.modifyHead_cons, List.map_cons, hblank]

theorem map_trim_splitChar_join {parts : List String} (hne : parts ≠ []) :
    (splitChar ',' (join ", " parts)).map trim
      = parts.flatMap fun part => (splitChar ',' part).map trim := by
  induction parts with
  | nil => exact absurd rfl hne
  | cons part parts ih =>
      cases parts with
      | nil => rw [join_singleton, List.flatMap_singleton]
      | cons next parts =>
          rw [join_cons part (List.cons_ne_nil next parts), map_trim_splitChar_comma,
            ih (List.cons_ne_nil next parts)]
          rfl

theorem splitChar_of_not_mem {c : Char} (h : c ∉ s.toList) : splitChar c s = [s] := by
  rw [splitChar, List.splitOn_eq_singleton h, List.map_singleton, String.ofList_toList]

theorem splitOnce_append {c : Char} {front : String} (back : String) (h : c ∉ front.toList) :
    splitOnce c (front ++ String.singleton c ++ back) = some (front, back) := by
  have hspan : (front.toList ++ c :: back.toList).span (fun d => d != c)
      = (front.toList, c :: back.toList) := by
    rw [List.span_eq_takeWhile_dropWhile]
    have hpos : ∀ d ∈ front.toList, (d != c) = true := by
      intro d hd
      rw [bne_iff_ne]
      rintro rfl
      exact h hd
    rw [List.takeWhile_append_of_pos hpos, List.dropWhile_append_of_pos hpos,
      List.takeWhile_cons_of_neg (by simp), List.dropWhile_cons_of_neg (by simp), List.append_nil]
  have hlist : (front ++ String.singleton c ++ back).toList = front.toList ++ c :: back.toList := by
    simp [String.toList_append]
  rw [splitOnce, hlist, hspan]
  simp [String.ofList_toList]

/-! ## A front without the pattern -/

theorem splitChar_line_append {line : String} (hline : IsLine line) (text : String) :
    ∃ first pieces, splitChar '\n' (line ++ text) = (line ++ first) :: pieces := by
  have hlist : ∀ chars : List Char, '\n' ∉ chars → ∀ rest : List Char,
      (chars ++ rest).splitOn '\n' = (rest.splitOn '\n').modifyHead (chars ++ ·) := by
    intro chars
    induction chars with
    | nil =>
        intro _ rest
        rw [List.nil_append]
        exact (List.modifyHead_id ▸ rfl)
    | cons c chars ih =>
        intro hfree rest
        rw [List.mem_cons, not_or] at hfree
        rw [List.cons_append, splitOn_cons_of_ne (Ne.symm hfree.1), ih hfree.2,
          List.modifyHead_modifyHead]
        rfl
  obtain ⟨first, pieces, hpieces⟩ := List.exists_cons_of_ne_nil (List.splitOn_ne_nil '\n' text.toList)
  refine ⟨String.ofList first, pieces.map String.ofList, ?_⟩
  rw [splitChar, String.toList_append, hlist _ hline, hpieces, List.modifyHead_cons,
    List.map_cons, String.ofList_append, String.ofList_toList]

theorem cut_append {pattern front : String} (hne : pattern ≠ "")
    (h : ¬ pattern.toList <:+: front.toList ++ pattern.toList.dropLast) (back : String) :
    cut (front ++ pattern ++ back) pattern = some (front, back) := by
  have hlist : ∀ chars : List Char, ¬ pattern.toList <:+: chars ++ pattern.toList.dropLast →
      cutList pattern.toList (chars ++ (pattern.toList ++ back.toList))
        = some (chars, back.toList) := by
    have hpattern : pattern.toList ≠ [] := fun hnil => hne (String.toList_eq_nil_iff.mp hnil)
    intro chars
    induction chars with
    | nil =>
        intro _
        obtain ⟨c, rest, hcons⟩ := List.exists_cons_of_ne_nil hpattern
        have hbegins : pattern.toList.isPrefixOf (c :: (rest ++ back.toList)) = true := by
          rw [← List.cons_append, ← hcons]
          exact List.isPrefixOf_iff_prefix.mpr (List.prefix_append _ _)
        rw [List.nil_append]
        conv_lhs => rw [hcons, List.cons_append]
        rw [← hcons, cutList, if_pos hbegins, ← List.cons_append, ← hcons, List.drop_left]
    | cons c chars ih =>
        intro hfree
        rw [List.cons_append, List.infix_cons_iff, not_or] at hfree
        have hnot : ¬ pattern.toList.isPrefixOf (c :: (chars ++ (pattern.toList ++ back.toList))) = true := by
          intro hbegins
          refine hfree.1 (List.prefix_of_prefix_length_le
            (List.isPrefixOf_iff_prefix.mp hbegins) ?_ ?_)
          · rw [List.cons_prefix_cons]
            refine ⟨rfl, List.prefix_append_right_inj _ |>.mpr ?_⟩
            exact (List.dropLast_prefix _).trans (List.prefix_append _ _)
          · have hpos := List.length_pos_of_ne_nil hpattern
            rw [List.length_cons, List.length_append, List.length_dropLast]
            omega
        rw [List.cons_append, cutList, if_neg hnot, ih hfree.2]
        rfl
  rw [cut, String.append_assoc, String.toList_append, String.toList_append, hlist _ h,
    Option.map_some]
  simp only [String.ofList_toList]

theorem cut_append_of_not_mem {c : Char} {pattern front : String}
    (hfirst : pattern.toList.head? = some c) (h : c ∉ front.toList) (back : String) :
    cut (front ++ pattern ++ back) pattern = some (front, back) := by
  obtain ⟨rest, hpattern⟩ := List.head?_eq_some_iff.mp hfirst
  have hbegins : cutList pattern.toList (pattern.toList ++ back.toList) = some ([], back.toList) := by
    rw [hpattern, List.cons_append, cutList, ← List.cons_append, List.drop_left,
      if_pos (List.isPrefixOf_iff_prefix.mpr (List.prefix_append _ _))]
  rw [cut, String.append_assoc, String.toList_append, String.toList_append, hpattern, cutList_skip h,
    ← hpattern, hbegins]
  simp only [Option.map_some, List.append_nil, String.ofList_toList]

/-! ## Carriage returns -/

theorem isLine_empty : IsLine "" := List.not_mem_nil

theorem isLine_return : IsLine "\r" := by
  show '\n' ∉ "\r".toList
  decide

theorem chompList_eq_self_iff {line : List Char} : chompList line = line ↔ ¬ ['\r'] <:+ line := by
  unfold chompList
  split
  · next hlast =>
    obtain ⟨init, rfl⟩ := List.getLast?_eq_some_iff.mp hlast
    simp
  · next hlast =>
    refine ⟨fun _ hsuffix => hlast ?_, fun _ => rfl⟩
    obtain ⟨front, rfl⟩ := hsuffix
    exact List.getLast?_concat

theorem chomp_eq_self_iff {line : String} : chomp line = line ↔ ¬ "\r".toList <:+ line.toList := by
  have hreturn : "\r".toList = ['\r'] := by decide
  rw [hreturn, ← chompList_eq_self_iff, chomp, ← String.toList_inj, String.toList_ofList]

theorem suffix_chomp_iff {line : String} :
    "\r".toList <:+ (chomp line).toList ↔ "\r\r".toList <:+ line.toList := by
  have hreturn : "\r".toList = ['\r'] := by decide
  have htwo : "\r\r".toList = ['\r'] ++ ['\r'] := by decide
  rw [hreturn, htwo, chomp, String.toList_ofList]
  constructor
  · intro h
    by_cases hlast : ['\r'] <:+ line.toList
    · obtain ⟨front, hfront⟩ := hlast
      rw [← hfront, chompList, List.getLast?_concat, if_pos rfl, List.dropLast_concat] at h
      rw [← hfront]
      obtain ⟨rest, rfl⟩ := h
      exact ⟨rest, by simp⟩
    · rw [chompList_eq_self_iff.mpr hlast] at h
      exact absurd h hlast
  · rintro ⟨front, hfront⟩
    rw [← hfront, ← List.append_assoc, chompList, List.getLast?_concat, if_pos rfl,
      List.dropLast_concat]
    exact List.suffix_append _ _

theorem splitChar_ne_nil (s : String) : splitChar '\n' s ≠ [] := by
  have hne := terminated_ne_nil s
  simpa [terminated] using hne

theorem chomp_last {s last : String} (h : trimEnd s = s)
    (hlast : (splitChar '\n' s).getLast? = some last) : chomp last = last := by
  by_cases hne : s = ""
  · have hsplit : splitChar '\n' "" = [""] := by decide
    rw [hne, hsplit, List.getLast?_singleton] at hlast
    rw [← Option.some.inj hlast, chomp_empty]
  · obtain ⟨init, front, c, hc, hsplit⟩ := splitChar_of_trimEnd h hne
    rw [splitChar, hsplit, List.map_append, List.map_singleton, List.getLast?_concat] at hlast
    rw [← Option.some.inj hlast, chomp, String.toList_ofList, chompList_concat_of_visible hc]

theorem relay_eq_self_iff (h : trimEnd s = s) :
    relay s = s ↔ contains s "\r\n" = false := by
  have hlines : ∀ line ∈ splitChar '\n' s, IsLine line := fun _ => isLine_of_mem_splitChar
  have hterminated : ∀ line ∈ terminated s, IsLine line := fun _ => isLine_of_mem_terminated
  have hcontains := contains_join_feed isLine_return hlines
  rw [join_splitChar] at hcontains
  have hrelay : relay s = s ↔ ∀ line ∈ splitChar '\n' s, chomp line = line := by
    have hmap : (splitChar '\n' s).map chomp = splitChar '\n' s ↔
        ∀ line ∈ splitChar '\n' s, chomp line = line := by
      conv_lhs => rhs; rw [← List.map_id (splitChar '\n' s)]
      exact List.map_inj_left
    rw [← hmap]
    constructor
    · intro hsame
      have hsplit := congrArg (splitChar '\n') hsame
      rwa [relay, splitChar_join (terminated_ne_nil s) hterminated] at hsplit
    · intro hsame
      rw [relay, terminated, hsame, join_splitChar]
  rw [hrelay, ← Bool.not_eq_true]
  refine Iff.trans ?_ (not_congr hcontains).symm
  have hsplit := List.dropLast_append_getLast (splitChar_ne_nil s)
  have hlast := chomp_last h (List.getLast?_eq_some_getLast (splitChar_ne_nil s))
  simp only [not_exists, not_and, ← chomp_eq_self_iff]
  refine ⟨fun hall line hline => hall line (List.mem_of_mem_dropLast hline), fun hall line hline => ?_⟩
  rw [← hsplit, List.mem_append, List.mem_singleton] at hline
  rcases hline with hline | rfl
  · exact hall line hline
  · exact hlast

theorem contains_relay_return (s : String) :
    contains (relay s) "\r\n" = contains s "\r\r\n" := by
  have hlines : ∀ line ∈ splitChar '\n' s, IsLine line := fun _ => isLine_of_mem_splitChar
  have hterminated : ∀ line ∈ terminated s, IsLine line := fun _ => isLine_of_mem_terminated
  have htwo : IsLine "\r\r" := by
    show '\n' ∉ "\r\r".toList
    decide
  have honce := contains_join_feed isLine_return hterminated
  have htwice := contains_join_feed htwo hlines
  rw [join_splitChar] at htwice
  rw [Bool.eq_iff_iff]
  refine Iff.trans honce (Iff.trans ?_ htwice.symm)
  rw [terminated, ← List.map_dropLast]
  simp only [List.mem_map, exists_exists_and_eq_and, suffix_chomp_iff]

/-! ## A text inside a text -/

theorem dropWhile_cases {α : Type*} (p : α → Bool) (l : List α) :
    l.dropWhile p = [] ∧ l.takeWhile p = l ∨ ∃ x back, l.dropWhile p = x :: back ∧
      l = l.takeWhile p ++ x :: back ∧ p x = false := by
  have hsplit := List.takeWhile_append_dropWhile (p := p) (l := l)
  cases hdrop : l.dropWhile p with
  | nil =>
      rw [hdrop, List.append_nil] at hsplit
      exact Or.inl ⟨rfl, hsplit⟩
  | cons x back =>
      have hhead := List.head_dropWhile_not p (l := l) (by simp [hdrop])
      simp only [hdrop, List.head_cons] at hhead
      exact Or.inr ⟨x, back, rfl, (hdrop ▸ hsplit).symm, hhead⟩

theorem rdropWhile_cases {α : Type*} (p : α → Bool) (l : List α) :
    l.rdropWhile p = [] ∧ l.rtakeWhile p = l ∨ ∃ front x, l.rdropWhile p = front ++ [x] ∧
      l = front ++ x :: l.rtakeWhile p ∧ p x = false := by
  have hsplit := List.rdropWhile_append_rtakeWhile (p := p) (l := l)
  rcases List.eq_nil_or_concat (l.rdropWhile p) with hnil | ⟨front, x, hfront⟩
  · rw [hnil, List.nil_append] at hsplit
    exact Or.inl ⟨hnil, hsplit⟩
  · have hlast := List.rdropWhile_last_not p l (by simp [hfront])
    simp only [hfront, List.concat_eq_append, List.getLast_concat] at hlast
    rw [hfront, List.concat_eq_append, List.append_assoc, List.singleton_append] at hsplit
    exact Or.inr ⟨front, x, hfront.trans List.concat_eq_append, hsplit.symm,
      Bool.not_eq_true _ ▸ hlast⟩

/-- What stands on the last line of a text. -/
def openLine (s : String) : String := String.ofList (s.toList.rtakeWhile (· != '\n'))

/-- What stands on the first line of a text. -/
def restOfLine (s : String) : String := String.ofList (s.toList.takeWhile (· != '\n'))

theorem terminated_of_isLine {line : String} (h : IsLine line) : terminated line = [chomp line] := by
  rw [terminated, splitChar_of_isLine h, List.map_singleton]

theorem openLine_cases (s : String) :
    s = openLine s ∧ IsLine s ∨ ∃ front, s = front ++ "\n" ++ openLine s ∧ IsLine (openLine s) := by
  have hline : '\n' ∉ s.toList.rtakeWhile (· != '\n') := fun h => by
    simpa using List.mem_rtakeWhile_imp h
  rcases rdropWhile_cases (· != '\n') s.toList with ⟨-, hopen⟩ | ⟨front, c, -, hsplit, hc⟩
  · refine Or.inl ⟨?_, ?_⟩
    · rw [openLine, hopen, String.ofList_toList]
    · rwa [hopen] at hline
  · refine Or.inr ⟨String.ofList front, ?_, by rwa [IsLine, openLine, String.toList_ofList]⟩
    rw [← String.toList_inj]
    conv_lhs => rw [hsplit]
    have hfeed : c = '\n' := by simpa using hc
    simp [openLine, String.toList_append, hfeed]

theorem restOfLine_cases (s : String) :
    s = restOfLine s ∧ IsLine s ∨ ∃ back, s = restOfLine s ++ "\n" ++ back ∧ IsLine (restOfLine s) := by
  have hline : '\n' ∉ s.toList.takeWhile (· != '\n') := fun h => by
    simpa using List.mem_takeWhile_imp h
  rcases dropWhile_cases (· != '\n') s.toList with ⟨-, hrest⟩ | ⟨c, back, -, hsplit, hc⟩
  · refine Or.inl ⟨?_, ?_⟩
    · rw [restOfLine, hrest, String.ofList_toList]
    · rwa [hrest] at hline
  · refine Or.inr ⟨String.ofList back, ?_, by rwa [IsLine, restOfLine, String.toList_ofList]⟩
    rw [← String.toList_inj]
    conv_lhs => rw [hsplit]
    have hfeed : c = '\n' := by simpa using hc
    simp [restOfLine, String.toList_append, hfeed]

theorem terminated_open (s t : String) :
    terminated (s ++ t) = (terminated s).dropLast ++ terminated (openLine s ++ t) := by
  rcases openLine_cases s with ⟨hopen, hline⟩ | ⟨front, hfront, hline⟩
  · rw [← hopen, terminated_of_isLine hline, List.dropLast_singleton, List.nil_append]
  · have hterminated : terminated s = terminated front ++ [chomp (openLine s)] := by
      rw [hfront, terminated_append, ← hfront, terminated_of_isLine hline]
    rw [hterminated, List.dropLast_concat, ← terminated_append, ← String.append_assoc, ← hfront]

theorem terminated_rest (s t : String) :
    terminated (t ++ s) = terminated (t ++ restOfLine s) ++ (terminated s).tail := by
  rcases restOfLine_cases s with ⟨hrest, hline⟩ | ⟨back, hback, hline⟩
  · rw [← hrest, terminated_of_isLine hline, List.tail_cons, List.append_nil]
  · have hterminated : terminated s = chomp (restOfLine s) :: terminated back := by
      rw [hback, terminated_append, ← hback, terminated_of_isLine hline, List.singleton_append]
    rw [hterminated, List.tail_cons, ← terminated_append]
    simp only [String.append_assoc] at hback ⊢
    rw [← hback]

end Text

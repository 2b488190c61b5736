import SheaSymphony.Lines
import SheaSymphony.Workpad

/-!
# Reading a workpad back

What `split_workpad_entries` finds in a text: it ignores the blanks at the ends, it
reads two texts with a separator line between them one after the other, and it reads
an entry back as that entry, reread line by line. So a rendered workpad reads back as
its entries, and the key of an entry survives.
-/

namespace SheaSymphony.Workpad

open Text

/-! ## Entries of a list of lines -/

def entriesOfLines (lines : List String) : List String :=
  ((lines.splitOnP isSeparator).map paragraph).filter (· != "")

theorem splitWorkpadEntries_eq (markdown : String) :
    splitWorkpadEntries markdown = entriesOfLines (lines markdown) := rfl

@[simp] theorem isSeparator_empty : isSeparator "" = false := by decide

theorem entriesOfLines_separator (front back : List String) {line : String}
    (h : isSeparator line = true) :
    entriesOfLines (front ++ line :: back) = entriesOfLines front ++ entriesOfLines back := by
  rw [entriesOfLines, List.splitOnP_append_cons front back h, List.map_append, List.filter_append,
    entriesOfLines, entriesOfLines]

theorem filter_singleton {text : String} (h : text ≠ "") : [text].filter (· != "") = [text] := by
  simp [h]

variable {lines : List String} {entries : List String}

theorem entriesOfLines_of_no_separator (h : ∀ line ∈ lines, isSeparator line = false) :
    entriesOfLines lines = [paragraph lines].filter (· != "") := by
  rw [entriesOfLines, List.splitOnP_eq_singleton h, List.map_singleton]

theorem entriesOfLines_cons_congr {line line' : String}
    (hseparator : isSeparator line = isSeparator line')
    (hparagraph : ∀ block, paragraph (line :: block) = paragraph (line' :: block)) :
    entriesOfLines (line :: lines) = entriesOfLines (line' :: lines) := by
  simp only [entriesOfLines, List.splitOnP_cons_eq_if_modifyHead, ← hseparator]
  split
  · rfl
  · obtain ⟨block, blocks, hsplit⟩ :=
      List.exists_cons_of_ne_nil (List.splitOnP_ne_nil isSeparator lines)
    simp only [hsplit, List.modifyHead_cons, List.map_cons, hparagraph]

theorem entriesOfLines_concat_congr {line line' : String}
    (hseparator : isSeparator line = isSeparator line')
    (hparagraph : ∀ block, paragraph (block ++ [line]) = paragraph (block ++ [line'])) :
    entriesOfLines (lines ++ [line]) = entriesOfLines (lines ++ [line']) := by
  cases hline : isSeparator line with
  | true =>
      rw [entriesOfLines_separator lines [] hline,
        entriesOfLines_separator lines [] (hseparator ▸ hline)]
  | false =>
      obtain ⟨init, last, -, hconcat⟩ := splitOnP_concat isSeparator lines
      rw [entriesOfLines, entriesOfLines, hconcat line hline, hconcat line' (hseparator ▸ hline)]
      simp only [List.map_append, List.map_cons, List.map_nil, hparagraph]

theorem entriesOfLines_blockwise : Blockwise entriesOfLines where
  blank_cons lines := by
    rw [entriesOfLines, entriesOfLines, List.splitOnP_cons_eq_if_modifyHead,
      if_neg (by simp)]
    obtain ⟨block, blocks, hsplit⟩ :=
      List.exists_cons_of_ne_nil (List.splitOnP_ne_nil isSeparator lines)
    simp only [hsplit, List.modifyHead_cons, List.map_cons, paragraph_blockwise.blank_cons]
  space_cons space line lines h :=
    entriesOfLines_cons_congr (by rw [isSeparator, trim_space_append h, isSeparator])
      fun block => paragraph_blockwise.space_cons space line block h
  concat_blank lines := by
    obtain ⟨init, last, hsplit, hconcat⟩ := splitOnP_concat isSeparator lines
    rw [entriesOfLines, entriesOfLines, hconcat "" isSeparator_empty, hsplit]
    simp only [List.map_append, List.map_cons, List.map_nil, paragraph_blockwise.concat_blank]
  concat_space lines line space h :=
    entriesOfLines_concat_congr (by rw [isSeparator, trim_append_space h, isSeparator])
      fun block => paragraph_blockwise.concat_space block line space h

@[simp] theorem splitWorkpadEntries_trimStart (markdown : String) :
    splitWorkpadEntries (trimStart markdown) = splitWorkpadEntries markdown := by
  simp only [splitWorkpadEntries_eq, entriesOfLines_blockwise.lines,
    entriesOfLines_blockwise.trimStart]

@[simp] theorem splitWorkpadEntries_trimEnd (markdown : String) :
    splitWorkpadEntries (trimEnd markdown) = splitWorkpadEntries markdown := by
  simp only [splitWorkpadEntries_eq, entriesOfLines_blockwise.lines,
    entriesOfLines_blockwise.trimEnd]

@[simp] theorem splitWorkpadEntries_empty : splitWorkpadEntries "" = [] := by decide

theorem separator_eq (front back : String) :
    front ++ "\n\n---\n\n" ++ back =
      front ++ "\n" ++ ("" ++ "\n" ++ ("---" ++ "\n" ++ ("" ++ "\n" ++ back))) := by
  rw [← String.toList_inj]
  simp [String.toList_append]

theorem splitWorkpadEntries_append (front back : String) :
    splitWorkpadEntries (front ++ "\n\n---\n\n" ++ back) =
      splitWorkpadEntries front ++ splitWorkpadEntries back := by
  have hseparator : terminated "---" = ["---"] := by decide
  have hlines : terminated (front ++ "\n\n---\n\n" ++ back) =
      (terminated front ++ [""]) ++ "---" :: ("" :: terminated back) := by
    rw [separator_eq, terminated_append, terminated_append, terminated_append, terminated_append,
      hseparator, terminated_empty]
    simp
  simp only [splitWorkpadEntries_eq, entriesOfLines_blockwise.lines]
  rw [hlines, entriesOfLines_separator _ _ (by decide), entriesOfLines_blockwise.concat_blank,
    entriesOfLines_blockwise.blank_cons]

theorem contains_separator {front back pattern : String} (hline : IsLine pattern)
    (hne : pattern ≠ "") (h : contains (front ++ "\n\n---\n\n" ++ back) pattern = true) :
    contains front pattern = true ∨ contains "---" pattern = true ∨
      contains back pattern = true := by
  have htext : front ++ "\n\n---\n\n" ++ back = front ++ "\n\n" ++ ("---" ++ "\n\n" ++ back) := by
    rw [separator_eq, ← blank_line_eq, ← blank_line_eq]
  rw [htext] at h
  rcases contains_blank_line hline hne h with h | h
  · exact Or.inl h
  · exact Or.inr (contains_blank_line hline hne h)

/-! ## Entries -/

/-- A trimmed text without a separator line. -/
structure IsEntry (entry : String) : Prop where
  ne_empty : entry ≠ ""
  trimmed : trim entry = entry
  no_separator : "---" ∉ solidLines entry

theorem isSeparator_iff {line : String} : isSeparator line = true ↔ trim line = "---" := by
  simp [isSeparator]

theorem mem_solid_separator :
    "---" ∈ solid lines ↔ ∃ line ∈ lines, isSeparator line = true := by
  simp [mem_solid, isSeparator_iff]

theorem isEntry_of_mem {markdown entry : String} (h : entry ∈ splitWorkpadEntries markdown) :
    IsEntry entry := by
  obtain ⟨hmem, hne⟩ := List.mem_filter.mp h
  obtain ⟨block, hblock, rfl⟩ := List.mem_map.mp hmem
  exact {
    ne_empty := by simpa using hne
    trimmed := trim_paragraph block
    no_separator := by
      change "---" ∉ solidLines (paragraph block)
      rw [solidLines_paragraph fun line hline =>
        isLine_of_mem_lines (mem_of_mem_splitOnP hblock hline).1, mem_solid_separator]
      rintro ⟨line, hline, hseparator⟩
      rw [(mem_of_mem_splitOnP hblock hline).2] at hseparator
      cases hseparator }

theorem contains_of_mem_splitWorkpadEntries {markdown entry pattern : String}
    (hline : IsLine pattern) (hne : pattern ≠ "") (h : entry ∈ splitWorkpadEntries markdown)
    (hentry : contains entry pattern = true) : contains markdown pattern = true := by
  obtain ⟨block, hblock, rfl⟩ := List.mem_map.mp (List.mem_filter.mp h).1
  exact contains_paragraph hline hne (fun l hl => (mem_of_mem_splitOnP hblock hl).1) hentry

theorem IsEntry.split {entry : String} (h : IsEntry entry) :
    splitWorkpadEntries entry = [reread entry] := by
  have hno : ∀ line ∈ lines entry, isSeparator line = false := by
    intro line hline
    rw [← Bool.not_eq_true]
    exact fun hseparator => h.no_separator (mem_solid_separator.mpr ⟨line, hline, hseparator⟩)
  rw [splitWorkpadEntries_eq, entriesOfLines_of_no_separator hno]
  exact filter_singleton (reread_ne_empty h.ne_empty h.trimmed)

theorem splitWorkpadEntries_join (h : ∀ entry ∈ entries, IsEntry entry) :
    splitWorkpadEntries (join "\n\n---\n\n" entries) = entries.map reread := by
  induction entries with
  | nil => simp
  | cons entry entries ih =>
      have hentry := (h entry List.mem_cons_self).split
      have hentries := ih fun e he => h e (List.mem_cons_of_mem _ he)
      cases entries with
      | nil => simpa using hentry
      | cons next entries =>
          rw [join_cons _ (List.cons_ne_nil next entries), splitWorkpadEntries_append, hentry,
            hentries]
          rfl

/-! ## The marker -/

/-- The entries of a workpad. -/
def workpadEntries (marker workpad : String) : List String :=
  splitWorkpadEntries (stripWorkpadMarker workpad marker)

theorem isEntry_workpadEntries (marker workpad : String) :
    ∀ e ∈ workpadEntries marker workpad, IsEntry e :=
  fun _ => isEntry_of_mem

theorem startsWith_iff {s pattern : String} :
    startsWith s pattern = true ↔ ∃ rest, pattern ++ rest = s := by
  rw [startsWith, List.isPrefixOf_iff_prefix]
  constructor
  · rintro ⟨rest, h⟩
    refine ⟨String.ofList rest, ?_⟩
    rw [← String.toList_inj, String.toList_append, String.toList_ofList, h]
  · rintro ⟨rest, rfl⟩
    rw [String.toList_append]
    exact List.prefix_append _ _

theorem stripPrefix_append (marker rest : String) :
    stripPrefix (marker ++ rest) marker = some rest := by
  have hfront : startsWith (marker ++ rest) marker = true := startsWith_iff.mpr ⟨rest, rfl⟩
  rw [stripPrefix, if_pos hfront, String.toList_append, List.drop_left, String.ofList_toList]

theorem stripWorkpadMarker_of_not_startsWith {markdown marker : String}
    (h : startsWith markdown marker = false) : stripWorkpadMarker markdown marker = markdown := by
  rw [stripWorkpadMarker, stripPrefix, h]
  rfl

theorem stripWorkpadMarker_append (marker rest : String) :
    stripWorkpadMarker (marker ++ rest) marker = trimStart rest := by
  rw [stripWorkpadMarker, stripPrefix_append]

@[simp] theorem workpadEntries_append (marker rest : String) :
    workpadEntries marker (marker ++ rest) = splitWorkpadEntries rest := by
  rw [workpadEntries, stripWorkpadMarker_append, splitWorkpadEntries_trimStart]

theorem splitWorkpadEntries_newline (markdown : String) :
    splitWorkpadEntries ("\n" ++ markdown) = splitWorkpadEntries markdown := by
  have hlines : terminated ("\n" ++ markdown) = "" :: terminated markdown := by
    have happend := terminated_append "" markdown
    rwa [String.empty_append, terminated_empty] at happend
  simp only [splitWorkpadEntries_eq, entriesOfLines_blockwise.lines, hlines,
    entriesOfLines_blockwise.blank_cons]

theorem renderWorkpadEntries_eq (marker : String) (h : entries ≠ []) :
    renderWorkpadEntries marker entries = marker ++ ("\n" ++ join "\n\n---\n\n" entries) := by
  rw [renderWorkpadEntries, if_neg (by simpa using h), String.append_assoc]

theorem workpadEntries_render (marker : String) (h : ∀ entry ∈ entries, IsEntry entry) :
    workpadEntries marker (renderWorkpadEntries marker entries) = entries.map reread := by
  cases entries with
  | nil =>
      have hmarker := workpadEntries_append marker ""
      rw [String.append_empty] at hmarker
      change workpadEntries marker marker = []
      rw [hmarker, splitWorkpadEntries_empty]
  | cons entry entries =>
      rw [renderWorkpadEntries_eq marker (List.cons_ne_nil entry entries), workpadEntries_append,
        splitWorkpadEntries_newline, splitWorkpadEntries_join h]

/-! ## Keys -/

/-- The key, from solid lines. -/
def keyOfSolid (lines : List String) : Option String :=
  match lines.dropWhile fun line => !isH2 line with
  | [] => none
  | h2 :: lines =>
      match lines.find? isH3 with
      | some h3 => some (h2 ++ "\n" ++ h3)
      | none => some h2

theorem isH2_empty : isH2 "" = false := by decide

theorem isH3_empty : isH3 "" = false := by decide

theorem keyOfSolid_of_dropWhile {lines rest : List String} {h2 : String}
    (h : lines.dropWhile (fun line => !isH2 line) = h2 :: rest) :
    keyOfSolid lines =
      match rest.find? isH3 with
      | some h3 => some (h2 ++ "\n" ++ h3)
      | none => some h2 := by
  rw [keyOfSolid, h]

theorem keyOfSolid_solid (lines : List String) :
    keyOfSolid (solid lines) = keyOfSolid (lines.map trim) := by
  induction lines with
  | nil => rfl
  | cons line lines ih =>
      rcases eq_or_ne (trim line) "" with hblank | hne
      · rw [solid_cons_blank lines hblank, ih, List.map_cons, hblank, keyOfSolid, keyOfSolid,
          List.dropWhile_cons_of_pos (by rw [isH2_empty]; rfl)]
      · rw [solid_cons lines hne, List.map_cons]
        cases hline : isH2 (trim line) with
        | true =>
            rw [keyOfSolid, keyOfSolid, List.dropWhile_cons_of_neg (by simp [hline]),
              List.dropWhile_cons_of_neg (by simp [hline])]
            simp only [find?_solid isH3_empty]
        | false =>
            rw [keyOfSolid, keyOfSolid, List.dropWhile_cons_of_pos (by simp [hline]),
              List.dropWhile_cons_of_pos (by simp [hline])]
            exact ih

theorem workpadEntryKey_eq (entry : String) :
    workpadEntryKey entry = keyOfSolid (solidLines entry) :=
  (keyOfSolid_solid (lines entry)).symm

theorem workpadH2_eq (entry : String) : workpadH2 entry = (solidLines entry).find? isH2 :=
  (find?_solid isH2_empty (lines entry)).symm

@[simp] theorem workpadEntryKey_reread (entry : String) :
    workpadEntryKey (reread entry) = workpadEntryKey entry := by
  rw [workpadEntryKey_eq, solidLines_reread, workpadEntryKey_eq]

@[simp] theorem workpadH2_reread (entry : String) :
    workpadH2 (reread entry) = workpadH2 entry := by
  rw [workpadH2_eq, solidLines_reread, workpadH2_eq]

@[simp] theorem isCanonicalWorkpadEntry_reread (entry : String) :
    isCanonicalWorkpadEntry (reread entry) = isCanonicalWorkpadEntry entry := by
  rw [isCanonicalWorkpadEntry, workpadH2_reread, isCanonicalWorkpadEntry]

theorem workpadH2_of_key {entry key : String} (h : workpadEntryKey entry = some key) :
    workpadH2 entry = (splitChar '\n' key).head? := by
  rw [workpadEntryKey_eq] at h
  rw [workpadH2_eq, List.find?_eq_head?_dropWhile_not]
  cases hdrop : (solidLines entry).dropWhile fun line => !isH2 line with
  | nil =>
      rw [keyOfSolid, hdrop] at h
      cases h
  | cons h2 rest =>
      rw [keyOfSolid_of_dropWhile hdrop] at h
      have hmem : h2 ∈ solidLines entry :=
        (List.dropWhile_sublist _).subset (hdrop ▸ List.mem_cons_self)
      obtain ⟨-, line, hline, rfl⟩ := mem_solid.mp hmem
      have hisLine : IsLine (trim line) := (isLine_of_mem_lines hline).trim
      cases hfind : rest.find? isH3 with
      | none =>
          simp only [hfind] at h
          rw [← Option.some.inj h, splitChar_of_isLine hisLine]
          rfl
      | some h3 =>
          simp only [hfind] at h
          rw [← Option.some.inj h, splitChar_append, splitChar_of_isLine hisLine]
          rfl

end SheaSymphony.Workpad

import SheaSymphony.Keyed
import SheaSymphony.WorkpadEntries

/-!
# Reading canonical sections back

What `canonical_workpad_sections` finds in an entry. A third-level heading opens a
section wherever it stands, so texts are read one after the other where the second
begins with such a heading; a section without a heading is read as a part of the
section before it. `regroup` says so for a list of sections, and rendered sections
read back regrouped.
-/

namespace SheaSymphony.Workpad

open Text

/-! ## Sections of a list of lines -/

/-- The sections behind the lines `current` of one that is open. -/
def sectionsFrom (current lines : List String) : List String :=
  ((sectionLines current lines).map paragraph).filter (· != "")

def sectionBody (lines : List String) : List String :=
  (lines.dropWhile fun line => !startsWith (trim line) "## ").drop 1

theorem isH3_trim_empty : isH3 (trim "") = false := by decide

theorem sectionsFrom_nil (current : List String) :
    sectionsFrom current [] = [paragraph current].filter (· != "") := rfl

theorem sectionsFrom_cons_heading {current lines : List String} {line : String}
    (h : isH3 (trim line) = true) :
    sectionsFrom current (line :: lines) =
      sectionsFrom current [] ++ sectionsFrom [line] lines := by
  cases current with
  | nil => simp [sectionsFrom, sectionLines]
  | cons first current => simp [sectionsFrom, sectionLines, h, List.filter_cons]; split <;> rfl

theorem sectionsFrom_cons {current lines : List String} {line : String}
    (h : isH3 (trim line) = false) :
    sectionsFrom current (line :: lines) = sectionsFrom (current ++ [line]) lines := by
  simp [sectionsFrom, sectionLines, h]

theorem sectionsFrom_append_heading (current front : List String) {line : String}
    (back : List String) (h : isH3 (trim line) = true) :
    sectionsFrom current (front ++ line :: back) =
      sectionsFrom current front ++ sectionsFrom [line] back := by
  induction front generalizing current with
  | nil => exact sectionsFrom_cons_heading h
  | cons first front ih =>
      cases hfirst : isH3 (trim first) with
      | true =>
          rw [List.cons_append, sectionsFrom_cons_heading hfirst, ih,
            sectionsFrom_cons_heading hfirst, List.append_assoc]
      | false => rw [List.cons_append, sectionsFrom_cons hfirst, ih, sectionsFrom_cons hfirst]

theorem sectionsFrom_congr {current current' : List String}
    (h : ∀ lines, paragraph (current ++ lines) = paragraph (current' ++ lines))
    (lines : List String) : sectionsFrom current lines = sectionsFrom current' lines := by
  have hnil : sectionsFrom current [] = sectionsFrom current' [] := by
    have hcurrent := h []
    rw [List.append_nil, List.append_nil] at hcurrent
    rw [sectionsFrom_nil, sectionsFrom_nil, hcurrent]
  induction lines generalizing current current' with
  | nil => exact hnil
  | cons line lines ih =>
      cases hline : isH3 (trim line) with
      | true => rw [sectionsFrom_cons_heading hline, sectionsFrom_cons_heading hline, hnil]
      | false =>
          rw [sectionsFrom_cons hline, sectionsFrom_cons hline]
          have hline' : ∀ lines, paragraph (current ++ [line] ++ lines) =
              paragraph (current' ++ [line] ++ lines) := fun lines => by
            rw [List.append_assoc, List.append_assoc]
            exact h _
          have hopen := hline' []
          refine ih hline' ?_
          rw [List.append_nil, List.append_nil] at hopen
          rw [sectionsFrom_nil, sectionsFrom_nil, hopen]

theorem sectionsFrom_of_no_heading {lines : List String}
    (h : ∀ line ∈ lines, isH3 (trim line) = false) (current : List String) :
    sectionsFrom current lines = [paragraph (current ++ lines)].filter (· != "") := by
  induction lines generalizing current with
  | nil => rw [List.append_nil, sectionsFrom_nil]
  | cons line lines ih =>
      rw [sectionsFrom_cons (h line List.mem_cons_self),
        ih (fun l hl => h l (List.mem_cons_of_mem _ hl)), List.append_assoc, List.singleton_append]

theorem sectionsFrom_concat_congr {line line' : String} (lines : List String)
    (hheading : isH3 (trim line) = isH3 (trim line'))
    (h : ∀ block, paragraph (block ++ [line]) = paragraph (block ++ [line']))
    (current : List String) :
    sectionsFrom current (lines ++ [line]) = sectionsFrom current (lines ++ [line']) := by
  induction lines generalizing current with
  | nil =>
      have hopen := h []
      rw [List.nil_append, List.nil_append] at hopen
      cases hline : isH3 (trim line) with
      | true =>
          rw [List.nil_append, List.nil_append, sectionsFrom_cons_heading hline,
            sectionsFrom_cons_heading (hheading ▸ hline), sectionsFrom_nil [line],
            sectionsFrom_nil [line'], hopen]
      | false =>
          rw [List.nil_append, List.nil_append, sectionsFrom_cons hline,
            sectionsFrom_cons (hheading ▸ hline), sectionsFrom_nil, sectionsFrom_nil, h]
  | cons first lines ih =>
      cases hfirst : isH3 (trim first) with
      | true =>
          rw [List.cons_append, List.cons_append, sectionsFrom_cons_heading hfirst, ih,
            sectionsFrom_cons_heading hfirst]
      | false =>
          rw [List.cons_append, List.cons_append, sectionsFrom_cons hfirst, ih,
            sectionsFrom_cons hfirst]

theorem sectionsFrom_concat_blank (current lines : List String) :
    sectionsFrom current (lines ++ [""]) = sectionsFrom current lines := by
  induction lines generalizing current with
  | nil =>
      rw [List.nil_append, sectionsFrom_cons isH3_trim_empty, sectionsFrom_nil, sectionsFrom_nil,
        paragraph_blockwise.concat_blank]
  | cons first lines ih =>
      cases hfirst : isH3 (trim first) with
      | true =>
          rw [List.cons_append, sectionsFrom_cons_heading hfirst, ih,
            sectionsFrom_cons_heading hfirst]
      | false => rw [List.cons_append, sectionsFrom_cons hfirst, ih, sectionsFrom_cons hfirst]

theorem sectionsFrom_blockwise : Blockwise (sectionsFrom []) where
  blank_cons lines := by
    rw [sectionsFrom_cons isH3_trim_empty, List.nil_append]
    refine sectionsFrom_congr (fun block => ?_) lines
    rw [List.singleton_append, List.nil_append, paragraph_blockwise.blank_cons]
  space_cons space line lines h := by
    have htrim : trim (space ++ line) = trim line := trim_space_append h
    have hopen : sectionsFrom [space ++ line] lines = sectionsFrom [line] lines :=
      sectionsFrom_congr (fun block => by
        rw [List.singleton_append, List.singleton_append,
          paragraph_blockwise.space_cons space line block h]) lines
    cases hline : isH3 (trim line) with
    | true =>
        rw [sectionsFrom_cons_heading hline, sectionsFrom_cons_heading (htrim ▸ hline)]
        exact congrArg _ hopen
    | false =>
        rw [sectionsFrom_cons hline, sectionsFrom_cons (htrim ▸ hline)]
        exact hopen
  concat_blank := sectionsFrom_concat_blank []
  concat_space lines line space h :=
    sectionsFrom_concat_congr lines (by rw [trim_append_space h])
      (fun block => paragraph_blockwise.concat_space block line space h) []

theorem sectionsFrom_map_chomp (current lines : List String)
    (hcurrent : ∀ line ∈ current, IsLine line) (hlines : ∀ line ∈ lines, IsLine line) :
    sectionsFrom (current.map chomp) (lines.map chomp) =
      (sectionsFrom current lines).map reread := by
  have hnil : ∀ current : List String, (∀ line ∈ current, IsLine line) →
      sectionsFrom (current.map chomp) [] = (sectionsFrom current []).map reread := by
    intro current hcurrent
    rw [sectionsFrom_nil, sectionsFrom_nil, ← reread_paragraph hcurrent]
    by_cases hempty : paragraph current = ""
    · rw [hempty]
      decide
    · rw [filter_singleton hempty, filter_singleton (reread_ne_empty hempty (trim_paragraph current)),
        List.map_singleton]
  induction lines generalizing current with
  | nil => exact hnil current hcurrent
  | cons line lines ih =>
      have hline : ∀ l ∈ [line], IsLine l := fun l hl =>
        hlines l (List.mem_singleton.mp hl ▸ List.mem_cons_self)
      have hrest : ∀ l ∈ lines, IsLine l := fun l hl => hlines l (List.mem_cons_of_mem _ hl)
      cases hheading : isH3 (trim line) with
      | true =>
          rw [List.map_cons, sectionsFrom_cons_heading (by rwa [trim_chomp]),
            sectionsFrom_cons_heading hheading, List.map_append, hnil current hcurrent,
            ← ih [line] hline hrest]
          rfl
      | false =>
          have hopen : ∀ l ∈ current ++ [line], IsLine l := fun l hl =>
            (List.mem_append.mp hl).elim (hcurrent l) (hline l)
          rw [List.map_cons, sectionsFrom_cons (by rwa [trim_chomp]), sectionsFrom_cons hheading,
            ← ih (current ++ [line]) hopen hrest, List.map_append]
          rfl

/-! ## Sections of a text -/

theorem sectionBody_blockwise : Blockwise fun lines => sectionsFrom [] (sectionBody lines) := by
  have hempty : startsWith "" "## " = false := by decide
  exact Blockwise.behind sectionsFrom_blockwise (p := fun line => startsWith line "## ") hempty

theorem canonicalWorkpadSections_terminated (entry : String) :
    canonicalWorkpadSections entry = sectionsFrom [] (sectionBody (terminated entry)) :=
  sectionBody_blockwise.lines entry

theorem sectionBody_map_chomp (lines : List String) :
    sectionBody (lines.map chomp) = (sectionBody lines).map chomp := by
  induction lines with
  | nil => rfl
  | cons line lines ih =>
      cases hline : startsWith (trim line) "## " with
      | true =>
          rw [sectionBody, sectionBody, List.map_cons,
            List.dropWhile_cons_of_neg (by simp [hline]),
            List.dropWhile_cons_of_neg (by simp [hline])]
          rfl
      | false =>
          rw [sectionBody, sectionBody, List.map_cons,
            List.dropWhile_cons_of_pos (by simp [hline]),
            List.dropWhile_cons_of_pos (by simp [hline])]
          exact ih

theorem sectionBody_sublist (lines : List String) : (sectionBody lines).Sublist lines :=
  (List.drop_sublist _ _).trans (List.dropWhile_sublist _)

theorem canonicalWorkpadSections_reread (entry : String) :
    canonicalWorkpadSections (reread entry) = (canonicalWorkpadSections entry).map reread := by
  have hlines : ∀ line ∈ terminated entry, IsLine line := fun line => isLine_of_mem_terminated
  rw [canonicalWorkpadSections_terminated, reread_eq, paragraph, sectionBody_blockwise.trim,
    terminated_join (terminated_ne_nil entry) hlines, sectionBody_map_chomp,
    canonicalWorkpadSections_terminated]
  exact sectionsFrom_map_chomp [] _ (by simp) fun line hline =>
    hlines line ((sectionBody_sublist _).subset hline)

theorem canonicalSectionKey_eq (canonicalSection : String) :
    canonicalSectionKey canonicalSection = (solidLines canonicalSection).headD "" := by
  unfold canonicalSectionKey solidLines
  induction lines canonicalSection with
  | nil => rfl
  | cons line lines ih =>
      by_cases hblank : trim line = ""
      · rw [List.find?_cons_of_neg (by simpa using hblank), ih]
        simp [solid, hblank]
      · rw [List.find?_cons_of_pos (by simpa using hblank)]
        simp [solid, hblank]

@[simp] theorem canonicalSectionKey_reread (canonicalSection : String) :
    canonicalSectionKey (reread canonicalSection) = canonicalSectionKey canonicalSection := by
  rw [canonicalSectionKey_eq, solidLines_reread, canonicalSectionKey_eq]

/-- The section begins with a third-level heading. -/
def headed (canonicalSection : String) : Bool := isH3 (canonicalSectionKey canonicalSection)

/-- A trimmed text without a separator, and without a heading below its first line. -/
structure IsSection (canonicalSection : String) : Prop where
  ne_empty : canonicalSection ≠ ""
  trimmed : trim canonicalSection = canonicalSection
  no_separator : "---" ∉ solidLines canonicalSection
  no_inner_heading : ∀ line ∈ (solidLines canonicalSection).tail, isH3 line = false

theorem mem_sectionLines {current lines block : List String}
    (h : block ∈ sectionLines current lines)
    (hcurrent : ∀ line ∈ current.tail, isH3 (trim line) = false) :
    (∀ line ∈ block, line ∈ current ++ lines) ∧
      ∀ line ∈ block.tail, isH3 (trim line) = false := by
  induction lines generalizing current with
  | nil =>
      rw [sectionLines, List.mem_singleton] at h
      subst h
      exact ⟨fun line hline => List.mem_append_left _ hline, hcurrent⟩
  | cons first lines ih =>
      have hopen : ∀ {current' : List String}, block ∈ sectionLines current' lines →
          (∀ line ∈ current', line ∈ current ++ [first]) →
          (∀ line ∈ current'.tail, isH3 (trim line) = false) →
          (∀ line ∈ block, line ∈ current ++ first :: lines) ∧
            ∀ line ∈ block.tail, isH3 (trim line) = false := by
        intro current' hblock hsubset htail
        refine ⟨fun line hline => ?_, (ih hblock htail).2⟩
        rw [List.append_cons]
        rcases List.mem_append.mp ((ih hblock htail).1 line hline) with hline | hline
        · exact List.mem_append_left _ (hsubset line hline)
        · exact List.mem_append_right _ hline
      rw [sectionLines] at h
      split at h
      · rcases List.mem_cons.mp h with rfl | h
        · exact ⟨fun line hline => List.mem_append_left _ hline, hcurrent⟩
        · exact hopen h (fun line hline => List.mem_append_right _ hline)
            (fun line hline => absurd hline List.not_mem_nil)
      · next hcut =>
        refine hopen h (fun line hline => hline) fun line hline => ?_
        cases current with
        | nil => exact absurd hline List.not_mem_nil
        | cons head current =>
            rcases List.mem_append.mp hline with hline | hline
            · exact hcurrent line hline
            · rw [List.mem_singleton.mp hline]
              simpa using hcut

theorem isSection_of_mem {entry canonicalSection : String} (hentry : "---" ∉ solidLines entry)
    (h : canonicalSection ∈ canonicalWorkpadSections entry) : IsSection canonicalSection := by
  obtain ⟨hmem, hne⟩ := List.mem_filter.mp h
  obtain ⟨block, hblock, rfl⟩ := List.mem_map.mp hmem
  obtain ⟨hsubset, htail⟩ := mem_sectionLines hblock fun line hline =>
    absurd hline List.not_mem_nil
  have hmemLines : ∀ line ∈ block, line ∈ lines entry := fun line hline =>
    (sectionBody_sublist (lines entry)).subset (hsubset line hline)
  have hsolid : solidLines (paragraph block) = solid block :=
    solidLines_paragraph fun line hline => isLine_of_mem_lines (hmemLines line hline)
  exact {
    ne_empty := by simpa using hne
    trimmed := trim_paragraph block
    no_separator := by
      show "---" ∉ solidLines (paragraph block)
      rw [hsolid, mem_solid]
      rintro ⟨hne, line, hline, htrim⟩
      exact hentry (mem_solid.mpr ⟨hne, line, hmemLines line hline, htrim⟩)
    no_inner_heading := by
      show ∀ line ∈ (solidLines (paragraph block)).tail, isH3 line = false
      rw [hsolid]
      intro line hline
      obtain ⟨l, hl, rfl⟩ : ∃ l ∈ block.tail, trim l = line := by
        cases block with
        | nil => exact absurd hline List.not_mem_nil
        | cons first block =>
            have hsolidTail : line ∈ solid block := by
              by_cases hblank : trim first = ""
              · rw [solid_cons_blank block hblank] at hline
                exact List.mem_of_mem_tail hline
              · rwa [solid_cons block hblank] at hline
            exact (mem_solid.mp hsolidTail).2
      exact htail l hl }

theorem trim_of_mem_sections {entry canonicalSection : String}
    (h : canonicalSection ∈ canonicalWorkpadSections entry) :
    trim canonicalSection = canonicalSection := by
  obtain ⟨block, -, rfl⟩ := List.mem_map.mp (List.mem_filter.mp h).1
  exact trim_paragraph block

theorem contains_of_mem_sections {entry canonicalSection pattern : String}
    (hline : IsLine pattern) (hne : pattern ≠ "")
    (h : canonicalSection ∈ canonicalWorkpadSections entry)
    (hsection : contains canonicalSection pattern = true) : contains entry pattern = true := by
  obtain ⟨block, hblock, rfl⟩ := List.mem_map.mp (List.mem_filter.mp h).1
  have hsubset := (mem_sectionLines hblock fun line hline => absurd hline List.not_mem_nil).1
  exact contains_paragraph hline hne
    (fun l hl => (sectionBody_sublist (lines entry)).subset (hsubset l hl)) hsection

/-! ## Rendered sections -/

@[simp] theorem headed_reread (canonicalSection : String) :
    headed (Text.reread canonicalSection) = headed canonicalSection := by
  rw [headed, canonicalSectionKey_reread, headed]

theorem terminated_blank_line (front back : String) :
    terminated (front ++ "\n\n" ++ back) = terminated front ++ "" :: terminated back := by
  rw [blank_line_eq, terminated_append, terminated_append, terminated_empty, List.singleton_append]

theorem relay_blank_line (front back : String) :
    relay (front ++ "\n\n" ++ back) = relay front ++ "\n\n" ++ relay back := by
  have hempty : relay "" = "" := by decide
  rw [blank_line_eq, relay_append, relay_append, hempty, ← blank_line_eq]

theorem solidLines_blank_line (front back : String) :
    solidLines (front ++ "\n\n" ++ back) = solidLines front ++ solidLines back := by
  have hblank : solid ("" :: terminated back) = solid (terminated back) :=
    solid_blockwise.blank_cons _
  rw [solidLines_eq, terminated_blank_line, solid_append, hblank, ← solidLines_eq, ← solidLines_eq]

theorem solidLines_join (sections : List String) :
    solidLines (join "\n\n" sections) = sections.flatMap solidLines := by
  induction sections with
  | nil => simp
  | cons first sections ih =>
      cases sections with
      | nil => simp
      | cons next sections =>
          rw [join_cons _ (List.cons_ne_nil next sections), solidLines_blank_line, ih]
          rfl

theorem sectionsFrom_append_headed (front : List String) {lines : List String}
    (h : isH3 ((solid lines).headD "") = true) :
    sectionsFrom [] (front ++ lines) = sectionsFrom [] front ++ sectionsFrom [] lines := by
  induction lines generalizing front with
  | nil => exact absurd h (by decide)
  | cons line lines ih =>
      by_cases hblank : trim line = ""
      · have hspace : IsSpace line := isSpace_of_trim_eq hblank
        rw [solid_cons_blank lines hblank] at h
        rw [List.append_cons, ih (front ++ [line]) h,
          sectionsFrom_blockwise.append_isSpace front (by simpa using hspace),
          sectionsFrom_blockwise.cons_isSpace hspace]
      · rw [solid_cons lines hblank, List.headD_cons] at h
        rw [sectionsFrom_append_heading [] front lines h, sectionsFrom_cons_heading h]
        rfl

theorem sectionsFrom_single {lines : List String}
    (h : ∀ line ∈ (solid lines).tail, isH3 line = false) :
    sectionsFrom [] lines = [paragraph lines].filter (· != "") := by
  induction lines with
  | nil => rfl
  | cons line lines ih =>
      by_cases hblank : trim line = ""
      · have hspace : IsSpace line := isSpace_of_trim_eq hblank
        rw [solid_cons_blank lines hblank] at h
        rw [sectionsFrom_blockwise.cons_isSpace hspace, paragraph_blockwise.cons_isSpace hspace, ih h]
      · rw [solid_cons lines hblank, List.tail_cons] at h
        have hno : ∀ l ∈ lines, isH3 (trim l) = false := by
          intro l hl
          by_cases hempty : trim l = ""
          · rw [hempty]
            exact isH3_empty
          · exact h _ (mem_solid.mpr ⟨hempty, l, hl, rfl⟩)
        have hopen : sectionsFrom [] (line :: lines) = sectionsFrom [line] lines := by
          cases hline : isH3 (trim line) with
          | true => exact sectionsFrom_cons_heading hline
          | false => exact sectionsFrom_cons hline
        rw [hopen, sectionsFrom_of_no_heading hno, List.singleton_append]

/-- Each section with the ones without a heading that follow it. -/
def regroup : List String → List String
  | [] => []
  | first :: sections =>
      join "\n\n" (first :: sections.takeWhile fun s => !headed s) ::
        regroup (sections.dropWhile fun s => !headed s)
termination_by sections => sections.length
decreasing_by exact Nat.lt_succ_of_le (List.dropWhile_sublist _).length_le

@[simp] theorem regroup_nil : regroup [] = [] := by rw [regroup]

theorem regroup_cons (first : String) (sections : List String) :
    regroup (first :: sections) =
      join "\n\n" (first :: sections.takeWhile fun s => !headed s) ::
        regroup (sections.dropWhile fun s => !headed s) := by
  rw [regroup]

variable {sections : List String}

theorem regroup_append_headed (front : List String) {s : String} (back : List String)
    (h : headed s = true) :
    regroup (front ++ s :: back) = regroup front ++ regroup (s :: back) := by
  have htake : (s :: back).takeWhile (fun t => !headed t) = [] := by
    rw [List.takeWhile_cons_of_neg (by simp [h])]
  have hdrop : (s :: back).dropWhile (fun t => !headed t) = s :: back := by
    rw [List.dropWhile_cons_of_neg (by simp [h])]
  induction front using regroup.induct with
  | case1 => rw [regroup_nil, List.nil_append, List.nil_append]
  | case2 first front ih =>
      have hgroup : (front ++ s :: back).takeWhile (fun t => !headed t) =
          front.takeWhile fun t => !headed t := by
        rw [List.takeWhile_append, htake, List.append_nil]
        split
        · next hall => exact ((List.takeWhile_sublist _).eq_of_length hall).symm
        · rfl
      have hrest : (front ++ s :: back).dropWhile (fun t => !headed t) =
          front.dropWhile (fun t => !headed t) ++ s :: back := by
        rw [List.dropWhile_append, hdrop]
        split
        · next hempty => rw [List.isEmpty_iff.mp hempty, List.nil_append]
        · rfl
      rw [List.cons_append, regroup_cons, hgroup, hrest, ih, regroup_cons first front,
        List.cons_append]

theorem IsSection.solidLines_ne_nil {canonicalSection : String} (h : IsSection canonicalSection) :
    solidLines canonicalSection ≠ [] :=
  Text.solidLines_ne_nil h.ne_empty h.trimmed

theorem IsSection.no_heading {canonicalSection : String} (h : IsSection canonicalSection)
    (hheaded : headed canonicalSection = false) :
    ∀ line ∈ solidLines canonicalSection, isH3 line = false := by
  rw [headed, canonicalSectionKey_eq] at hheaded
  have hinner := h.no_inner_heading
  intro line hline
  cases hsolid : solidLines canonicalSection with
  | nil => exact absurd hsolid h.solidLines_ne_nil
  | cons first rest =>
      rw [hsolid] at hheaded hinner hline
      rcases List.mem_cons.mp hline with rfl | hline
      · exact hheaded
      · exact hinner line hline

theorem solidLines_group_tail {first : String} (hfirst : IsSection first)
    (hsections : ∀ s ∈ sections, IsSection s ∧ headed s = false) :
    ∀ line ∈ (solidLines (join "\n\n" (first :: sections))).tail, isH3 line = false := by
  rw [solidLines_join, List.flatMap_cons, List.tail_append_of_ne_nil hfirst.solidLines_ne_nil]
  intro line hline
  rcases List.mem_append.mp hline with hline | hline
  · exact hfirst.no_inner_heading line hline
  · obtain ⟨s, hs, hline⟩ := List.mem_flatMap.mp hline
    exact (hsections s hs).1.no_heading (hsections s hs).2 line hline

theorem join_ne_empty {first : String} (hfirst : IsSection first) :
    paragraph (terminated (join "\n\n" (first :: sections))) ≠ "" := by
  rw [← reread_eq]
  intro h
  have hsolid := solidLines_reread (join "\n\n" (first :: sections))
  rw [h, solidLines_empty, solidLines_join, List.flatMap_cons] at hsolid
  exact hfirst.solidLines_ne_nil (List.append_eq_nil_iff.mp hsolid.symm).1

theorem canonicalSectionKey_join {first : String} (hfirst : IsSection first)
    (sections : List String) :
    canonicalSectionKey (join "\n\n" (first :: sections)) = canonicalSectionKey first := by
  obtain ⟨line, rest, hsolid⟩ := List.exists_cons_of_ne_nil hfirst.solidLines_ne_nil
  rw [canonicalSectionKey_eq, canonicalSectionKey_eq, solidLines_join, List.flatMap_cons, hsolid]
  rfl

theorem sectionsFrom_join (h : ∀ s ∈ sections, IsSection s) :
    sectionsFrom [] (terminated (join "\n\n" sections)) = (regroup sections).map reread := by
  induction sections using regroup.induct with
  | case1 => rw [regroup_nil]; decide
  | case2 first sections ih =>
      have hfirst := h first List.mem_cons_self
      have hgroup : ∀ s ∈ sections.takeWhile (fun s => !headed s),
          IsSection s ∧ headed s = false := fun s hs =>
        ⟨h s (List.mem_cons_of_mem _ ((List.takeWhile_sublist _).subset hs)),
          by simpa using List.mem_takeWhile_imp hs⟩
      have hrest : ∀ s ∈ sections.dropWhile (fun s => !headed s), IsSection s := fun s hs =>
        h s (List.mem_cons_of_mem _ ((List.dropWhile_sublist _).subset hs))
      have hgroupSection : sectionsFrom [] (terminated
            (join "\n\n" (first :: sections.takeWhile fun s => !headed s))) =
          [reread (join "\n\n" (first :: sections.takeWhile fun s => !headed s))] := by
        rw [sectionsFrom_single (solidLines_eq _ ▸ solidLines_group_tail hfirst hgroup),
          filter_singleton (join_ne_empty hfirst), ← reread_eq]
      have hsplit : first :: sections =
          (first :: sections.takeWhile fun s => !headed s) ++
            sections.dropWhile fun s => !headed s := by
        rw [List.cons_append, List.takeWhile_append_dropWhile]
      rw [regroup_cons, List.map_cons, ← ih hrest]
      cases hdrop : sections.dropWhile fun s => !headed s with
      | nil =>
          rw [hdrop, List.append_nil] at hsplit
          rw [hsplit, hgroupSection]
          rfl
      | cons next rest =>
          have hnext : headed next = true := by
            have hhead := List.head?_dropWhile_not (fun s => !headed s) sections
            rw [hdrop] at hhead
            simpa using hhead
          have hnextSection : IsSection next := hrest next (hdrop ▸ List.mem_cons_self)
          rw [hsplit, hdrop, join_append (by simp) (by simp), terminated_blank_line,
            ← sectionsFrom_blockwise.blank_cons (terminated (join "\n\n" (next :: rest))),
            sectionsFrom_append_headed, hgroupSection]
          · rfl
          · rw [solid_blockwise.blank_cons, ← solidLines_eq, ← canonicalSectionKey_eq,
              canonicalSectionKey_join hnextSection]
            exact hnext

theorem renderCanonicalSections_eq (h : sections ≠ []) :
    renderCanonicalSections sections =
      "## Shea Symphony Workpad" ++ "\n\n" ++ join "\n\n" sections := by
  rw [renderCanonicalSections, if_neg (by simpa using h)]

theorem solidLines_renderCanonicalSections (sections : List String) :
    solidLines (renderCanonicalSections sections) =
      "## Shea Symphony Workpad" :: sections.flatMap solidLines := by
  have hheader : solidLines "## Shea Symphony Workpad" = ["## Shea Symphony Workpad"] := by decide
  cases sections with
  | nil => exact hheader
  | cons first sections =>
      rw [renderCanonicalSections_eq (List.cons_ne_nil first sections), solidLines_blank_line,
        hheader, solidLines_join]
      rfl

theorem isCanonicalWorkpadEntry_render (sections : List String) :
    isCanonicalWorkpadEntry (renderCanonicalSections sections) = true := by
  have hheader : isH2 "## Shea Symphony Workpad" = true := by decide
  rw [isCanonicalWorkpadEntry, workpadH2_eq, solidLines_renderCanonicalSections,
    List.find?_cons_of_pos hheader]
  rfl

theorem canonicalWorkpadSections_render (h : ∀ s ∈ sections, IsSection s) :
    canonicalWorkpadSections (renderCanonicalSections sections) =
      (regroup sections).map reread := by
  cases sections with
  | nil => rw [regroup_nil]; decide
  | cons first sections =>
      have hheader : startsWith (trim "## Shea Symphony Workpad") "## " = true := by decide
      have hterminated : terminated "## Shea Symphony Workpad" = ["## Shea Symphony Workpad"] := by
        decide
      have hbody : sectionBody (terminated (renderCanonicalSections (first :: sections))) =
          "" :: terminated (join "\n\n" (first :: sections)) := by
        rw [renderCanonicalSections_eq (List.cons_ne_nil first sections), terminated_blank_line,
          hterminated, List.singleton_append, sectionBody,
          List.dropWhile_cons_of_neg (by rw [hheader]; decide)]
        rfl
      rw [canonicalWorkpadSections_terminated, hbody, sectionsFrom_blockwise.blank_cons,
        sectionsFrom_join h]

theorem trim_join_sections (hne : sections ≠ []) (h : ∀ s ∈ sections, IsSection s) :
    trim (join "\n\n" sections) = join "\n\n" sections ∧ join "\n\n" sections ≠ "" := by
  induction sections with
  | nil => exact absurd rfl hne
  | cons first sections ih =>
      have hfirst := h first List.mem_cons_self
      cases sections with
      | nil => simpa using ⟨hfirst.trimmed, hfirst.ne_empty⟩
      | cons next sections =>
          obtain ⟨htrim, hjoin⟩ := ih (List.cons_ne_nil next sections) fun s hs =>
            h s (List.mem_cons_of_mem _ hs)
          rw [join_cons _ (List.cons_ne_nil next sections)]
          refine ⟨trim_append_append _ hfirst.trimmed htrim hfirst.ne_empty hjoin, fun hempty => ?_⟩
          rw [← String.toList_inj, String.toList_append, String.toList_append] at hempty
          simp at hempty

theorem isEntry_renderCanonicalSections (h : ∀ s ∈ sections, IsSection s) :
    IsEntry (renderCanonicalSections sections) where
  ne_empty := by
    intro hempty
    have hsolid := solidLines_renderCanonicalSections sections
    rw [hempty, solidLines_empty] at hsolid
    cases hsolid
  trimmed := by
    cases sections with
    | nil => decide
    | cons first sections =>
        obtain ⟨htrim, hne⟩ := trim_join_sections (List.cons_ne_nil first sections) h
        rw [renderCanonicalSections_eq (List.cons_ne_nil first sections)]
        exact trim_append_append _ (by decide) htrim (by decide) hne
  no_separator := by
    rw [solidLines_renderCanonicalSections, List.mem_cons, not_or]
    refine ⟨by decide, fun hmem => ?_⟩
    obtain ⟨s, hs, hline⟩ := List.mem_flatMap.mp hmem
    exact (h s hs).no_separator hline

end SheaSymphony.Workpad

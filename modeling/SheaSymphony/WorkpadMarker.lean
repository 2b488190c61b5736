import SheaSymphony.WorkpadMerge

/-!
# The marker of a workpad

A workpad begins with its marker on a line of its own, whatever is merged into it, and
has no other one as long as no entry that is merged shows the marker.
-/

namespace SheaSymphony.Workpad

open Text

/-- A line that is not a part of the lines a workpad is written with. -/
structure IsMarker (marker : String) : Prop where
  ne_empty : marker ≠ ""
  isLine : IsLine marker
  trimmed : trimEnd marker = marker
  not_in_separator : contains "---" marker = false
  not_in_heading : contains "## Shea Symphony Workpad" marker = false
  no_block : ∀ block ∈ [runtimeOwnership, workspaceAdoption], contains marker block.start = false

/-- The marker of the default configuration. -/
example : IsMarker "<!-- shea-symphony-workpad -->" where
  ne_empty := by decide
  isLine := by
    show '\n' ∉ "<!-- shea-symphony-workpad -->".toList
    decide
  trimmed := by decide
  not_in_separator := by decide
  not_in_heading := by decide
  no_block := by decide

/-- The marker is at the front, and nowhere else. -/
structure OneMarker (marker workpad : String) : Prop where
  front : ∃ rest, marker ++ rest = workpad
  only : ∀ front back, front ++ marker ++ back = workpad → front = ""

section

variable {marker workpad entry l : String}

/-! ## No other marker -/

theorem eq_empty_of_append_eq {front back s : String} (h : front ++ s ++ back = s) : front = "" := by
  have hlength := congrArg (fun s => s.toList.length) h
  simp only [String.toList_append, List.length_append] at hlength
  exact String.toList_inj.mp (List.eq_nil_of_length_eq_zero (by omega))

theorem OneMarker.entries (hmarker : IsMarker marker) (h : OneMarker marker workpad) :
    ∀ e ∈ workpadEntries marker workpad, Text.contains e marker = false := by
  intro e he
  obtain ⟨rest, rfl⟩ := h.front
  rw [workpadEntries_append] at he
  rw [← Bool.not_eq_true]
  intro hcontains
  obtain ⟨front, back, hrest⟩ := contains_iff.mp
    (contains_of_mem_splitWorkpadEntries hmarker.isLine hmarker.ne_empty he hcontains)
  have hempty := h.only (marker ++ front) back (by
    rw [← hrest]
    simp only [String.append_assoc])
  have hchars := congrArg String.toList hempty
  rw [String.toList_append, String.toList_empty, List.append_eq_nil_iff] at hchars
  exact hmarker.ne_empty (String.toList_inj.mp hchars.1)

theorem not_contains_join (hmarker : IsMarker marker) {entries : List String}
    (h : ∀ e ∈ entries, Text.contains e marker = false) :
    Text.contains (join "\n\n---\n\n" entries) marker = false := by
  rw [← Bool.not_eq_true]
  intro hcontains
  have hcut : ∀ s t, contains (s ++ "\n\n---\n\n" ++ t) marker = true →
      contains s marker = true ∨ contains t marker = true := by
    intro s t hst
    rcases contains_separator hmarker.isLine hmarker.ne_empty hst with hs | hseparator | ht
    · exact Or.inl hs
    · rw [hmarker.not_in_separator] at hseparator
      cases hseparator
    · exact Or.inr ht
  obtain ⟨e, he, hc⟩ := exists_contains_of_join hmarker.ne_empty hcut hcontains
  rw [h e he] at hc
  cases hc

theorem not_contains_renderCanonicalSections (hmarker : IsMarker marker) {sections : List String}
    (h : ∀ s ∈ sections, Text.contains s marker = false) :
    Text.contains (renderCanonicalSections sections) marker = false := by
  have hcut : ∀ s t, contains (s ++ "\n\n" ++ t) marker = true →
      contains s marker = true ∨ contains t marker = true := fun _ _ =>
    contains_blank_line hmarker.isLine hmarker.ne_empty
  cases sections with
  | nil => exact hmarker.not_in_heading
  | cons s sections =>
      rw [renderCanonicalSections_eq (List.cons_ne_nil s sections), ← Bool.not_eq_true]
      intro hcontains
      rcases hcut _ _ hcontains with hheading | hjoin
      · rw [hmarker.not_in_heading] at hheading
        cases hheading
      · obtain ⟨t, ht, hc⟩ := exists_contains_of_join hmarker.ne_empty hcut hjoin
        rw [h t ht] at hc
        cases hc

theorem not_contains_section (hmarker : IsMarker marker)
    (h : Text.contains entry marker = false) {s : String} (hs : s ∈ canonicalWorkpadSections entry) :
    Text.contains s marker = false := by
  rw [← Bool.not_eq_true] at h ⊢
  exact fun hc => h (contains_of_mem_sections hmarker.isLine hmarker.ne_empty hs hc)

theorem not_contains_mergedSections (hmarker : IsMarker marker) {entries : List String}
    (hentries : ∀ e ∈ entries, IsEntry e) (h : ∀ e ∈ entries, Text.contains e marker = false)
    (hl : Text.contains l marker = false) :
    ∀ s ∈ mergedSections entries l, Text.contains s marker = false :=
  forall_mergedSections (P := fun text => contains text marker = false)
    (fun _ he _ => not_contains_section hmarker he)
    (fun _ _ => not_contains_renderCanonicalSections hmarker) hentries h hl

theorem oneMarker_render (hmarker : IsMarker marker) {entries : List String}
    (h : ∀ e ∈ entries, Text.contains e marker = false) :
    OneMarker marker (renderWorkpadEntries marker entries) := by
  cases entries with
  | nil => exact ⟨⟨"", String.append_empty⟩, fun front back => eq_empty_of_append_eq⟩
  | cons e entries =>
      have hrender := renderWorkpadEntries_eq marker (List.cons_ne_nil e entries)
      refine ⟨⟨_, hrender.symm⟩, fun front back happend => ?_⟩
      rw [hrender, ← String.append_assoc] at happend
      rcases occurrence_line hmarker.isLine happend with ⟨rest, hrest⟩ | ⟨rest, -, hrest⟩
      · exact eq_empty_of_append_eq hrest
      · have hcontains := contains_iff.mpr ⟨rest, back, hrest⟩
        rw [not_contains_join hmarker h] at hcontains
        cases hcontains

theorem oneMarker_append (hmarker : IsMarker marker) (h : OneMarker marker workpad)
    (hl : Text.contains l marker = false) :
    OneMarker marker (appendWorkpadEntry workpad l) := by
  obtain ⟨rest, rfl⟩ := h.front
  have htrim := trimEnd_append_of_trimEnd hmarker.trimmed rest
  have hbehind : contains ("" ++ "\n" ++ ("---" ++ "\n\n" ++ l)) marker = false := by
    rw [← Bool.not_eq_true]
    intro hcontains
    rcases contains_line hmarker.isLine hcontains with hempty | hcontains
    · rw [contains_empty hmarker.ne_empty] at hempty
      cases hempty
    · rcases contains_blank_line hmarker.isLine hmarker.ne_empty hcontains with hseparator | hentry
      · rw [hmarker.not_in_separator] at hseparator
        cases hseparator
      · rw [hl] at hentry
        cases hentry
  refine ⟨⟨trimEnd rest ++ "\n\n---\n\n" ++ l, ?_⟩, fun front back happend => ?_⟩
  · rw [appendWorkpadEntry, htrim]
    simp only [String.append_assoc]
  · rw [appendWorkpadEntry, separator_eq, ← blank_line_eq "---"] at happend
    rcases occurrence_line hmarker.isLine happend with ⟨tail, htail⟩ | ⟨tail, -, htail⟩
    · obtain ⟨space, hspace⟩ := trimEnd_isPrefix (marker ++ rest)
      refine h.only front (tail ++ String.ofList space) ?_
      rw [← String.append_assoc, htail, ← String.toList_inj, String.toList_append,
        String.toList_ofList, hspace]
    · have hcontains := contains_iff.mpr ⟨tail, back, htail⟩
      rw [hbehind] at hcontains
      cases hcontains

theorem OneMarker.step (hmarker : IsMarker marker) (hentry : IsEntry l)
    (hl : Text.contains l marker = false) (h : OneMarker marker workpad) :
    OneMarker marker (mergeWorkpadEntry marker workpad l) := by
  have hentries := h.entries hmarker
  have hcases := mergeWorkpadEntry_cases marker workpad hentry
  generalize mergeWorkpadEntry marker workpad l = merged at hcases ⊢
  cases hcases with
  | contained _ => exact h
  | appended _ _ => exact oneMarker_append hmarker h hl
  | replaced _ key _ _ =>
      refine oneMarker_render hmarker fun e he => ?_
      rcases mem_replaceKeyed he with rfl | he
      · exact hl
      · exact hentries e he
  | canonical _ _ =>
      refine oneMarker_render hmarker fun e he => ?_
      rcases List.mem_append.mp he with he | he
      · exact hentries e (List.mem_filter.mp he).1
      · rw [List.mem_singleton.mp he]
        exact not_contains_renderCanonicalSections hmarker
          (not_contains_mergedSections hmarker (isEntry_workpadEntries marker workpad) hentries hl)

theorem oneMarker_ensureWorkpadMarker_empty (hmarker : IsMarker marker) :
    OneMarker marker (ensureWorkpadMarker "" marker) := by
  rw [ensureWorkpadMarker, contains_empty hmarker.ne_empty, if_neg (by decide)]
  refine ⟨⟨"\n" ++ "", (String.append_assoc).symm⟩, fun front back happend => ?_⟩
  rcases occurrence_line hmarker.isLine happend with ⟨rest, hrest⟩ | ⟨rest, -, hrest⟩
  · exact eq_empty_of_append_eq hrest
  · have hcontains := contains_iff.mpr ⟨rest, back, hrest⟩
    rw [contains_empty hmarker.ne_empty] at hcontains
    cases hcontains

/-! ## The marker in front -/

/-- The workpad is the marker, alone or with lines behind it. -/
def Fronted (marker workpad : String) : Prop :=
  workpad = marker ∨ ∃ rest, marker ++ "\n" ++ rest = workpad

theorem Fronted.contains (h : Fronted marker workpad) : contains workpad marker = true := by
  rcases h with rfl | ⟨rest, rfl⟩
  · exact contains_self workpad
  · exact contains_append_left (contains_append_left (contains_self marker) _) _

theorem fronted_ensureWorkpadMarker_empty (hmarker : IsMarker marker) :
    Fronted marker (ensureWorkpadMarker "" marker) := by
  rw [ensureWorkpadMarker, contains_empty hmarker.ne_empty, if_neg (by decide)]
  exact Or.inr ⟨"", rfl⟩

theorem Fronted.ensure (h : Fronted marker workpad) :
    ensureWorkpadMarker workpad marker = workpad := by
  rw [ensureWorkpadMarker, if_pos h.contains]

theorem fronted_render (entries : List String) :
    Fronted marker (renderWorkpadEntries marker entries) := by
  rw [renderWorkpadEntries]
  split
  · exact Or.inl rfl
  · exact Or.inr ⟨_, rfl⟩

theorem Fronted.step (hmarker : trimEnd marker = marker) (hentry : IsEntry l)
    (h : Fronted marker workpad) : Fronted marker (mergeWorkpadEntry marker workpad l) := by
  have hcases := mergeWorkpadEntry_cases marker workpad hentry
  generalize mergeWorkpadEntry marker workpad l = merged at hcases ⊢
  cases hcases with
  | contained _ => exact h
  | replaced _ _ _ _ => exact fronted_render _
  | canonical _ _ => exact fronted_render _
  | appended _ _ =>
      rw [appendWorkpadEntry, separator_eq]
      rcases h with rfl | ⟨rest, rfl⟩
      · rw [hmarker]
        exact Or.inr ⟨_, rfl⟩
      · have hfeed : trimEnd "\n" = "" := by decide
        have htrim : trimEnd (marker ++ "\n" ++ rest) = marker ++ trimEnd ("\n" ++ rest) := by
          rw [String.append_assoc, trimEnd_append_of_trimEnd hmarker]
        rw [htrim, trimEnd_append, hfeed]
        split
        · rw [String.append_empty]
          exact Or.inr ⟨_, rfl⟩
        · refine Or.inr ⟨trimEnd rest ++ ("\n" ++ ("" ++ "\n" ++ ("---" ++ "\n" ++ ("" ++ "\n" ++ l)))), ?_⟩
          simp only [String.append_assoc]

end

end SheaSymphony.Workpad

import SheaSymphony.WorkpadMerge

/-!
# Whether an update wins

What the workpad holds for an entry after the body it comes in is merged. Where the
workpad contains the text of the entry, nothing is changed, so a shortened entry does
not replace a longer one. Elsewhere an entry with a key takes the place of its key. A
section does too, unless a text without a heading comes to stand right behind it: the
next reading takes such a text for a part of the section.
-/

namespace SheaSymphony.Workpad

open Text

/-- The sections of an entry that have a heading, the last one under each. -/
def statedSections (entry : String) : List String :=
  (Keyed.upsertAll canonicalSectionKey [] (canonicalWorkpadSections entry)).filter headed

/-- The workpad has nothing but the entry under the key of the entry. For a canonical
entry it has one canonical entry, and in it nothing but the sections of the entry under
their headings. -/
def Holds (marker workpad entry : String) : Prop :=
  if isCanonicalWorkpadEntry entry then
    ∃ canonical, (workpadEntries marker workpad).filter isCanonicalWorkpadEntry = [canonical] ∧
      ∀ s ∈ statedSections entry, (canonicalWorkpadSections canonical).filter
        (fun t => canonicalSectionKey t == canonicalSectionKey s) = [s]
  else
    (workpadEntries marker workpad).filter
      (fun e => workpadEntryKey e == workpadEntryKey entry) = [entry]

/-- The headings of the canonical sections in the order they are merged into. -/
def mergedHeadings (entries : List String) (entry : String) : List String :=
  Keyed.upsertKeys ((existingSections entries).map canonicalSectionKey)
    ((canonicalWorkpadSections entry).map canonicalSectionKey)

/-- When an entry takes over what the workpad has under its key. -/
def TakesOver (marker workpad entry : String) : Prop :=
  if contains workpad entry then Holds marker workpad entry
  else if isCanonicalWorkpadEntry entry then
    ∀ s ∈ statedSections entry, reread s = s ∧
      ∀ next, [canonicalSectionKey s, next] <:+:
        mergedHeadings (workpadEntries marker workpad) entry → isH3 next = true
  else reread entry = entry

/-! ## A section among the merged ones -/

theorem filter_map_reread (sections : List String) (key : String) :
    (sections.map reread).filter (fun t => canonicalSectionKey t == key) =
      (sections.filter fun t => canonicalSectionKey t == key).map reread := by
  rw [List.filter_map]
  simp only [Function.comp_def, canonicalSectionKey_reread]

theorem regroup_cons_of_headed (s : String) (back : List String) :
    ∃ rest, regroup (s :: back) =
        join "\n\n" (s :: back.takeWhile fun t => !headed t) :: rest ∧
      ((∀ t ∈ s :: back, IsSection t) →
        (rest.map canonicalSectionKey).Sublist (back.map canonicalSectionKey)) := by
  refine ⟨regroup (back.dropWhile fun t => !headed t), regroup_cons s back, fun h => ?_⟩
  have hrest : (back.dropWhile fun t => !headed t).Sublist back := List.dropWhile_sublist _
  have hkeys := map_key_regroup_sublist fun t ht => h t (List.mem_cons_of_mem _ (hrest.subset ht))
  exact hkeys.trans (hrest.map canonicalSectionKey)

theorem filter_regroup {front back : List String} {s : String}
    (h : IsSections (front ++ s :: back)) (hheaded : headed s = true) :
    (regroup (front ++ s :: back)).filter
        (fun t => canonicalSectionKey t == canonicalSectionKey s) =
      [join "\n\n" (s :: back.takeWhile fun t => !headed t)] := by
  have hnone : ∀ l : List String,
      canonicalSectionKey s ∉ l.map canonicalSectionKey →
      l.filter (fun t => canonicalSectionKey t == canonicalSectionKey s) = [] := by
    intro l hl
    refine List.filter_eq_nil_iff.mpr fun t ht heq => hl ?_
    exact beq_iff_eq.mp heq ▸ List.mem_map_of_mem ht
  have hsection : ∀ t ∈ s :: back, IsSection t := fun t ht =>
    h.isSection t (List.mem_append_right _ ht)
  obtain ⟨rest, hgroup, hrest⟩ := regroup_cons_of_headed s back
  have hkeys := h.nodup
  rw [List.map_append, List.map_cons, List.nodup_middle, List.nodup_cons, List.mem_append,
    not_or] at hkeys
  obtain ⟨⟨hfrontFresh, hbackFresh⟩, -⟩ := hkeys
  have hfront : canonicalSectionKey s ∉ (regroup front).map canonicalSectionKey := fun hmem =>
    hfrontFresh ((map_key_regroup_sublist fun t ht =>
      h.isSection t (List.mem_append_left _ ht)).subset hmem)
  have hback : canonicalSectionKey s ∉ rest.map canonicalSectionKey := fun hmem =>
    hbackFresh ((hrest hsection).subset hmem)
  have hkey : canonicalSectionKey (join "\n\n" (s :: back.takeWhile fun t => !headed t)) =
      canonicalSectionKey s := canonicalSectionKey_join (hsection s List.mem_cons_self) _
  rw [regroup_append_headed front back hheaded, hgroup, List.filter_append, hnone _ hfront,
    List.filter_cons_of_pos (by rw [hkey]; exact beq_self_eq_true _), hnone _ hback,
    List.nil_append]

theorem IsSection.ink_ne_nil {s : String} (h : IsSection s) : ink s ≠ [] := fun hink =>
  h.ne_empty (h.trimmed ▸ trim_of_ink_eq_nil hink)

theorem eq_nil_of_reread_join {s : String} {group : List String}
    (hgroup : ∀ t ∈ group, IsSection t) (h : reread (reread (join "\n\n" (s :: group))) = s) :
    group = [] := by
  have hblank : IsSpace "\n\n" := by simp [IsSpace, isWhitespace]
  have hink : ink s ++ group.flatMap ink = ink s := by
    rw [← List.flatMap_cons, ← ink_join hblank, ← ink_reread, ← ink_reread, h]
  have hnone : group.flatMap ink = [] :=
    List.append_cancel_left (hink.trans (List.append_nil (ink s)).symm)
  refine List.eq_nil_iff_forall_not_mem.mpr fun t ht => ?_
  exact (hgroup t ht).ink_ne_nil (List.flatMap_eq_nil_iff.mp hnone t ht)

/-- A section that is written with others reads back alone as it is when its lines stay
and a heading follows it. -/
theorem filter_read_iff {sections : List String} (h : IsSections sections) {s : String}
    (hs : s ∈ sections) (hheaded : headed s = true) :
    (canonicalWorkpadSections (reread (renderCanonicalSections sections))).filter
        (fun t => canonicalSectionKey t == canonicalSectionKey s) = [s] ↔
      reread s = s ∧ ∀ next, [canonicalSectionKey s, next] <:+:
        sections.map canonicalSectionKey → isH3 next = true := by
  obtain ⟨front, back, rfl⟩ := List.append_of_mem hs
  have hback : ∀ t ∈ back, IsSection t := fun t ht =>
    h.isSection t (List.mem_append_right _ (List.mem_cons_of_mem _ ht))
  rw [canonicalWorkpadSections_reread, canonicalWorkpadSections_render h.isSection,
    filter_map_reread, filter_map_reread, filter_regroup h hheaded, List.map_singleton,
    List.map_singleton, List.singleton_inj]
  constructor
  · intro hread
    have hgroup : back.takeWhile (fun t => !headed t) = [] :=
      eq_nil_of_reread_join (fun t ht => hback t ((List.takeWhile_sublist _).subset ht)) hread
    rw [hgroup, join_singleton] at hread
    refine ⟨reread_of_reread_reread hread, ?_⟩
    rintro next ⟨before, after, hsplit⟩
    have hkeys := h.nodup
    rw [List.map_append, List.map_cons] at hsplit hkeys
    rw [List.nodup_middle, List.nodup_cons, List.mem_append, not_or] at hkeys
    have hcons : before ++ canonicalSectionKey s :: (next :: after) =
        front.map canonicalSectionKey ++ canonicalSectionKey s :: back.map canonicalSectionKey := by
      simpa using hsplit
    obtain ⟨-, -, htail⟩ := (List.append_cons_inj_of_notMem hkeys.1.1 hkeys.1.2).mp hcons.symm
    cases back with
    | nil => cases htail
    | cons t back =>
        obtain rfl : canonicalSectionKey t = next := (List.cons.inj htail).1
        by_contra hnext
        rw [List.takeWhile_cons_of_pos (by simpa [headed] using hnext)] at hgroup
        cases hgroup
  · rintro ⟨hlines, hnext⟩
    have hgroup : back.takeWhile (fun t => !headed t) = [] := by
      cases back with
      | nil => rfl
      | cons t back =>
          have hheading : isH3 (canonicalSectionKey t) = true := by
            refine hnext _ ⟨front.map canonicalSectionKey, back.map canonicalSectionKey, ?_⟩
            simp
          rw [List.takeWhile_cons_of_neg (by simp [headed, hheading])]
    rw [hgroup, join_singleton, hlines, hlines]

/-! ## An entry among the merged ones -/

theorem mem_statedSections {entry s : String} (h : s ∈ statedSections entry)
    (sections : List String) :
    headed s = true ∧
      s ∈ Keyed.upsertAll canonicalSectionKey sections (canonicalWorkpadSections entry) := by
  obtain ⟨hmem, hheaded⟩ := List.mem_filter.mp h
  exact ⟨hheaded, Keyed.upsertAll_nil_subset sections _ hmem⟩

theorem trim_of_mem_statedSections {entry s : String} (h : s ∈ statedSections entry) :
    trim s = s := by
  rcases Keyed.mem_upsertAll (mem_statedSections h []).2 with hmem | hmem
  · exact absurd hmem List.not_mem_nil
  · exact trim_of_mem_sections hmem

theorem mergedHeadings_eq (entries : List String) (entry : String) :
    mergedHeadings entries entry = (mergedSections entries entry).map canonicalSectionKey :=
  (Keyed.map_key_upsertAll _ _).symm

theorem filter_canonical_read (entries : List String) (canonical : String)
    (h : isCanonicalWorkpadEntry canonical = true) :
    ((entries.filter (fun e => !isCanonicalWorkpadEntry e) ++ [canonical]).map reread).filter
      isCanonicalWorkpadEntry = [reread canonical] := by
  rw [List.filter_map]
  simp only [Function.comp_def, isCanonicalWorkpadEntry_reread]
  rw [List.filter_append, List.filter_filter, List.filter_cons_of_pos h]
  simp

theorem filter_keyed_read {entry key : String} (hkey : workpadEntryKey entry = some key)
    (entries : List String) :
    ((replaceKeyed entry key false entries).map reread).filter
      (fun e => workpadEntryKey e == some key) = [reread entry] := by
  rw [List.filter_map]
  simp only [Function.comp_def, workpadEntryKey_reread]
  rw [filter_replaceKeyed hkey]
  rfl

theorem holds_mergeWorkpadEntry_iff (marker workpad : String) {entry : String}
    (hentry : IsEntry entry) (hkey : workpadEntryKey entry ≠ none) :
    Holds marker (mergeWorkpadEntry marker workpad entry) entry ↔
      TakesOver marker workpad entry := by
  have hentries := isEntry_workpadEntries marker workpad
  have hcases := mergeWorkpadEntry_cases marker workpad hentry
  rw [TakesOver]
  generalize mergeWorkpadEntry marker workpad entry = merged at hcases ⊢
  cases hcases with
  | contained hcontained => rw [if_pos hcontained]
  | appended _ hnone => exact absurd hnone hkey
  | replaced hnew key hkey hcanonical =>
      rw [if_neg (by simp [hnew]), if_neg (by simp [hcanonical]), Holds,
        if_neg (by simp [hcanonical]), workpadEntries_render marker
          (isEntry_replaceKeyed hentry hentries), hkey, filter_keyed_read hkey, List.singleton_inj]
  | canonical hnew hcanonical =>
      rw [if_neg (by simp [hnew]), if_pos hcanonical, Holds, if_pos hcanonical,
        workpadEntries_render marker (isEntry_canonical hentry hentries),
        filter_canonical_read _ _ (isCanonicalWorkpadEntry_render _), mergedHeadings_eq]
      have hread := fun s (hs : s ∈ statedSections entry) =>
        filter_read_iff (isSections_mergedSections hentries hentry)
          (mem_statedSections hs _).2 (mem_statedSections hs []).1
      constructor
      · rintro ⟨canonical, hone, hsections⟩ s hs
        obtain rfl := List.singleton_inj.mp hone
        exact (hread s hs).mp (hsections s hs)
      · exact fun h => ⟨_, rfl, fun s hs => (hread s hs).mpr (h s hs)⟩

/-- An entry of a body wins if and only if it takes over. The entry is what is left of
the body without its singleton blocks, which `base` has taken in. -/
theorem holds_mergeWorkpadBody_iff (marker existing incoming : String)
    {base remainder entry : String}
    (hblocks : replaceSingletonWorkpadBlocks (ensureWorkpadMarker existing marker)
      (ensureWorkpadMarker incoming marker) = (base, remainder))
    (hsplit : splitWorkpadEntries (stripWorkpadMarker remainder marker) = [entry])
    (hkey : workpadEntryKey entry ≠ none) :
    Holds marker (mergeWorkpadBody existing incoming marker) entry ↔
      TakesOver marker base entry := by
  have hmerge : mergeWorkpadBody existing incoming marker =
      mergeWorkpadEntry marker base entry := by
    rw [mergeWorkpadBody]
    simp only [hblocks, hsplit, List.foldl_cons, List.foldl_nil]
  have hentry : IsEntry entry := isEntry_of_mem (hsplit ▸ List.mem_cons_self)
  rw [hmerge, holds_mergeWorkpadEntry_iff marker base hentry hkey]

theorem holds_review_iff :
    Holds "<!-- workpad -->"
        (mergeWorkpadBody "## Review\n- a" "## Review\n- b" "<!-- workpad -->") "## Review\n- b" ↔
      TakesOver "<!-- workpad -->" "<!-- workpad -->\n## Review\n- a" "## Review\n- b" := by
  have hblocks : replaceSingletonWorkpadBlocks
      (ensureWorkpadMarker "## Review\n- a" "<!-- workpad -->")
      (ensureWorkpadMarker "## Review\n- b" "<!-- workpad -->") =
      ("<!-- workpad -->\n## Review\n- a", "<!-- workpad -->\n## Review\n- b") := by
    decide
  have hsplit : splitWorkpadEntries
      (stripWorkpadMarker "<!-- workpad -->\n## Review\n- b" "<!-- workpad -->") =
      ["## Review\n- b"] := by decide
  exact holds_mergeWorkpadBody_iff _ _ _ hblocks hsplit (by decide)

/-- The workpad contains the text of the shortened entry, so the longer one stays. -/
theorem shortened_entry_does_not_win :
    ¬ Holds "<!-- workpad -->"
      (mergeWorkpadBody "## Review\n- a\n- b" "## Review\n- a" "<!-- workpad -->")
      "## Review\n- a" := by
  rw [Holds, if_neg (by decide)]
  decide

end SheaSymphony.Workpad

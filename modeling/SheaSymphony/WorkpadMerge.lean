import SheaSymphony.WorkpadSections

/-!
# Merging one entry

What `merge_workpad_entry` does to the entries of a workpad, in its four cases: the
entry is contained already, it has no key, it is canonical, or its key is replaced.
-/

namespace SheaSymphony.Workpad

open Text

/-! ## Replacing by key -/

variable {entries : List String} {e : String}

section

variable {entry key : String}

theorem replaceKeyed_cons_of_ne (h : workpadEntryKey e ≠ some key) (replaced : Bool)
    (entries : List String) :
    replaceKeyed entry key replaced (e :: entries) =
      e :: replaceKeyed entry key replaced entries := by
  rw [replaceKeyed, if_neg (by simpa using h)]

theorem replaceKeyed_cons_of_eq (h : workpadEntryKey e = some key) (entries : List String) :
    replaceKeyed entry key false (e :: entries) = entry :: replaceKeyed entry key true entries := by
  rw [replaceKeyed, if_pos (beq_iff_eq.mpr h), if_neg (by decide)]

theorem replaceKeyed_true (entries : List String) :
    replaceKeyed entry key true entries =
      entries.filter fun e => workpadEntryKey e != some key := by
  induction entries with
  | nil => rfl
  | cons e entries ih =>
      by_cases he : workpadEntryKey e = some key
      · rw [replaceKeyed, if_pos (beq_iff_eq.mpr he), if_pos rfl, ih,
          List.filter_cons_of_neg (by simpa using he)]
      · rw [replaceKeyed_cons_of_ne he, ih, List.filter_cons_of_pos (by simpa using he)]

theorem mem_replaceKeyed {replaced : Bool} (h : e ∈ replaceKeyed entry key replaced entries) :
    e = entry ∨ e ∈ entries := by
  induction entries generalizing replaced with
  | nil =>
      cases replaced with
      | true => exact absurd h (by simp [replaceKeyed])
      | false => exact Or.inl (List.mem_singleton.mp h)
  | cons first entries ih =>
      rw [replaceKeyed] at h
      split at h
      · split at h
        · exact (ih h).imp_right (List.mem_cons_of_mem _)
        · rcases List.mem_cons.mp h with rfl | h
          · exact Or.inl rfl
          · exact (ih h).imp_right (List.mem_cons_of_mem _)
      · rcases List.mem_cons.mp h with rfl | h
        · exact Or.inr List.mem_cons_self
        · exact (ih h).imp_right (List.mem_cons_of_mem _)

theorem mem_replaceKeyed_of_ne (h : e ∈ entries) (hne : workpadEntryKey e ≠ some key)
    (replaced : Bool) :
    e ∈ replaceKeyed entry key replaced entries := by
  induction entries generalizing replaced with
  | nil => exact absurd h List.not_mem_nil
  | cons first entries ih =>
      rw [replaceKeyed]
      rcases List.mem_cons.mp h with rfl | h
      · rw [if_neg (by simpa using hne)]
        exact List.mem_cons_self
      · split
        · split
          · exact ih h _
          · exact List.mem_cons_of_mem _ (ih h _)
        · exact List.mem_cons_of_mem _ (ih h _)

theorem filter_replaceKeyed (hkey : workpadEntryKey entry = some key) (replaced : Bool)
    (entries : List String) :
    (replaceKeyed entry key replaced entries).filter (fun e => workpadEntryKey e == some key) =
      if replaced then [] else [entry] := by
  induction entries generalizing replaced with
  | nil => cases replaced <;> simp [replaceKeyed, hkey]
  | cons first entries ih =>
      rw [replaceKeyed]
      by_cases hfirst : workpadEntryKey first = some key
      · rw [if_pos (by simpa using hfirst)]
        cases replaced with
        | true => exact ih true
        | false =>
            rw [if_neg (by decide), List.filter_cons_of_pos (by simpa using hkey), ih true]
            rfl
      · rw [if_neg (by simpa using hfirst), List.filter_cons_of_neg (by simpa using hfirst)]
        exact ih replaced

theorem mem_replaceKeyed_self (hkey : workpadEntryKey entry = some key) (entries : List String) :
    entry ∈ replaceKeyed entry key false entries := by
  have hmem : entry ∈ (replaceKeyed entry key false entries).filter
      fun e => workpadEntryKey e == some key := by
    rw [filter_replaceKeyed hkey]
    exact List.mem_singleton_self entry
  exact (List.mem_filter.mp hmem).1

theorem isCanonicalWorkpadEntry_of_key (hkey : workpadEntryKey entry = some key)
    (he : workpadEntryKey e = some key) :
    isCanonicalWorkpadEntry e = isCanonicalWorkpadEntry entry := by
  rw [isCanonicalWorkpadEntry, isCanonicalWorkpadEntry, workpadH2_of_key hkey, workpadH2_of_key he]

end

/-! ## Canonical sections -/

theorem replaceSection_eq (sections : List String) (incoming : String) :
    replaceSection sections incoming = Keyed.upsert canonicalSectionKey sections incoming := by
  rw [Keyed.upsert_eq_set]
  rfl

theorem mergeCanonicalWorkpadSections_eq (existing : Option String) (incoming : String) :
    mergeCanonicalWorkpadSections existing incoming =
      renderCanonicalSections (Keyed.upsertAll canonicalSectionKey
        ((existing.map canonicalWorkpadSections).getD []) (canonicalWorkpadSections incoming)) := by
  have hreplace : replaceSection = Keyed.upsert canonicalSectionKey := by
    funext sections incoming
    exact replaceSection_eq sections incoming
  rw [mergeCanonicalWorkpadSections, hreplace, Keyed.upsertAll]

/-- Sections that can be written and read: each a section, no two with one key. -/
structure IsSections (sections : List String) : Prop where
  isSection : ∀ s ∈ sections, IsSection s
  nodup : (sections.map canonicalSectionKey).Nodup

theorem isSections_nil : IsSections [] := ⟨by simp, by simp⟩

theorem IsSections.upsertAll {sections more : List String} (h : IsSections sections)
    (hmore : ∀ s ∈ more, IsSection s) :
    IsSections (Keyed.upsertAll canonicalSectionKey sections more) where
  isSection s hs := (Keyed.mem_upsertAll hs).elim (h.isSection s) (hmore s)
  nodup := Keyed.nodup_upsertAll h.nodup more

theorem map_key_regroup_sublist {sections : List String} (h : ∀ s ∈ sections, IsSection s) :
    ((regroup sections).map canonicalSectionKey).Sublist (sections.map canonicalSectionKey) := by
  induction sections using regroup.induct with
  | case1 => rw [regroup_nil]
  | case2 first sections ih =>
      have hrest : (sections.dropWhile fun s => !headed s).Sublist sections :=
        List.dropWhile_sublist _
      have hkeys := ih fun s hs => h s (List.mem_cons_of_mem _ (hrest.subset hs))
      have htail := hkeys.trans (hrest.map canonicalSectionKey)
      rw [regroup_cons, List.map_cons, List.map_cons,
        canonicalSectionKey_join (h first List.mem_cons_self)]
      exact List.Sublist.cons_cons (canonicalSectionKey first) htail

theorem map_key_map_reread (sections : List String) :
    (sections.map reread).map canonicalSectionKey = sections.map canonicalSectionKey := by
  simp only [List.map_map, Function.comp_def, canonicalSectionKey_reread]

theorem IsSections.read {sections : List String} (h : IsSections sections) :
    IsSections (canonicalWorkpadSections (renderCanonicalSections sections)) where
  isSection s hs :=
    isSection_of_mem (isEntry_renderCanonicalSections h.isSection).no_separator hs
  nodup := by
    rw [canonicalWorkpadSections_render h.isSection, map_key_map_reread]
    exact h.nodup.sublist (map_key_regroup_sublist h.isSection)

/-- The sections of the canonical entries, merged in their order. -/
def existingSections (entries : List String) : List String :=
  ((mergeCanonicalEntries entries).map canonicalWorkpadSections).getD []

/-- Nothing, or a canonical entry written from sections. -/
def Written (canonical : Option String) : Prop :=
  ∀ c, canonical = some c → ∃ sections, IsSections sections ∧ c = renderCanonicalSections sections

theorem Written.sections {canonical : Option String} (h : Written canonical) :
    IsSections ((canonical.map canonicalWorkpadSections).getD []) := by
  cases canonical with
  | none => exact isSections_nil
  | some c =>
      obtain ⟨sections, hsections, rfl⟩ := h c rfl
      rw [Option.map_some, Option.getD_some]
      exact hsections.read

theorem Written.merge {canonical : Option String} (h : Written canonical) {entry : String}
    (hentry : IsEntry entry) :
    Written (some (mergeCanonicalWorkpadSections canonical entry)) := by
  intro c hc
  obtain rfl := Option.some.inj hc
  refine ⟨_, h.sections.upsertAll fun s hs => ?_, mergeCanonicalWorkpadSections_eq canonical entry⟩
  exact isSection_of_mem hentry.no_separator hs

theorem written_mergeCanonicalEntries (h : ∀ e ∈ entries, IsEntry e) :
    Written (mergeCanonicalEntries entries) := by
  rw [mergeCanonicalEntries]
  refine List.foldlRecOn _ _ (fun c hc => absurd hc (by simp)) fun canonical hcanonical e he => ?_
  exact hcanonical.merge (h e (List.mem_filter.mp he).1)

theorem isSections_existingSections (h : ∀ e ∈ entries, IsEntry e) :
    IsSections (existingSections entries) :=
  (written_mergeCanonicalEntries h).sections

/-- The sections of the one canonical entry after a canonical entry is merged. -/
def mergedSections (entries : List String) (entry : String) : List String :=
  Keyed.upsertAll canonicalSectionKey (existingSections entries) (canonicalWorkpadSections entry)

theorem isSections_mergedSections {entry : String} (h : ∀ e ∈ entries, IsEntry e)
    (hentry : IsEntry entry) :
    IsSections (mergedSections entries entry) :=
  (isSections_existingSections h).upsertAll fun _ hs => isSection_of_mem hentry.no_separator hs

section

variable {P : String → Prop} (hread : ∀ e, P e → ∀ s ∈ canonicalWorkpadSections e, P s)
  (hrender : ∀ sections, IsSections sections → (∀ s ∈ sections, P s) →
    P (renderCanonicalSections sections))
include hread hrender

theorem forall_existingSections (hentries : ∀ e ∈ entries, IsEntry e) (h : ∀ e ∈ entries, P e) :
    ∀ s ∈ existingSections entries, P s := by
  have hmerged : Written (mergeCanonicalEntries entries) ∧
      ∀ s ∈ existingSections entries, P s := by
    rw [existingSections, mergeCanonicalEntries]
    refine List.foldlRecOn (motive := fun canonical => Written canonical ∧
      ∀ s ∈ (canonical.map canonicalWorkpadSections).getD [], P s) _ _ ⟨?_, ?_⟩ ?_
    · exact fun c hc => absurd hc (by simp)
    · exact fun s hs => absurd hs List.not_mem_nil
    rintro canonical ⟨hwritten, hcanonical⟩ e he
    have he := (List.mem_filter.mp he).1
    refine ⟨hwritten.merge (hentries e he), ?_⟩
    rw [Option.map_some, Option.getD_some, mergeCanonicalWorkpadSections_eq]
    refine hread _ (hrender _ (hwritten.sections.upsertAll fun s hs =>
      isSection_of_mem (hentries e he).no_separator hs) fun s hs => ?_)
    exact (Keyed.mem_upsertAll hs).elim (hcanonical s) (hread e (h e he) s)
  exact hmerged.2

theorem forall_mergedSections (hentries : ∀ e ∈ entries, IsEntry e) (h : ∀ e ∈ entries, P e)
    {entry : String} (hentry : P entry) : ∀ s ∈ mergedSections entries entry, P s := fun s hs =>
  (Keyed.mem_upsertAll hs).elim (forall_existingSections hread hrender hentries h s)
    (hread entry hentry s)

end

/-! ## The four cases -/

theorem workpadEntryKey_ne_none {entry : String} (h : isCanonicalWorkpadEntry entry = true) :
    workpadEntryKey entry ≠ none := by
  rw [isCanonicalWorkpadEntry, workpadH2_eq, List.find?_eq_head?_dropWhile_not] at h
  rw [workpadEntryKey_eq]
  cases hdrop : (solidLines entry).dropWhile fun line => !isH2 line with
  | nil =>
      rw [hdrop] at h
      cases h
  | cons h2 rest =>
      rw [keyOfSolid_of_dropWhile hdrop]
      cases rest.find? isH3 with
      | none => exact Option.some_ne_none h2
      | some h3 => exact Option.some_ne_none (h2 ++ "\n" ++ h3)

/-- What merging an entry makes of a workpad. -/
inductive EntryMerge (marker existing entry : String) : String → Prop
  | contained (hcontained : contains existing entry = true) :
      EntryMerge marker existing entry existing
  | appended (hnew : contains existing entry = false) (hkey : workpadEntryKey entry = none) :
      EntryMerge marker existing entry (appendWorkpadEntry existing entry)
  | replaced (hnew : contains existing entry = false) (key : String)
      (hkey : workpadEntryKey entry = some key) (hcanonical : isCanonicalWorkpadEntry entry = false) :
      EntryMerge marker existing entry
        (renderWorkpadEntries marker
          (replaceKeyed entry key false (workpadEntries marker existing)))
  | canonical (hnew : contains existing entry = false)
      (hcanonical : isCanonicalWorkpadEntry entry = true) :
      EntryMerge marker existing entry
        (renderWorkpadEntries marker
          ((workpadEntries marker existing).filter (fun e => !isCanonicalWorkpadEntry e) ++
            [renderCanonicalSections (mergedSections (workpadEntries marker existing) entry)]))

theorem mergeWorkpadEntry_of_contains {marker existing entry : String} (h : IsEntry entry)
    (hcontains : contains existing entry = true) :
    mergeWorkpadEntry marker existing entry = existing := by
  unfold mergeWorkpadEntry
  simp only [h.trimmed, hcontains, Bool.or_true, if_true]

theorem mergeWorkpadEntry_of_not_contains {marker existing entry : String} (h : IsEntry entry)
    (hcontains : contains existing entry = false) :
    mergeWorkpadEntry marker existing entry =
      match workpadEntryKey entry with
      | some key => replaceOrAppendWorkpadEntry existing entry marker key
      | none => appendWorkpadEntry existing entry := by
  have hempty : (entry == "") = false := by simpa using h.ne_empty
  unfold mergeWorkpadEntry
  cases hkey : workpadEntryKey entry <;>
    simp only [h.trimmed, hempty, hcontains, hkey, Bool.or_self, Bool.false_eq_true, if_false]

theorem mergeWorkpadEntry_cases (marker existing : String) {entry : String} (h : IsEntry entry) :
    EntryMerge marker existing entry (mergeWorkpadEntry marker existing entry) := by
  cases hcontains : contains existing entry with
  | true =>
      rw [mergeWorkpadEntry_of_contains h hcontains]
      exact .contained hcontains
  | false =>
      rw [mergeWorkpadEntry_of_not_contains h hcontains]
      cases hkey : workpadEntryKey entry with
      | none => exact .appended hcontains hkey
      | some key =>
          cases hcanonical : isCanonicalWorkpadEntry entry with
          | true =>
              show EntryMerge marker existing entry
                (replaceOrAppendWorkpadEntry existing entry marker key)
              rw [replaceOrAppendWorkpadEntry, if_pos hcanonical, mergeCanonicalWorkpadSections_eq]
              exact .canonical hcontains hcanonical
          | false =>
              show EntryMerge marker existing entry
                (replaceOrAppendWorkpadEntry existing entry marker key)
              rw [replaceOrAppendWorkpadEntry, if_neg (by rw [hcanonical]; decide)]
              exact .replaced hcontains key hkey hcanonical

/-! ## What the cases do to the entries -/

theorem isEntry_replaceKeyed {entry key : String} (hentry : IsEntry entry)
    (h : ∀ e ∈ entries, IsEntry e) : ∀ e ∈ replaceKeyed entry key false entries, IsEntry e := by
  intro e he
  rcases mem_replaceKeyed he with rfl | he
  · exact hentry
  · exact h e he

theorem isEntry_canonical {entry : String} (hentry : IsEntry entry) (h : ∀ e ∈ entries, IsEntry e) :
    ∀ e ∈ entries.filter (fun e => !isCanonicalWorkpadEntry e) ++
      [renderCanonicalSections (mergedSections entries entry)], IsEntry e := by
  intro e he
  rcases List.mem_append.mp he with he | he
  · exact h e (List.mem_filter.mp he).1
  · rw [List.mem_singleton.mp he]
    exact isEntry_renderCanonicalSections (isSections_mergedSections h hentry).isSection

/-- The marker, where the workpad begins with it, is not cut by appending, and
appending does not bring it to the front. -/
theorem workpadEntries_append_entry {marker existing entry : String}
    (hmarker : trimEnd marker = marker) (hcontains : contains existing marker = true)
    (hentry : IsEntry entry) :
    workpadEntries marker (appendWorkpadEntry existing entry) =
      workpadEntries marker existing ++ [reread entry] := by
  have hsplit : ∀ content : String,
      splitWorkpadEntries (trimEnd content ++ "\n\n---\n\n" ++ entry) =
        splitWorkpadEntries content ++ [reread entry] := fun content => by
    rw [splitWorkpadEntries_append, splitWorkpadEntries_trimEnd, hentry.split]
  cases hfront : startsWith existing marker with
  | true =>
      obtain ⟨rest, rfl⟩ := startsWith_iff.mp hfront
      rw [appendWorkpadEntry, trimEnd_append_of_trimEnd hmarker, String.append_assoc, String.append_assoc,
        workpadEntries_append, ← String.append_assoc, hsplit, workpadEntries_append]
  | false =>
      have hother : startsWith (appendWorkpadEntry existing entry) marker = false := by
        rw [← Bool.not_eq_true, startsWith_iff]
        rintro ⟨rest, hrest⟩
        have hlong := length_le_of_contains (contains_trimEnd hcontains hmarker)
        have hleft : marker.toList <+: (appendWorkpadEntry existing entry).toList := by
          rw [← hrest, String.toList_append]
          exact List.prefix_append _ _
        have hright : (trimEnd existing).toList <+: (appendWorkpadEntry existing entry).toList := by
          rw [appendWorkpadEntry, String.append_assoc, String.toList_append]
          exact List.prefix_append _ _
        have hstart := List.prefix_of_prefix_length_le hleft hright hlong
        have hexisting : marker.toList <+: existing.toList :=
          hstart.trans (trimEnd_isPrefix existing)
        rw [startsWith, List.isPrefixOf_iff_prefix.mpr hexisting] at hfront
        cases hfront
      rw [workpadEntries, workpadEntries, stripWorkpadMarker_of_not_startsWith hfront,
        stripWorkpadMarker_of_not_startsWith hother, appendWorkpadEntry, hsplit]

/-! ## A body -/

theorem mergeWorkpadBody_eq {existing incoming marker base remainder : String}
    (h : replaceSingletonWorkpadBlocks (ensureWorkpadMarker existing marker)
      (ensureWorkpadMarker incoming marker) = (base, remainder)) :
    mergeWorkpadBody existing incoming marker =
      (workpadEntries marker remainder).foldl (mergeWorkpadEntry marker) base := by
  rw [mergeWorkpadBody]
  simp only [h]
  rfl

end SheaSymphony.Workpad

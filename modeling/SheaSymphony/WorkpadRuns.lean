import SheaSymphony.Enclosed
import SheaSymphony.Occurrences
import SheaSymphony.WorkpadBlocks
import SheaSymphony.WorkpadUpdate

/-!
# Bodies merged one after another

What a workpad that begins empty holds after any list of bodies: the entries and the
canonical sections that no later body replaces, and one marker. Each of the three lasts:
merging an entry and exchanging a block keep it, so a body does, and the bodies that follow.
-/

namespace SheaSymphony.Workpad

open Text

/-- A later entry takes the place of an entry. -/
def Replaces (later entry : String) : Prop :=
  workpadEntryKey entry ≠ none ∧ workpadEntryKey later = workpadEntryKey entry ∨
    isCanonicalWorkpadEntry later = true ∧ isCanonicalWorkpadEntry entry = true

instance (later entry : String) : Decidable (Replaces later entry) :=
  inferInstanceAs (Decidable (_ ∨ _))

/-- A text and what reading it again and again makes of it. -/
inductive Rereading (text : String) : String → Prop
  | refl : Rereading text text
  | again {read : String} (h : Rereading text read) : Rereading text (reread read)

/-- The workpad has the entry. -/
def HoldsEntry (marker entry workpad : String) : Prop :=
  ∃ e ∈ workpadEntries marker workpad, Rereading entry e

/-- The section is at the beginning of another: texts without a heading may follow it. -/
def Begins (canonicalSection text : String) : Prop :=
  ∃ read, Rereading canonicalSection read ∧
    (text = read ∨ ∃ rest, text = read ++ "\n\n" ++ rest)

/-- The last section under its heading in the canonical entries of the workpad begins with it. -/
def HoldsSection (marker canonicalSection workpad : String) : Prop :=
  ∃ t, ((canonicalSections (workpadEntries marker workpad)).filter
      (fun t => canonicalSectionKey t == canonicalSectionKey canonicalSection)).getLast? = some t ∧
    Begins canonicalSection t

/-- The entry is none of those the block stands in, unless the block stays as it is. -/
def BesideEntry (entry : String) (e : BlockExchange) : Prop :=
  e.put = e.replaced ∨ ∀ other ∈ e.entriesWith e.replaced, ¬ Rereading entry other

section

variable {marker workpad entry l s t : String}

/-! ## Readings -/

theorem Rereading.workpadEntryKey (h : Rereading s t) :
    workpadEntryKey t = workpadEntryKey s := by
  induction h with
  | refl => rfl
  | again _ ih => rw [workpadEntryKey_reread, ih]

theorem Rereading.isCanonicalWorkpadEntry (h : Rereading s t) :
    isCanonicalWorkpadEntry t = isCanonicalWorkpadEntry s := by
  induction h with
  | refl => rfl
  | again _ ih => rw [isCanonicalWorkpadEntry_reread, ih]

theorem Rereading.trimmed (h : Rereading s t) (hs : trim s = s) : trim t = t := by
  cases h with
  | refl => exact hs
  | again _ => exact trim_reread _

theorem Begins.refl (s : String) : Begins s s := ⟨s, .refl, Or.inl rfl⟩

theorem Begins.append (h : Begins s t) (rest : String) : Begins s (t ++ "\n\n" ++ rest) := by
  obtain ⟨read, hread, rfl | ⟨more, rfl⟩⟩ := h
  · exact ⟨t, hread, Or.inr ⟨rest, rfl⟩⟩
  · exact ⟨read, hread, Or.inr ⟨more ++ "\n\n" ++ rest, by simp only [String.append_assoc]⟩⟩

theorem Begins.join (h : Begins s t) (group : List String) :
    Begins s (join "\n\n" (t :: group)) := by
  cases group with
  | nil => rwa [join_singleton]
  | cons next group =>
      rw [join_cons t (List.cons_ne_nil next group)]
      exact h.append _

theorem Begins.reread (h : Begins s t) (hs : trim s = s) (ht : trim t = t) :
    Begins s (reread t) := by
  obtain ⟨read, hread, rfl | ⟨rest, rfl⟩⟩ := h
  · exact ⟨Text.reread t, hread.again, Or.inl rfl⟩
  · rw [← relay_of_trim ht, relay_blank_line, relay_of_trim (hread.trimmed hs)]
    exact ⟨Text.reread read, hread.again, Or.inr ⟨relay rest, rfl⟩⟩

/-! ## Entries -/

theorem holdsEntry_render {entries : List String} (hentries : ∀ e ∈ entries, IsEntry e)
    {e : String} (he : e ∈ entries) (hread : Rereading entry e) :
    HoldsEntry marker entry (renderWorkpadEntries marker entries) := by
  refine ⟨reread e, ?_, hread.again⟩
  rw [workpadEntries_render marker hentries]
  exact List.mem_map_of_mem he

theorem HoldsEntry.step (hmarker : trimEnd marker = marker)
    (hworkpad : contains workpad marker = true) (hl : IsEntry l) (hreplaces : ¬ Replaces l entry)
    (h : HoldsEntry marker entry workpad) :
    HoldsEntry marker entry (mergeWorkpadEntry marker workpad l) := by
  obtain ⟨e, he, hread⟩ := h
  have hentries := isEntry_workpadEntries marker workpad
  have hcases := mergeWorkpadEntry_cases marker workpad hl
  generalize mergeWorkpadEntry marker workpad l = merged at hcases ⊢
  cases hcases with
  | contained _ => exact ⟨e, he, hread⟩
  | appended _ _ =>
      refine ⟨e, ?_, hread⟩
      rw [workpadEntries_append_entry hmarker hworkpad hl]
      exact List.mem_append_left _ he
  | replaced _ key hkey _ =>
      refine holdsEntry_render (isEntry_replaceKeyed hl hentries)
        (mem_replaceKeyed_of_ne he (fun hsame => hreplaces (Or.inl ?_)) false) hread
      rw [hread.workpadEntryKey] at hsame
      rw [hsame, hkey]
      exact ⟨Option.some_ne_none key, rfl⟩
  | canonical _ hcanonical =>
      have hother : isCanonicalWorkpadEntry e = false := by
        rw [hread.isCanonicalWorkpadEntry, ← Bool.not_eq_true]
        exact fun hentry => hreplaces (Or.inr ⟨hcanonical, hentry⟩)
      refine holdsEntry_render (isEntry_canonical hl hentries) (List.mem_append_left _ ?_) hread
      exact List.mem_filter.mpr ⟨he, by rw [hother]; rfl⟩

theorem HoldsEntry.exchange {e : BlockExchange} (hmarker : IsMarker marker) (hbelow : e.Below marker)
    (hbeside : BesideEntry entry e) (h : HoldsEntry marker entry (e.text e.replaced)) :
    HoldsEntry marker entry (e.text e.put) := by
  rcases hbeside with hsame | hother
  · rwa [hsame]
  obtain ⟨front, behind, hentries⟩ := workpadEntries_around hmarker hbelow
  obtain ⟨kept, hkept, hread⟩ := h
  rw [hentries, List.append_assoc, List.mem_append, List.mem_append] at hkept
  refine ⟨kept, ?_, hread⟩
  rw [hentries, List.append_assoc, List.mem_append, List.mem_append]
  rcases hkept with hfront | hblock | hbehind
  · exact Or.inl hfront
  · exact absurd hread (hother kept hblock)
  · exact Or.inr (Or.inr hbehind)

theorem holdsEntry_of_merge (hmarker : trimEnd marker = marker)
    (hworkpad : contains workpad marker = true) (hentry : IsEntry entry)
    (hother : isCanonicalWorkpadEntry entry = false)
    (hcontains : contains workpad entry = true → HoldsEntry marker entry workpad) :
    HoldsEntry marker entry (mergeWorkpadEntry marker workpad entry) := by
  have hentries := isEntry_workpadEntries marker workpad
  have hcases := mergeWorkpadEntry_cases marker workpad hentry
  generalize mergeWorkpadEntry marker workpad entry = merged at hcases ⊢
  cases hcases with
  | contained hcontained => exact hcontains hcontained
  | appended _ _ =>
      refine ⟨reread entry, ?_, Rereading.refl.again⟩
      rw [workpadEntries_append_entry hmarker hworkpad hentry]
      exact List.mem_append_right _ List.mem_cons_self
  | replaced _ key hkey _ =>
      exact holdsEntry_render (isEntry_replaceKeyed hentry hentries)
        (mem_replaceKeyed_self hkey _) .refl
  | canonical _ hcanonical =>
      rw [hother] at hcanonical
      cases hcanonical

/-! ## Sections -/

theorem exists_group {sections : List String} (h : t ∈ sections) (hheaded : headed t = true) :
    ∃ group, join "\n\n" (t :: group) ∈ regroup sections ∧ ∀ g ∈ group, g ∈ sections := by
  obtain ⟨front, back, rfl⟩ := List.append_of_mem h
  refine ⟨back.takeWhile fun t => !headed t, ?_, fun g hg => ?_⟩
  · rw [regroup_append_headed front back hheaded, regroup_cons]
    exact List.mem_append_right _ List.mem_cons_self
  · have hback := (List.takeWhile_sublist (p := fun t => !headed t) (l := back)).subset hg
    exact List.mem_append_right _ (List.mem_cons_of_mem _ hback)

theorem begins_of_render {sections : List String} (h : IsSections sections) (ht : t ∈ sections)
    (hheaded : headed t = true) (hs : trim s = s) (hkey : canonicalSectionKey t = canonicalSectionKey s)
    (hbegins : Begins s t) :
    ∃ read ∈ canonicalWorkpadSections (renderCanonicalSections sections),
      canonicalSectionKey read = canonicalSectionKey s ∧ Begins s read := by
  obtain ⟨group, hgroup, hsubset⟩ := exists_group ht hheaded
  have hsection := h.isSection t ht
  have htrim : trim (join "\n\n" (t :: group)) = join "\n\n" (t :: group) :=
    (trim_join_sections (List.cons_ne_nil t group) fun g hg => by
      rcases List.mem_cons.mp hg with rfl | hg
      · exact hsection
      · exact h.isSection g (hsubset g hg)).1
  refine ⟨reread (join "\n\n" (t :: group)), ?_, ?_, (hbegins.join group).reread hs htrim⟩
  · rw [canonicalWorkpadSections_render h.isSection]
    exact List.mem_map_of_mem hgroup
  · rw [canonicalSectionKey_reread, canonicalSectionKey_join hsection, hkey]

theorem canonicalSections_map_reread (entries : List String) :
    canonicalSections (entries.map reread) = (canonicalSections entries).map reread := by
  rw [canonicalSections, List.filter_map, List.flatMap_map, canonicalSections, List.map_flatMap]
  simp only [Function.comp_def, isCanonicalWorkpadEntry_reread, canonicalWorkpadSections_reread]

theorem holdsSection_render {entries : List String} (hentries : ∀ e ∈ entries, IsEntry e)
    (hs : trim s = s) (hlast : ((canonicalSections entries).filter
      (fun t => canonicalSectionKey t == canonicalSectionKey s)).getLast? = some t)
    (hbegins : Begins s t) : HoldsSection marker s (renderWorkpadEntries marker entries) := by
  obtain ⟨entry, -, ht⟩ := List.mem_flatMap.mp (List.mem_filter.mp (List.mem_of_getLast? hlast)).1
  refine ⟨reread t, ?_, hbegins.reread hs (trim_of_mem_sections ht)⟩
  rw [workpadEntries_render marker hentries, canonicalSections_map_reread, filter_map_reread,
    List.getLast?_map, hlast, Option.map_some]

theorem holdsSection_of_merged {entries : List String} (hentries : ∀ e ∈ entries, IsEntry e)
    (hl : IsEntry l) (hs : trim s = s) (hheaded : headed t = true)
    (ht : t ∈ mergedSections entries l) (hkey : canonicalSectionKey t = canonicalSectionKey s)
    (hbegins : Begins s t) :
    HoldsSection marker s (renderWorkpadEntries marker
      (entries.filter (fun e => !isCanonicalWorkpadEntry e) ++
        [renderCanonicalSections (mergedSections entries l)])) := by
  have hmerged := isSections_mergedSections hentries hl
  obtain ⟨read, hread, hreadKey, hreadBegins⟩ :=
    begins_of_render hmerged ht hheaded hs hkey hbegins
  have hcanonical := isCanonicalWorkpadEntry_render (mergedSections entries l)
  have hothers : canonicalSections (entries.filter fun e => !isCanonicalWorkpadEntry e) = [] := by
    rw [canonicalSections, List.filter_filter]
    simp
  have hunder : (canonicalWorkpadSections (renderCanonicalSections (mergedSections entries l))).filter
      (fun t => canonicalSectionKey t == canonicalSectionKey s) = [read] :=
    hreadKey ▸ Keyed.filter_of_mem hmerged.read.nodup hread
  refine holdsSection_render (isEntry_canonical hl hentries) hs ?_ hreadBegins
  rw [canonicalSections_append, hothers, List.nil_append, canonicalSections,
    List.filter_cons_of_pos hcanonical, List.filter_nil, List.flatMap_singleton, hunder]
  rfl

/-- Merging canonical entries keeps what is last under a heading. -/
theorem begins_existingSections {entries : List String} (hentries : ∀ e ∈ entries, IsEntry e)
    (hs : trim s = s) (hheaded : headed s = true)
    (hlast : ((canonicalSections entries).filter
      (fun t => canonicalSectionKey t == canonicalSectionKey s)).getLast? = some t)
    (hbegins : Begins s t) :
    ∃ read ∈ existingSections entries, canonicalSectionKey read = canonicalSectionKey s ∧
      Begins s read := by
  have hheadedKey : ∀ t, canonicalSectionKey t = canonicalSectionKey s → headed t = true :=
    fun t hsame => by rw [headed, hsame]; exact hheaded
  have hfiltered : ∀ e ∈ entries.filter isCanonicalWorkpadEntry, IsEntry e := fun e he =>
    hentries e (List.mem_filter.mp he).1
  rw [existingSections, mergeCanonicalEntries]
  rw [canonicalSections] at hlast
  generalize entries.filter isCanonicalWorkpadEntry = canonicals at hfiltered hlast ⊢
  induction canonicals using List.reverseRecOn with
  | nil => cases hlast
  | append_singleton canonicals canonical ih =>
      have hbefore : ∀ e ∈ canonicals, IsEntry e := fun e he =>
        hfiltered e (List.mem_append_left _ he)
      have hentry := hfiltered canonical (List.mem_append_right _ List.mem_cons_self)
      have hwritten : Written (canonicals.foldl
          (fun canonical entry => some (mergeCanonicalWorkpadSections canonical entry)) none) :=
        List.foldlRecOn _ _ (fun c hc => by cases hc) fun _ hwritten e he =>
          hwritten.merge (hbefore e he)
      rw [List.foldl_concat, Option.map_some, Option.getD_some, mergeCanonicalWorkpadSections_eq]
      have hmerged := hwritten.sections.upsertAll fun t ht =>
        isSection_of_mem hentry.no_separator ht
      rw [List.flatMap_append, List.flatMap_singleton, List.filter_append, List.getLast?_append]
        at hlast
      cases hnew : ((canonicalWorkpadSections canonical).filter
          fun t => canonicalSectionKey t == canonicalSectionKey s).getLast? with
      | some new =>
          rw [hnew, Option.some_or] at hlast
          obtain rfl := Option.some.inj hlast
          have hkey : canonicalSectionKey new = canonicalSectionKey s :=
            beq_iff_eq.mp (List.mem_filter.mp (List.mem_of_getLast? hnew)).2
          exact begins_of_render hmerged (Keyed.mem_upsertAll_of_last hnew) (hheadedKey new hkey) hs
            hkey hbegins
      | none =>
          rw [hnew, Option.none_or] at hlast
          obtain ⟨read, hread, hkey, hreadBegins⟩ := ih hbefore hlast
          refine begins_of_render hmerged (Keyed.mem_upsertAll_of_fresh hread ?_)
            (hheadedKey read hkey) hs hkey hreadBegins
          rintro hmem
          obtain ⟨other, hother, hsame⟩ := List.mem_map.mp hmem
          have hnone := List.getLast?_eq_none_iff.mp hnew
          exact List.filter_eq_nil_iff.mp hnone other hother (beq_iff_eq.mpr (hsame.trans hkey))

theorem filter_canonical_replaceKeyed {key : String} (hkey : workpadEntryKey l = some key)
    (hplain : isCanonicalWorkpadEntry l = false) (entries : List String) (replaced : Bool) :
    (replaceKeyed l key replaced entries).filter isCanonicalWorkpadEntry =
      entries.filter isCanonicalWorkpadEntry := by
  have hdropped : ∀ l' : List String, (l :: l').filter isCanonicalWorkpadEntry =
      l'.filter isCanonicalWorkpadEntry := fun l' =>
    List.filter_cons_of_neg (by simp [hplain])
  induction entries generalizing replaced with
  | nil =>
      cases replaced with
      | true => rfl
      | false => exact hdropped []
  | cons e entries ih =>
      by_cases he : workpadEntryKey e = some key
      · have hother : isCanonicalWorkpadEntry e = false :=
          (isCanonicalWorkpadEntry_of_key hkey he).trans hplain
        rw [List.filter_cons_of_neg (a := e) (by simp [hother])]
        cases replaced with
        | true =>
            rw [← ih true, replaceKeyed_true, replaceKeyed_true,
              List.filter_cons_of_neg (by simpa using he)]
        | false => rw [replaceKeyed_cons_of_eq he, hdropped, ih true]
      · rw [replaceKeyed_cons_of_ne he, List.filter_cons, List.filter_cons, ih replaced]

theorem HoldsSection.step (hmarker : trimEnd marker = marker)
    (hworkpad : contains workpad marker = true) (hl : IsEntry l) (hs : trim s = s)
    (hheaded : headed s = true)
    (hother : isCanonicalWorkpadEntry l = true →
      canonicalSectionKey s ∉ (canonicalWorkpadSections l).map canonicalSectionKey)
    (h : HoldsSection marker s workpad) :
    HoldsSection marker s (mergeWorkpadEntry marker workpad l) := by
  obtain ⟨t, hlast, hbegins⟩ := h
  have hentries := isEntry_workpadEntries marker workpad
  have hcases := mergeWorkpadEntry_cases marker workpad hl
  generalize mergeWorkpadEntry marker workpad l = merged at hcases ⊢
  cases hcases with
  | contained _ => exact ⟨t, hlast, hbegins⟩
  | appended _ hnone =>
      have hplain : isCanonicalWorkpadEntry (reread l) = false := by
        rw [isCanonicalWorkpadEntry_reread, ← Bool.not_eq_true]
        exact fun hcanonical => workpadEntryKey_ne_none hcanonical hnone
      have hnew : canonicalSections [reread l] = [] := by
        rw [canonicalSections, List.filter_cons_of_neg (Bool.eq_false_iff.mp hplain)]
        rfl
      refine ⟨t, ?_, hbegins⟩
      rw [workpadEntries_append_entry hmarker hworkpad hl, canonicalSections_append, hnew,
        List.append_nil, hlast]
  | replaced _ key hsame hplain =>
      refine holdsSection_render (isEntry_replaceKeyed hl hentries) hs ?_ hbegins
      rw [canonicalSections, filter_canonical_replaceKeyed hsame hplain]
      exact hlast
  | canonical _ hcanonical =>
      obtain ⟨read, hread, hkey, hreadBegins⟩ :=
        begins_existingSections hentries hs hheaded hlast hbegins
      refine holdsSection_of_merged hentries hl hs ?_ ?_ hkey hreadBegins
      · rw [headed, hkey]
        exact hheaded
      · refine Keyed.mem_upsertAll_of_fresh hread ?_
        rw [hkey]
        exact hother hcanonical

theorem HoldsSection.exchange {e : BlockExchange} (hmarker : IsMarker marker)
    (hbelow : e.Below marker) (hheaded : headed s = true)
    (hbeside : BesideSection (canonicalSectionKey s) e)
    (h : HoldsSection marker s (e.text e.replaced)) : HoldsSection marker s (e.text e.put) := by
  obtain ⟨t, hlast, hbegins⟩ := h
  exact ⟨t, by rw [sections_around hmarker hbelow hheaded hbeside, hlast], hbegins⟩

theorem holdsSection_of_merge (hentry : IsEntry entry)
    (hcanonical : isCanonicalWorkpadEntry entry = true) (hs : s ∈ statedSections entry)
    (hcontains : contains workpad entry = true → HoldsSection marker s workpad) :
    HoldsSection marker s (mergeWorkpadEntry marker workpad entry) := by
  have hentries := isEntry_workpadEntries marker workpad
  have hcases := mergeWorkpadEntry_cases marker workpad hentry
  generalize mergeWorkpadEntry marker workpad entry = merged at hcases ⊢
  cases hcases with
  | contained hcontained => exact hcontains hcontained
  | appended _ hnone => exact absurd hnone (workpadEntryKey_ne_none hcanonical)
  | replaced _ _ _ hother =>
      rw [hcanonical] at hother
      cases hother
  | canonical _ _ =>
      obtain ⟨hheaded, hmem⟩ :=
        mem_statedSections hs (existingSections (workpadEntries marker workpad))
      have hsection := (isSections_mergedSections hentries hentry).isSection s hmem
      exact holdsSection_of_merged hentries hentry hsection.trimmed hheaded hmem rfl (.refl s)

end

/-! ## Bodies -/

/-- The workpad, with the singleton blocks of the body in it. -/
def blocksTaken (marker workpad body : String) : String :=
  (replaceSingletonWorkpadBlocks (ensureWorkpadMarker workpad marker)
    (ensureWorkpadMarker body marker)).1

/-- The entries that are left of the body without its singleton blocks. -/
def entriesLeft (marker workpad body : String) : List String :=
  workpadEntries marker (replaceSingletonWorkpadBlocks (ensureWorkpadMarker workpad marker)
    (ensureWorkpadMarker body marker)).2

/-- The bodies, merged in their order. -/
def mergeBodies (marker workpad : String) (bodies : List String) : String :=
  bodies.foldl (fun workpad body => mergeWorkpadBody workpad body marker) workpad

/-- The entries that are merged with the bodies. -/
def entriesMerged (marker : String) : String → List String → List String
  | _, [] => []
  | workpad, body :: bodies =>
      entriesLeft marker workpad body ++
        entriesMerged marker (mergeWorkpadBody workpad body marker) bodies

/-- The exchanges that the bodies make. -/
def exchangesMade (marker : String) : String → List String → List BlockExchange
  | _, [] => []
  | workpad, body :: bodies =>
      exchanges (ensureWorkpadMarker workpad marker) (ensureWorkpadMarker body marker) ++
        exchangesMade marker (mergeWorkpadBody workpad body marker) bodies

/-- Merging an allowed entry keeps what a workpad holds, and so does an exchange beside it. -/
structure Lasts (marker : String) (Holds Allowed : String → Prop) (Beside : BlockExchange → Prop) :
    Prop where
  step : ∀ workpad l, Fronted marker workpad → IsEntry l → Allowed l → Holds workpad →
    Holds (mergeWorkpadEntry marker workpad l)
  exchange : ∀ e : BlockExchange, e.Below marker → Beside e → Holds (e.text e.replaced) →
    Holds (e.text e.put)

section

variable {marker workpad body : String} {bodies : List String} {Holds Allowed : String → Prop}
  {Beside : BlockExchange → Prop}

theorem mergeWorkpadBody_entriesLeft (marker workpad body : String) :
    mergeWorkpadBody workpad body marker =
      (entriesLeft marker workpad body).foldl (mergeWorkpadEntry marker)
        (blocksTaken marker workpad body) := by
  rcases h : replaceSingletonWorkpadBlocks (ensureWorkpadMarker workpad marker)
    (ensureWorkpadMarker body marker) with ⟨base, remainder⟩
  rw [mergeWorkpadBody_eq h, entriesLeft, blocksTaken, h]

theorem mergeBodies_cons (marker workpad body : String) (bodies : List String) :
    mergeBodies marker workpad (body :: bodies) =
      mergeBodies marker (mergeWorkpadBody workpad body marker) bodies := by
  rw [mergeBodies, List.foldl_cons, mergeBodies]

theorem Lasts.foldl (hlasts : Lasts marker Holds Allowed Beside) (hmarker : IsMarker marker)
    {entries : List String} (hentries : ∀ l ∈ entries, IsEntry l ∧ Allowed l)
    (hfront : Fronted marker workpad) (h : Holds workpad) :
    Fronted marker (entries.foldl (mergeWorkpadEntry marker) workpad) ∧
      Holds (entries.foldl (mergeWorkpadEntry marker) workpad) := by
  induction entries generalizing workpad with
  | nil => exact ⟨hfront, h⟩
  | cons l entries ih =>
      obtain ⟨hl, hallowed⟩ := hentries l List.mem_cons_self
      rw [List.foldl_cons]
      exact ih (fun x hx => hentries x (List.mem_cons_of_mem _ hx)) (hfront.step hmarker.trimmed hl)
        (hlasts.step workpad l hfront hl hallowed h)

theorem Lasts.after_body (hlasts : Lasts marker Holds Allowed Beside)
    (hmarker : IsMarker marker) (hallowed : ∀ l ∈ entriesLeft marker workpad body, Allowed l)
    (hbeside : ∀ e ∈ exchanges (ensureWorkpadMarker workpad marker)
      (ensureWorkpadMarker body marker), Beside e)
    (hfront : Fronted marker (ensureWorkpadMarker workpad marker))
    (h : Holds (ensureWorkpadMarker workpad marker)) :
    Fronted marker (mergeWorkpadBody workpad body marker) ∧
      Holds (mergeWorkpadBody workpad body marker) := by
  obtain ⟨hfront, h⟩ := replaceSingletonWorkpadBlocks_leave hmarker hlasts.exchange hbeside hfront h
  rw [mergeWorkpadBody_entriesLeft]
  exact hlasts.foldl hmarker (fun l hl => ⟨isEntry_workpadEntries _ _ _ hl, hallowed l hl⟩) hfront h

theorem Lasts.after_bodies (hlasts : Lasts marker Holds Allowed Beside) (hmarker : IsMarker marker)
    (hallowed : ∀ l ∈ entriesMerged marker workpad bodies, Allowed l)
    (hbeside : ∀ e ∈ exchangesMade marker workpad bodies, Beside e) (hfront : Fronted marker workpad)
    (h : Holds workpad) : Holds (mergeBodies marker workpad bodies) := by
  induction bodies generalizing workpad with
  | nil => exact h
  | cons body bodies ih =>
      rw [entriesMerged] at hallowed
      rw [exchangesMade] at hbeside
      obtain ⟨hfrontNext, hnext⟩ := hlasts.after_body hmarker
        (fun l hl => hallowed l (List.mem_append_left _ hl))
        (fun e he => hbeside e (List.mem_append_left _ he))
        (hfront.ensure.symm ▸ hfront) (hfront.ensure.symm ▸ h)
      rw [mergeBodies_cons]
      exact ih (fun l hl => hallowed l (List.mem_append_right _ hl))
        (fun e he => hbeside e (List.mem_append_right _ he)) hfrontNext hnext

theorem lasts_true : Lasts marker (fun _ => True) (fun _ => True) fun _ => True :=
  ⟨fun _ _ _ _ _ _ => trivial, fun _ _ _ _ => trivial⟩

theorem fronted_blocksTaken (hmarker : IsMarker marker)
    (h : Fronted marker (ensureWorkpadMarker workpad marker)) (body : String) :
    Fronted marker (blocksTaken marker workpad body) :=
  (@replaceSingletonWorkpadBlocks_leave marker _ (fun _ => True) (fun _ => True) hmarker
    (fun _ _ _ _ => trivial) _ (fun _ _ => trivial) h trivial).1

theorem fronted_mergeBodies (hmarker : IsMarker marker)
    (h : Fronted marker (ensureWorkpadMarker workpad marker)) (bodies : List String) :
    Fronted marker (ensureWorkpadMarker (mergeBodies marker workpad bodies) marker) := by
  induction bodies generalizing workpad with
  | nil => exact h
  | cons body bodies ih =>
      have hnext : Fronted marker (mergeWorkpadBody workpad body marker) :=
        (lasts_true.after_body hmarker (fun _ _ => trivial) (fun _ _ => trivial) h trivial).1
      rw [mergeBodies_cons]
      exact ih (hnext.ensure.symm ▸ hnext)

end

/-! ## What a run keeps -/

/-- The entry is merged with a body of a run, and what the workpad then holds is left by
what follows: where the workpad contained the text of the entry already, it held it; the
later entries are allowed; and the later bodies exchange blocks beside it. -/
def Unreplaced (marker : String) (Holds Allowed : String → Prop) (Beside : BlockExchange → Prop)
    (before : List String) (body : String) (after : List String) (entry : String) : Prop :=
  ∃ front back, entriesLeft marker (mergeBodies marker "" before) body = front ++ entry :: back ∧
    (contains (front.foldl (mergeWorkpadEntry marker)
        (blocksTaken marker (mergeBodies marker "" before) body)) entry = true →
      Holds (front.foldl (mergeWorkpadEntry marker)
        (blocksTaken marker (mergeBodies marker "" before) body))) ∧
    (∀ l ∈ back ++ entriesMerged marker
      (mergeWorkpadBody (mergeBodies marker "" before) body marker) after, Allowed l) ∧
    ∀ e ∈ exchangesMade marker (mergeWorkpadBody (mergeBodies marker "" before) body marker) after,
      Beside e

theorem Lasts.of_unreplaced {marker entry body : String} {Holds Allowed : String → Prop}
    {Beside : BlockExchange → Prop} {before after : List String}
    (hlasts : Lasts marker Holds Allowed Beside) (hmarker : IsMarker marker)
    (hwrite : ∀ workpad, Fronted marker workpad → IsEntry entry →
      (contains workpad entry = true → Holds workpad) →
      Holds (mergeWorkpadEntry marker workpad entry))
    (h : Unreplaced marker Holds Allowed Beside before body after entry) :
    Holds (mergeBodies marker "" (before ++ body :: after)) := by
  obtain ⟨front, back, hsplit, hcontains, hallowed, hbeside⟩ := h
  have hentries : ∀ l ∈ front ++ entry :: back, IsEntry l := fun l hl =>
    isEntry_workpadEntries _ _ _ (hsplit ▸ hl)
  have hbase := fronted_blocksTaken hmarker (fronted_mergeBodies hmarker
    (fronted_ensureWorkpadMarker_empty hmarker) before) body
  have hstate := (lasts_true.foldl hmarker
    (fun l hl => ⟨hentries l (List.mem_append_left _ hl), trivial⟩) hbase trivial).1
  have hentry := hentries entry (List.mem_append_right _ List.mem_cons_self)
  have hwritten := hwrite _ hstate hentry hcontains
  have hbody : mergeWorkpadBody (mergeBodies marker "" before) body marker =
      back.foldl (mergeWorkpadEntry marker) (mergeWorkpadEntry marker
        (front.foldl (mergeWorkpadEntry marker)
          (blocksTaken marker (mergeBodies marker "" before) body)) entry) := by
    rw [mergeWorkpadBody_entriesLeft, hsplit, List.foldl_append, List.foldl_cons]
  have hafter := hlasts.foldl hmarker
    (fun l hl => ⟨hentries l (List.mem_append_right _ (List.mem_cons_of_mem _ hl)),
      hallowed l (List.mem_append_left _ hl)⟩) (hstate.step hmarker.trimmed hentry) hwritten
  have hrun : mergeBodies marker "" (before ++ body :: after) = mergeBodies marker
      (mergeWorkpadBody (mergeBodies marker "" before) body marker) after := by
    rw [mergeBodies, List.foldl_append, List.foldl_cons]
    rfl
  rw [hrun]
  refine hlasts.after_bodies hmarker (fun l hl => hallowed l (List.mem_append_right _ hl)) hbeside ?_ ?_
  · exact hbody.symm ▸ hafter.1
  · exact hbody.symm ▸ hafter.2

theorem lasts_holdsEntry {marker : String} (hmarker : IsMarker marker) (entry : String) :
    Lasts marker (HoldsEntry marker entry) (fun l => ¬ Replaces l entry) (BesideEntry entry) where
  step _ _ hfront hl hreplaces h := h.step hmarker.trimmed hfront.contains hl hreplaces
  exchange _ hbelow hbeside h := h.exchange hmarker hbelow hbeside

theorem lasts_holdsSection {marker entry s : String} (hmarker : IsMarker marker)
    (hs : s ∈ statedSections entry) :
    Lasts marker (HoldsSection marker s) (fun l => isCanonicalWorkpadEntry l = true →
      canonicalSectionKey s ∉ (canonicalWorkpadSections l).map canonicalSectionKey)
      (BesideSection (canonicalSectionKey s)) where
  step _ _ hfront hl hother h := h.step hmarker.trimmed hfront.contains hl
    (trim_of_mem_statedSections hs) (mem_statedSections hs []).1 hother
  exchange _ hbelow hbeside h := h.exchange hmarker hbelow (mem_statedSections hs []).1 hbeside

theorem lasts_oneMarker {marker : String} (hmarker : IsMarker marker) :
    Lasts marker (OneMarker marker) (fun l => contains l marker = false) (HidesMarker marker) where
  step _ _ _ hl hother h := h.step hmarker hl hother
  exchange _ hbelow hhides h := h.exchange hmarker hbelow hhides

theorem oneMarker_mergeBodies {marker body : String} {bodies : List String}
    (hmarker : IsMarker marker)
    (hentries : ∀ l ∈ entriesMerged marker "" (body :: bodies), contains l marker = false)
    (hhides : ∀ e ∈ exchangesMade marker "" (body :: bodies), HidesMarker marker e) :
    OneMarker marker (mergeBodies marker "" (body :: bodies)) := by
  have hlasts := lasts_oneMarker hmarker
  rw [entriesMerged] at hentries
  rw [exchangesMade] at hhides
  obtain ⟨hfront, hone⟩ := hlasts.after_body hmarker
    (fun l hl => hentries l (List.mem_append_left _ hl))
    (fun e he => hhides e (List.mem_append_left _ he)) (fronted_ensureWorkpadMarker_empty hmarker)
    (oneMarker_ensureWorkpadMarker_empty hmarker)
  rw [mergeBodies_cons]
  exact hlasts.after_bodies hmarker (fun l hl => hentries l (List.mem_append_right _ hl))
    (fun e he => hhides e (List.mem_append_right _ he)) hfront hone

/-- A workpad that begins empty keeps the entries and the canonical sections that nothing
replaces, and one marker. -/
theorem mergeBodies_lose_nothing {marker : String} (hmarker : IsMarker marker)
    (before : List String) (body : String) (after : List String) :
    (∀ entry, isCanonicalWorkpadEntry entry = false →
      Unreplaced marker (HoldsEntry marker entry) (fun l => ¬ Replaces l entry) (BesideEntry entry)
        before body after entry →
      HoldsEntry marker entry (mergeBodies marker "" (before ++ body :: after))) ∧
    (∀ entry, isCanonicalWorkpadEntry entry = true → ∀ s ∈ statedSections entry,
      Unreplaced marker (HoldsSection marker s) (fun l => isCanonicalWorkpadEntry l = true →
        canonicalSectionKey s ∉ (canonicalWorkpadSections l).map canonicalSectionKey)
        (BesideSection (canonicalSectionKey s)) before body after entry →
      HoldsSection marker s (mergeBodies marker "" (before ++ body :: after))) ∧
    ((∀ l ∈ entriesMerged marker "" (before ++ body :: after), contains l marker = false) →
      (∀ e ∈ exchangesMade marker "" (before ++ body :: after), HidesMarker marker e) →
      OneMarker marker (mergeBodies marker "" (before ++ body :: after))) := by
  refine ⟨fun entry hother h => ?_, fun entry hcanonical s hs h => ?_, fun hentries hhides => ?_⟩
  · refine (lasts_holdsEntry hmarker entry).of_unreplaced hmarker ?_ h
    intro workpad hfront hentry hcontains
    exact holdsEntry_of_merge hmarker.trimmed hfront.contains hentry hother hcontains
  · refine (lasts_holdsSection hmarker hs).of_unreplaced hmarker ?_ h
    intro workpad _ hentry hcontains
    exact holdsSection_of_merge hentry hcanonical hs hcontains
  · cases before with
    | nil => exact oneMarker_mergeBodies hmarker hentries hhides
    | cons first before => exact oneMarker_mergeBodies hmarker hentries hhides

theorem isMarker_bracketed : IsMarker "[w]" where
  ne_empty := by decide
  isLine := by
    show '\n' ∉ "[w]".toList
    decide
  trimmed := by decide
  not_in_separator := by decide
  not_in_heading := by decide
  no_block := by decide

/-! ## A block in a workpad -/

/-- A workspace-adoption block. -/
def adopted (text : String) : String := workspaceAdoption.start ++ text ++ workspaceAdoption.end

section

variable {front workpad text old new : String}

theorem head_adopted (text : String) : (adopted text).toList.head? = some '<' := by
  have hstart : workspaceAdoption.start.toList.head? = some '<' := by decide
  rw [adopted, String.append_assoc, String.toList_append, List.head?_append, hstart]
  rfl

theorem adopted_ne {other : String} (h : other.toList.head? ≠ some '<') : adopted text ≠ other :=
  fun heq => h (heq ▸ head_adopted text)

theorem trim_adopted (text : String) : trim (adopted text) = adopted text :=
  trim_append_append text (by decide) (by decide) (by decide) (by decide)

theorem terminated_adopted (h : IsLine text) : terminated (adopted text) = [adopted text] := by
  have hline : IsLine (adopted text) := by
    have hstart : '\n' ∉ workspaceAdoption.start.toList := by decide
    have hend : '\n' ∉ workspaceAdoption.end.toList := by decide
    intro hmem
    rw [adopted, String.toList_append, String.toList_append, List.mem_append, List.mem_append] at hmem
    exact hmem.elim (fun hmem => hmem.elim hstart h) hend
  have hlast : ¬ "\r".toList <:+ (adopted text).toList := by
    rintro ⟨rest, hrest⟩
    have hend : workspaceAdoption.end.toList.getLast? = some '>' := by decide
    have hboth := congrArg List.getLast? hrest
    rw [adopted, String.toList_append, List.getLast?_append, List.getLast?_append, hend] at hboth
    cases hboth
  rw [terminated_of_isLine hline, chomp_eq_self_iff.mpr hlast]

theorem isH2_adopted (text : String) : isH2 (adopted text) = false := by
  have hno : startsWith (adopted text) "## " = false := by
    rw [← Bool.not_eq_true, startsWith_iff]
    rintro ⟨rest, hrest⟩
    have hheading : ("## " : String).toList.head? = some '#' := by decide
    have hhead := head_adopted text
    rw [← hrest, String.toList_append, List.head?_append, hheading] at hhead
    cases hhead
  rw [isH2, hno, Bool.false_and]

theorem isSeparator_adopted (text : String) : isSeparator (adopted text) = false := by
  rw [isSeparator, trim_adopted]
  exact beq_false_of_ne (adopted_ne (by decide))

theorem entriesOfLines_adopted (text : String) : entriesOfLines [adopted text] = [adopted text] := by
  rw [entriesOfLines_of_no_separator (by simpa using isSeparator_adopted text), paragraph,
    join_singleton, trim_adopted, filter_singleton (adopted_ne (by decide))]

theorem workpadEntryKey_adopted (h : IsLine text) : workpadEntryKey (adopted text) = none := by
  rw [workpadEntryKey_eq, solidLines_eq, terminated_adopted h, solid, List.map_singleton, trim_adopted,
    filter_singleton (adopted_ne (by decide)), keyOfSolid]
  simp [isH2_adopted]

theorem isCanonicalWorkpadEntry_adopted (h : IsLine text) :
    isCanonicalWorkpadEntry (adopted text) = false := by
  rw [← Bool.not_eq_true]
  exact fun hcanonical => workpadEntryKey_ne_none hcanonical (workpadEntryKey_adopted h)

theorem adopted_hides (h : '[' ∉ text.toList) : contains (adopted text) "[w]" = false := by
  have hstart : '[' ∉ workspaceAdoption.start.toList := by decide
  have hend : '[' ∉ workspaceAdoption.end.toList := by decide
  refine not_contains_of_mem (by decide : '[' ∈ "[w]".toList) ?_
  rw [adopted, String.toList_append, String.toList_append, List.mem_append, List.mem_append]
  exact fun hmem => hmem.elim (fun hmem => hmem.elim hstart h) hend

/-- A block is appended to a workpad without one. -/
theorem mergeWorkpadEntry_adopted (h : IsLine text) (hworkpad : '<' ∉ workpad.toList) :
    mergeWorkpadEntry "[w]" workpad (adopted text) = appendWorkpadEntry workpad (adopted text) := by
  have hne : (adopted text == "") = false := beq_false_of_ne (adopted_ne (by decide))
  have hnew := not_contains_of_mem (List.mem_of_mem_head? (head_adopted text)) hworkpad
  simp only [mergeWorkpadEntry, trim_adopted, hne, hnew, workpadEntryKey_adopted h, Bool.or_false]
  rfl

/-! ## Bodies with a block -/

theorem markedBlock_adopted (hfront : '<' ∉ front.toList) (htext : '<' ∉ text.toList) :
    markedBlock (front ++ adopted text) workspaceAdoption.start workspaceAdoption.end =
      some (adopted text) := by
  have hstart : workspaceAdoption.start.toList.head? = some '<' := by decide
  have hend : workspaceAdoption.end.toList.head? = some '<' := by decide
  have happend : front ++ adopted text =
      front ++ workspaceAdoption.start ++ (text ++ workspaceAdoption.end ++ "") := by
    simp only [adopted, String.append_assoc, String.append_empty]
  rw [markedBlock, happend, cut_append_of_not_mem hstart hfront]
  simp only [Option.bind_eq_bind, Option.bind_some, cut_append_of_not_mem hend htext]
  rfl

theorem cut_adopted (hfront : '<' ∉ front.toList) :
    cut (front ++ adopted text) (adopted text) = some (front, "") := by
  have hcut := cut_append_of_not_mem (head_adopted text) hfront ""
  rwa [String.append_empty] at hcut

theorem markedBlock_ownership (hfront : '<' ∉ front.toList) (htext : '<' ∉ text.toList) :
    markedBlock (front ++ adopted text) runtimeOwnership.start runtimeOwnership.end = none := by
  have hhead : runtimeOwnership.start.toList.head? = some '<' := by decide
  have hends : ∀ ending ∈ workspaceAdoption.start.toList.tails, ending ≠ [] →
      ¬ ending <+: runtimeOwnership.start.toList := by decide +kernel
  have hnone : cut (front ++ adopted text) runtimeOwnership.start = none := by
    refine (cut_eq_none_iff (by decide)).mpr (Bool.eq_false_iff.mpr ?_)
    rw [adopted, String.append_assoc, contains_append_of_skip hhead hfront, ne_eq,
      contains_append_of_ends hends, contains_append_of_skip hhead htext]
    decide +kernel
  rw [markedBlock, hnone]
  rfl

/-- Only the adoption block of such a body is looked for. -/
theorem replaceSingletonWorkpadBlocks_adopted {incoming : String}
    (h : markedBlock incoming runtimeOwnership.start runtimeOwnership.end = none)
    (existing : String) :
    replaceSingletonWorkpadBlocks existing incoming =
      replaceSingletonBlock workspaceAdoption existing incoming ∧
    exchanges existing incoming = (blockExchange workspaceAdoption existing incoming).toList := by
  rw [replaceSingletonWorkpadBlocks, exchanges]
  by_cases hcanonical : (splitWorkpadEntries incoming).any isCanonicalWorkpadEntry = true
  · rw [if_pos hcanonical, if_pos hcanonical]
    exact ⟨rfl, rfl⟩
  · rw [if_neg hcanonical, if_neg hcanonical, replaceSingletonBlock, blockExchange, h]
    exact ⟨rfl, rfl⟩

theorem ensureWorkpadMarker_marked (body : String) :
    ensureWorkpadMarker ("[w]\n" ++ body) "[w]" = "[w]\n" ++ body :=
  if_pos (contains_append_left (by decide) body)

/-- The first body leaves its block in its entries. -/
theorem replaceSingletonWorkpadBlocks_first (hfront : '<' ∉ front.toList)
    (htext : '<' ∉ text.toList) :
    replaceSingletonWorkpadBlocks (ensureWorkpadMarker "" "[w]")
        (ensureWorkpadMarker ("[w]\n" ++ (front ++ adopted text)) "[w]") =
      ("[w]\n", "[w]\n" ++ (front ++ adopted text)) ∧
    exchanges (ensureWorkpadMarker "" "[w]")
        (ensureWorkpadMarker ("[w]\n" ++ (front ++ adopted text)) "[w]") = [] := by
  have hempty : ensureWorkpadMarker "" "[w]" = "[w]\n" := by decide
  have hmarked : '<' ∉ ("[w]\n" ++ front).toList := by simpa [String.toList_append] using hfront
  have hnone : markedBlock "[w]\n" workspaceAdoption.start workspaceAdoption.end = none := by decide
  have hblocks := replaceSingletonWorkpadBlocks_adopted (markedBlock_ownership hmarked htext) "[w]\n"
  rw [hempty, ensureWorkpadMarker_marked, ← String.append_assoc, hblocks.1, hblocks.2,
    replaceSingletonBlock, blockExchange, hnone, markedBlock_adopted hmarked htext]
  exact ⟨rfl, rfl⟩

/-- A later body that is nothing but a block exchanges it. -/
theorem replaceSingletonWorkpadBlocks_later (hmarker : contains front "[w]" = true)
    (hfront : '<' ∉ front.toList) (hold : '<' ∉ old.toList) (hnew : '<' ∉ new.toList) :
    replaceSingletonWorkpadBlocks (ensureWorkpadMarker (front ++ adopted old) "[w]")
        (ensureWorkpadMarker ("[w]\n" ++ adopted new) "[w]") = (front ++ adopted new, "[w]\n") ∧
    exchanges (ensureWorkpadMarker (front ++ adopted old) "[w]")
        (ensureWorkpadMarker ("[w]\n" ++ adopted new) "[w]") =
      [⟨front, adopted old, adopted new, ""⟩] := by
  have hexisting : ensureWorkpadMarker (front ++ adopted old) "[w]" = front ++ adopted old :=
    if_pos (contains_append_left hmarker _)
  have hbody : '<' ∉ ("[w]\n" : String).toList := by decide
  have hblocks := replaceSingletonWorkpadBlocks_adopted (markedBlock_ownership hbody hnew)
    (front ++ adopted old)
  rw [hexisting, ensureWorkpadMarker_marked, hblocks.1, hblocks.2, replaceSingletonBlock,
    blockExchange]
  simp only [markedBlock_adopted hbody hnew, markedBlock_adopted hfront hold, replaceFirst,
    cut_adopted hfront, cut_adopted hbody, String.append_empty, Option.bind_eq_bind,
    Option.bind_some]
  exact ⟨trivial, rfl⟩

end

/-- An entry, a section and a block. -/
def planned : String := "[w]\n" ++ ("## A\n---\n## Workpad\n### s\n\n---\n\n" ++ adopted "")

theorem replaceSingletonWorkpadBlocks_planned :
    replaceSingletonWorkpadBlocks (ensureWorkpadMarker "" "[w]") (ensureWorkpadMarker planned "[w]") =
      ("[w]\n", planned) ∧
    exchanges (ensureWorkpadMarker "" "[w]") (ensureWorkpadMarker planned "[w]") = [] :=
  replaceSingletonWorkpadBlocks_first (by decide) (by decide)

theorem workpadEntries_planned :
    workpadEntries "[w]" planned = ["## A", "## Workpad\n### s", adopted ""] := by
  have hbefore : splitWorkpadEntries "## A\n---\n## Workpad\n### s" = ["## A", "## Workpad\n### s"] := by
    decide
  have happend : planned = "[w]" ++ ("\n" ++ ("## A\n---\n## Workpad\n### s" ++ "\n\n---\n\n" ++
      adopted "")) := by
    simp only [planned, ← String.append_assoc]
    rfl
  rw [happend, workpadEntries_append, splitWorkpadEntries_newline, splitWorkpadEntries_append, hbefore,
    splitWorkpadEntries_eq, entriesOfLines_blockwise.lines, terminated_adopted isLine_empty,
    entriesOfLines_adopted]
  rfl

theorem mergeWorkpadBody_planned :
    mergeWorkpadBody "" planned "[w]" =
      "[w]\n## A\n\n---\n\n## Shea Symphony Workpad\n\n### s\n\n---\n\n" ++ adopted "" := by
  have hbefore : ["## A", "## Workpad\n### s"].foldl (mergeWorkpadEntry "[w]") "[w]\n" =
      "[w]\n## A\n\n---\n\n## Shea Symphony Workpad\n\n### s" := by decide
  have htrim : trimEnd "[w]\n## A\n\n---\n\n## Shea Symphony Workpad\n\n### s" =
      "[w]\n## A\n\n---\n\n## Shea Symphony Workpad\n\n### s" := by decide
  have hsplit : ["## A", "## Workpad\n### s", adopted ""] =
      ["## A", "## Workpad\n### s"] ++ [adopted ""] := rfl
  rw [mergeWorkpadBody_eq replaceSingletonWorkpadBlocks_planned.1, workpadEntries_planned, hsplit,
    List.foldl_append, hbefore, List.foldl_cons, List.foldl_nil,
    mergeWorkpadEntry_adopted isLine_empty (by decide), appendWorkpadEntry, htrim]
  rfl

/-- The block of the workpad, and the next one. -/
def exchanged (new : String) : BlockExchange where
  before := "[w]\n## A\n\n---\n\n## Shea Symphony Workpad\n\n### s\n\n---\n\n"
  replaced := adopted ""
  put := adopted new
  after := ""

theorem replaceSingletonWorkpadBlocks_exchanged {new : String} (h : '<' ∉ new.toList) :
    replaceSingletonWorkpadBlocks (ensureWorkpadMarker (mergeWorkpadBody "" planned "[w]") "[w]")
        (ensureWorkpadMarker ("[w]\n" ++ adopted new) "[w]") =
      ((exchanged new).text (adopted new), "[w]\n") ∧
    exchanges (ensureWorkpadMarker (mergeWorkpadBody "" planned "[w]") "[w]")
        (ensureWorkpadMarker ("[w]\n" ++ adopted new) "[w]") = [exchanged new] := by
  rw [mergeWorkpadBody_planned, BlockExchange.text, exchanged, String.append_empty]
  exact replaceSingletonWorkpadBlocks_later (by decide) (by decide) (by decide) h

theorem entriesLeft_exchanged {new : String} (h : '<' ∉ new.toList) :
    entriesLeft "[w]" (mergeWorkpadBody "" planned "[w]") ("[w]\n" ++ adopted new) = [] := by
  have hnone : workpadEntries "[w]" "[w]\n" = [] := by decide
  rw [entriesLeft, (replaceSingletonWorkpadBlocks_exchanged h).1, hnone]

theorem linesWith_exchanged (text new : String) :
    openLine (exchanged new).before ++ text ++ restOfLine (exchanged new).after = text := by
  have hopen : openLine (exchanged new).before = "" := by
    show openLine "[w]\n## A\n\n---\n\n## Shea Symphony Workpad\n\n### s\n\n---\n\n" = ""
    decide
  have hrest : restOfLine (exchanged new).after = "" := by
    show restOfLine "" = ""
    decide
  rw [hopen, hrest, String.empty_append, String.append_empty]

theorem entriesWith_exchanged (h : IsLine text) (new : String) :
    (exchanged new).entriesWith (adopted text) = [adopted text] := by
  have hfront : (exchanged new).entryFront = [""] := by
    show (((terminated "[w]\n## A\n\n---\n\n## Shea Symphony Workpad\n\n### s\n\n---\n\n").dropLast.tail).rtakeWhile
      fun line => !isSeparator line) = [""]
    decide
  have hbehind : (exchanged new).entryBehind = [] := by
    show ((terminated "").tail.takeWhile fun line => !isSeparator line) = []
    decide
  rw [BlockExchange.entriesWith, hfront, hbehind, BlockExchange.linesWith, linesWith_exchanged,
    terminated_adopted h, List.append_nil, List.singleton_append, entriesOfLines_blockwise.blank_cons,
    entriesOfLines_adopted]

theorem besideEntry_exchanged : BesideEntry "## A" (exchanged "x") := by
  have hkey : workpadEntryKey "## A" ≠ none := by decide
  refine Or.inr fun other hother hread => hkey ?_
  obtain rfl : other = adopted "" := List.mem_singleton.mp (entriesWith_exchanged isLine_empty "x" ▸ hother)
  rw [← hread.workpadEntryKey, workpadEntryKey_adopted isLine_empty]

theorem besideSection_exchanged (heading : String) : BesideSection heading (exchanged "x") := by
  have hline : IsLine "x" := by
    show '\n' ∉ "x".toList
    decide
  have hnone : ∀ {text : String}, IsLine text →
      canonicalSections ((exchanged "x").entriesWith (adopted text)) = [] := by
    intro text h
    rw [entriesWith_exchanged h, canonicalSections,
      List.filter_cons_of_neg (Bool.eq_false_iff.mp (isCanonicalWorkpadEntry_adopted h))]
    rfl
  refine Or.inr (Or.inl fun block hblock => ?_)
  rcases List.mem_pair.mp hblock with rfl | rfl
  · rw [show (exchanged "x").replaced = adopted "" from rfl, hnone isLine_empty]
    exact List.not_mem_nil
  · rw [show (exchanged "x").put = adopted "x" from rfl, hnone hline]
    exact List.not_mem_nil

theorem hidesMarker_exchanged : HidesMarker "[w]" (exchanged "x") := by
  rw [HidesMarker, linesWith_exchanged]
  exact adopted_hides (by decide)

theorem plan_and_review_are_kept :
    HoldsEntry "[w]" "## A" (mergeBodies "[w]" "" [planned, "[w]\n" ++ adopted "x"]) ∧
    HoldsSection "[w]" "### s" (mergeBodies "[w]" "" [planned, "[w]\n" ++ adopted "x"]) ∧
    OneMarker "[w]" (mergeBodies "[w]" "" [planned, "[w]\n" ++ adopted "x"]) := by
  have hbefore : mergeBodies "[w]" "" [] = "" := rfl
  have hbase : blocksTaken "[w]" "" planned = "[w]\n" := by
    rw [blocksTaken, replaceSingletonWorkpadBlocks_planned.1]
  have hbody : entriesLeft "[w]" "" planned = ["## A", "## Workpad\n### s", adopted ""] := by
    rw [entriesLeft, replaceSingletonWorkpadBlocks_planned.1, workpadEntries_planned]
  have hleft : entriesLeft "[w]" (mergeBodies "[w]" "" []) planned =
      ["## A", "## Workpad\n### s", adopted ""] := by rw [hbefore, hbody]
  have hentries : entriesMerged "[w]" (mergeWorkpadBody "" planned "[w]") ["[w]\n" ++ adopted "x"] =
      [] := by
    rw [entriesMerged, entriesMerged, entriesLeft_exchanged (by decide), List.append_nil]
  have hmade : exchangesMade "[w]" (mergeWorkpadBody "" planned "[w]") ["[w]\n" ++ adopted "x"] =
      [exchanged "x"] := by
    rw [exchangesMade, exchangesMade, (replaceSingletonWorkpadBlocks_exchanged (by decide)).2,
      List.append_nil]
  have hkey := workpadEntryKey_adopted isLine_empty
  have hplain := isCanonicalWorkpadEntry_adopted isLine_empty
  obtain ⟨hentry, hsection, hmarker⟩ := mergeBodies_lose_nothing isMarker_bracketed []
    planned ["[w]\n" ++ adopted "x"]
  refine ⟨hentry "## A" (by decide) ⟨[], ["## Workpad\n### s", adopted ""], hleft, ?_, ?_, ?_⟩,
    hsection "## Workpad\n### s" (by decide) "### s" (by decide) ⟨["## A"], [adopted ""], hleft, ?_, ?_, ?_⟩,
    hmarker ?_ ?_⟩
  · rw [hbefore, hbase]
    exact fun h => absurd h (by decide)
  · rw [hbefore, hentries, List.append_nil, List.forall_mem_cons, List.forall_mem_singleton, Replaces,
      Replaces, hkey, hplain]
    decide
  · rw [hbefore, hmade, List.forall_mem_singleton]
    exact besideEntry_exchanged
  · rw [hbefore, hbase]
    exact fun h => absurd h (by decide)
  · rw [hbefore, hentries, List.append_nil, List.forall_mem_singleton, hplain]
    exact fun h => absurd h (by decide)
  · rw [hbefore, hmade, List.forall_mem_singleton]
    exact besideSection_exchanged _
  · rw [List.nil_append, entriesMerged, hbody, hentries, List.append_nil]
    simp only [List.forall_mem_cons]
    exact ⟨by decide, by decide, adopted_hides (by decide), List.forall_mem_nil _⟩
  · rw [List.nil_append, exchangesMade, replaceSingletonWorkpadBlocks_planned.2, List.nil_append, hmade,
      List.forall_mem_singleton]
    exact hidesMarker_exchanged

/-- A body or a block that quotes the marker brings a second one; an entry that the workpad
contained is lost with the entry it was contained in; and a block is lost to the next one. -/
theorem quoted_marker_and_contained_entry :
    ¬ OneMarker "[w]" (mergeBodies "[w]" "" ["see [w]"]) ∧
    contains (mergeBodies "[w]" "" ["## A\n## B", "## B", "## A\nx"]) "## B" = false ∧
    mergeBodies "[w]" "" [planned, "[w]\n" ++ adopted "[w]"] =
      "[w]\n## A\n\n---\n\n## Shea Symphony Workpad\n\n### s\n\n---\n\n" ++ adopted "[w]" := by
  refine ⟨?_, by decide +kernel, ?_⟩
  · have hmerged : mergeBodies "[w]" "" ["see [w]"] = "[w]\n\n---\n\nsee [w]" := by
      decide +kernel
    rw [hmerged]
    intro hone
    exact absurd (hone.only "[w]\n\n---\n\nsee " "" (by decide)) (by decide)
  · rw [mergeBodies, List.foldl_cons, List.foldl_cons, List.foldl_nil, mergeWorkpadBody_entriesLeft,
      entriesLeft_exchanged (by decide), blocksTaken,
      (replaceSingletonWorkpadBlocks_exchanged (by decide)).1]
    exact String.append_empty

end SheaSymphony.Workpad

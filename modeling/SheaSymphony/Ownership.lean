import SheaSymphony.Enclosed
import SheaSymphony.ReviewEligibility
import SheaSymphony.WorkpadEntries

/-!
# The ownership marker

`ownership.rs` writes who owns a pull request into its text and reads it back. The reader takes
blanks and full stops off the ends of a value, has a word of its own for a value that is missing,
and stops at the first end mark, so it is known which markers come back (`roundTrips_iff`).
-/

namespace SheaSymphony.Ownership

open Text
open Review (trimEndMatches)
open Text (IsLine IsMark IsTrimmed)

def ownershipMarkerStart : String := "<!-- shea-symphony-runtime-ownership -->"

def ownershipMarkerEnd : String := "<!-- /shea-symphony-runtime-ownership -->"

structure RuntimeOwnershipMarker where
  issueRef : String
  actorRole : String
  actorLabel : String
  profileId : Option String
  instanceName : Option String
  workspaceKey : String
  branchName : String
deriving DecidableEq

inductive RuntimeOwnershipDecision where
  | missing
  | matching
  | mismatched (reason : String) (existing : RuntimeOwnershipMarker)
deriving DecidableEq

/-! ## Writing -/

def ownershipLine (label value : String) : String := "- " ++ label ++ ": \x60" ++ value ++ "\x60"

def ownershipLines (marker : RuntimeOwnershipMarker) : List String :=
  ["### Runtime Ownership",
    ownershipLine "Issue" marker.issueRef,
    ownershipLine "Actor role" marker.actorRole,
    ownershipLine "Actor label" marker.actorLabel,
    ownershipLine "Profile" (marker.profileId.getD "n/a"),
    ownershipLine "Instance" (marker.instanceName.getD "n/a"),
    ownershipLine "Workspace key" marker.workspaceKey,
    ownershipLine "Branch" marker.branchName]

def renderRuntimeOwnershipMarker (marker : RuntimeOwnershipMarker) : String :=
  Text.join "\n" (ownershipMarkerStart :: ownershipLines marker ++ [ownershipMarkerEnd])

/-! ## Reading -/

def ownershipBlock (text : String) : Option String := do
  let (_, afterStart) ← Text.cut text ownershipMarkerStart
  let (block, _) ← Text.cut afterStart ownershipMarkerEnd
  return block

def cleanValue (value : String) : String :=
  trimEndMatches '.' (Text.trim (Text.trimMatches (· == '\x60') (Text.trim value)))

/-- The value of a line that has this label. -/
def lineValue (key line : String) : Option String := do
  let raw ← Text.stripPrefix (Text.trim line) "- "
  let (label, value) ← Text.splitOnce ':' raw
  if Text.trim label = key then some (cleanValue value) else none

def ownershipValue (block key : String) : Option String :=
  (Text.lines block).findSome? (lineValue key)

def optionalOwnershipValue (block key : String) : Option String :=
  (ownershipValue block key).filter (· != "n/a")

def markerOfBlock (block : String) : Option RuntimeOwnershipMarker := do
  return {
    issueRef := ← ownershipValue block "Issue"
    actorRole := ← ownershipValue block "Actor role"
    actorLabel := ← ownershipValue block "Actor label"
    profileId := optionalOwnershipValue block "Profile"
    instanceName := optionalOwnershipValue block "Instance"
    workspaceKey := ← ownershipValue block "Workspace key"
    branchName := ← ownershipValue block "Branch" }

def runtimeOwnershipFromText (text : String) : Option RuntimeOwnershipMarker :=
  (ownershipBlock text).bind markerOfBlock

/-! ## Deciding -/

/-- The first of the fields that differs. -/
def ownershipMismatchReason (existing expected : RuntimeOwnershipMarker) : Option String :=
  [("profile", existing.profileId, expected.profileId),
    ("instance", existing.instanceName, expected.instanceName),
    ("workspace_key", some existing.workspaceKey, some expected.workspaceKey),
    ("branch", some existing.branchName, some expected.branchName)].findSome?
      fun (label, actual, expectedValue) =>
        if actual ≠ expectedValue then
          some (label ++ " differs: existing \x60" ++ actual.getD "n/a" ++ "\x60 expected \x60"
            ++ expectedValue.getD "n/a" ++ "\x60")
        else none

def runtimeOwnershipDecision (text : Option String) (expected : RuntimeOwnershipMarker) :
    RuntimeOwnershipDecision :=
  match text.bind runtimeOwnershipFromText with
  | none => .missing
  | some existing =>
      if existing.issueRef ≠ expected.issueRef then
        .mismatched ("ownership marker is for " ++ existing.issueRef ++ ", expected "
          ++ expected.issueRef) existing
      else match ownershipMismatchReason existing expected with
        | some reason => .mismatched reason existing
        | none => .matching

theorem runtimeOwnershipDecision_self {text : String} {marker : RuntimeOwnershipMarker}
    (h : runtimeOwnershipFromText text = some marker) :
    runtimeOwnershipDecision (some text) marker = .matching := by
  have hsame : ownershipMismatchReason marker marker = none := by simp [ownershipMismatchReason]
  rw [runtimeOwnershipDecision, Option.bind_some, h]
  simp only [ne_eq, not_true_eq_false, if_false, hsame]

/-! ## The block that is read -/

theorem isMark_start : IsMark ownershipMarkerStart :=
  .of_comment "!-- shea-symphony-runtime-ownership --".toList (by decide +kernel) (by decide +kernel)

theorem isMark_end : IsMark ownershipMarkerEnd :=
  .of_comment "!-- /shea-symphony-runtime-ownership --".toList (by decide +kernel) (by decide +kernel)

/-- The lines between the marks. -/
def ownershipBody (marker : RuntimeOwnershipMarker) : String :=
  "" ++ "\n" ++ Text.join "\n" (ownershipLines marker) ++ "\n"

theorem render_eq (marker : RuntimeOwnershipMarker) : renderRuntimeOwnershipMarker marker
    = ownershipMarkerStart ++ (ownershipBody marker ++ ownershipMarkerEnd) := by
  have hlines : ownershipLines marker ≠ [] := List.cons_ne_nil _ _
  rw [renderRuntimeOwnershipMarker, List.cons_append, join_cons _ (by simp),
    join_append hlines (by simp), join_singleton, ownershipBody]
  simp only [String.append_assoc, String.empty_append]

theorem ownershipBlock_render (marker : RuntimeOwnershipMarker) :
    ownershipBlock (renderRuntimeOwnershipMarker marker)
      = (Text.cut (ownershipBody marker ++ ownershipMarkerEnd) ownershipMarkerEnd).map Prod.fst := by
  have hstart : cut (renderRuntimeOwnershipMarker marker) ownershipMarkerStart
      = some ("", ownershipBody marker ++ ownershipMarkerEnd) := by
    refine (cut_eq_some_iff isMark_start).mpr ⟨?_, by decide⟩
    rw [render_eq, String.empty_append]
  simp only [ownershipBlock, hstart, Option.bind_eq_bind, Option.bind_some]
  cases cut (ownershipBody marker ++ ownershipMarkerEnd) ownershipMarkerEnd <;> rfl

theorem not_contains_of_block {marker : RuntimeOwnershipMarker} {block : String}
    (h : ownershipBlock (renderRuntimeOwnershipMarker marker) = some block) :
    Text.contains block ownershipMarkerEnd = false := by
  rw [ownershipBlock_render] at h
  obtain ⟨⟨block, behind⟩, hcut, rfl⟩ := Option.map_eq_some_iff.mp h
  exact ((cut_eq_some_iff isMark_end).mp hcut).2

theorem ownershipBlock_of_not_contains {marker : RuntimeOwnershipMarker}
    (h : Text.contains (ownershipBody marker) ownershipMarkerEnd = false) :
    ownershipBlock (renderRuntimeOwnershipMarker marker) = some (ownershipBody marker) := by
  have hcut : cut (ownershipBody marker ++ ownershipMarkerEnd) ownershipMarkerEnd
      = some (ownershipBody marker, "") :=
    (cut_eq_some_iff isMark_end).mpr ⟨String.append_empty.symm, h⟩
  rw [ownershipBlock_render, hcut]
  rfl

/-! ## The values that are read -/

/-- What the reader leaves of a value. -/
def tidied (value : String) : String := trimEndMatches '.' (Text.trim value)

/-- No blank at either end, and no full stop at the last. -/
structure Tidy (value : String) : Prop where
  trimmed : IsTrimmed value
  unstopped : value.toList.getLast? ≠ some '.'

theorem tidied_eq_self_iff {value : String} : tidied value = value ↔ Tidy value := by
  constructor
  · intro h
    have hstop : (tidied value).toList <+: (trim value).toList := by
      rw [tidied, trimEndMatches, String.toList_ofList]
      exact List.rdropWhile_prefix _ _
    rw [h] at hstop
    have htrim : trim value = value := by
      have hlength := hstop.length_le
      rw [← String.toList_inj]
      exact (trim_sublist value).eq_of_length_le hlength
    refine ⟨htrim ▸ isTrimmed_trim value, fun hlast => ?_⟩
    rw [tidied, htrim, trimEndMatches, ← String.toList_inj, String.toList_ofList,
      List.rdropWhile_eq_self_iff] at h
    obtain ⟨init, hchars⟩ := List.getLast?_eq_some_iff.mp hlast
    exact h (by simp [hchars]) (by simp [hchars])
  · rintro ⟨htrimmed, hlast⟩
    rw [tidied, trim_of_isTrimmed htrimmed, trimEndMatches,
      List.rdropWhile_eq_self_iff.mpr, String.ofList_toList]
    intro hne hdot
    exact hlast (List.getLast?_eq_some_getLast hne ▸ congrArg some (beq_iff_eq.mp hdot))

theorem isTrimmed_enclosed {front back : String} {c d : Char} {first last : List Char}
    (hfront : front.toList = c :: first) (hback : back.toList = last ++ [d])
    (hc : Text.isWhitespace c = false) (hd : Text.isWhitespace d = false) (middle : String) :
    IsTrimmed (front ++ middle ++ back) := by
  constructor
  · intro e he
    rw [String.toList_append, String.toList_append, hfront] at he
    obtain rfl : c = e := by simpa using he
    exact hc
  · intro e he
    rw [String.toList_append, hback, ← List.append_assoc, List.getLast?_concat] at he
    obtain rfl : d = e := Option.some.inj he
    exact hd

theorem cleanValue_quoted {value : String} (h : '\x60' ∉ value.toList) :
    cleanValue (" " ++ ("\x60" ++ value ++ "\x60")) = tidied value := by
  have hspace : Text.IsSpace " " := by
    intro c hc
    obtain rfl : c = ' ' := by simpa using hc
    decide
  have htrim : trim (" " ++ ("\x60" ++ value ++ "\x60")) = "\x60" ++ value ++ "\x60" := by
    rw [trim_space_append hspace]
    have hquote : "\x60".toList = [] ++ ['\x60'] := rfl
    exact trim_of_isTrimmed
      (isTrimmed_enclosed hquote hquote (by decide) (by decide) value)
  have hnone : ∀ c ∈ value.toList, ¬ (c == '\x60') = true := by
    rintro c hc heq
    exact h (beq_iff_eq.mp heq ▸ hc)
  have hquotes : trimMatches (· == '\x60') ("\x60" ++ value ++ "\x60") = value := by
    have hlist : ("\x60" ++ value ++ "\x60").toList = '\x60' :: (value.toList ++ ['\x60']) := by
      simp [String.toList_append]
    rw [trimMatches, hlist, List.dropWhile_cons_of_pos rfl, ← String.toList_inj,
      String.toList_ofList]
    cases hvalue : value.toList with
    | nil => rfl
    | cons c rest =>
        have hstart : (c :: rest ++ ['\x60']).dropWhile (· == '\x60') = c :: rest ++ ['\x60'] :=
          List.dropWhile_cons_of_neg (hnone c (hvalue ▸ List.mem_cons_self))
        rw [hstart, List.rdropWhile_concat_pos _ _ _ rfl, ← hvalue, List.rdropWhile_eq_self_iff]
        exact fun hne => hnone _ (List.getLast_mem hne)
  rw [cleanValue, htrim, hquotes, tidied]

/-- A label that is read as it is written. -/
structure IsLabel (label : String) : Prop where
  trimmed : Text.trim label = label
  solid : ':' ∉ label.toList

theorem lineValue_ownershipLine {key label value : String} (hlabel : IsLabel label)
    (hvalue : '\x60' ∉ value.toList) :
    lineValue key (ownershipLine label value)
      = if label = key then some (tidied value) else none := by
  have hline : ownershipLine label value
      = "- " ++ (label ++ String.singleton ':' ++ (" " ++ ("\x60" ++ value ++ "\x60"))) := by
    simp [ownershipLine, ← String.toList_inj, String.toList_append]
  have htrim : trim (ownershipLine label value) = ownershipLine label value := by
    have hfront : "- ".toList = '-' :: [' '] := rfl
    have hback : "\x60".toList = [] ++ ['\x60'] := rfl
    have henclosed := isTrimmed_enclosed hfront hback (by decide) (by decide)
      (label ++ ": \x60" ++ value)
    refine trim_of_isTrimmed ?_
    simpa only [ownershipLine, String.append_assoc] using henclosed
  simp only [lineValue, htrim]
  rw [hline, Workpad.stripPrefix_append]
  simp only [Option.bind_eq_bind, Option.bind_some, splitOnce_append _ hlabel.solid,
    hlabel.trimmed, cleanValue_quoted hvalue]

/-! ## The block of a marker -/

def markerFields (marker : RuntimeOwnershipMarker) : List (String × String) :=
  [("Issue", marker.issueRef), ("Actor role", marker.actorRole),
    ("Actor label", marker.actorLabel), ("Profile", marker.profileId.getD "n/a"),
    ("Instance", marker.instanceName.getD "n/a"), ("Workspace key", marker.workspaceKey),
    ("Branch", marker.branchName)]

theorem ownershipLines_eq (marker : RuntimeOwnershipMarker) : ownershipLines marker
    = "### Runtime Ownership" :: (markerFields marker).map fun field =>
      ownershipLine field.1 field.2 := rfl

def ownershipLabels : List String :=
  ["Issue", "Actor role", "Actor label", "Profile", "Instance", "Workspace key", "Branch"]

variable {field : String × String}

theorem label_mem {marker : RuntimeOwnershipMarker} (h : field ∈ markerFields marker) : field.1 ∈ ownershipLabels :=
  List.mem_map.mpr ⟨field, h, rfl⟩

theorem isLabel_markerFields {marker : RuntimeOwnershipMarker} (h : field ∈ markerFields marker) : IsLabel field.1 := by
  have hlabels : ∀ label ∈ ownershipLabels, trim label = label ∧ ':' ∉ label.toList := by decide
  exact ⟨(hlabels field.1 (label_mem h)).1, (hlabels field.1 (label_mem h)).2⟩

/-- The texts a marker is made of. -/
def RuntimeOwnershipMarker.texts (marker : RuntimeOwnershipMarker) : List String :=
  [marker.issueRef, marker.actorRole, marker.actorLabel] ++ marker.profileId.toList
    ++ marker.instanceName.toList ++ [marker.workspaceKey, marker.branchName]

/-- On one line each, and without the quote they are put in. -/
def PlainMarker (marker : RuntimeOwnershipMarker) : Prop :=
  ∀ text ∈ marker.texts, text ≠ "" ∧ IsLine text ∧ '\x60' ∉ text.toList

theorem mem_texts_of_markerFields {marker : RuntimeOwnershipMarker}
    (h : field ∈ markerFields marker) : field.2 ∈ marker.texts ∨ field.2 = "n/a" := by
  have hoption : ∀ value : Option String, value.getD "n/a" ∈ value.toList ∨ value.getD "n/a" = "n/a" := by
    intro value
    cases value <;> simp
  simp only [markerFields, List.mem_cons, List.not_mem_nil, or_false] at h
  rcases h with rfl | rfl | rfl | rfl | rfl | rfl | rfl
  · simp [RuntimeOwnershipMarker.texts]
  · simp [RuntimeOwnershipMarker.texts]
  · simp [RuntimeOwnershipMarker.texts]
  · exact (hoption marker.profileId).imp_left fun hmem => by simp [RuntimeOwnershipMarker.texts, hmem]
  · exact (hoption marker.instanceName).imp_left fun hmem => by
      simp [RuntimeOwnershipMarker.texts, hmem]
  · simp [RuntimeOwnershipMarker.texts]
  · simp [RuntimeOwnershipMarker.texts]

theorem exists_field_of_mem_texts {marker : RuntimeOwnershipMarker} {text : String}
    (h : text ∈ marker.texts) : ∃ label, (label, text) ∈ markerFields marker := by
  have hoption : ∀ value : Option String, text ∈ value.toList → value.getD "n/a" = text := by
    intro value hmem
    cases value with
    | none => cases hmem
    | some value => exact (List.mem_singleton.mp hmem).symm
  simp only [RuntimeOwnershipMarker.texts, List.mem_append, List.mem_cons, List.not_mem_nil,
    or_false] at h
  rcases h with (((rfl | rfl | rfl) | h) | h) | rfl | rfl
  · exact ⟨"Issue", by simp [markerFields]⟩
  · exact ⟨"Actor role", by simp [markerFields]⟩
  · exact ⟨"Actor label", by simp [markerFields]⟩
  · exact ⟨"Profile", by simp [markerFields, hoption _ h]⟩
  · exact ⟨"Instance", by simp [markerFields, hoption _ h]⟩
  · exact ⟨"Workspace key", by simp [markerFields]⟩
  · exact ⟨"Branch", by simp [markerFields]⟩

theorem infix_append_cons_iff {α : Type*} {pattern front back : List α} {c : α} (hc : c ∉ pattern) :
    pattern <:+: front ++ c :: back ↔ pattern <:+: front ∨ pattern <:+: back := by
  -- What begins with the separator would hold it.
  have hstart : ∀ {rest : List α}, rest ≠ [] → rest <+: c :: back → c ∈ rest := by
    intro rest hne hprefix
    cases rest with
    | nil => exact absurd rfl hne
    | cons d rest =>
        obtain ⟨rfl, -⟩ := List.cons_prefix_cons.mp hprefix
        exact List.mem_cons_self
  rw [List.infix_append_iff_ne_nil]
  constructor
  · rintro (hfront | hback | ⟨first, rest, -, hne, rfl, -, hrest⟩)
    · exact Or.inl hfront
    · rcases List.infix_cons_iff.mp hback with hprefix | hback
      · cases pattern with
        | nil => exact Or.inl List.nil_infix
        | cons d pattern => exact absurd (hstart (List.cons_ne_nil _ _) hprefix) hc
      · exact Or.inr hback
    · exact absurd (List.mem_append_right first (hstart hne hrest)) hc
  · rintro (hfront | hback)
    · exact Or.inl hfront
    · exact Or.inr (Or.inl (List.infix_cons_iff.mpr (Or.inr hback)))

theorem contains_append_singleton_iff {pattern front back : String} {c : Char}
    (hc : c ∉ pattern.toList) :
    Text.contains (front ++ String.singleton c ++ back) pattern = true ↔
      Text.contains front pattern = true ∨ Text.contains back pattern = true := by
  have hlist : (front ++ String.singleton c ++ back).toList = front.toList ++ c :: back.toList := by
    simp [String.toList_append]
  simp only [contains, decide_eq_true_eq, hlist]
  exact infix_append_cons_iff hc

theorem contains_ownershipLine_iff {label : String} (hlabel : label ∈ ownershipLabels)
    (value : String) : Text.contains (ownershipLine label value) ownershipMarkerEnd = true ↔
      Text.contains value ownershipMarkerEnd = true := by
  have hfront : ∀ label ∈ ownershipLabels,
      contains ("- " ++ label ++ ": ") ownershipMarkerEnd = false := by decide +kernel
  have hline : ownershipLine label value = "- " ++ label ++ ": " ++ String.singleton '\x60'
      ++ (value ++ String.singleton '\x60' ++ "") := by
    simp [ownershipLine, ← String.toList_inj, String.toList_append]
  have hquote : '\x60' ∉ ownershipMarkerEnd.toList := by decide +kernel
  have hempty : contains "" ownershipMarkerEnd = false := by decide +kernel
  rw [hline, contains_append_singleton_iff hquote, contains_append_singleton_iff hquote,
    hfront label hlabel, hempty]
  simp

theorem contains_body_iff {marker : RuntimeOwnershipMarker} :
    Text.contains (ownershipBody marker) ownershipMarkerEnd = true ↔
      ∃ line ∈ ownershipLines marker, Text.contains line ownershipMarkerEnd = true := by
  have hempty : contains "" ownershipMarkerEnd = false := by decide
  have hcut : ∀ s t, contains (s ++ "\n" ++ t) ownershipMarkerEnd = true →
      contains s ownershipMarkerEnd = true ∨ contains t ownershipMarkerEnd = true :=
    fun s t => contains_line isMark_end.isLine
  constructor
  · intro h
    have hbody : ownershipBody marker
        = "" ++ "\n" ++ join "\n" (ownershipLines marker) ++ "\n" ++ "" := String.append_empty.symm
    rw [hbody] at h
    rcases hcut _ _ h with h | h
    · rcases hcut _ _ h with h | h
      · rw [hempty] at h
        cases h
      · exact exists_contains_of_join isMark_end.ne_empty hcut h
    · rw [hempty] at h
      cases h
  · rintro ⟨line, hline, h⟩
    exact contains_append_left (contains_append_right
      (contains_trans (contains_join hline) h) ("" ++ "\n")) "\n"

theorem not_contains_body_iff {marker : RuntimeOwnershipMarker} :
    Text.contains (ownershipBody marker) ownershipMarkerEnd = false ↔
      ∀ text ∈ marker.texts, Text.contains text ownershipMarkerEnd = false := by
  rw [← Bool.not_eq_true, contains_body_iff, ownershipLines_eq]
  constructor
  · intro hbody text htext
    obtain ⟨label, hfield⟩ := exists_field_of_mem_texts htext
    refine Bool.eq_false_iff.mpr fun htext => hbody ⟨ownershipLine label text, ?_,
      (contains_ownershipLine_iff (label_mem hfield) text).mpr htext⟩
    exact List.mem_cons_of_mem _ (List.mem_map.mpr ⟨_, hfield, rfl⟩)
  · rintro htexts ⟨line, hline, hcontains⟩
    rcases List.mem_cons.mp hline with rfl | hline
    · exact absurd hcontains (by decide)
    · obtain ⟨field, hfield, rfl⟩ := List.mem_map.mp hline
      rw [contains_ownershipLine_iff (label_mem hfield)] at hcontains
      rcases mem_texts_of_markerFields hfield with htext | hnone
      · rw [htexts _ htext] at hcontains
        cases hcontains
      · rw [hnone] at hcontains
        exact absurd hcontains (by decide)

section
variable {marker : RuntimeOwnershipMarker} (hplain : PlainMarker marker)
include hplain

theorem not_mem_markerFields (h : field ∈ markerFields marker) :
    IsLine field.2 ∧ '\x60' ∉ field.2.toList := by
  rcases mem_texts_of_markerFields h with htext | hnone
  · exact (hplain _ htext).2
  · rw [hnone, IsLine]
    decide

theorem isLine_ownershipLines {line : String} (h : line ∈ ownershipLines marker) : IsLine line := by
  rw [ownershipLines_eq] at h
  rcases List.mem_cons.mp h with rfl | h
  · rw [IsLine]
    decide
  · obtain ⟨field, hfield, rfl⟩ := List.mem_map.mp h
    have hvalue : '\n' ∉ field.2.toList := (not_mem_markerFields hplain hfield).1
    have hlabels : ∀ label ∈ ownershipLabels, '\n' ∉ label.toList := by decide
    have hlabel := hlabels field.1 (label_mem hfield)
    simp [IsLine, ownershipLine, String.toList_append, hvalue, hlabel]

theorem ownershipValue_body (key : String) : ownershipValue (ownershipBody marker) key
    = (markerFields marker).findSome? fun field =>
      if field.1 = key then some (tidied field.2) else none := by
  have hempty : lineValue key "" = none := rfl
  have hheader : lineValue key "### Runtime Ownership" = none := rfl
  have hlines : lines (ownershipBody marker)
      = "" :: (ownershipLines marker).map chomp := by
    have hne : ownershipLines marker ≠ [] := List.cons_ne_nil _ _
    rw [ownershipBody, lines_feed, terminated_append, terminated_empty,
      terminated_join hne fun line => isLine_ownershipLines hplain]
    rfl
  have hchomp : ∀ line, lineValue key (chomp line) = lineValue key line := by
    intro line
    rw [lineValue, trim_chomp, lineValue]
  have hread : ∀ fields : List (String × String), (∀ field ∈ fields, field ∈ markerFields marker) →
      ((fields.map fun field => ownershipLine field.1 field.2).map chomp).findSome? (lineValue key)
        = fields.findSome? fun field => if field.1 = key then some (tidied field.2) else none := by
    intro fields hfields
    induction fields with
    | nil => rfl
    | cons field fields ih =>
        have hfield := hfields field List.mem_cons_self
        have hline : lineValue key (ownershipLine field.1 field.2)
            = if field.1 = key then some (tidied field.2) else none :=
          lineValue_ownershipLine (isLabel_markerFields hfield) (not_mem_markerFields hplain hfield).2
        rw [List.map_cons, List.map_cons, List.findSome?_cons, List.findSome?_cons,
          ih fun other hother => hfields other (List.mem_cons_of_mem _ hother), hchomp]
        simp only [hline]
  have hheading : lineValue key (chomp "### Runtime Ownership") = none := by
    rw [hchomp, hheader]
  rw [ownershipValue, hlines, ownershipLines_eq, List.map_cons]
  simp only [List.findSome?_cons, hempty, hheading]
  exact hread _ fun _ hfield => hfield

/-- What is read from the block of a marker. -/
def tidiedMarker (marker : RuntimeOwnershipMarker) : RuntimeOwnershipMarker where
  issueRef := tidied marker.issueRef
  actorRole := tidied marker.actorRole
  actorLabel := tidied marker.actorLabel
  profileId := (some (tidied (marker.profileId.getD "n/a"))).filter (· != "n/a")
  instanceName := (some (tidied (marker.instanceName.getD "n/a"))).filter (· != "n/a")
  workspaceKey := tidied marker.workspaceKey
  branchName := tidied marker.branchName

theorem markerOfBlock_body : markerOfBlock (ownershipBody marker) = some (tidiedMarker marker) := by
  simp [markerOfBlock, optionalOwnershipValue, ownershipValue_body hplain, markerFields, tidiedMarker]

end

/-! ## Texts around a value -/

theorem infix_trimMatches (p : Char → Bool) (s : String) :
    (Text.trimMatches p s).toList <:+: s.toList := by
  rw [trimMatches, String.toList_ofList]
  exact (List.rdropWhile_prefix p _).isInfix.trans (List.dropWhile_suffix p).isInfix

theorem infix_cleanValue (value : String) : (cleanValue value).toList <:+: value.toList := by
  rw [cleanValue, trimEndMatches, String.toList_ofList]
  exact (List.rdropWhile_prefix _ _).isInfix.trans ((infix_trimMatches _ _).trans
    ((infix_trimMatches _ _).trans (infix_trimMatches _ _)))

theorem infix_lineValue {key line value : String} (h : lineValue key line = some value) :
    value.toList <:+: line.toList := by
  obtain ⟨raw, hraw, h⟩ := Option.bind_eq_some_iff.mp h
  obtain ⟨⟨label, rest⟩, hrest, h⟩ := Option.bind_eq_some_iff.mp h
  have htrim : raw.toList <:+: (trim line).toList := by
    rw [stripPrefix] at hraw
    split at hraw
    · obtain rfl := Option.some.inj hraw
      rw [String.toList_ofList]
      exact (List.drop_suffix _ _).isInfix
    · cases hraw
  have hbehind : rest.toList <:+: raw.toList := by
    rw [splitOnce, List.span_eq_takeWhile_dropWhile] at hrest
    split at hrest
    · cases hrest
    · next front c behind hspan =>
      obtain ⟨-, hdrop⟩ := Prod.mk.inj hspan
      obtain ⟨-, rfl⟩ := Prod.mk.inj (Option.some.inj hrest)
      rw [String.toList_ofList]
      have hsuffix := (List.suffix_cons c behind).isInfix
      rw [← hdrop] at hsuffix
      exact hsuffix.trans (List.dropWhile_suffix _).isInfix
  dsimp only at h
  split at h
  · obtain rfl := Option.some.inj h
    exact (infix_cleanValue rest).trans
      (hbehind.trans (htrim.trans (infix_trimMatches isWhitespace line)))
  · cases h

theorem contains_of_ownershipValue {block key value : String}
    (h : ownershipValue block key = some value) : Text.contains block value = true := by
  obtain ⟨line, hline, hvalue⟩ := List.exists_of_findSome?_eq_some h
  exact contains_trans (contains_of_mem_lines hline)
    (decide_eq_true (infix_lineValue hvalue))

theorem contains_of_markerOfBlock {block text : String} {marker : RuntimeOwnershipMarker}
    (h : markerOfBlock block = some marker) (htext : text ∈ marker.texts) :
    Text.contains block text = true := by
  obtain ⟨issueRef, hissue, h⟩ := Option.bind_eq_some_iff.mp h
  obtain ⟨actorRole, hrole, h⟩ := Option.bind_eq_some_iff.mp h
  obtain ⟨actorLabel, hlabel, h⟩ := Option.bind_eq_some_iff.mp h
  obtain ⟨workspaceKey, hkey, h⟩ := Option.bind_eq_some_iff.mp h
  obtain ⟨branchName, hbranch, h⟩ := Option.bind_eq_some_iff.mp h
  obtain rfl := Option.some.inj h
  have hoption : ∀ {key text : String}, text ∈ (optionalOwnershipValue block key).toList →
      contains block text = true := by
    intro key text hmem
    have hvalue := Option.mem_toList.mp hmem
    exact contains_of_ownershipValue (Option.filter_eq_some_iff.mp hvalue).1
  simp only [RuntimeOwnershipMarker.texts, List.mem_append, List.mem_cons, List.not_mem_nil,
    or_false] at htext
  rcases htext with (((rfl | rfl | rfl) | hmem) | hmem) | rfl | rfl
  · exact contains_of_ownershipValue hissue
  · exact contains_of_ownershipValue hrole
  · exact contains_of_ownershipValue hlabel
  · exact hoption hmem
  · exact hoption hmem
  · exact contains_of_ownershipValue hkey
  · exact contains_of_ownershipValue hbranch

/-! ## The round trip -/

/-- The rendered marker is read as it was, and its owner is let in. -/
structure RoundTrips (marker : RuntimeOwnershipMarker) : Prop where
  parsed : runtimeOwnershipFromText (renderRuntimeOwnershipMarker marker) = some marker
  decided : runtimeOwnershipDecision (some (renderRuntimeOwnershipMarker marker)) marker = .matching

/-- Tidy texts without the end mark, none of the optional ones the word for none. -/
structure ReadableMarker (marker : RuntimeOwnershipMarker) : Prop where
  tidy : ∀ text ∈ marker.texts, Tidy text
  unmarked : ∀ text ∈ marker.texts, Text.contains text ownershipMarkerEnd = false
  profile : marker.profileId ≠ some "n/a"
  instanceName : marker.instanceName ≠ some "n/a"

theorem filter_tidied_eq_iff {value : Option String} :
    (some (tidied (value.getD "n/a"))).filter (· != "n/a") = value ↔
      (∀ text ∈ value.toList, Tidy text) ∧ value ≠ some "n/a" := by
  cases value with
  | none =>
      have hnone : (some (tidied "n/a")).filter (· != "n/a") = none := by decide
      exact iff_of_true hnone ⟨nofun, nofun⟩
  | some text =>
      rw [Option.getD_some, Option.filter_eq_some_iff, Option.some.injEq, bne_iff_ne,
        tidied_eq_self_iff]
      simp

theorem tidiedMarker_eq_iff {marker : RuntimeOwnershipMarker} : tidiedMarker marker = marker ↔
    (∀ text ∈ marker.texts, Tidy text) ∧ marker.profileId ≠ some "n/a"
      ∧ marker.instanceName ≠ some "n/a" := by
  obtain ⟨issueRef, actorRole, actorLabel, profileId, instanceName, workspaceKey, branchName⟩ := marker
  simp only [tidiedMarker, RuntimeOwnershipMarker.mk.injEq, tidied_eq_self_iff,
    filter_tidied_eq_iff, RuntimeOwnershipMarker.texts, List.forall_mem_append, List.forall_mem_cons]
  tauto

theorem roundTrips_iff {marker : RuntimeOwnershipMarker} (h : PlainMarker marker) :
    RoundTrips marker ↔ ReadableMarker marker := by
  constructor
  · intro hround
    obtain ⟨block, hblock, hmarker⟩ := Option.bind_eq_some_iff.mp hround.parsed
    have hblockEnd := not_contains_of_block hblock
    have hunmarked : ∀ text ∈ marker.texts, Text.contains text ownershipMarkerEnd = false := by
      intro text htext
      refine Bool.eq_false_iff.mpr fun hend => ?_
      rw [Text.contains_trans (contains_of_markerOfBlock hmarker htext) hend] at hblockEnd
      cases hblockEnd
    rw [ownershipBlock_of_not_contains (not_contains_body_iff.mpr hunmarked)] at hblock
    obtain rfl := Option.some.inj hblock
    rw [markerOfBlock_body h] at hmarker
    obtain ⟨htidy, hprofile, hinstance⟩ := tidiedMarker_eq_iff.mp (Option.some.inj hmarker)
    exact ⟨htidy, hunmarked, hprofile, hinstance⟩
  · intro hreadable
    have hparsed : runtimeOwnershipFromText (renderRuntimeOwnershipMarker marker) = some marker := by
      rw [runtimeOwnershipFromText,
        ownershipBlock_of_not_contains (not_contains_body_iff.mpr hreadable.unmarked),
        Option.bind_some, markerOfBlock_body h,
        tidiedMarker_eq_iff.mpr ⟨hreadable.tidy, hreadable.profile, hreadable.instanceName⟩]
    exact ⟨hparsed, runtimeOwnershipDecision_self hparsed⟩

/-- A marker with a profile of this name. -/
def profileMarker (name : String) : RuntimeOwnershipMarker where
  issueRef := "#99"
  actorRole := "implementation_agent"
  actorLabel := "Shea Symphony Agent"
  profileId := some "codex-alpha"
  instanceName := some name
  workspaceKey := "codex-alpha-_99"
  branchName := "feature/issue-99-runtime-ownership"

theorem plainMarker_alpha : PlainMarker (profileMarker "alpha") := by
  intro text htext
  show text ≠ "" ∧ '\n' ∉ text.toList ∧ '\x60' ∉ text.toList
  revert text
  decide +kernel

theorem roundTrips_alpha :
    RoundTrips (profileMarker "alpha") ↔ ReadableMarker (profileMarker "alpha") :=
  roundTrips_iff plainMarker_alpha

theorem plainMarker_stopped : PlainMarker (profileMarker "Alpha Inc.") := by
  intro text htext
  show text ≠ "" ∧ '\n' ∉ text.toList ∧ '\x60' ∉ text.toList
  revert text
  decide +kernel

/-- An owner whose name ends in a full stop is not let into its own pull request. -/
theorem stoppedName_refused :
    PlainMarker (profileMarker "Alpha Inc.") ∧ ¬ RoundTrips (profileMarker "Alpha Inc.")
      ∧ runtimeOwnershipDecision (some (renderRuntimeOwnershipMarker (profileMarker "Alpha Inc.")))
          (profileMarker "Alpha Inc.")
        = .mismatched "instance differs: existing \x60Alpha Inc\x60 expected \x60Alpha Inc.\x60"
          (profileMarker "Alpha Inc") := by
  have hunmarked : ∀ text ∈ (profileMarker "Alpha Inc.").texts,
      Text.contains text ownershipMarkerEnd = false := by decide +kernel
  have hread : tidiedMarker (profileMarker "Alpha Inc.") = profileMarker "Alpha Inc" := by decide +kernel
  have hparsed : runtimeOwnershipFromText
      (renderRuntimeOwnershipMarker (profileMarker "Alpha Inc.")) = some (profileMarker "Alpha Inc") := by
    rw [runtimeOwnershipFromText, ownershipBlock_of_not_contains (not_contains_body_iff.mpr hunmarked),
      Option.bind_some, markerOfBlock_body plainMarker_stopped, hread]
  have hdecided : runtimeOwnershipDecision
      (some (renderRuntimeOwnershipMarker (profileMarker "Alpha Inc."))) (profileMarker "Alpha Inc.")
        = .mismatched "instance differs: existing \x60Alpha Inc\x60 expected \x60Alpha Inc.\x60"
          (profileMarker "Alpha Inc") := by
    rw [runtimeOwnershipDecision, Option.bind_some, hparsed]
    decide +kernel
  refine ⟨plainMarker_stopped, fun hround => ?_, hdecided⟩
  rw [hround.decided] at hdecided
  cases hdecided

end SheaSymphony.Ownership

import SheaSymphony.Codes
import SheaSymphony.NativeSubissues
import SheaSymphony.Pieces

/-!
# Reading native subissues back

What the adapter writes about native subissues it reads back: references made of
numbers hold neither a comma nor a blank, and each number is there once. So an
enrichment looks up the states that are missing and leaves the rest
(`written_enrich`), from the payload on (`written_withSubissueFields`).
-/

namespace SheaSymphony.Topology

open Text
open Codes (decimal decimal_injective isDigit_of_mem_decimal not_mem_decimal)
open Model (NativeSubissueStatus TrackerIssue issueRefFromValue issueRefsMatch normalizeIssueRef
  pushNativeSubissueStatus)

/-! ## Payloads -/

structure SubissueNode where
  id : String
  number : Nat
  state : String
deriving DecidableEq

def SubissueNode.identifier (node : SubissueNode) : String := "#" ++ toString node.number

structure IsSubissueNode (value : Json) (node : SubissueNode) : Prop where
  id : value.get "id" = some (.str node.id)
  number : (value.get "number").bind Json.asU64 = some node.number
  state : value.get "state" = some (.str node.state)

/-- The subissues of an issue payload. -/
def HasSubissues (content : Json) (nodes : List SubissueNode) : Prop :=
  ∃ values, subissueNodes content = some (.arr values) ∧ List.Forall₂ IsSubissueNode values nodes

def withSubissueFields (case : Text.UnicodeCase) (issue : TrackerIssue) (content : Json) : TrackerIssue :=
  { issue with projectFields := insertNativeSubissueFields case issue.projectFields content }

/-! ## Issue references -/

theorem toList_number (n : Nat) : (toString n).toList = decimal n := Nat.toList_repr

theorem isTrimmed_hash (n : Nat) : Text.IsTrimmed ("#" ++ toString n) := by
  have hlist : ("#" ++ toString n).toList = '#' :: decimal n := by
    rw [String.toList_append, toList_number]
    rfl
  have hmem : ∀ c ∈ ("#" ++ toString n).toList, isWhitespace c = false := by
    intro c hc
    rw [hlist] at hc
    rcases List.mem_cons.mp hc with rfl | hc
    · rfl
    · exact isWhitespace_of_isDigit (isDigit_of_mem_decimal hc)
  exact ⟨fun c hc => hmem c (List.mem_of_mem_head? hc), fun c hc => hmem c (List.mem_of_mem_getLast? hc)⟩

@[simp] theorem normalizeIssueRef_hash (n : Nat) :
    normalizeIssueRef ("#" ++ toString n) = toString n := by
  have hlist : ("#" ++ toString n).toList = '#' :: decimal n := by
    rw [String.toList_append, toList_number]
    rfl
  have hdigits : (decimal n).dropWhile (fun d => d == '#') = decimal n := by
    cases hdecimal : decimal n with
    | nil => rfl
    | cons d rest =>
        have hd : d ≠ '#' := by
          rintro rfl
          exact not_mem_decimal (n := n) (c := '#') rfl (hdecimal ▸ List.mem_cons_self)
        rw [List.dropWhile_cons_of_neg (by simpa using hd)]
  rw [normalizeIssueRef, trim_of_isTrimmed (isTrimmed_hash n), trimStartMatches, hlist,
    List.dropWhile_cons_of_pos (by simp), hdigits, ← toList_number, String.ofList_toList]

theorem not_mem_hash {n : Nat} {c : Char} (hhash : c ≠ '#') (hdigit : c.isDigit = false) :
    c ∉ ("#" ++ toString n).toList := by
  rw [String.toList_append, toList_number]
  intro hc
  rcases List.mem_append.mp hc with hc | hc
  · exact hhash (List.mem_singleton.mp hc)
  · exact not_mem_decimal hdigit hc

theorem hash_injective {m n : Nat} (h : toString m = toString n) : m = n :=
  decimal_injective (by rw [← toList_number, ← toList_number, h])

@[simp] theorem normalizeIssueRef_identifier (node : SubissueNode) :
    normalizeIssueRef node.identifier = toString node.number := normalizeIssueRef_hash node.number

theorem number_eq_of_refs_match {m n : Nat}
    (h : normalizeIssueRef ("#" ++ toString m) = normalizeIssueRef ("#" ++ toString n)) : m = n := by
  rw [normalizeIssueRef_hash, normalizeIssueRef_hash] at h
  exact hash_injective h

/-! ## Collecting subissues -/

def refKey (subissue : NativeSubissueRef) : String := normalizeIssueRef subissue.identifier

def statusKey (status : NativeSubissueStatus) : String := normalizeIssueRef status.identifier

def fillStatus (existing candidate : NativeSubissueStatus) : NativeSubissueStatus :=
  { existing with
    projectState := existing.projectState <|> candidate.projectState
    githubState := existing.githubState <|> candidate.githubState }

theorem issueRefsMatch_iff {left right : String} :
    issueRefsMatch left right = true ↔ normalizeIssueRef left = normalizeIssueRef right := beq_iff_eq

theorem pushNativeSubissueStatus_eq (statuses : List NativeSubissueStatus)
    (candidate : NativeSubissueStatus) :
    pushNativeSubissueStatus statuses candidate
      = Collected.push statusKey fillStatus statuses candidate := by
  induction statuses with
  | nil => rfl
  | cons status rest ih =>
      rw [pushNativeSubissueStatus, Collected.push, ih]
      by_cases hsame : statusKey status = statusKey candidate
      · rw [if_pos (issueRefsMatch_iff.mpr hsame), if_pos hsame, fillStatus]
      · rw [if_neg (mt issueRefsMatch_iff.mp hsame), if_neg hsame]

variable {subissues : List NativeSubissueRef} {nodes : List SubissueNode}

section
variable (case : Text.UnicodeCase)

theorem pushNativeSubissueRef_eq (subissues : List NativeSubissueRef) (candidate : NativeSubissueRef) :
    pushNativeSubissueRef case subissues candidate
      = Collected.push refKey (NativeSubissueRef.fill case) subissues candidate := by
  induction subissues with
  | nil => rfl
  | cons subissue rest ih =>
      rw [pushNativeSubissueRef, Collected.push, ih]
      by_cases hsame : refKey subissue = refKey candidate
      · rw [if_pos (issueRefsMatch_iff.mpr hsame), if_pos hsame]
      · rw [if_neg (mt issueRefsMatch_iff.mp hsame), if_neg hsame]

theorem foldl_pushNativeSubissueRef (mentions subissues : List NativeSubissueRef) :
    mentions.foldl (pushNativeSubissueRef case) subissues
      = mentions.foldl (Collected.push refKey (NativeSubissueRef.fill case)) subissues := by
  have hpush : pushNativeSubissueRef case = Collected.push refKey (NativeSubissueRef.fill case) :=
    funext fun subissues => funext (pushNativeSubissueRef_eq case subissues)
  rw [hpush]

@[simp] theorem refKey_fill (existing candidate : NativeSubissueRef) :
    refKey (existing.fill case candidate) = refKey existing := rfl

@[simp] theorem identifier_lookUp (projectStates : ProjectStates) (subissue : NativeSubissueRef) :
    (subissue.lookUp case projectStates).identifier = subissue.identifier := by
  rw [NativeSubissueRef.lookUp]
  split <;> rfl

@[simp] theorem refKey_lookUp (projectStates : ProjectStates) (subissue : NativeSubissueRef) :
    refKey (subissue.lookUp case projectStates) = refKey subissue := by
  rw [refKey, identifier_lookUp, refKey]

theorem lookUp_lookUp (projectStates : ProjectStates) (subissue : NativeSubissueRef) :
    (subissue.lookUp case projectStates).lookUp case projectStates
      = subissue.lookUp case projectStates := by
  by_cases hmissing : subissueProjectStateMissing case subissue.projectState = true
  · simp [NativeSubissueRef.lookUp, hmissing]
  · simp [NativeSubissueRef.lookUp, hmissing]

theorem lookUp_fill_listed (projectStates : ProjectStates) (subissue : NativeSubissueRef) :
    (subissue.fill case (listedSubissueRef subissue.identifier)).lookUp case projectStates
      = subissue.lookUp case projectStates := by
  by_cases hmissing : subissueProjectStateMissing case subissue.projectState = true
  · have hnone : subissueProjectStateMissing case none = true := rfl
    simp [NativeSubissueRef.lookUp, NativeSubissueRef.fill, listedSubissueRef, hmissing, hnone]
  · simp [NativeSubissueRef.lookUp, NativeSubissueRef.fill, listedSubissueRef, hmissing]

/-! ## The project fields -/

/-- Every subissue is named by its number, and each number is there once. -/
structure Numbered (subissues : List NativeSubissueRef) : Prop where
  identifier : ∀ subissue ∈ subissues, ∃ number : Nat, subissue.identifier = "#" ++ toString number
  nodup : (subissues.map refKey).Nodup

/-- The three places of the project fields that hold the subissues. -/
structure Written (projectFields : ProjectFields) (subissues : List NativeSubissueRef) : Prop where
  linked : projectFields "GitHub Native Subissues"
    = some (.arr (subissues.map NativeSubissueRef.toValue))
  listed : projectFields "Native Subissues"
    = some (.str (Text.join ", " (subissues.map NativeSubissueRef.identifier)))
  states : projectFields "Native Subissue Project States"
    = some (.str (Text.join ", " (subissues.map fun subissue =>
        projectStatePair subissue.identifier subissue.projectState)))

theorem Numbered.map_lookUp (h : Numbered subissues) (projectStates : ProjectStates) :
    Numbered (subissues.map (NativeSubissueRef.lookUp case projectStates)) where
  identifier := by
    intro enriched henriched
    obtain ⟨subissue, hmem, rfl⟩ := List.mem_map.mp henriched
    rw [identifier_lookUp]
    exact h.identifier subissue hmem
  nodup := by
    rw [List.map_map]
    simpa only [Function.comp_def, refKey_lookUp] using h.nodup

@[simp] theorem asStr_optional (value : Option String) :
    (Json.optional Json.str value).asStr = value := by
  cases value <;> rfl

@[simp] theorem asStr_str (value : String) : (Json.str value).asStr = some value := rfl

theorem linkedSubissueRef_toValue (subissue : NativeSubissueRef) :
    linkedSubissueRef subissue.toValue = some subissue := by
  simp [linkedSubissueRef, issueRefFromValue, NativeSubissueRef.toValue, Json.get, List.lookup_cons]

theorem listed_identifiers (hne : subissues ≠ []) (h : Numbered subissues) :
    ((Text.splitChar ',' (Text.join ", " (subissues.map NativeSubissueRef.identifier))).map
        Text.trim).filter (fun value => value != "")
      = subissues.map NativeSubissueRef.identifier := by
  have hread : ∀ subissue ∈ subissues,
      (splitChar ',' subissue.identifier).map trim = [subissue.identifier]
        ∧ subissue.identifier ≠ "" := by
    intro subissue hmem
    obtain ⟨number, hnumber⟩ := h.identifier subissue hmem
    rw [hnumber, splitChar_of_not_mem (not_mem_hash (by decide) rfl), List.map_singleton,
      trim_of_isTrimmed (isTrimmed_hash number)]
    refine ⟨rfl, fun hempty => ?_⟩
    have hlist := congrArg String.toList hempty
    simp [String.toList_append] at hlist
  have hsplit : ((subissues.map NativeSubissueRef.identifier).flatMap fun part =>
      (splitChar ',' part).map trim) = subissues.map NativeSubissueRef.identifier := by
    rw [List.flatMap_map, List.flatMap_congr fun subissue hmem => (hread subissue hmem).1]
    exact List.map_eq_flatMap.symm
  rw [map_trim_splitChar_join (by simpa using hne), hsplit, List.filter_eq_self]
  intro identifier hidentifier
  obtain ⟨subissue, hmem, rfl⟩ := List.mem_map.mp hidentifier
  simpa using (hread subissue hmem).2

theorem nativeSubissuesFromProjectFields_of_written {projectFields : ProjectFields}
    (hne : subissues ≠ []) (hnumbered : Numbered subissues) (h : Written projectFields subissues) :
    nativeSubissuesFromProjectFields case projectFields
      = subissues.map fun subissue => subissue.fill case (listedSubissueRef subissue.identifier) := by
  have hlinked : (subissues.map NativeSubissueRef.toValue).filterMap linkedSubissueRef = subissues := by
    rw [List.filterMap_map]
    exact (List.filterMap_congr fun subissue _ => linkedSubissueRef_toValue subissue).trans
      List.filterMap_some
  have hcollect : subissues.foldl (Collected.push refKey (NativeSubissueRef.fill case)) []
      = subissues := Collected.collect_of_nodup hnumbered.nodup
  rw [nativeSubissuesFromProjectFields, h.linked, h.listed]
  simp only [Option.bind_some, Json.asArray, Json.asStr, Option.getD_some, Option.elim_some]
  rw [hlinked, listed_identifiers hne hnumbered, foldl_pushNativeSubissueRef, List.foldl_append,
    hcollect, List.map_map]
  have hagain : ∀ subissue, refKey (listedSubissueRef subissue.identifier) = refKey subissue :=
    fun _ => rfl
  exact Collected.foldl_push_map (refKey_fill case) hagain hnumbered.nodup

theorem insertNativeSubissueStatusFields_written (projectFields : ProjectFields)
    (nativeSubissues : List NativeSubissueRef) (hne : nativeSubissues ≠ [])
    (projectStates : ProjectStates) :
    Written (insertNativeSubissueStatusFields case projectFields nativeSubissues projectStates)
      (Collected.collect refKey (NativeSubissueRef.fill case)
        (nativeSubissues.map (NativeSubissueRef.lookUp case projectStates))) := by
  have hempty : ¬ nativeSubissues.isEmpty = true := by simpa using hne
  rw [insertNativeSubissueStatusFields, if_neg hempty, foldl_pushNativeSubissueRef]
  constructor
  · rw [Function.update_of_ne (by decide), Function.update_of_ne (by decide), Function.update_self]
    rfl
  · rw [Function.update_of_ne (by decide), Function.update_self]
    rfl
  · rw [Function.update_self]
    rfl

theorem written_enrich {issue : TrackerIssue} (hne : subissues ≠ [])
    (hnumbered : Numbered subissues) (h : Written issue.projectFields subissues)
    (projectStates : ProjectStates) :
    Written (enrichNativeSubissueProjectStatusesForIssue case issue projectStates).projectFields
      (subissues.map (NativeSubissueRef.lookUp case projectStates)) := by
  have hread := nativeSubissuesFromProjectFields_of_written case hne hnumbered h
  have hnonempty : ¬ (subissues.map fun subissue =>
      subissue.fill case (listedSubissueRef subissue.identifier)).isEmpty = true := by simpa using hne
  have hlookUp : ((subissues.map fun subissue =>
        subissue.fill case (listedSubissueRef subissue.identifier)).map
        (NativeSubissueRef.lookUp case projectStates)).map (NativeSubissueRef.lookUp case projectStates)
      = subissues.map (NativeSubissueRef.lookUp case projectStates) := by
    simp only [List.map_map, Function.comp_def, lookUp_fill_listed, lookUp_lookUp]
  have hwritten := insertNativeSubissueStatusFields_written case issue.projectFields
    ((subissues.map fun subissue =>
      subissue.fill case (listedSubissueRef subissue.identifier)).map
        (NativeSubissueRef.lookUp case projectStates)) (by simpa using hne) projectStates
  rw [hlookUp, Collected.collect_of_nodup (hnumbered.map_lookUp case projectStates).nodup] at hwritten
  rw [enrichNativeSubissueProjectStatusesForIssue, hread, if_neg hnonempty]
  exact hwritten

/-! ## The payload -/

/-- What the payload says of a subissue. -/
def SubissueNode.ref (node : SubissueNode) : NativeSubissueRef where
  id := some node.id
  identifier := node.identifier
  title := none
  githubState := some node.state
  url := none
  projectState := none

theorem nativeSubissues_of_nodes {values : List Json}
    (h : List.Forall₂ IsSubissueNode values nodes) :
    (nativeIssueRefs (some (.arr values))).filterMap nativeSubissueRefFromValue
      = nodes.map SubissueNode.ref := by
  show (values.filterMap fun value => nativeIssueRef (some value)).filterMap _ = _
  induction h with
  | nil => rfl
  | @cons value node values nodes hnode _ ih =>
      have hvalue : nativeIssueRef (some value) = some (.obj [("id", .str node.id),
          ("identifier", .str node.identifier), ("state", .str node.state)]) := by
        simp [nativeIssueRef, hnode.id, hnode.number, hnode.state, Json.optional,
          SubissueNode.identifier]
      have href : nativeSubissueRefFromValue (.obj [("id", .str node.id),
          ("identifier", .str node.identifier), ("state", .str node.state)]) = some node.ref := rfl
      simp only [List.filterMap_cons, hvalue, href, ih, List.map_cons]

theorem insertParentField_of_ne {name other : String} (h : other ≠ name)
    (projectFields : ProjectFields) (value : Option String) :
    insertParentField projectFields name value other = projectFields other := by
  cases value with
  | none => rfl
  | some value => exact Function.update_of_ne h _ _

theorem insertNativeParentFields_of_ne {name : String} (projectFields : ProjectFields) (content : Json)
    (h : name ∉ ["Native Parent Issue", "Native Parent Title", "Native Parent State",
      "Native Parent URL"]) :
    insertNativeParentFields projectFields content name = projectFields name := by
  simp only [List.mem_cons, List.not_mem_nil, or_false, not_or] at h
  obtain ⟨hissue, htitle, hstate, hurl⟩ := h
  have hfields : ∀ number title state url, insertParentField (insertParentField (insertParentField
      (insertParentField projectFields "Native Parent Issue" number) "Native Parent Title" title)
      "Native Parent State" state) "Native Parent URL" url name = projectFields name := by
    intro number title state url
    rw [insertParentField_of_ne hurl, insertParentField_of_ne hstate, insertParentField_of_ne htitle,
      insertParentField_of_ne hissue]
  unfold insertNativeParentFields
  cases content.get "parent" with
  | none => rfl
  | some parent =>
      cases parent with
      | null => rfl
      | _ => exact hfields _ _ _ _

/-- The subissues of a payload, each number once. -/
def payloadSubissues (nodes : List SubissueNode) : List NativeSubissueRef :=
  Collected.collect refKey (NativeSubissueRef.fill case) (nodes.map SubissueNode.ref)

theorem written_withSubissueFields {content : Json} (hnodes : HasSubissues content nodes)
    (hne : nodes ≠ []) (issue : TrackerIssue) :
    Written (withSubissueFields case issue content).projectFields (payloadSubissues case nodes) := by
  obtain ⟨values, hvalues, hnodes⟩ := hnodes
  have hrefs : (nativeIssueRefs (subissueNodes content)).filterMap nativeSubissueRefFromValue
      = nodes.map SubissueNode.ref := by
    rw [hvalues]
    exact nativeSubissues_of_nodes hnodes
  have hlookUp : (nodes.map SubissueNode.ref).map (NativeSubissueRef.lookUp case fun _ => none)
      = nodes.map SubissueNode.ref := by
    rw [List.map_map]
    rfl
  show Written (insertNativeSubissueFields case issue.projectFields content) _
  unfold insertNativeSubissueFields
  rw [hrefs]
  generalize (nativeIssueRef (content.get "parent")).elim issue.projectFields (fun parent =>
    Function.update issue.projectFields "GitHub Native Parent" (some parent)) = parented
  have hwritten := insertNativeSubissueStatusFields_written case parented
    (nodes.map SubissueNode.ref) (by simpa using hne) fun _ => none
  rw [hlookUp] at hwritten
  have hparented : ∀ name ∈ ["GitHub Native Subissues", "Native Subissues",
      "Native Subissue Project States"],
      insertNativeParentFields (insertNativeSubissueStatusFields case parented
        (nodes.map SubissueNode.ref) fun _ => none) content name
      = insertNativeSubissueStatusFields case parented (nodes.map SubissueNode.ref) (fun _ => none)
          name := by
    intro name hname
    refine insertNativeParentFields_of_ne _ _ fun hmem => ?_
    simp only [List.mem_cons, List.not_mem_nil, or_false] at hname hmem
    rcases hname with rfl | rfl | rfl <;> simp at hmem
  have hlisted := hparented "Native Subissues" (by simp)
  rw [hwritten.listed] at hlisted
  dsimp only
  rw [hlisted, Option.isNone_some, Bool.and_false, if_neg (by simp)]
  constructor
  · rw [hparented _ (by simp)]
    exact hwritten.linked
  · rw [hparented _ (by simp)]
    exact hwritten.listed
  · rw [hparented _ (by simp)]
    exact hwritten.states

theorem numbered_payloadSubissues (nodes : List SubissueNode) :
    Numbered (payloadSubissues case nodes) where
  identifier := by
    refine Collected.forall_mem_collect ?_ fun existing _ h _ => h
    intro mention hmention
    obtain ⟨node, -, rfl⟩ := List.mem_map.mp hmention
    exact ⟨node.number, rfl⟩
  nodup := Collected.nodup_collect (refKey_fill case) _

theorem payloadSubissues_ne_nil (hne : nodes ≠ []) :
    payloadSubissues case nodes ≠ [] := by
  obtain ⟨node, rest, rfl⟩ := List.exists_cons_of_ne_nil hne
  have hkey : refKey node.ref ∈ (payloadSubissues case (node :: rest)).map refKey :=
    (Collected.mem_map_key_collect (refKey_fill case)).mpr (by simp)
  intro hnil
  simp [hnil] at hkey

theorem projectState_payloadSubissues :
    ∀ subissue ∈ payloadSubissues case nodes, subissue.projectState = none := by
  refine Collected.forall_mem_collect (P := fun subissue : NativeSubissueRef => subissue.projectState = none)
    ?_ ?_
  · intro mention hmention
    obtain ⟨node, -, rfl⟩ := List.mem_map.mp hmention
    rfl
  · intro existing candidate hexisting hcandidate
    have hmissing : subissueProjectStateMissing case existing.projectState = true := by
      rw [hexisting]
      rfl
    simp [NativeSubissueRef.fill, hmissing, hcandidate]

theorem map_refKey_payloadSubissues (nodes : List SubissueNode) :
    (payloadSubissues case nodes).map refKey
      = Keyed.upsertKeys [] (nodes.map fun node => toString node.number) := by
  rw [payloadSubissues, Collected.collect, Collected.map_key_foldl_push (refKey_fill case), List.map_map,
    List.map_nil]
  simp only [Function.comp_def, refKey, SubissueNode.ref, normalizeIssueRef_identifier]

end

end SheaSymphony.Topology

import SheaSymphony.SubissueFields

/-!
# The native subissue gate

A parent passes the gate when every subissue it can read off its project fields has
a terminal project state. What it reads there is what the payload and the states
read since then make it (`gate_none_iff`): subissues are told apart by their numbers
alone, and where no state was read for a number its state is the word `missing`, or
what the text of another state spells for it.
-/

namespace SheaSymphony.Topology

open Model (NativeSubissueStatus TrackerIssue incompleteNativeSubissues issueRefFromValue issueRefsMatch
  nativeSubissueGateBlocker nativeSubissueMentions nativeSubissueStatuses normalizeIssueRef
  normalizeState parseIssueStatePairs pushNativeSubissueStatus)

/-- A step that fills in project states: from the issues read together, from the
states at hand, or with those of the subissues that lack one fetched. -/
inductive EnrichmentStep (ε : Type) where
  | projectRead
  | issueRead (projectStates : ProjectStates)
  | hydrate (projectStates : ProjectStates) (fetchIssue : String → Except ε (Option TrackerIssue))

section
variable {ε : Type} (case : Text.UnicodeCase)

/-- The project states the step has read, and the issues behind it. -/
def EnrichmentStep.apply (issues : List TrackerIssue) :
    EnrichmentStep ε → Except ε (ProjectStates × List TrackerIssue)
  | .projectRead =>
      .ok (projectStateMap issues, enrichNativeSubissueProjectStatusesFromProjectRead case issues)
  | .issueRead projectStates =>
      .ok (projectStates,
        issues.map (enrichNativeSubissueProjectStatusesForIssue case · projectStates))
  | .hydrate projectStates fetchIssue =>
      hydrateMissingNativeSubissueProjectStatuses case issues projectStates fetchIssue

/-- What the steps have read, in their order, and the issues behind them. -/
def enrichmentRun : List (EnrichmentStep ε) → List TrackerIssue →
    Except ε (List ProjectStates × List TrackerIssue)
  | [], issues => .ok ([], issues)
  | step :: steps, issues => do
      let (projectStates, enriched) ← step.apply case issues
      let (reads, final) ← enrichmentRun steps enriched
      return (projectStates :: reads, final)

/-! ## What is known of a subissue -/

/-- The state that stands for a subissue: the first one read that is not missing, or
else what the last read has. -/
def heldState (reads : List ProjectStates) (identifier : String) : Option String :=
  reads.foldl (fun held projectStates =>
    if subissueProjectStateMissing case held then projectStates identifier else held) none

/-- The states that the text of the project states spells. -/
def spelledStates (reads : List ProjectStates) (nodes : List SubissueNode) : List (String × String) :=
  nodes.flatMap fun node =>
    parseIssueStatePairs (projectStatePair node.identifier (heldState case reads node.identifier))

/-- The state of an issue reference: the one held for the subissue it names, or else
the first one spelled for it. -/
def stateOf (reads : List ProjectStates) (nodes : List SubissueNode) (issueRef : String) :
    Option String :=
  ((nodes.find? fun node => issueRefsMatch node.identifier issueRef).bind fun node =>
      heldState case reads node.identifier).or
    (((spelledStates case reads nodes).find? fun pair => issueRefsMatch pair.1 issueRef).map Prod.snd)

/-- The references the gate reads: the subissues, and whatever their states spell. -/
def namedRefs (reads : List ProjectStates) (nodes : List SubissueNode) : List String :=
  nodes.map SubissueNode.identifier ++ (spelledStates case reads nodes).map Prod.fst

def isTerminalState (terminalStates : List String) (state : Option String) : Bool :=
  state.any fun state => terminalStates.contains (normalizeState case state)

/-- No subissue with another id has the number. -/
def OwnNumber (nodes : List SubissueNode) (node : SubissueNode) : Prop :=
  ∀ other ∈ nodes, other.number = node.number → other.id = node.id

/-- A state of its own was read for the subissue, and it is terminal. -/
def HasOwnTerminalState (terminalStates : List String) (reads : List ProjectStates)
    (nodes : List SubissueNode) (node : SubissueNode) : Prop :=
  OwnNumber nodes node ∧ ∃ projectStates ∈ reads, ∃ state,
    projectStates node.identifier = some state
      ∧ subissueProjectStateMissing case (some state) = false
      ∧ isTerminalState case terminalStates (some state) = true

/-- Every subissue has a number of its own, and a state was read for it. -/
def StatesKnown (reads : List ProjectStates) (nodes : List SubissueNode) : Prop :=
  ∀ node ∈ nodes, OwnNumber nodes node ∧ ∃ projectStates ∈ reads,
    subissueProjectStateMissing case (projectStates node.identifier) = false

/-- A reference that the gate reads is left without a terminal state. -/
def SomeUnfinished (terminalStates : List String) (reads : List ProjectStates)
    (nodes : List SubissueNode) : Prop :=
  ∃ issueRef ∈ namedRefs case reads nodes,
    isTerminalState case terminalStates (stateOf case reads nodes issueRef) = false

/-- The parent passes only when every subissue is done. -/
def PassesOnlyWhenDone (terminalStates : List String) (reads : List ProjectStates)
    (nodes : List SubissueNode) (parent : TrackerIssue) : Prop :=
  nativeSubissueGateBlocker case parent terminalStates = none →
    ∀ node ∈ nodes, HasOwnTerminalState case terminalStates reads nodes node

end

variable {reads : List ProjectStates} {nodes : List SubissueNode} {parent : TrackerIssue}

section
variable (case : Text.UnicodeCase)

/-! ## Runs -/

/-- The subissues once the reads have filled in their states. -/
def readSubissues (reads : List ProjectStates) (nodes : List SubissueNode) :
    List NativeSubissueRef :=
  (payloadSubissues case nodes).map fun subissue =>
    { subissue with projectState := heldState case reads subissue.identifier }

theorem heldState_concat (reads : List ProjectStates) (projectStates : ProjectStates)
    (identifier : String) :
    heldState case (reads ++ [projectStates]) identifier =
      if subissueProjectStateMissing case (heldState case reads identifier) then
        projectStates identifier
      else heldState case reads identifier :=
  List.foldl_concat _ _ _ _

theorem readSubissues_nil (nodes : List SubissueNode) :
    readSubissues case [] nodes = payloadSubissues case nodes := by
  refine (List.map_congr_left fun subissue hmem => ?_).trans (List.map_id _)
  have hnone := projectState_payloadSubissues case subissue hmem
  cases subissue
  cases hnone
  rfl

theorem readSubissues_concat (reads : List ProjectStates) (projectStates : ProjectStates)
    (nodes : List SubissueNode) :
    (readSubissues case reads nodes).map (NativeSubissueRef.lookUp case projectStates)
      = readSubissues case (reads ++ [projectStates]) nodes := by
  rw [readSubissues, readSubissues, List.map_map]
  refine List.map_congr_left fun subissue _ => ?_
  rw [heldState_concat]
  show NativeSubissueRef.lookUp case projectStates _ = _
  rw [NativeSubissueRef.lookUp]
  split <;> rfl

theorem numbered_readSubissues (reads : List ProjectStates) (nodes : List SubissueNode) :
    Numbered (readSubissues case reads nodes) where
  identifier := by
    intro read hread
    obtain ⟨subissue, hmem, rfl⟩ := List.mem_map.mp hread
    exact (numbered_payloadSubissues case nodes).identifier subissue hmem
  nodup := by
    rw [readSubissues, List.map_map]
    exact (numbered_payloadSubissues case nodes).nodup

theorem readSubissues_ne_nil (hne : nodes ≠ []) : readSubissues case reads nodes ≠ [] := by
  rw [readSubissues, Ne, List.map_eq_nil_iff]
  exact payloadSubissues_ne_nil case hne

theorem written_reads {content : Json} (hnodes : HasSubissues content nodes) (hne : nodes ≠ [])
    (issue : TrackerIssue) (reads : List ProjectStates) :
    Written (reads.foldl (enrichNativeSubissueProjectStatusesForIssue case)
        (withSubissueFields case issue content)).projectFields
      (readSubissues case reads nodes) := by
  induction reads using List.reverseRecOn with
  | nil =>
      rw [List.foldl_nil, readSubissues_nil]
      exact written_withSubissueFields case hnodes hne issue
  | append_singleton reads projectStates ih =>
      rw [List.foldl_concat, ← readSubissues_concat]
      exact written_enrich case (readSubissues_ne_nil case hne) (numbered_readSubissues case reads nodes)
        ih projectStates

theorem apply_eq {ε : Type} {issues enriched : List TrackerIssue} {step : EnrichmentStep ε}
    {projectStates : ProjectStates} (h : step.apply case issues = .ok (projectStates, enriched)) :
    enriched
      = issues.map (enrichNativeSubissueProjectStatusesForIssue case · projectStates) := by
  cases step with
  | projectRead =>
      obtain ⟨rfl, rfl⟩ := Prod.mk.inj (Except.ok.inj h)
      rfl
  | issueRead states =>
      obtain ⟨rfl, rfl⟩ := Prod.mk.inj (Except.ok.inj h)
      rfl
  | hydrate states fetchIssue =>
      obtain ⟨fetched, -, h⟩ := Fallible.bind_eq_ok h
      obtain ⟨rfl, rfl⟩ := Prod.mk.inj (Except.ok.inj h)
      rfl

theorem enrichmentRun_eq {ε : Type} {steps : List (EnrichmentStep ε)}
    {issues final : List TrackerIssue} (h : enrichmentRun case steps issues = .ok (reads, final)) :
    final = issues.map fun issue =>
      reads.foldl (enrichNativeSubissueProjectStatusesForIssue case) issue := by
  induction steps generalizing issues reads final with
  | nil =>
      obtain ⟨rfl, rfl⟩ := Prod.mk.inj (Except.ok.inj h)
      exact (List.map_id' issues).symm
  | cons step steps ih =>
      obtain ⟨⟨projectStates, enriched⟩, hstep, h⟩ := Fallible.bind_eq_ok h
      obtain ⟨⟨later, last⟩, hrun, h⟩ := Fallible.bind_eq_ok h
      obtain ⟨rfl, rfl⟩ := Prod.mk.inj (Except.ok.inj h)
      rw [ih hrun, apply_eq case hstep, List.map_map]
      rfl

/-! ## What the gate reads -/

theorem parseIssueStatePairs_join (parts : List String) :
    parseIssueStatePairs (Text.join ", " parts) = parts.flatMap parseIssueStatePairs := by
  have hparse : ∃ read : String → Option (String × String), ∀ raw,
      parseIssueStatePairs raw = ((Text.splitChar ',' raw).map Text.trim).filterMap read := by
    refine ⟨fun pair => (Text.splitOnce '=' pair).bind fun found =>
      if Text.trim found.1 = "" ∨ Text.trim found.2 = "" then none
      else some (Text.trim found.1, Text.trim found.2), fun raw => ?_⟩
    rw [List.filterMap_map]
    rfl
  obtain ⟨read, hread⟩ := hparse
  by_cases hne : parts = []
  · subst hne
    decide
  · rw [hread, Text.map_trim_splitChar_join hne, List.filterMap_flatMap]
    exact List.flatMap_congr fun part _ => (hread part).symm

/-- The mentions of subissues in the project fields. -/
def linkedMention (subissue : NativeSubissueRef) : NativeSubissueStatus where
  identifier := subissue.identifier
  projectState := subissue.projectState
  githubState := subissue.githubState

def pairMention (pair : String × String) : NativeSubissueStatus where
  identifier := pair.1
  projectState := some pair.2
  githubState := none

def listedMention (identifier : String) : NativeSubissueStatus where
  identifier := identifier
  projectState := none
  githubState := none

theorem nativeSubissueMentions_of_written {subissues : List NativeSubissueRef}
    (hne : subissues ≠ []) (hnumbered : Numbered subissues)
    (h : Written parent.projectFields subissues) :
    nativeSubissueMentions parent = subissues.map linkedMention
      ++ ((subissues.flatMap fun subissue => parseIssueStatePairs
          (projectStatePair subissue.identifier subissue.projectState)).map pairMention
        ++ (subissues.map NativeSubissueRef.identifier).map listedMention) := by
  have hlinked : (subissues.map NativeSubissueRef.toValue).filterMap (fun value =>
      (issueRefFromValue value).map fun identifier =>
        { identifier
          projectState := (value.get "project_state").bind Json.asStr
          githubState := (value.get "state").bind Json.asStr : NativeSubissueStatus })
      = subissues.map linkedMention := by
    rw [List.filterMap_map]
    refine (List.filterMap_congr fun subissue _ => ?_).trans
      (congrFun List.filterMap_eq_map subissues)
    simp [issueRefFromValue, NativeSubissueRef.toValue, Json.get, List.lookup_cons,
      linkedMention]
  rw [nativeSubissueMentions, h.linked, h.states, h.listed]
  simp only [Option.bind_some, Json.asArray, Json.asStr, Option.getD_some, Option.elim_some]
  rw [parseIssueStatePairs_join, List.flatMap_map, listed_identifiers hne hnumbered, List.append_assoc]
  exact congrArg (· ++ _) hlinked

theorem spelled_state (pairs : List (String × String)) (issueRef : String) :
    ((pairs.map pairMention).filter fun status =>
        decide (statusKey status = normalizeIssueRef issueRef)).findSome?
          NativeSubissueStatus.projectState
      = (pairs.find? fun pair => issueRefsMatch pair.1 issueRef).map Prod.snd := by
  induction pairs with
  | nil => rfl
  | cons pair pairs ih =>
      rw [List.map_cons]
      by_cases hmatch : issueRefsMatch pair.1 issueRef = true
      · have hkey : statusKey (pairMention pair) = normalizeIssueRef issueRef :=
          issueRefsMatch_iff.mp hmatch
        rw [List.filter_cons_of_pos (by simpa using hkey), List.find?_cons_of_pos (by exact hmatch)]
        rfl
      · have hkey : statusKey (pairMention pair) ≠ normalizeIssueRef issueRef :=
          mt issueRefsMatch_iff.mpr hmatch
        rw [List.filter_cons_of_neg (by simpa using hkey), List.find?_cons_of_neg (by exact hmatch), ih]

theorem find?_flatMap_upsertKeys {β κ : Type*} [DecidableEq κ] {g : κ → List β} {p : β → Bool}
    (keys : List κ) :
    ((Keyed.upsertKeys [] keys).flatMap g).find? p = (keys.flatMap g).find? p := by
  induction keys using List.reverseRecOn with
  | nil => rfl
  | append_singleton keys key ih =>
      rw [Keyed.upsertKeys_concat, List.flatMap_append, List.find?_append, ← ih,
        List.flatMap_singleton]
      split
      · next hmem =>
        cases hfound : ((Keyed.upsertKeys [] keys).flatMap g).find? p with
        | some b => rfl
        | none =>
            rw [List.find?_eq_none] at hfound
            rw [Option.none_or, eq_comm, List.find?_eq_none]
            exact fun b hb => hfound b (List.mem_flatMap.mpr ⟨key, hmem, hb⟩)
      · rw [List.flatMap_append, List.find?_append, List.flatMap_singleton]

theorem mem_readSubissues {subissue : NativeSubissueRef}
    (h : subissue ∈ readSubissues case reads nodes) :
    ∃ node ∈ nodes, subissue.identifier = node.identifier
      ∧ subissue.projectState = heldState case reads node.identifier := by
  obtain ⟨payload, hmem, rfl⟩ := List.mem_map.mp h
  have hidentifier : ∀ payload ∈ payloadSubissues case nodes,
      ∃ node ∈ nodes, payload.identifier = node.identifier := by
    refine Collected.forall_mem_collect ?_ fun _ _ hexisting _ => hexisting
    intro mention hmention
    obtain ⟨node, hnode, rfl⟩ := List.mem_map.mp hmention
    exact ⟨node, hnode, rfl⟩
  obtain ⟨node, hnode, hsame⟩ := hidentifier payload hmem
  exact ⟨node, hnode, hsame, congrArg (heldState case reads) hsame⟩

theorem map_refKey_readSubissues (reads : List ProjectStates) (nodes : List SubissueNode) :
    (readSubissues case reads nodes).map refKey
      = Keyed.upsertKeys [] (nodes.map fun node => toString node.number) := by
  rw [← map_refKey_payloadSubissues case, readSubissues, List.map_map]
  rfl

theorem linked_state (reads : List ProjectStates) (nodes : List SubissueNode) (issueRef : String) :
    (((readSubissues case reads nodes).map linkedMention).filter fun status =>
        decide (statusKey status = normalizeIssueRef issueRef)).findSome?
          NativeSubissueStatus.projectState
      = (nodes.find? fun node => issueRefsMatch node.identifier issueRef).bind fun node =>
          heldState case reads node.identifier := by
  cases hnode : nodes.find? fun node => issueRefsMatch node.identifier issueRef with
  | none =>
      rw [List.find?_eq_none] at hnode
      have hempty : (((readSubissues case reads nodes).map linkedMention).filter fun status =>
          decide (statusKey status = normalizeIssueRef issueRef)) = [] := by
        rw [List.filter_eq_nil_iff]
        intro status hstatus
        obtain ⟨subissue, hsubissue, rfl⟩ := List.mem_map.mp hstatus
        obtain ⟨node, hmem, hidentifier, -⟩ := mem_readSubissues case hsubissue
        have hnot := hnode node hmem
        rw [issueRefsMatch_iff, ← hidentifier] at hnot
        exact fun hkey => hnot (of_decide_eq_true hkey)
      rw [hempty]
      rfl
  | some node =>
      have hmatch : normalizeIssueRef node.identifier = normalizeIssueRef issueRef := by
        have hfound := List.find?_some hnode
        exact issueRefsMatch_iff.mp hfound
      have hkey : refKey node.ref ∈ (readSubissues case reads nodes).map refKey := by
        rw [map_refKey_readSubissues]
        refine (Keyed.subset_upsertKeys _ _).2 ?_
        rw [refKey, SubissueNode.ref, normalizeIssueRef_identifier]
        exact List.mem_map_of_mem (List.mem_of_find?_eq_some hnode)
      obtain ⟨subissue, hsubissue, hsame⟩ := List.mem_map.mp hkey
      have hconst : ∀ status ∈ ((readSubissues case reads nodes).map linkedMention).filter fun status =>
          decide (statusKey status = normalizeIssueRef issueRef),
          status.projectState = heldState case reads node.identifier := by
        intro status hstatus
        obtain ⟨hstatus, hstatusKey⟩ := List.mem_filter.mp hstatus
        obtain ⟨other, hother, rfl⟩ := List.mem_map.mp hstatus
        obtain ⟨named, -, hidentifier, hstate⟩ := mem_readSubissues case hother
        have hnumber : named.number = node.number := by
          refine number_eq_of_refs_match ?_
          show normalizeIssueRef named.identifier = normalizeIssueRef node.identifier
          rw [hmatch, ← hidentifier]
          exact of_decide_eq_true hstatusKey
        show other.projectState = _
        rw [hstate, SubissueNode.identifier, hnumber, SubissueNode.identifier]
      have hmem : linkedMention subissue ∈
          ((readSubissues case reads nodes).map linkedMention).filter fun status =>
            decide (statusKey status = normalizeIssueRef issueRef) := by
        refine List.mem_filter.mpr ⟨List.mem_map_of_mem hsubissue, decide_eq_true ?_⟩
        exact hsame.trans hmatch
      rw [Option.bind_some]
      obtain ⟨first, rest, hcons⟩ := List.exists_cons_of_ne_nil (List.ne_nil_of_mem hmem)
      cases hheld : heldState case reads node.identifier with
      | none =>
          rw [List.findSome?_eq_none_iff]
          exact fun status hstatus => (hconst status hstatus).trans hheld
      | some state =>
          rw [hcons] at hconst ⊢
          rw [List.findSome?_cons, hconst first List.mem_cons_self, hheld]

theorem flatMap_readSubissues (reads : List ProjectStates) (nodes : List SubissueNode)
    {p : String × String → Bool} :
    ((readSubissues case reads nodes).flatMap fun subissue => parseIssueStatePairs
        (projectStatePair subissue.identifier subissue.projectState)).find? p
      = (spelledStates case reads nodes).find? p := by
  have hpairs : ∀ subissue ∈ readSubissues case reads nodes,
      parseIssueStatePairs (projectStatePair subissue.identifier subissue.projectState)
        = parseIssueStatePairs (projectStatePair ("#" ++ refKey subissue)
            (heldState case reads ("#" ++ refKey subissue))) := by
    intro subissue hmem
    obtain ⟨node, -, hidentifier, hstate⟩ := mem_readSubissues case hmem
    have hkey : "#" ++ refKey subissue = node.identifier := by
      rw [refKey, hidentifier, normalizeIssueRef_identifier, SubissueNode.identifier]
    rw [hkey, hidentifier, hstate]
  rw [List.flatMap_congr hpairs, ← List.flatMap_map refKey (fun key => parseIssueStatePairs
    (projectStatePair ("#" ++ key) (heldState case reads ("#" ++ key)))), map_refKey_readSubissues,
    find?_flatMap_upsertKeys, List.flatMap_map]
  rfl

theorem mentioned_state (hne : nodes ≠ [])
    (h : Written parent.projectFields (readSubissues case reads nodes)) (issueRef : String) :
    ((nativeSubissueMentions parent).filter fun status =>
        decide (statusKey status = normalizeIssueRef issueRef)).findSome?
          NativeSubissueStatus.projectState
      = stateOf case reads nodes issueRef := by
  have hlisted : ((((readSubissues case reads nodes).map NativeSubissueRef.identifier).map
      listedMention).filter fun status => decide (statusKey status = normalizeIssueRef issueRef)).findSome?
        NativeSubissueStatus.projectState = none := by
    rw [List.findSome?_eq_none_iff]
    intro status hstatus
    obtain ⟨identifier, -, rfl⟩ := List.mem_map.mp (List.mem_filter.mp hstatus).1
    rfl
  rw [nativeSubissueMentions_of_written (readSubissues_ne_nil case hne)
      (numbered_readSubissues case reads nodes) h,
    List.filter_append, List.filter_append, List.findSome?_append, List.findSome?_append, linked_state,
    spelled_state, hlisted, Option.or_none, flatMap_readSubissues]
  rfl

theorem mem_spelledStates {pair : String × String} :
    (pair ∈ (readSubissues case reads nodes).flatMap fun subissue => parseIssueStatePairs
        (projectStatePair subissue.identifier subissue.projectState))
      ↔ pair ∈ spelledStates case reads nodes := by
  have hfind := flatMap_readSubissues case reads nodes (p := fun other => decide (other = pair))
  have hmem : ∀ pairs : List (String × String),
      pair ∈ pairs ↔ (pairs.find? fun other => decide (other = pair)).isSome = true := by
    intro pairs
    rw [List.find?_isSome]
    constructor
    · exact fun hpair => ⟨pair, hpair, decide_eq_true rfl⟩
    · rintro ⟨other, hother, hsame⟩
      exact of_decide_eq_true hsame ▸ hother
  rw [hmem, hfind, ← hmem]

theorem mem_namedRefs (hne : nodes ≠ [])
    (h : Written parent.projectFields (readSubissues case reads nodes)) {issueRef : String} :
    issueRef ∈ (nativeSubissueMentions parent).map NativeSubissueStatus.identifier
      ↔ issueRef ∈ namedRefs case reads nodes := by
  have hidentifiers : issueRef ∈ (readSubissues case reads nodes).map NativeSubissueRef.identifier
      ↔ issueRef ∈ nodes.map SubissueNode.identifier := by
    constructor
    · intro hmem
      obtain ⟨subissue, hsubissue, rfl⟩ := List.mem_map.mp hmem
      obtain ⟨node, hnode, hidentifier, -⟩ := mem_readSubissues case hsubissue
      exact List.mem_map.mpr ⟨node, hnode, hidentifier.symm⟩
    · intro hmem
      obtain ⟨node, hnode, rfl⟩ := List.mem_map.mp hmem
      have hkey : toString node.number ∈ (readSubissues case reads nodes).map refKey := by
        rw [map_refKey_readSubissues]
        exact (Keyed.subset_upsertKeys _ _).2 (List.mem_map_of_mem hnode)
      obtain ⟨subissue, hsubissue, hsame⟩ := List.mem_map.mp hkey
      obtain ⟨named, -, hidentifier, -⟩ := mem_readSubissues case hsubissue
      rw [refKey, hidentifier, normalizeIssueRef_identifier] at hsame
      refine List.mem_map.mpr ⟨subissue, hsubissue, ?_⟩
      rw [hidentifier, SubissueNode.identifier, hsame, SubissueNode.identifier]
  have hpairs : (∃ pair ∈ (readSubissues case reads nodes).flatMap fun subissue =>
      parseIssueStatePairs (projectStatePair subissue.identifier subissue.projectState),
        pair.1 = issueRef) ↔ ∃ pair ∈ spelledStates case reads nodes, pair.1 = issueRef :=
    exists_congr fun pair => and_congr_left' (mem_spelledStates case)
  rw [nativeSubissueMentions_of_written (readSubissues_ne_nil case hne)
      (numbered_readSubissues case reads nodes) h, namedRefs,
    List.map_append, List.map_append, List.mem_append, List.mem_append, List.mem_append,
    ← hidentifiers]
  simp only [List.map_map, Function.comp_def, linkedMention, pairMention, listedMention]
  rw [List.mem_map (f := fun pair : String × String => pair.1), List.mem_map (f := Prod.fst), hpairs]
  exact ⟨fun hmem => hmem.elim Or.inl fun hmem => hmem.symm, fun hmem => hmem.imp_right Or.inl⟩

theorem gateBlocker_eq_none_iff {terminalStates : List String} :
    nativeSubissueGateBlocker case parent terminalStates = none ↔
      ∀ status ∈ nativeSubissueStatuses parent,
        isTerminalState case terminalStates status.projectState = true := by
  have hincomplete : nativeSubissueGateBlocker case parent terminalStates = none ↔
      incompleteNativeSubissues case parent terminalStates = [] := by
    rw [nativeSubissueGateBlocker]
    split <;> simp_all
  rw [hincomplete, incompleteNativeSubissues, List.filter_eq_nil_iff]
  simp only [Bool.not_eq_true', Bool.not_eq_false, isTerminalState]

theorem gate_none_iff (hne : nodes ≠ [])
    (h : Written parent.projectFields (readSubissues case reads nodes))
    (terminalStates : List String) :
    nativeSubissueGateBlocker case parent terminalStates = none ↔
      ∀ issueRef ∈ namedRefs case reads nodes,
        isTerminalState case terminalStates (stateOf case reads nodes issueRef) = true := by
  have hpush : pushNativeSubissueStatus = Collected.push statusKey fillStatus :=
    funext fun statuses => funext (pushNativeSubissueStatus_eq statuses)
  have hsay : ∀ a b : NativeSubissueStatus,
      (fillStatus a b).projectState = a.projectState.or b.projectState := fun a b =>
    Option.orElse_eq_or
  have hkeep : ∀ a b, statusKey (fillStatus a b) = statusKey a := fun _ _ => rfl
  rw [gateBlocker_eq_none_iff, nativeSubissueStatuses, hpush]
  refine (Collected.forall_collect hkeep hsay
    (P := fun state => isTerminalState case terminalStates state = true)).trans ?_
  constructor
  · intro hall issueRef hmem
    obtain ⟨mention, hmention, rfl⟩ := List.mem_map.mp ((mem_namedRefs case hne h).mpr hmem)
    rw [← mentioned_state case hne h]
    exact hall _ (List.mem_map_of_mem hmention)
  · intro hall key hkey
    obtain ⟨mention, hmention, rfl⟩ := List.mem_map.mp hkey
    have hmem := (mem_namedRefs case hne h).mp (List.mem_map_of_mem hmention)
    rw [statusKey, mentioned_state case hne h]
    exact hall _ hmem

/-! ## When the gate is sound -/

theorem missing_heldState_iff {identifier : String} :
    subissueProjectStateMissing case (heldState case reads identifier) = false ↔
      ∃ projectStates ∈ reads,
        subissueProjectStateMissing case (projectStates identifier) = false := by
  induction reads using List.reverseRecOn with
  | nil => simp [heldState, subissueProjectStateMissing]
  | append_singleton reads projectStates ih =>
      simp only [heldState_concat, List.mem_append, List.mem_singleton, or_and_right, exists_or,
        exists_eq_left]
      by_cases hheld : subissueProjectStateMissing case (heldState case reads identifier) = true
      · have hnone := mt ih.mpr (by rw [hheld]; decide)
        rw [if_pos hheld, or_iff_right hnone]
      · rw [Bool.not_eq_true] at hheld
        rw [if_neg (by rw [hheld]; decide)]
        exact ⟨fun _ => Or.inl (ih.mp hheld), fun _ => hheld⟩

theorem read_of_heldState {identifier state : String}
    (h : heldState case reads identifier = some state) :
    ∃ projectStates ∈ reads, projectStates identifier = some state := by
  induction reads using List.reverseRecOn with
  | nil => cases h
  | append_singleton reads projectStates ih =>
      rw [heldState_concat] at h
      split at h
      · exact ⟨projectStates, List.mem_append_right _ List.mem_cons_self, h⟩
      · obtain ⟨earlier, hearlier, hstate⟩ := ih h
        exact ⟨earlier, List.mem_append_left _ hearlier, hstate⟩

theorem stateOf_identifier {node : SubissueNode} (hnode : node ∈ nodes) :
    stateOf case reads nodes node.identifier =
      (heldState case reads node.identifier).or
        (((spelledStates case reads nodes).find? fun pair =>
          issueRefsMatch pair.1 node.identifier).map Prod.snd) := by
  have hfound : ∃ found, (nodes.find? fun other => issueRefsMatch other.identifier node.identifier)
      = some found ∧ found.identifier = node.identifier := by
    cases hfind : nodes.find? fun other => issueRefsMatch other.identifier node.identifier with
    | none =>
        rw [List.find?_eq_none] at hfind
        exact absurd (issueRefsMatch_iff.mpr rfl) (hfind node hnode)
    | some found =>
        have hmatch := List.find?_some hfind
        have hnumber := number_eq_of_refs_match (issueRefsMatch_iff.mp hmatch)
        exact ⟨found, rfl, by rw [SubissueNode.identifier, hnumber, SubissueNode.identifier]⟩
  obtain ⟨found, hfind, hsame⟩ := hfound
  rw [stateOf, hfind, Option.bind_some, hsame]

theorem passesOnlyWhenDone_iff (hne : nodes ≠ [])
    (h : Written parent.projectFields (readSubissues case reads nodes))
    (terminalStates : List String) :
    PassesOnlyWhenDone case terminalStates reads nodes parent ↔
      StatesKnown case reads nodes ∨ SomeUnfinished case terminalStates reads nodes := by
  rw [PassesOnlyWhenDone, gate_none_iff case hne h]
  constructor
  · intro hdone
    by_cases hunfinished : SomeUnfinished case terminalStates reads nodes
    · exact Or.inr hunfinished
    · have hpass : ∀ issueRef ∈ namedRefs case reads nodes,
          isTerminalState case terminalStates (stateOf case reads nodes issueRef) = true := by
        intro issueRef hmem
        by_contra hterminal
        exact hunfinished ⟨issueRef, hmem, Bool.eq_false_iff.mpr hterminal⟩
      refine Or.inl fun node hnode => ?_
      obtain ⟨hown, projectStates, hread, state, hstate, hmissing, -⟩ := hdone hpass node hnode
      exact ⟨hown, projectStates, hread, hstate ▸ hmissing⟩
  · rintro (hknown | ⟨issueRef, hmem, hterminal⟩) hpass
    · intro node hnode
      obtain ⟨hown, hread⟩ := hknown node hnode
      have hmissing := (missing_heldState_iff case).mpr hread
      have hterminal := hpass node.identifier
        (List.mem_append_left _ (List.mem_map_of_mem hnode))
      rw [stateOf_identifier case hnode] at hterminal
      cases hheld : heldState case reads node.identifier with
      | none =>
          rw [hheld] at hmissing
          cases hmissing
      | some state =>
          rw [hheld] at hmissing hterminal
          obtain ⟨projectStates, hmem, hstate⟩ := read_of_heldState case hheld
          exact ⟨hown, projectStates, hmem, state, hstate, hmissing, hterminal⟩
    · exact absurd (hpass issueRef hmem) (by rw [hterminal]; decide)

end

/-- After any run of enrichments a parent passes only when every subissue is done,
each with a state of its own, exactly when the states are known or one that the
gate reads is not terminal. -/
theorem gate_sound_iff {ε : Type} (case : Text.UnicodeCase) (terminalStates : List String)
    {content : Json} {nodes : List SubissueNode} (hnodes : HasSubissues content nodes)
    (before after : List TrackerIssue) (issue : TrackerIssue) (steps : List (EnrichmentStep ε))
    {reads : List ProjectStates} {final : List TrackerIssue}
    (hrun : enrichmentRun case steps (before ++ withSubissueFields case issue content :: after)
      = .ok (reads, final)) :
    (∀ parent, final[before.length]? = some parent →
        PassesOnlyWhenDone case terminalStates reads nodes parent) ↔
      StatesKnown case reads nodes ∨ SomeUnfinished case terminalStates reads nodes := by
  have hparent : final[before.length]? =
      some (reads.foldl (enrichNativeSubissueProjectStatusesForIssue case)
        (withSubissueFields case issue content)) := by
    rw [enrichmentRun_eq case hrun]
    simp
  have hforall : ∀ P : TrackerIssue → Prop, (∀ parent, final[before.length]? = some parent → P parent)
      ↔ P (reads.foldl (enrichNativeSubissueProjectStatusesForIssue case)
        (withSubissueFields case issue content)) := by
    intro P
    rw [hparent]
    simp
  rw [hforall]
  by_cases hne : nodes = []
  · subst hne
    have hdone : ∀ parent, PassesOnlyWhenDone case terminalStates reads [] parent :=
      fun _ _ _ hnode => absurd hnode List.not_mem_nil
    have hknown : StatesKnown case reads [] := fun _ hnode => absurd hnode List.not_mem_nil
    exact iff_of_true (hdone _) (Or.inl hknown)
  · exact passesOnlyWhenDone_iff case hne (written_reads case hnodes hne issue reads) terminalStates

/-! ## Payloads by hand -/

def subissuePayload (nodes : List SubissueNode) : Json :=
  .obj [("subIssues", .obj [("nodes", .arr (nodes.map fun node =>
    .obj [("id", .str node.id), ("number", .int node.number), ("state", .str node.state)]))])]

theorem hasSubissues_payload (h : ∀ node ∈ nodes, node.number < 18446744073709551616) :
    HasSubissues (subissuePayload nodes) nodes := by
  refine ⟨_, rfl, ?_⟩
  rw [List.forall₂_map_left_iff, List.forall₂_same]
  intro node hnode
  have hrange : (0 : Int) ≤ node.number ∧ (node.number : Int) < 18446744073709551616 := by
    have := h node hnode
    omega
  have hnumber : Json.get "number" (.obj [("id", .str node.id), ("number", .int node.number),
      ("state", .str node.state)]) = some (.int node.number) := rfl
  refine ⟨rfl, ?_, rfl⟩
  rw [hnumber, Option.bind_some, Json.asU64, if_pos hrange, Int.toNat_natCast]

def trackedIssue (identifier state : String) : TrackerIssue where
  id := identifier
  identifier := identifier
  title := "Retry the upload"
  description := none
  state := state
  priority := none
  blockedBy := []
  projectFields _ := none
  createdAt := none

theorem gate_sound_two_done :
    ∃ reads final, enrichmentRun (ε := Unit) .ascii [.projectRead]
        [withSubissueFields .ascii (trackedIssue "#4" "Todo")
            (subissuePayload [⟨"I_5", 5, "CLOSED"⟩, ⟨"I_6", 6, "OPEN"⟩]),
          trackedIssue "#5" "Done", trackedIssue "#6" "Todo"] = .ok (reads, final)
      ∧ ∀ parent, final[0]? = some parent → PassesOnlyWhenDone .ascii ["done"] reads
          [⟨"I_5", 5, "CLOSED"⟩, ⟨"I_6", 6, "OPEN"⟩] parent := by
  obtain ⟨final, hrun⟩ : ∃ final, enrichmentRun (ε := Unit) .ascii [.projectRead]
      ([] ++ withSubissueFields .ascii (trackedIssue "#4" "Todo")
          (subissuePayload [⟨"I_5", 5, "CLOSED"⟩, ⟨"I_6", 6, "OPEN"⟩]) ::
        [trackedIssue "#5" "Done", trackedIssue "#6" "Todo"])
      = .ok ([projectStateMap [trackedIssue "#4" "Todo", trackedIssue "#5" "Done",
          trackedIssue "#6" "Todo"]], final) := ⟨_, rfl⟩
  refine ⟨_, final, hrun, (gate_sound_iff .ascii ["done"] (hasSubissues_payload (by decide)) [] _ _ _
    hrun).mpr (Or.inl ?_)⟩
  intro node hnode
  simp only [List.mem_cons, List.not_mem_nil, or_false] at hnode
  rcases hnode with rfl | rfl
  · exact ⟨by simp [OwnNumber], _, List.mem_cons_self, by decide⟩
  · exact ⟨by simp [OwnNumber], _, List.mem_cons_self, by decide⟩

/-- Two subissues of different repositories with one number: the state of the one
in the project stands for both. -/
theorem shared_number_passes :
    HasSubissues (subissuePayload [⟨"I_5", 5, "CLOSED"⟩, ⟨"J_5", 5, "OPEN"⟩])
        [⟨"I_5", 5, "CLOSED"⟩, ⟨"J_5", 5, "OPEN"⟩]
      ∧ ∃ reads final parent, enrichmentRun (ε := Unit) .ascii [.projectRead]
          [withSubissueFields .ascii (trackedIssue "#4" "Todo")
              (subissuePayload [⟨"I_5", 5, "CLOSED"⟩, ⟨"J_5", 5, "OPEN"⟩]),
            trackedIssue "#5" "Done"] = .ok (reads, final)
        ∧ final[0]? = some parent
        ∧ ¬PassesOnlyWhenDone .ascii ["done"] reads
            [⟨"I_5", 5, "CLOSED"⟩, ⟨"J_5", 5, "OPEN"⟩] parent := by
  refine ⟨hasSubissues_payload (by decide), _, _, _, rfl, rfl, fun hdone => ?_⟩
  obtain ⟨hown, -⟩ := hdone (by decide) ⟨"I_5", 5, "CLOSED"⟩ List.mem_cons_self
  exact absurd (hown ⟨"J_5", 5, "OPEN"⟩ (by simp) rfl) (by decide)

end SheaSymphony.Topology

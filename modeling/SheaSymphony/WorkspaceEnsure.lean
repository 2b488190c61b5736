import SheaSymphony.Enclosed

/-!
# The ensure block of a workpad

`render_workspace_ensure_workpad` of `issue_workspace.rs`. The workpad is what the description
shows from its marker on, so with comments attached behind it they are a part of it. The block is
put behind the workpad on a line of its own, and replaced without a line between it and what
stands around it.
-/

namespace SheaSymphony.Workspaces

open Text
open Text (IsSpace firstBlock block updateBlock solidLines)

/-! ## Rendering -/

def workspaceEnsureStart : String := "<!-- shea-symphony-workspace-ensure -->"

def workspaceEnsureEnd : String := "<!-- /shea-symphony-workspace-ensure -->"

def replaceOrAppendBlock (content start «end» block : String) : String :=
  let replaced := do
    let (before, after) ← Text.cut content start
    -- The end is looked for from the start mark on.
    let (_, behind) ← Text.cut (start ++ after) «end»
    return Text.trimEnd before ++ block ++ Text.trimStart behind
  replaced.getD (Text.trimEnd content ++ "\n\n" ++ block)

/-- What the description shows from the marker on, or the marker. -/
def describedWorkpad (marker : String) (description : Option String) : String :=
  let found := description.bind fun description => Text.cut description marker
  (found.map fun (_, after) => Text.trim (marker ++ after)).getD marker

def updateWorkspaceEnsure (workpad renderedTemplate : String) : String :=
  replaceOrAppendBlock workpad workspaceEnsureStart workspaceEnsureEnd
    (workspaceEnsureStart ++ "\n" ++ Text.trim renderedTemplate ++ "\n" ++ workspaceEnsureEnd)

def renderWorkspaceEnsureWorkpad (description : Option String) (marker renderedTemplate : String) :
    String :=
  updateWorkspaceEnsure (describedWorkpad marker description) renderedTemplate

/-! ## What an update should be -/

/-- The description as the tracker reads it, the comments behind it. -/
def withComments (description : Option String) (comments : List String) : Option String :=
  description.map fun description => Text.join "\n\n" (description :: comments)

def ensureBlock (renderedTemplate : String) : String :=
  block workspaceEnsureStart workspaceEnsureEnd (Text.trim renderedTemplate)

/-- The lines of a workpad before the block it has, and those behind it. -/
def linesOutside (workpad : String) : List String × List String :=
  match firstBlock workspaceEnsureStart workspaceEnsureEnd workpad with
  | some (before, _, behind) => (solidLines before, solidLines behind)
  | none => (solidLines workpad, [])

section
variable (description : Option String) (comments : List String) (marker renderedTemplate : String)

/-- What is written for a description with comments. -/
def ensuredWorkpad : String :=
  renderWorkspaceEnsureWorkpad (withComments description comments) marker renderedTemplate

structure EnsureSafe : Prop where
  idempotent :
    updateWorkspaceEnsure (ensuredWorkpad description comments marker renderedTemplate) renderedTemplate
      = ensuredWorkpad description comments marker renderedTemplate
  /-- The first block has the new text, and there is none behind it. -/
  oneBlock : ∃ before behind,
    firstBlock workspaceEnsureStart workspaceEnsureEnd
        (ensuredWorkpad description comments marker renderedTemplate)
      = some (before, "\n" ++ Text.trim renderedTemplate ++ "\n", behind)
      ∧ firstBlock workspaceEnsureStart workspaceEnsureEnd behind = none
  /-- The lines of the workpad stay lines, before and behind those of the block. -/
  frame : solidLines (ensuredWorkpad description comments marker renderedTemplate)
    = (linesOutside (describedWorkpad marker description)).1 ++ solidLines (ensureBlock renderedTemplate)
      ++ (linesOutside (describedWorkpad marker description)).2
  /-- The comments leave nothing in it. -/
  withoutComments : ensuredWorkpad description comments marker renderedTemplate
    = renderWorkspaceEnsureWorkpad description marker renderedTemplate

end

/-- A workpad that is nothing but an ensure block. -/
def OnlyEnsureBlock (workpad : String) : Prop :=
  ∃ before inner behind,
    firstBlock workspaceEnsureStart workspaceEnsureEnd workpad = some (before, inner, behind)
      ∧ IsSpace before ∧ IsSpace behind

/-! ## The marks -/

theorem isMark_start : Text.IsMark workspaceEnsureStart :=
  .of_comment "!-- shea-symphony-workspace-ensure --".toList (by decide +kernel) (by decide +kernel)

theorem isMark_end : Text.IsMark workspaceEnsureEnd :=
  .of_comment "!-- /shea-symphony-workspace-ensure --".toList (by decide +kernel) (by decide +kernel)

theorem start_not_contains_end : Text.contains workspaceEnsureStart workspaceEnsureEnd = false := by
  decide

theorem start_ends_apart : ∀ ending ∈ workspaceEnsureStart.toList.tails, ending ≠ [] →
    ¬ ending <+: workspaceEnsureEnd.toList := by
  decide +kernel

theorem cut_start_append (after : String) :
    Text.cut (workspaceEnsureStart ++ after) workspaceEnsureEnd
      = (Text.cut after workspaceEnsureEnd).map fun (inner, behind) =>
          (workspaceEnsureStart ++ inner, behind) := by
  have hfree : ∀ {s : String}, contains s workspaceEnsureEnd = false →
      contains (workspaceEnsureStart ++ s) workspaceEnsureEnd = false := by
    intro s hs
    by_contra hfound
    rcases (contains_append_of_ends start_ends_apart).mp (Bool.not_eq_false _ ▸ hfound) with h | h
    · rw [start_not_contains_end] at h
      cases h
    · rw [hs] at h
      cases h
  cases hcut : cut after workspaceEnsureEnd with
  | none =>
      have hnone := (cut_eq_none_iff isMark_end.ne_empty).mp hcut
      rw [Option.map_none]
      exact (cut_eq_none_iff isMark_end.ne_empty).mpr (hfree hnone)
  | some parts =>
      obtain ⟨inner, behind⟩ := parts
      obtain ⟨rfl, hinner⟩ := (cut_eq_some_iff isMark_end).mp hcut
      refine (cut_eq_some_iff isMark_end).mpr ⟨?_, hfree hinner⟩
      simp only [String.append_assoc]

theorem updateWorkspaceEnsure_eq (workpad renderedTemplate : String) :
    updateWorkspaceEnsure workpad renderedTemplate
      = updateBlock workspaceEnsureStart workspaceEnsureEnd (Text.trim renderedTemplate) workpad := by
  unfold updateWorkspaceEnsure replaceOrAppendBlock updateBlock firstBlock
  cases cut workpad workspaceEnsureStart with
  | none => rfl
  | some parts =>
      obtain ⟨before, after⟩ := parts
      simp only [Option.bind_eq_bind, Option.bind_some, cut_start_append]
      cases cut after workspaceEnsureEnd <;> rfl

/-! ## When it is -/

section
variable {workpad renderedTemplate : String}

theorem updateWorkspaceEnsure_idempotent_iff :
    updateWorkspaceEnsure (updateWorkspaceEnsure workpad renderedTemplate) renderedTemplate
        = updateWorkspaceEnsure workpad renderedTemplate ↔
      (firstBlock workspaceEnsureStart workspaceEnsureEnd workpad).isSome
        ∧ Text.contains (Text.trim renderedTemplate) workspaceEnsureEnd = false := by
  simp only [updateWorkspaceEnsure_eq]
  exact updateBlock_idempotent_iff isMark_start isMark_end start_not_contains_end

theorem updateWorkspaceEnsure_eq_block_iff :
    updateWorkspaceEnsure workpad renderedTemplate = ensureBlock renderedTemplate ↔
      OnlyEnsureBlock workpad := by
  rw [updateWorkspaceEnsure_eq, OnlyEnsureBlock]
  cases h : firstBlock workspaceEnsureStart workspaceEnsureEnd workpad with
  | none =>
      rw [updateBlock_of_none h]
      refine ⟨fun heq => ?_, fun ⟨_, _, _, hsome, _⟩ => by cases hsome⟩
      have hlength := congrArg String.length heq
      rw [String.length_append, String.length_append, ensureBlock] at hlength
      have hfeeds : ("\n\n" : String).length = 2 := rfl
      omega
  | some parts =>
      obtain ⟨before, inner, behind⟩ := parts
      rw [updateBlock_of_firstBlock h]
      constructor
      · intro heq
        have hlength := congrArg String.length heq
        rw [String.length_append, String.length_append, ensureBlock] at hlength
        refine ⟨before, inner, behind, rfl, trimEnd_eq_empty_iff.mp ?_,
          trimStart_eq_empty_iff.mp ?_⟩
        · exact String.length_eq_zero_iff.mp (by omega)
        · exact String.length_eq_zero_iff.mp (by omega)
      · rintro ⟨_, _, _, hsome, hbefore, hbehind⟩
        cases hsome
        rw [trimEnd_eq_empty_iff.mpr hbefore, trimStart_eq_empty_iff.mpr hbehind,
          String.empty_append, String.append_empty]
        rfl

theorem firstBlock_ensureBlock
    (h : Text.contains (Text.trim renderedTemplate) workspaceEnsureEnd = false) :
    firstBlock workspaceEnsureStart workspaceEnsureEnd (ensureBlock renderedTemplate)
      = some ("", "\n" ++ Text.trim renderedTemplate ++ "\n", "") := by
  refine (firstBlock_eq_some_iff isMark_start isMark_end).mpr
    ⟨?_, contains_empty isMark_start.ne_empty, ?_⟩
  · simp only [ensureBlock, block, String.append_assoc, String.empty_append, String.append_empty]
  · rw [contains_text_feed isMark_end]
    have hline := contains_append_line isMark_end "" (trim renderedTemplate)
    rw [String.empty_append] at hline
    exact hline.mpr ⟨contains_empty isMark_end.ne_empty, h⟩

end

theorem EnsureSafe.onlyEnsureBlock {description : Option String} {comments : List String}
    {marker renderedTemplate : String}
    (h : EnsureSafe description comments marker renderedTemplate) :
    OnlyEnsureBlock (describedWorkpad marker description) := by
  have hidempotent : updateWorkspaceEnsure
        (updateWorkspaceEnsure (describedWorkpad marker description) renderedTemplate) renderedTemplate
      = updateWorkspaceEnsure (describedWorkpad marker description) renderedTemplate := by
    have hsame : updateWorkspaceEnsure
          (describedWorkpad marker (withComments description comments)) renderedTemplate
        = updateWorkspaceEnsure (describedWorkpad marker description) renderedTemplate :=
      h.withoutComments
    rw [← hsame]
    exact h.idempotent
  obtain ⟨⟨before, inner, behind⟩, hblock⟩ :=
    Option.isSome_iff_exists.mp (updateWorkspaceEnsure_idempotent_iff.mp hidempotent).1
  have hframe := h.frame
  rw [h.withoutComments, renderWorkspaceEnsureWorkpad, updateWorkspaceEnsure_eq,
    updateBlock_of_firstBlock hblock, linesOutside, hblock] at hframe
  obtain ⟨hbefore, hbehind⟩ := (solidLines_replaced_iff isMark_start isMark_end).mp hframe
  exact ⟨before, inner, behind, hblock, hbefore, hbehind⟩

theorem describedWorkpad_begins {marker after : String} (hmark : Text.IsMark marker)
    (hends : Text.EndsVisible after) :
    describedWorkpad marker (some (marker ++ after)) = marker ++ after := by
  obtain ⟨first, rest, hfirst, hvisible⟩ := hmark.begins.append after
  obtain ⟨front, last, hlast, hvisible'⟩ := hends.append marker
  have hcut : cut (marker ++ after) marker = some ("", after) := by
    refine (cut_eq_some_iff hmark).mpr ⟨?_, contains_empty hmark.ne_empty⟩
    rw [String.empty_append]
  rw [describedWorkpad, Option.bind_some, hcut, Option.map_some, Option.getD_some]
  refine trim_of_isTrimmed ⟨fun c hc => ?_, fun c hc => ?_⟩
  · rw [hfirst] at hc
    cases hc
    exact hvisible
  · rw [hlast, List.getLast?_append, List.getLast?_singleton] at hc
    cases hc
    exact hvisible'

/-- An update is as it should be only where the workpad has nothing but the block. -/
theorem ensureSafe_iff (description : Option String) (comments : List String)
    (marker renderedTemplate : String) :
    EnsureSafe description comments marker renderedTemplate ↔
      OnlyEnsureBlock (describedWorkpad marker description)
        ∧ OnlyEnsureBlock (describedWorkpad marker (withComments description comments))
        ∧ Text.contains (Text.trim renderedTemplate) workspaceEnsureEnd = false := by
  constructor
  · intro h
    obtain ⟨-, hshown⟩ := updateWorkspaceEnsure_idempotent_iff.mp h.idempotent
    have hsame : updateWorkspaceEnsure
          (describedWorkpad marker (withComments description comments)) renderedTemplate
        = updateWorkspaceEnsure (describedWorkpad marker description) renderedTemplate :=
      h.withoutComments
    have honly := h.onlyEnsureBlock
    have hblock : updateWorkspaceEnsure
          (describedWorkpad marker (withComments description comments)) renderedTemplate
        = ensureBlock renderedTemplate :=
      hsame.trans (updateWorkspaceEnsure_eq_block_iff.mpr honly)
    exact ⟨honly, updateWorkspaceEnsure_eq_block_iff.mp hblock, hshown⟩
  · rintro ⟨honly, hcomments, hshown⟩
    have hwritten : ensuredWorkpad description comments marker renderedTemplate
        = ensureBlock renderedTemplate := updateWorkspaceEnsure_eq_block_iff.mpr hcomments
    have hplain : renderWorkspaceEnsureWorkpad description marker renderedTemplate
        = ensureBlock renderedTemplate := updateWorkspaceEnsure_eq_block_iff.mpr honly
    have hfirst := firstBlock_ensureBlock hshown
    refine ⟨?_, ⟨"", "", ?_, ?_⟩, ?_, hwritten.trans hplain.symm⟩
    · rw [hwritten]
      refine updateWorkspaceEnsure_eq_block_iff.mpr ⟨_, _, _, hfirst, ?_, ?_⟩ <;> exact nofun
    · rw [hwritten, hfirst]
    · decide
    · obtain ⟨before, inner, behind, hblock, hbefore, hbehind⟩ := honly
      rw [hwritten, linesOutside, hblock]
      dsimp only
      rw [Text.solidLines_of_isSpace hbefore, Text.solidLines_of_isSpace hbehind, List.nil_append,
        List.append_nil]

/-- The second update of a workpad takes the empty line before the block away, and what is
behind a block is put on its last line. -/
theorem ensureSafe_fails :
    ¬ EnsureSafe (some "<!-- shea-symphony-workpad -->\n## Shea Symphony Workpad") []
        "<!-- shea-symphony-workpad -->" "- Source: workspace ensure"
      ∧ ¬ EnsureSafe
        (some ("<!-- shea-symphony-workpad -->\n<!-- shea-symphony-workspace-ensure -->\n- Source: old\n"
          ++ "<!-- /shea-symphony-workspace-ensure -->\n\n## Notes")) []
        "<!-- shea-symphony-workpad -->" "- Source: workspace ensure" := by
  have hmark : Text.IsMark "<!-- shea-symphony-workpad -->" :=
    .of_comment "!-- shea-symphony-workpad --".toList (by decide +kernel) (by decide +kernel)
  constructor
  · intro h
    obtain ⟨before, inner, behind, hblock, -⟩ := h.onlyEnsureBlock
    have htext : "<!-- shea-symphony-workpad -->\n## Shea Symphony Workpad"
        = "<!-- shea-symphony-workpad -->" ++ "\n## Shea Symphony Workpad" := by decide +kernel
    have hnone : Text.cut ("<!-- shea-symphony-workpad -->" ++ "\n## Shea Symphony Workpad")
        workspaceEnsureStart = none := (Text.cut_eq_none_iff isMark_start.ne_empty).mpr (by decide +kernel)
    have hends : Text.EndsVisible "\n## Shea Symphony Workpad" :=
      ⟨"\n## Shea Symphony Workpa".toList, 'd', by decide +kernel, by decide +kernel⟩
    rw [htext, describedWorkpad_begins hmark hends, firstBlock, hnone] at hblock
    cases hblock
  · intro h
    obtain ⟨before, inner, behind, hblock, -, hbehind⟩ := h.onlyEnsureBlock
    have hfirst : firstBlock workspaceEnsureStart workspaceEnsureEnd
        ("<!-- shea-symphony-workpad -->" ++ ("\n" ++ workspaceEnsureStart ++ "\n- Source: old\n"
          ++ workspaceEnsureEnd ++ "\n\n## Notes"))
        = some ("<!-- shea-symphony-workpad -->\n", "\n- Source: old\n", "\n\n## Notes") := by
      exact (Text.firstBlock_eq_some_iff isMark_start isMark_end).mpr
        ⟨by decide +kernel, by decide +kernel, by decide +kernel⟩
    have htext : "<!-- shea-symphony-workpad -->\n<!-- shea-symphony-workspace-ensure -->\n- Source: old\n"
        ++ "<!-- /shea-symphony-workspace-ensure -->\n\n## Notes"
        = "<!-- shea-symphony-workpad -->" ++ ("\n" ++ workspaceEnsureStart ++ "\n- Source: old\n"
          ++ workspaceEnsureEnd ++ "\n\n## Notes") := by decide +kernel
    have hends : Text.EndsVisible ("\n" ++ workspaceEnsureStart ++ "\n- Source: old\n"
        ++ workspaceEnsureEnd ++ "\n\n## Notes") :=
      Text.EndsVisible.append ⟨"\n\n## Note".toList, 's', by decide +kernel, by decide +kernel⟩ _
    rw [htext, describedWorkpad_begins hmark hends, hfirst] at hblock
    cases hblock
    exact absurd (hbehind '#' (by decide +kernel)) (by decide +kernel)

end SheaSymphony.Workspaces

import SheaSymphony.Lines
import SheaSymphony.SessionRegistry

/-!
# A pane that shows nothing

`classify_session_record` asks the pane first and the log only where the pane says
nothing. A pane of whitespace does not say nothing: `classify_session_output` reads
it as a session that starts, with neither pane nor log to show for it. So the log is
never asked (`classifySessionRecord_blank`), and the pane makes no difference only
where the record alone decides (`blankPane_agrees_iff`).
-/

namespace SheaSymphony.Sessions

variable {case : Text.UnicodeCase} {record : AgentSessionRecord} {pane : String}
  {logTail : Option String} {nowMs staleAfterMs : UInt64}

/-- What a pane of whitespace is read as. -/
def emptyPaneProbe : SessionStatusProbe where
  status := .starting
  source := .pane
  evidence := "no pane or log output yet"

theorem collapseWhitespace_of_isBlank (h : Text.isBlank pane = true) :
    Text.collapseWhitespace pane = "" := by
  have hspace : ∀ c ∈ pane.toList, Text.isWhitespace c = true := by
    intro c hc
    by_contra hvisible
    have hshown := Text.isBlank_eq_false_iff.mpr ⟨c, hc, Bool.eq_false_iff.mpr hvisible⟩
    rw [h] at hshown
    cases hshown
  rw [← String.toList_inj, Text.toList_collapseWhitespace]
  generalize pane.toList = chars at hspace
  induction chars with
  | nil => rfl
  | cons c chars ih =>
      rw [List.splitOnP_cons_eq_if_modifyHead, if_pos (hspace c List.mem_cons_self)]
      exact ih fun c hc => hspace c (List.mem_cons_of_mem _ hc)

theorem classifySessionOutput_of_isBlank (h : Text.isBlank pane = true) :
    classifySessionOutput case pane .pane = some emptyPaneProbe := by
  have hevidence : compactSessionEvidence pane = "" := by
    have hshort : ¬ 180 < "".length := by decide
    simp only [compactSessionEvidence, collapseWhitespace_of_isBlank h, if_neg hshort]
  simp only [classifySessionOutput, hevidence, if_true]
  rfl

theorem classifySessionRecord_blank (h : Text.isBlank pane = true)
    (hopen : ¬ (record.status = .completed ∨ record.status = .recorded)) :
    classifySessionRecord case record (some pane) logTail nowMs staleAfterMs = emptyPaneProbe := by
  unfold classifySessionRecord
  rw [if_neg hopen, Option.bind_some, classifySessionOutput_of_isBlank h]
  rfl

theorem classifySessionRecord_source : (classifySessionRecord case record none logTail nowMs
    staleAfterMs).source ≠ .pane := by
  rw [classifySessionRecord]
  split
  · exact nofun
  · rw [Option.bind_none]
    cases hread : logTail.bind fun tail => classifySessionOutput case tail .log with
    | some probe =>
        obtain ⟨tail, -, hprobe⟩ := Option.bind_eq_some_iff.mp hread
        have hsource : probe.source = .log := by
          rw [classifySessionOutput] at hprobe
          split at hprobe
          · exact (Option.some.inj hprobe) ▸ rfl
          · obtain ⟨status, -, rfl⟩ := Option.map_eq_some_iff.mp hprobe
            rfl
        show probe.source ≠ .pane
        rw [hsource]
        exact nofun
    | none =>
        show (classifySilentSession record none logTail nowMs staleAfterMs).source ≠ .pane
        rw [classifySilentSession]
        split
        · exact nofun
        · split
          · exact nofun
          · exact nofun

/-- A pane of whitespace is as good as none for records that are over, and for no others. -/
theorem blankPane_agrees_iff (case : Text.UnicodeCase) (record : AgentSessionRecord)
    (logTail : Option String) (nowMs staleAfterMs : UInt64) {pane : String}
    (h : Text.isBlank pane = true) :
    classifySessionRecord case record (some pane) logTail nowMs staleAfterMs
        = classifySessionRecord case record none logTail nowMs staleAfterMs ↔
      record.status = .completed ∨ record.status = .recorded := by
  constructor
  · intro hsame
    by_contra hopen
    rw [classifySessionRecord_blank h hopen] at hsame
    exact classifySessionRecord_source (congrArg SessionStatusProbe.source hsame.symm)
  · intro hsettled
    rw [classifySessionRecord, if_pos hsettled, classifySessionRecord, if_pos hsettled]

/-- A session that runs, as its record says. -/
def runningSession : AgentSessionRecord where
  issueId := some "I_7"
  issueIdentifier := some "#7"
  issueTitle := none
  lane := "main"
  runId := none
  thread := none
  sessionSource := none
  claimValue := none
  actorRole := none
  actorLabel := none
  gitAuthor := none
  profileId := none
  instanceName := none
  worktree := "/work/7"
  branch := none
  backend := "codex"
  sessionName := "codex-7"
  processId := none
  paneTarget := "codex-7:0.0"
  promptArtifactPath := "/work/7/prompt.md"
  logPath := "/work/7/session.log"
  attachCommand := "tmux attach -t codex-7"
  attempt := 1
  status := .running
  startedAtMs := 0
  updatedAtMs := 0

theorem blankPane_agrees_running :
    classifySessionRecord .ascii runningSession (some " \n") (some "fatal: no space") 60 30
        = classifySessionRecord .ascii runningSession none (some "fatal: no space") 60 30 ↔
      runningSession.status = .completed ∨ runningSession.status = .recorded :=
  blankPane_agrees_iff .ascii runningSession (some "fatal: no space") 60 30 (by decide)

/-- The log tells of a failure, and the blank pane hides it. -/
theorem blankPane_masks :
    Text.isBlank " \n" = true
      ∧ (classifySessionRecord .ascii runningSession none (some "fatal: no space") 60 30).status
        = .failed
      ∧ (classifySessionRecord .ascii runningSession (some " \n") (some "fatal: no space") 60 30).status
        = .starting := by
  decide +kernel

end SheaSymphony.Sessions

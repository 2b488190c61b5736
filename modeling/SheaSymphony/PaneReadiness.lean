import SheaSymphony.AgentEvents
import SheaSymphony.Logged
import SheaSymphony.Paths
import SheaSymphony.Truncation
import SheaSymphony.GitHandoff

/-!
# Readiness of a tmux pane

The waits before a prompt is pasted (`wait_for_codex_tmux_readiness` and
`wait_for_gemini_tmux_readiness` of `agent.rs`). What a pane shows is the sequence of its captures;
keys may fail to be sent. A wait that gives up shows what it has captured last. An error is
missing where the text of the error panics.
-/

namespace SheaSymphony.Agent

open Interrupted (Program)
open Logged (ask mapError)
open Paths (Path)

/-! ## What a pane shows -/

def normalizedPaneText (case : Text.UnicodeCase) (text : String) : String :=
  case.toLowercase (Text.collapseWhitespace text)

def showsAny (text : String) (phrases : List String) : Bool := phrases.any (Text.contains text)

def codexWorkspaceTrustPromptVisible (case : Text.UnicodeCase) (text : String) : Bool :=
  let normalized := normalizedPaneText case text
  showsAny normalized
      ["do you trust the contents of this directory", "do you trust the files in this directory",
        "do you trust the files in this folder"]
    || ["trust", "directory", "codex"].all (Text.contains normalized)

def codexViewportReady (case : Text.UnicodeCase) (text : String) : Bool :=
  let normalized := normalizedPaneText case text
  normalized != "" && !codexWorkspaceTrustPromptVisible case text
    && (showsAny normalized
        ["codex", "type a message", "send a message", "what can i help", "approval", "model"]
      || text.toList.contains '›' || text.toList.contains '▌')

def geminiViewportReady (case : Text.UnicodeCase) (text : String) : Bool :=
  let normalized := normalizedPaneText case text
  normalized != ""
    && !showsAny normalized ["waiting for authentication", "press esc or ctrl+c to cancel"]
    && showsAny normalized
      ["type your message", "@path/to/file", "auto-accept edits", "/model", "quota"]

/-- A slice that would end inside a character panics. -/
def compactPaneCapture (text : String) : Option String :=
  Text.truncateBytes 180 "..." (Text.collapseWhitespace text)

/-! ## The pane -/

inductive PaneEvent where
  | captured (answer : Except String String)
  | sentKey (key : String) (answer : Except String Unit)

namespace PaneEvent

def capture : PaneEvent → Option (Except String String)
  | captured answer => some answer
  | sentKey _ _ => none

def isKey : PaneEvent → Bool
  | captured _ => false
  | sentKey _ _ => true

end PaneEvent

def capturesOf (log : List PaneEvent) : List (Except String String) :=
  log.filterMap PaneEvent.capture

/-- What a wait meets: the environment of the run and that of the process, the workspace, the
paths of the file system, and what captures and keys come to, one after the other. -/
structure TmuxPane where
  case : Text.UnicodeCase
  env : String → Option String
  processEnv : String → Option String
  workspace : Path
  canonicalize : Path → Option Path
  captures : Nat → Except String String
  keys : Nat → Except String Unit

/-- A wait; an error without a text is a panic. -/
abbrev Waiting := Program (List PaneEvent) (Option String)

section
variable (pane : TmuxPane)

def captureTmuxPane : Waiting String :=
  mapError some (ask .captured fun log => pane.captures (capturesOf log).length)

def sendTmuxKey (key : String) : Waiting Unit :=
  mapError some (ask (.sentKey key) fun log => pane.keys (log.countP PaneEvent.isKey))

/-- The end of a polling loop: a capture that settles it, or none; and the last one before. -/
inductive Polled (σ : Type) where
  | settled (answer : σ) (lastCapture : String)
  | exhausted (lastCapture : String)

/-- Captures until one of them settles the wait, or the attempts are used up. -/
def pollPane {σ : Type} (settle : String → Option σ) : Nat → String → Waiting (Polled σ)
  | 0, lastCapture => return .exhausted lastCapture
  | attempts + 1, lastCapture => do
      let capture ← captureTmuxPane pane
      match settle capture with
      | some answer => return .settled answer lastCapture
      | none => pollPane settle attempts capture

def readinessAttempts (name : String) : Nat :=
  ((pane.env name).bind MainHandoff.parseU64).getD 80

def codexReadinessAttempts : Nat :=
  readinessAttempts pane "SHEA_SYMPHONY_CODEX_TMUX_READINESS_ATTEMPTS"

def geminiReadinessAttempts : Nat :=
  readinessAttempts pane "SHEA_SYMPHONY_GEMINI_TMUX_READINESS_ATTEMPTS"

def tmuxAutoTrustEnabled : Bool :=
  (pane.env "SHEA_SYMPHONY_TMUX_AUTO_TRUST" <|> pane.processEnv "SHEA_SYMPHONY_TMUX_AUTO_TRUST")
    != some "0"

def canonicalPathOrSelf (path : Path) : Path := (pane.canonicalize path).getD path

def workspaceIsSheaCreatedIssueWorktree : Bool :=
  match (pane.env "SHEA_SYMPHONY_WORKSPACE_ROOT").filter fun value => !Text.isBlank value with
  | none => false
  | some root =>
      (canonicalPathOrSelf pane (Paths.ofText root)).isPrefixOf (canonicalPathOrSelf pane pane.workspace)

/-! ## The waits -/

/-- The error of a wait that has given up. -/
def giveUp {α : Type} (message lastCapture : String) : Waiting α :=
  Program.stop ((compactPaneCapture lastCapture).map fun shown => message ++ shown)

inductive CodexScreen where
  | ready
  | trustPrompt
deriving DecidableEq

def codexScreen (text : String) : Option CodexScreen :=
  if codexViewportReady pane.case text then some .ready
  else if codexWorkspaceTrustPromptVisible pane.case text then some .trustPrompt
  else none

def readyScreen (ready : String → Bool) (text : String) : Option Unit :=
  if ready text then some () else none

/-- Behind the trust prompt, with what was captured before it. -/
def confirmCodexTrust (workspace lastCapture : String) : Waiting Unit :=
  if !tmuxAutoTrustEnabled pane then
    Program.stop (some ("Codex workspace trust prompt is visible and SHEA_SYMPHONY_TMUX_AUTO_TRUST=0 "
      ++ "disabled auto-trust; prompt injection stopped"))
  else if !workspaceIsSheaCreatedIssueWorktree pane then
    Program.stop (some ("Codex workspace trust prompt is visible for a workspace outside the "
      ++ "configured Shea Symphony worktree root: " ++ workspace))
  else do
    sendTmuxKey pane "C-m"
    sendTmuxKey pane "C-m"
    match ← pollPane pane (readyScreen (codexViewportReady pane.case)) (codexReadinessAttempts pane)
        lastCapture with
    | .settled () _ => return ()
    | .exhausted lastCapture =>
        giveUp "Codex workspace trust prompt could not be cleared; prompt injection stopped last_capture="
          lastCapture

/-- The wait for Codex; `workspace` is how the path of the workspace is shown. -/
def waitForCodexTmuxReadiness (workspace : String) : Waiting Unit := do
  match ← pollPane pane (codexScreen pane) (codexReadinessAttempts pane) "" with
  | .settled .ready _ => return ()
  | .settled .trustPrompt lastCapture => confirmCodexTrust pane workspace lastCapture
  | .exhausted lastCapture =>
      giveUp ("Codex tmux pane did not reach a ready viewport before prompt injection; "
        ++ "last_capture=") lastCapture

def waitForGeminiTmuxReadiness : Waiting Unit := do
  match ← pollPane pane (readyScreen (geminiViewportReady pane.case)) (geminiReadinessAttempts pane) ""
    with
  | .settled () _ => return ()
  | .exhausted lastCapture =>
      giveUp ("Gemini tmux pane did not reach a ready input viewport before prompt injection; "
        ++ "last_capture=") lastCapture

/-! ## How a loop ends -/

/-- The capture is read and does not settle the wait. -/
def PassedOver {σ : Type} (settle : String → Option σ) (index : Nat) : Prop :=
  ∃ text, pane.captures index = .ok text ∧ settle text = none

/-- The text of the last of some captures from `first` on, or the one before them. -/
def lastShown (first : Nat) (before : String) : Nat → String
  | 0 => before
  | count + 1 => (pane.captures (first + count)).toOption.getD ""

def readEvents (first count : Nat) : List PaneEvent :=
  (List.range' first count).map fun index => .captured (pane.captures index)

/-- How a loop of some attempts that begins with the capture `first` ends, and how many captures
it has read. -/
inductive PollEnds {σ : Type} (settle : String → Option σ) (first : Nat) (before : String)
    (attempts : Nat) : Except (Option String) (Polled σ) → Nat → Prop
  | settled {count : Nat} {text : String} {answer : σ} (hcount : count < attempts)
      (hpassed : ∀ k < count, PassedOver pane settle (first + k))
      (htext : pane.captures (first + count) = .ok text) (hsettle : settle text = some answer) :
      PollEnds settle first before attempts
        (.ok (.settled answer (lastShown pane first before count))) (count + 1)
  | failed {count : Nat} {error : String} (hcount : count < attempts)
      (hpassed : ∀ k < count, PassedOver pane settle (first + k))
      (herror : pane.captures (first + count) = .error error) :
      PollEnds settle first before attempts (.error (some error)) (count + 1)
  | exhausted (hpassed : ∀ k < attempts, PassedOver pane settle (first + k)) :
      PollEnds settle first before attempts (.ok (.exhausted (lastShown pane first before attempts)))
        attempts

variable {pane}

@[simp] theorem capturesOf_append (log more : List PaneEvent) :
    capturesOf (log ++ more) = capturesOf log ++ capturesOf more := List.filterMap_append

theorem capturesOf_readEvents (first count : Nat) :
    capturesOf (readEvents pane first count) = (List.range' first count).map pane.captures := by
  rw [capturesOf, readEvents, List.filterMap_map]
  exact List.filterMap_eq_map (f := pane.captures) ▸ rfl

theorem length_capturesOf_readEvents (first count : Nat) :
    (capturesOf (readEvents pane first count)).length = count := by
  rw [capturesOf_readEvents, List.length_map, List.length_range']

variable (pane) in
theorem captureTmuxPane_eq (log : List PaneEvent) :
    captureTmuxPane pane log = ((pane.captures (capturesOf log).length).mapError some,
      log ++ readEvents pane (capturesOf log).length 1) := by
  rfl

theorem lastShown_succ {first : Nat} {before text : String} (h : pane.captures first = .ok text)
    (count : Nat) : lastShown pane (first + 1) text count = lastShown pane first before (count + 1) := by
  cases count with
  | zero => rw [lastShown, lastShown, Nat.add_zero, h]; rfl
  | succ count => rw [lastShown, lastShown, Nat.add_assoc, Nat.add_comm 1]

variable (pane) in
theorem pollPane_ends {σ : Type} (settle : String → Option σ) (attempts : Nat) (before : String)
    (log : List PaneEvent) : ∃ count,
      (pollPane pane settle attempts before log).2
          = log ++ readEvents pane (capturesOf log).length count
        ∧ PollEnds pane settle (capturesOf log).length before attempts
          (pollPane pane settle attempts before log).1 count := by
  induction attempts generalizing before log with
  | zero => exact ⟨0, (List.append_nil log).symm, .exhausted nofun⟩
  | succ attempts ih =>
      have hrun := captureTmuxPane_eq pane log
      rw [pollPane]
      cases hcapture : pane.captures (capturesOf log).length with
      | error error =>
          rw [hcapture] at hrun
          rw [Program.bind_error hrun]
          exact ⟨1, rfl, .failed (Nat.succ_pos attempts) nofun hcapture⟩
      | ok text =>
          rw [hcapture] at hrun
          rw [Program.bind_ok hrun]
          cases hsettle : settle text with
          | some answer =>
              exact ⟨1, rfl, .settled (Nat.succ_pos attempts) nofun hcapture hsettle⟩
          | none =>
              have hpassed : PassedOver pane settle (capturesOf log).length := ⟨text, hcapture, hsettle⟩
              obtain ⟨count, hlog, hends⟩ := ih text (log ++ readEvents pane (capturesOf log).length 1)
              have hnext : (capturesOf (log ++ readEvents pane (capturesOf log).length 1)).length
                  = (capturesOf log).length + 1 := by
                rw [capturesOf_append, List.length_append, length_capturesOf_readEvents]
              rw [hnext] at hlog hends
              -- The captures passed over are the first one and those of the rest.
              have hall : ∀ {bound : Nat},
                  (∀ k < bound, PassedOver pane settle ((capturesOf log).length + 1 + k)) →
                  ∀ k < bound + 1, PassedOver pane settle ((capturesOf log).length + k) := by
                intro bound h k hk
                cases k with
                | zero => exact hpassed
                | succ k =>
                    have hk := h k (by omega)
                    rwa [Nat.add_assoc, Nat.add_comm 1] at hk
              refine ⟨count + 1, ?_, ?_⟩
              · rw [hlog, List.append_assoc]
                simp only [readEvents, List.range'_succ, List.range'_zero, List.map_cons, List.map_nil,
                  List.singleton_append]
              · generalize (pollPane pane settle attempts text
                  (log ++ readEvents pane (capturesOf log).length 1)).1 = result at hends
                cases hends with
                | settled hcount hbefore htext hsettle =>
                    rw [lastShown_succ hcapture]
                    refine .settled (by omega) (hall hbefore) ?_ hsettle
                    rwa [Nat.add_assoc, Nat.add_comm 1] at htext
                | failed hcount hbefore herror =>
                    refine .failed (by omega) (hall hbefore) ?_
                    rwa [Nat.add_assoc, Nat.add_comm 1] at herror
                | exhausted hbefore =>
                    rw [lastShown_succ hcapture]
                    exact .exhausted (hall hbefore)

theorem PassedOver.ne_some {σ : Type} {settle : String → Option σ} {index : Nat} {text : String}
    {answer : σ} (h : PassedOver pane settle index) (htext : pane.captures index = .ok text) :
    settle text ≠ some answer := by
  obtain ⟨other, hother, hnone⟩ := h
  obtain rfl := Except.ok.inj (hother.symm.trans htext)
  rw [hnone]
  exact nofun

theorem PassedOver.ne_error {σ : Type} {settle : String → Option σ} {index : Nat} {error : String}
    (h : PassedOver pane settle index) : pane.captures index ≠ .error error := by
  obtain ⟨text, htext, -⟩ := h
  rw [htext]
  exact nofun

variable (pane) in
theorem pollPane_of_passed {σ : Type} (settle : String → Option σ) {attempts : Nat} (before : String)
    (log : List PaneEvent)
    (hpassed : ∀ k < attempts, PassedOver pane settle ((capturesOf log).length + k)) :
    pollPane pane settle attempts before log
      = (.ok (.exhausted (lastShown pane (capturesOf log).length before attempts)),
        log ++ readEvents pane (capturesOf log).length attempts) := by
  obtain ⟨count, hlog, hends⟩ := pollPane_ends pane settle attempts before log
  suffices h : (pollPane pane settle attempts before log).1
      = .ok (.exhausted (lastShown pane (capturesOf log).length before attempts)) ∧ count = attempts by
    exact Prod.ext h.1 (h.2 ▸ hlog)
  generalize (pollPane pane settle attempts before log).1 = result at hends
  cases hends with
  | settled hcount _ htext hsettle => exact absurd hsettle ((hpassed _ hcount).ne_some htext)
  | failed hcount _ herror => exact absurd herror (hpassed _ hcount).ne_error
  | exhausted => exact ⟨rfl, rfl⟩

variable (pane) in
theorem pollPane_of_settled {σ : Type} (settle : String → Option σ) {attempts index : Nat}
    (before : String) (log : List PaneEvent) {text : String} {answer : σ} (hindex : index < attempts)
    (hpassed : ∀ k < index, PassedOver pane settle ((capturesOf log).length + k))
    (htext : pane.captures ((capturesOf log).length + index) = .ok text)
    (hsettle : settle text = some answer) :
    pollPane pane settle attempts before log
      = (.ok (.settled answer (lastShown pane (capturesOf log).length before index)),
        log ++ readEvents pane (capturesOf log).length (index + 1)) := by
  obtain ⟨count, hlog, hends⟩ := pollPane_ends pane settle attempts before log
  suffices h : (pollPane pane settle attempts before log).1
      = .ok (.settled answer (lastShown pane (capturesOf log).length before index)) ∧ count = index + 1 by
    exact Prod.ext h.1 (h.2 ▸ hlog)
  generalize (pollPane pane settle attempts before log).1 = result at hends
  cases hends with
  | settled hcount hbefore hshown hanswer =>
      rename_i other shown answer'
      have heq : other = index := by
        rcases Nat.lt_trichotomy other index with hlt | heq | hlt
        · exact absurd hanswer ((hpassed _ hlt).ne_some hshown)
        · exact heq
        · exact absurd hsettle ((hbefore _ hlt).ne_some htext)
      subst heq
      obtain rfl := Except.ok.inj (hshown.symm.trans htext)
      obtain rfl := Option.some.inj (hanswer.symm.trans hsettle)
      exact ⟨rfl, rfl⟩
  | failed hcount hbefore herror =>
      rename_i other error
      rcases Nat.lt_trichotomy other index with hlt | heq | hlt
      · exact absurd herror (hpassed _ hlt).ne_error
      · rw [heq, htext] at herror
        cases herror
      · exact absurd hsettle ((hbefore _ hlt).ne_some htext)
  | exhausted hbefore => exact absurd hsettle ((hbefore _ hindex).ne_some htext)

end

end SheaSymphony.Agent

import SheaSymphony.PaneReadiness

/-!
# Confirming the trust prompt of a pane

What the wait for Codex comes to and what it has logged by then (`codexWait_ends`): a run of
captures, then at most two keys behind the capture of a trust prompt, then another run of captures.
So it answers, sends keys and reads only as it should (`codexWait_safe`).
-/

namespace SheaSymphony.Agent

open Interrupted (Program)

/-! ## Logs -/

section
variable {pane : TmuxPane}

theorem readEvents_succ (first count : Nat) : readEvents pane first (count + 1)
    = readEvents pane first count ++ [.captured (pane.captures (first + count))] := by
  rw [readEvents, List.range'_1_concat, List.map_append]
  rfl

theorem getLast?_capturesOf_readEvents (first count : Nat) :
    (capturesOf (readEvents pane first (count + 1))).getLast? = some (pane.captures (first + count)) := by
  rw [readEvents_succ, capturesOf_append]
  exact List.getLast?_concat

theorem isKey_of_mem_readEvents {first count : Nat} {event : PaneEvent}
    (h : event ∈ readEvents pane first count) : event.isKey = false := by
  obtain ⟨index, -, rfl⟩ := List.mem_map.mp h
  rfl

theorem countP_isKey_readEvents (first count : Nat) :
    (readEvents pane first count).countP PaneEvent.isKey = 0 :=
  List.countP_eq_zero.mpr fun event h htrue => by
    rw [isKey_of_mem_readEvents h] at htrue
    cases htrue

theorem capturesOf_keys {keys : List PaneEvent} (h : ∀ event ∈ keys, event.isKey = true) :
    capturesOf keys = [] := by
  refine List.filterMap_eq_nil_iff.mpr fun event hmem => ?_
  cases event with
  | captured answer => cases h _ hmem
  | sentKey key answer => rfl

theorem capturesOf_before_key {front keys back before after : List PaneEvent} {key : String}
    {answer : Except String Unit} (hfront : ∀ event ∈ front, event.isKey = false)
    (hkeys : ∀ event ∈ keys, event.isKey = true) (hback : ∀ event ∈ back, event.isKey = false)
    (h : front ++ (keys ++ back) = before ++ .sentKey key answer :: after) :
    capturesOf before = capturesOf front := by
  rcases List.append_eq_append_iff.mp h with ⟨middle, rfl, hrest⟩ | ⟨middle, rfl, hrest⟩
  · rcases List.append_eq_append_iff.mp hrest with ⟨more, rfl, hlast⟩ | ⟨more, rfl, -⟩
    · have hmem : PaneEvent.sentKey key answer ∈ back := hlast ▸ List.mem_append_right more List.mem_cons_self
      cases hback _ hmem
    · rw [capturesOf_append,
        capturesOf_keys fun event hmem => hkeys event (List.mem_append_left more hmem), List.append_nil]
  · cases middle with
    | nil => rw [List.append_nil]
    | cons event middle =>
        obtain ⟨rfl, -⟩ := List.cons.inj hrest
        cases hfront _ (List.mem_append_right before List.mem_cons_self)

end

/-! ## How the wait ends -/

section
variable (pane : TmuxPane)

/-- The workspace lies under the root that is configured. -/
def UnderWorktreeRoot : Prop :=
  ∃ root, pane.env "SHEA_SYMPHONY_WORKSPACE_ROOT" = some root ∧ Text.isBlank root = false
    ∧ canonicalPathOrSelf pane (Paths.ofText root) <+: canonicalPathOrSelf pane pane.workspace

/-- The first capture that is not passed over, within the attempts, shows the given screen. -/
structure ShowsFirst (screen : CodexScreen) (index : Nat) (text : String) : Prop where
  inTime : index < codexReadinessAttempts pane
  passed : ∀ k < index, PassedOver pane (codexScreen pane) k
  capture : pane.captures index = .ok text
  shown : codexScreen pane text = some screen

structure TrustGranted : Prop where
  enabled : tmuxAutoTrustEnabled pane = true
  underRoot : UnderWorktreeRoot pane

def keyEvents (count : Nat) : List PaneEvent :=
  (List.range count).map fun index => .sentKey "C-m" (pane.keys index)

/-- A capture behind the keys does not show a ready viewport. -/
def StillUnready (index : Nat) : Prop :=
  PassedOver pane (readyScreen (codexViewportReady pane.case)) index

inductive CodexWaitEnds (workspace : String) : Except (Option String) Unit → List PaneEvent → Prop
  | ready {index : Nat} {text : String} (hshows : ShowsFirst pane .ready index text) :
      CodexWaitEnds workspace (.ok ()) (readEvents pane 0 (index + 1))
  | unread {count : Nat} {error : String} (hcount : count ≤ codexReadinessAttempts pane) :
      CodexWaitEnds workspace (.error (some error)) (readEvents pane 0 count)
  | unready (hpassed : ∀ k < codexReadinessAttempts pane, PassedOver pane (codexScreen pane) k) :
      CodexWaitEnds workspace
        (.error ((compactPaneCapture (lastShown pane 0 "" (codexReadinessAttempts pane))).map
          fun shown => "Codex tmux pane did not reach a ready viewport before prompt injection; "
            ++ "last_capture=" ++ shown))
        (readEvents pane 0 (codexReadinessAttempts pane))
  | unconfirmed {index keys count : Nat} {text error : String}
      (hshows : ShowsFirst pane .trustPrompt index text) (hgranted : TrustGranted pane)
      (hkeys : keys ≤ 2) (hcount : count ≤ codexReadinessAttempts pane) :
      CodexWaitEnds workspace (.error (some error))
        (readEvents pane 0 (index + 1) ++ (keyEvents pane keys ++ readEvents pane (index + 1) count))
  | cleared {index more : Nat} {text shown : String}
      (hshows : ShowsFirst pane .trustPrompt index text) (hgranted : TrustGranted pane)
      (hmore : more < codexReadinessAttempts pane) (hshown : pane.captures (index + 1 + more) = .ok shown)
      (hready : codexViewportReady pane.case shown = true) :
      CodexWaitEnds workspace (.ok ()) (readEvents pane 0 (index + 1)
        ++ (keyEvents pane 2 ++ readEvents pane (index + 1) (more + 1)))
  | uncleared {index : Nat} {text : String}
      (hshows : ShowsFirst pane .trustPrompt index text) (hgranted : TrustGranted pane)
      (hsent : pane.keys 0 = .ok () ∧ pane.keys 1 = .ok ())
      (hstill : ∀ k < codexReadinessAttempts pane, StillUnready pane (index + 1 + k)) :
      CodexWaitEnds workspace
        (.error ((compactPaneCapture (lastShown pane (index + 1) (lastShown pane 0 "" index)
            (codexReadinessAttempts pane))).map
          fun shown => "Codex workspace trust prompt could not be cleared; prompt injection stopped "
            ++ "last_capture=" ++ shown))
        (readEvents pane 0 (index + 1)
          ++ (keyEvents pane 2 ++ readEvents pane (index + 1) (codexReadinessAttempts pane)))

variable {pane}

theorem underWorktreeRoot_iff :
    workspaceIsSheaCreatedIssueWorktree pane = true ↔ UnderWorktreeRoot pane := by
  rw [workspaceIsSheaCreatedIssueWorktree, UnderWorktreeRoot]
  cases hroot : pane.env "SHEA_SYMPHONY_WORKSPACE_ROOT" with
  | none => simp
  | some root =>
      cases hblank : Text.isBlank root with
      | true => simp [Option.filter, hblank]
      | false => simp [Option.filter, hblank]

theorem isKey_of_mem_keyEvents {count : Nat} {event : PaneEvent} (h : event ∈ keyEvents pane count) :
    event.isKey = true := by
  obtain ⟨index, -, rfl⟩ := List.mem_map.mp h
  rfl

theorem countP_isKey_keyEvents (count : Nat) : (keyEvents pane count).countP PaneEvent.isKey = count := by
  rw [List.countP_eq_length.mpr fun _ => isKey_of_mem_keyEvents, keyEvents, List.length_map,
    List.length_range]

variable (pane) in
theorem sendTmuxKey_eq (front count : Nat) :
    sendTmuxKey pane "C-m" (readEvents pane 0 front ++ keyEvents pane count)
      = ((pane.keys count).mapError some, readEvents pane 0 front ++ keyEvents pane (count + 1)) := by
  have hcount : (readEvents pane 0 front ++ keyEvents pane count).countP PaneEvent.isKey = count := by
    rw [List.countP_append, countP_isKey_readEvents, countP_isKey_keyEvents, Nat.zero_add]
  have hnext : keyEvents pane (count + 1)
      = keyEvents pane count ++ [.sentKey "C-m" (pane.keys count)] := by
    rw [keyEvents, List.range_succ, List.map_append]
    rfl
  rw [hnext, ← List.append_assoc]
  show ((pane.keys _).mapError some, _ ++ [PaneEvent.sentKey "C-m" (pane.keys _)]) = _
  rw [hcount]

theorem confirmCodexTrust_eq {workspace before : String} (hgranted : TrustGranted pane) :
    confirmCodexTrust pane workspace before = (do
      sendTmuxKey pane "C-m"
      sendTmuxKey pane "C-m"
      match ← pollPane pane (readyScreen (codexViewportReady pane.case)) (codexReadinessAttempts pane)
          before with
      | .settled () _ => return ()
      | .exhausted lastCapture =>
          giveUp ("Codex workspace trust prompt could not be cleared; prompt injection stopped "
            ++ "last_capture=") lastCapture) := by
  rw [confirmCodexTrust, if_neg (by simp [hgranted.enabled]),
    if_neg (by simp [underWorktreeRoot_iff.mpr hgranted.underRoot])]
  rfl

theorem readyScreen_eq_some {ready : String → Bool} {text : String} {answer : Unit}
    (h : readyScreen ready text = some answer) : ready text = true := by
  rw [readyScreen] at h
  split at h
  · assumption
  · cases h

theorem length_capturesOf_confirmed (front keys : Nat) :
    (capturesOf (readEvents pane 0 front ++ keyEvents pane keys)).length = front := by
  rw [capturesOf_append, capturesOf_keys fun _ => isKey_of_mem_keyEvents, List.append_nil,
    length_capturesOf_readEvents]

theorem confirmCodexTrust_ends {workspace text : String} {index : Nat}
    (hshows : ShowsFirst pane .trustPrompt index text) :
    CodexWaitEnds pane workspace
      (confirmCodexTrust pane workspace (lastShown pane 0 "" index) (readEvents pane 0 (index + 1))).1
      (confirmCodexTrust pane workspace (lastShown pane 0 "" index) (readEvents pane 0 (index + 1))).2 := by
  by_cases htrust : tmuxAutoTrustEnabled pane = true
  swap
  · rw [confirmCodexTrust, if_pos (by simpa using htrust)]
    exact .unread hshows.inTime
  by_cases hroot : workspaceIsSheaCreatedIssueWorktree pane = true
  swap
  · rw [confirmCodexTrust, if_neg (by simpa using htrust), if_pos (by simpa using hroot)]
    exact .unread hshows.inTime
  have hgranted : TrustGranted pane := ⟨htrust, underWorktreeRoot_iff.mp hroot⟩
  have hstart : readEvents pane 0 (index + 1) = readEvents pane 0 (index + 1) ++ keyEvents pane 0 :=
    (List.append_nil _).symm
  have hnone : ∀ keys, readEvents pane 0 (index + 1) ++ keyEvents pane keys
      = readEvents pane 0 (index + 1) ++ (keyEvents pane keys ++ readEvents pane (index + 1) 0) :=
    fun keys => by rw [show readEvents pane (index + 1) 0 = [] from rfl, List.append_nil]
  rw [confirmCodexTrust_eq hgranted, hstart]
  have hfirst := sendTmuxKey_eq pane (index + 1) 0
  cases hsent : pane.keys 0 with
  | error error =>
      rw [hsent] at hfirst
      rw [Program.bind_error hfirst, hnone]
      exact .unconfirmed hshows hgranted (by omega) (Nat.zero_le _)
  | ok done =>
      rw [hsent] at hfirst
      rw [Program.bind_ok hfirst]
      have hsecond := sendTmuxKey_eq pane (index + 1) 1
      cases hagain : pane.keys 1 with
      | error error =>
          rw [hagain] at hsecond
          rw [Program.bind_error hsecond, hnone]
          exact .unconfirmed hshows hgranted le_rfl (Nat.zero_le _)
      | ok done =>
          rw [hagain] at hsecond
          rw [Program.bind_ok hsecond]
          obtain ⟨count, hlog, hends⟩ := pollPane_ends pane
            (readyScreen (codexViewportReady pane.case)) (codexReadinessAttempts pane)
            (lastShown pane 0 "" index) (readEvents pane 0 (index + 1) ++ keyEvents pane 2)
          rw [length_capturesOf_confirmed] at hlog hends
          rw [List.append_assoc] at hlog
          cases hpoll : pollPane pane (readyScreen (codexViewportReady pane.case))
              (codexReadinessAttempts pane) (lastShown pane 0 "" index)
              (readEvents pane 0 (index + 1) ++ keyEvents pane 2) with
          | mk result next =>
              rw [hpoll] at hlog hends
              obtain rfl : next = _ := hlog
              cases hends with
              | settled hcount hpassed hshown hsettle =>
                  rw [Program.bind_ok hpoll]
                  exact .cleared hshows hgranted hcount hshown (readyScreen_eq_some hsettle)
              | failed hcount hpassed herror =>
                  rw [Program.bind_error hpoll]
                  exact .unconfirmed hshows hgranted le_rfl hcount
              | exhausted hpassed =>
                  rw [Program.bind_ok hpoll]
                  exact .uncleared hshows hgranted ⟨hsent, hagain⟩ hpassed

theorem codexWait_ends (pane : TmuxPane) (workspace : String) :
    CodexWaitEnds pane workspace (waitForCodexTmuxReadiness pane workspace []).1
      (waitForCodexTmuxReadiness pane workspace []).2 := by
  obtain ⟨count, hlog, hends⟩ := pollPane_ends pane (codexScreen pane)
    (codexReadinessAttempts pane) "" []
  rw [waitForCodexTmuxReadiness]
  cases hpoll : pollPane pane (codexScreen pane) (codexReadinessAttempts pane) "" [] with
  | mk result next =>
      rw [hpoll] at hlog hends
      obtain rfl : next = readEvents pane 0 count := hlog
      have hzero : (capturesOf []).length = 0 := rfl
      rw [hzero] at hends
      cases hends with
      | failed hcount hpassed herror =>
          rw [Program.bind_error hpoll]
          exact .unread hcount
      | exhausted hpassed =>
          rw [Program.bind_ok hpoll]
          exact .unready fun k hk => Nat.zero_add k ▸ hpassed k hk
      | settled hcount hpassed hshown hsettle =>
          rw [Program.bind_ok hpoll]
          rename_i index text screen
          have hshows : ShowsFirst pane screen index text :=
            ⟨hcount, fun k hk => Nat.zero_add k ▸ hpassed k hk, Nat.zero_add index ▸ hshown, hsettle⟩
          cases screen with
          | ready => exact .ready hshows
          | trustPrompt => exact confirmCodexTrust_ends hshows

end

/-! ## What the wait may do -/

section
variable (pane : TmuxPane)

structure CodexWaitSafe (result : Except (Option String) Unit) (log : List PaneEvent) : Prop where
  /-- An answer rests on the capture that was read last. -/
  ready : result = .ok () → ∃ text, (capturesOf log).getLast? = some (.ok text)
    ∧ codexViewportReady pane.case text = true
    ∧ codexWorkspaceTrustPromptVisible pane.case text = false
  /-- When a key is sent, the capture read last shows the prompt. -/
  keys : ∀ before key answer after, log = before ++ .sentKey key answer :: after →
    (∃ text, (capturesOf before).getLast? = some (.ok text)
      ∧ codexWorkspaceTrustPromptVisible pane.case text = true)
    ∧ tmuxAutoTrustEnabled pane = true ∧ UnderWorktreeRoot pane
  atMostTwoKeys : log.countP PaneEvent.isKey ≤ 2
  reads : (capturesOf log).length ≤ 2 * codexReadinessAttempts pane

variable {pane}

theorem trustPrompt_of_ready {text : String} (h : codexViewportReady pane.case text = true) :
    codexWorkspaceTrustPromptVisible pane.case text = false := by
  rw [codexViewportReady, Bool.and_eq_true, Bool.and_eq_true, Bool.not_eq_true'] at h
  exact h.1.2

theorem ShowsFirst.ready {index : Nat} {text : String} (h : ShowsFirst pane .ready index text) :
    codexViewportReady pane.case text = true := by
  have hshown := h.shown
  rw [codexScreen] at hshown
  split at hshown
  · assumption
  · split at hshown <;> cases hshown

theorem ShowsFirst.trustPrompt {index : Nat} {text : String}
    (h : ShowsFirst pane .trustPrompt index text) :
    codexWorkspaceTrustPromptVisible pane.case text = true := by
  have hshown := h.shown
  rw [codexScreen] at hshown
  split at hshown
  · cases hshown
  · split at hshown
    · assumption
    · cases hshown

theorem reads_safe {result : Except (Option String) Unit} {count : Nat}
    (hcount : count ≤ codexReadinessAttempts pane)
    (hready : result = .ok () → ∃ index text, count = index + 1 ∧ pane.captures index = .ok text
      ∧ codexViewportReady pane.case text = true) :
    CodexWaitSafe pane result (readEvents pane 0 count) where
  ready := by
    intro hok
    obtain ⟨index, text, rfl, htext, hviewport⟩ := hready hok
    refine ⟨text, ?_, hviewport, trustPrompt_of_ready hviewport⟩
    rw [getLast?_capturesOf_readEvents, Nat.zero_add, htext]
  keys := by
    intro before key answer after h
    have hmem : PaneEvent.sentKey key answer ∈ readEvents pane 0 count :=
      h ▸ List.mem_append_right before List.mem_cons_self
    cases isKey_of_mem_readEvents hmem
  atMostTwoKeys := by
    rw [countP_isKey_readEvents]
    exact Nat.zero_le 2
  reads := by
    rw [length_capturesOf_readEvents]
    omega

theorem confirmed_safe {result : Except (Option String) Unit} {index keys count : Nat} {text : String}
    (hshows : ShowsFirst pane .trustPrompt index text) (hgranted : TrustGranted pane)
    (hkeys : keys ≤ 2) (hcount : count ≤ codexReadinessAttempts pane)
    (hready : result = .ok () → ∃ more text, count = more + 1
      ∧ pane.captures (index + 1 + more) = .ok text ∧ codexViewportReady pane.case text = true) :
    CodexWaitSafe pane result
      (readEvents pane 0 (index + 1) ++ (keyEvents pane keys ++ readEvents pane (index + 1) count)) where
  ready := by
    intro hok
    obtain ⟨more, text, rfl, htext, hviewport⟩ := hready hok
    refine ⟨text, ?_, hviewport, trustPrompt_of_ready hviewport⟩
    rw [capturesOf_append, capturesOf_append, capturesOf_keys fun _ => isKey_of_mem_keyEvents,
      List.nil_append, readEvents_succ (index + 1), capturesOf_append, ← List.append_assoc, htext]
    exact List.getLast?_concat
  keys := by
    intro before key answer after h
    refine ⟨⟨text, ?_, hshows.trustPrompt⟩, hgranted.enabled, hgranted.underRoot⟩
    rw [capturesOf_before_key (fun _ => isKey_of_mem_readEvents) (fun _ => isKey_of_mem_keyEvents)
      (fun _ => isKey_of_mem_readEvents) h, getLast?_capturesOf_readEvents, Nat.zero_add, hshows.capture]
  atMostTwoKeys := by
    rw [List.countP_append, List.countP_append, countP_isKey_readEvents, countP_isKey_readEvents,
      countP_isKey_keyEvents]
    omega
  reads := by
    have hindex := hshows.inTime
    rw [capturesOf_append, capturesOf_append, capturesOf_keys fun _ => isKey_of_mem_keyEvents,
      List.nil_append, List.length_append, length_capturesOf_readEvents, length_capturesOf_readEvents]
    omega

end

/-- The wait for Codex answers, sends keys and reads only as it should. -/
theorem codexWait_safe (pane : TmuxPane) (workspace : String) :
    CodexWaitSafe pane (waitForCodexTmuxReadiness pane workspace []).1
      (waitForCodexTmuxReadiness pane workspace []).2 := by
  have hends := codexWait_ends pane workspace
  generalize (waitForCodexTmuxReadiness pane workspace []).1 = result at hends
  generalize (waitForCodexTmuxReadiness pane workspace []).2 = log at hends
  cases hends with
  | ready hshows => exact reads_safe hshows.inTime fun _ => ⟨_, _, rfl, hshows.capture, hshows.ready⟩
  | unread hcount => exact reads_safe hcount nofun
  | unready hpassed => exact reads_safe le_rfl nofun
  | unconfirmed hshows hgranted hkeys hcount => exact confirmed_safe hshows hgranted hkeys hcount nofun
  | cleared hshows hgranted hmore hshown hready =>
      exact confirmed_safe hshows hgranted le_rfl hmore fun _ => ⟨_, _, rfl, hshown, hready⟩
  | uncleared hshows hgranted hsent hstill => exact confirmed_safe hshows hgranted le_rfl le_rfl nofun

end SheaSymphony.Agent

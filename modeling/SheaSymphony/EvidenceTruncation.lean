import SheaSymphony.PaneTrust

/-!
# Truncated evidence of a run

The error of a wait that gives up shows the last capture, and the pause of a usage limit the error
that speaks of it; both are cut at a byte. It is known from what the pane shows and from the events
whether a text is cut inside a character (`evidence_returns_iff`).
-/

namespace SheaSymphony.Agent

open Text
open Interrupted (Program)
open Review (UsageLimitPause classifyUsageLimitText firstUsageLimitPause usageLimitPatterns)
open Text (CutsAt Truncated)

/-! ## Usage limits -/

def speaksOfUsageLimit (text : String) : Bool :=
  usageLimitPatterns.any fun pattern => Text.contains (Text.toAsciiLowercase text) pattern.2

theorem compactEvidence_eq (text : String) :
    Review.compactEvidence text = Text.truncateBytes 240 "..." (Text.collapseWhitespace text) := by
  rw [Review.compactEvidence, truncateBytes]
  by_cases h : byteLength (collapseWhitespace text) ≤ 240
  · rw [if_neg (by omega), if_pos h]
  · rw [if_pos (by omega), if_neg h, sliceTo]
    dsimp only
    split <;> rfl

section
variable {text : String} {texts : List String}

theorem classifyUsageLimitText_of_not_speaks (h : speaksOfUsageLimit text = false) :
    classifyUsageLimitText text = some none := by
  rw [speaksOfUsageLimit, List.any_eq_false] at h
  rw [classifyUsageLimitText, List.find?_eq_none.mpr h]

theorem classifyUsageLimitText_of_speaks (h : speaksOfUsageLimit text = true) :
    ∃ classifier, classifyUsageLimitText text
      = (Review.compactEvidence text).map fun evidence => some { classifier, evidence } := by
  rw [speaksOfUsageLimit, List.any_eq_true] at h
  obtain ⟨pattern, hmem, hshows⟩ := h
  cases hfind : usageLimitPatterns.find? fun pattern =>
      contains (toAsciiLowercase text) pattern.2 with
  | none => exact absurd hshows (List.find?_eq_none.mp hfind pattern hmem)
  | some found => exact ⟨found.1, by rw [classifyUsageLimitText, hfind]⟩

theorem firstUsageLimitPause_ne_none_iff : firstUsageLimitPause texts ≠ none ↔
    ∀ text, texts.find? speaksOfUsageLimit = some text → CutsAt 240 (Text.collapseWhitespace text) := by
  induction texts with
  | nil => simp [firstUsageLimitPause]
  | cons text texts ih =>
      rw [firstUsageLimitPause]
      cases hspeaks : speaksOfUsageLimit text with
      | false =>
          rw [classifyUsageLimitText_of_not_speaks hspeaks, List.find?_cons_of_neg (by simp [hspeaks])]
          exact ih
      | true =>
          obtain ⟨classifier, hclassify⟩ := classifyUsageLimitText_of_speaks hspeaks
          have hfound : (∀ other, some text = some other →
              CutsAt 240 (collapseWhitespace other)) ↔ CutsAt 240 (collapseWhitespace text) :=
            ⟨fun h => h text rfl, fun h other heq => Option.some.inj heq ▸ h⟩
          have hcuts := truncateBytes_ne_none_iff 240 "..." (collapseWhitespace text)
          rw [hclassify, List.find?_cons_of_pos hspeaks, compactEvidence_eq, hfound, ← hcuts]
          cases truncateBytes 240 "..." (collapseWhitespace text) <;> simp

theorem evidence_of_firstUsageLimitPause {pause : UsageLimitPause}
    (h : firstUsageLimitPause texts = some (some pause)) :
    ∃ text ∈ texts, Truncated 240 "..." (Text.collapseWhitespace text) pause.evidence := by
  induction texts with
  | nil => cases h
  | cons text texts ih =>
      rw [firstUsageLimitPause] at h
      cases hspeaks : speaksOfUsageLimit text with
      | false =>
          rw [classifyUsageLimitText_of_not_speaks hspeaks] at h
          obtain ⟨other, hmem, hshown⟩ := ih h
          exact ⟨other, List.mem_cons_of_mem text hmem, hshown⟩
      | true =>
          obtain ⟨classifier, hclassify⟩ := classifyUsageLimitText_of_speaks hspeaks
          rw [hclassify, compactEvidence_eq] at h
          cases hcut : truncateBytes 240 "..." (collapseWhitespace text) with
          | none =>
              rw [hcut] at h
              cases h
          | some shown =>
              rw [hcut] at h
              cases h
              exact ⟨text, List.mem_cons_self, truncated_of_truncateBytes hcut⟩

end

/-! ## Waits that give up -/

section
variable (pane : TmuxPane)

/-- The capture the wait for Codex has read last when it gives up. -/
inductive CodexGivesUpOn : String → Prop
  | unready (hpassed : ∀ k < codexReadinessAttempts pane, PassedOver pane (codexScreen pane) k) :
      CodexGivesUpOn (lastShown pane 0 "" (codexReadinessAttempts pane))
  | uncleared {index : Nat} {text : String} (hshows : ShowsFirst pane .trustPrompt index text)
      (hgranted : TrustGranted pane) (hsent : pane.keys 0 = .ok () ∧ pane.keys 1 = .ok ())
      (hstill : ∀ k < codexReadinessAttempts pane, StillUnready pane (index + 1 + k)) :
      CodexGivesUpOn (lastShown pane (index + 1) (lastShown pane 0 "" index)
        (codexReadinessAttempts pane))

/-- The capture the wait for Gemini has read last when it gives up. -/
def GeminiGivesUpOn (text : String) : Prop :=
  (∀ k < geminiReadinessAttempts pane,
      PassedOver pane (readyScreen (geminiViewportReady pane.case)) k)
    ∧ text = lastShown pane 0 "" (geminiReadinessAttempts pane)

variable {pane}

theorem giveUp_panics_iff (message : String) (log : List PaneEvent) {lastCapture : String} :
    (giveUp (α := Unit) message lastCapture log).1 = .error none ↔
      ¬ CutsAt 180 (Text.collapseWhitespace lastCapture) := by
  rw [← truncateBytes_ne_none_iff 180 "...", not_not]
  show Except.error ((compactPaneCapture lastCapture).map _) = .error none ↔ _
  rw [Except.error.injEq, Option.map_eq_none_iff, compactPaneCapture]

theorem codexWait_panics_iff {workspace : String} :
    (waitForCodexTmuxReadiness pane workspace []).1 = .error none ↔
      ∃ text, CodexGivesUpOn pane text ∧ ¬ CutsAt 180 (Text.collapseWhitespace text) := by
  constructor
  · intro hpanic
    have hends := codexWait_ends pane workspace
    rw [hpanic] at hends
    generalize (waitForCodexTmuxReadiness pane workspace []).2 = log at hends
    have hcut : ∀ {message text : String}, .error none = (Except.error ((compactPaneCapture text).map
          fun shown => message ++ shown) : Except (Option String) Unit) →
        ¬ CutsAt 180 (collapseWhitespace text) :=
      fun {message text} h => (giveUp_panics_iff message []).mp h.symm
    generalize hresult : (Except.error none : Except (Option String) Unit) = result at hends
    cases hends with
    | ready | unread | unconfirmed | cleared => cases hresult
    | unready hpassed => exact ⟨_, .unready hpassed, hcut hresult⟩
    | uncleared hshows hgranted hsent hstill =>
        exact ⟨_, .uncleared hshows hgranted hsent hstill, hcut hresult⟩
  · rintro ⟨text, hgives, hcut⟩
    cases hgives with
    | unready hpassed =>
        have hpoll := pollPane_of_passed pane (codexScreen pane) "" []
          fun k hk => (Nat.zero_add k).symm ▸ hpassed k hk
        rw [waitForCodexTmuxReadiness, Program.bind_ok hpoll]
        exact (giveUp_panics_iff _ _).mpr hcut
    | @uncleared index shown hshows hgranted hsent hstill =>
        have hprompt := pollPane_of_settled pane (codexScreen pane) "" []
          hshows.inTime (fun k hk => (Nat.zero_add k).symm ▸ hshows.passed k hk)
          ((Nat.zero_add index).symm ▸ hshows.capture) hshows.shown
        have hfirst := sendTmuxKey_eq pane (index + 1) 0
        have hsecond := sendTmuxKey_eq pane (index + 1) 1
        rw [hsent.1] at hfirst
        rw [hsent.2] at hsecond
        have hempty : ([] : List PaneEvent) ++ readEvents pane 0 (index + 1)
            = readEvents pane 0 (index + 1) ++ keyEvents pane 0 := (List.append_nil _).symm
        have hagain := pollPane_of_passed pane
          (readyScreen (codexViewportReady pane.case)) (lastShown pane 0 "" index)
          (readEvents pane 0 (index + 1) ++ keyEvents pane 2)
          (by rw [length_capturesOf_confirmed]; exact hstill)
        rw [length_capturesOf_confirmed] at hagain
        rw [waitForCodexTmuxReadiness, Program.bind_ok hprompt]
        show (confirmCodexTrust pane workspace (lastShown pane 0 "" index)
          ([] ++ readEvents pane 0 (index + 1))).1 = _
        rw [confirmCodexTrust_eq hgranted, hempty, Program.bind_ok hfirst, Program.bind_ok hsecond,
          Program.bind_ok hagain]
        exact (giveUp_panics_iff _ _).mpr hcut

theorem geminiWait_panics_iff : (waitForGeminiTmuxReadiness pane []).1 = .error none ↔
    ∃ text, GeminiGivesUpOn pane text ∧ ¬ CutsAt 180 (Text.collapseWhitespace text) := by
  constructor
  · intro hpanic
    obtain ⟨count, -, hends⟩ := pollPane_ends pane
      (readyScreen (geminiViewportReady pane.case)) (geminiReadinessAttempts pane) "" []
    rw [waitForGeminiTmuxReadiness] at hpanic
    cases hpoll : pollPane pane (readyScreen (geminiViewportReady pane.case))
        (geminiReadinessAttempts pane) "" [] with
    | mk result next =>
        rw [hpoll] at hends
        have hzero : (capturesOf []).length = 0 := rfl
        rw [hzero] at hends
        cases hends with
        | settled =>
            rw [Program.bind_ok hpoll] at hpanic
            cases hpanic
        | failed =>
            rw [Program.bind_error hpoll] at hpanic
            cases hpanic
        | exhausted hpassed =>
            rw [Program.bind_ok hpoll] at hpanic
            exact ⟨_, ⟨fun k hk => Nat.zero_add k ▸ hpassed k hk, rfl⟩, (giveUp_panics_iff _ _).mp hpanic⟩
  · rintro ⟨_, ⟨hpassed, rfl⟩, hcut⟩
    have hpoll := pollPane_of_passed pane
      (readyScreen (geminiViewportReady pane.case)) "" []
      fun k hk => (Nat.zero_add k).symm ▸ hpassed k hk
    rw [waitForGeminiTmuxReadiness, Program.bind_ok hpoll]
    exact (giveUp_panics_iff _ _).mpr hcut

end

/-! ## Returning -/

/-- The waits and the reading of the events return, and what they show of a text is all of it or a
front within the limit. -/
structure EvidenceReturns (pane : TmuxPane) (workspace : String) (events : List AgentEvent) : Prop where
  codexWait : (waitForCodexTmuxReadiness pane workspace []).1 ≠ .error none
  geminiWait : (waitForGeminiTmuxReadiness pane []).1 ≠ .error none
  pause : usageLimitPauseFromEvents events ≠ none
  captures : ∀ text shown, compactPaneCapture text = some shown →
    Truncated 180 "..." (Text.collapseWhitespace text) shown
  evidence : ∀ pause, usageLimitPauseFromEvents events = some (some pause) →
    ∃ error ∈ events.filterMap AgentEvent.failure,
      Truncated 240 "..." (Text.collapseWhitespace error) pause.evidence

/-- Evidence is cut without a panic exactly where the limit falls on the beginning of a character. -/
theorem evidence_returns_iff (pane : TmuxPane) (workspace : String) (events : List AgentEvent) :
    EvidenceReturns pane workspace events ↔
      (∀ text, CodexGivesUpOn pane text → CutsAt 180 (Text.collapseWhitespace text))
        ∧ (∀ text, GeminiGivesUpOn pane text → CutsAt 180 (Text.collapseWhitespace text))
        ∧ ∀ error, (events.filterMap AgentEvent.failure).find? speaksOfUsageLimit = some error →
          CutsAt 240 (Text.collapseWhitespace error) := by
  constructor
  · intro h
    refine ⟨fun text hgives => ?_, fun text hgives => ?_, firstUsageLimitPause_ne_none_iff.mp h.pause⟩
    · by_contra hcut
      exact h.codexWait (codexWait_panics_iff.mpr ⟨text, hgives, hcut⟩)
    · by_contra hcut
      exact h.geminiWait (geminiWait_panics_iff.mpr ⟨text, hgives, hcut⟩)
  · rintro ⟨hcodex, hgemini, hevents⟩
    refine ⟨fun hpanic => ?_, fun hpanic => ?_, firstUsageLimitPause_ne_none_iff.mpr hevents,
      fun text shown => Text.truncated_of_truncateBytes, fun pause => evidence_of_firstUsageLimitPause⟩
    · obtain ⟨text, hgives, hcut⟩ := codexWait_panics_iff.mp hpanic
      exact hcut (hcodex text hgives)
    · obtain ⟨text, hgives, hcut⟩ := geminiWait_panics_iff.mp hpanic
      exact hcut (hgemini text hgives)

/-! ## Texts that panic -/

def bars (count : Nat) : String := String.ofList (List.replicate count '│')

def rulerCapture : String := "-" ++ bars 60

def limitError : String := "usage limit: " ++ bars 76

theorem toList_bars (count : Nat) : (bars count).toList = List.replicate count '│' :=
  String.toList_ofList

theorem mem_rulerCapture {c : Char} (h : c ∈ rulerCapture.toList) : c = '-' ∨ c = '│' := by
  rw [rulerCapture, String.toList_append, toList_bars] at h
  rcases List.mem_append.mp h with h | h
  · exact Or.inl (List.mem_singleton.mp h)
  · exact Or.inr (List.eq_of_mem_replicate h)

theorem collapseWhitespace_rulerCapture : Text.collapseWhitespace rulerCapture = rulerCapture := by
  have hvisible : ∀ c ∈ rulerCapture.toList, isWhitespace c = false := by
    intro c hc
    rcases mem_rulerCapture hc with rfl | rfl <;> decide
  have hne : (!rulerCapture.toList.isEmpty) = true := by
    rw [rulerCapture, String.toList_append, show "-".toList = ['-'] by decide, List.singleton_append,
      List.isEmpty_cons]
    rfl
  rw [← String.toList_inj, toList_collapseWhitespace, List.splitOnP_eq_singleton hvisible,
    List.filter_singleton, hne, cond_true, List.intercalate_singleton]

theorem normalizedPaneText_rulerCapture :
    normalizedPaneText Text.UnicodeCase.ascii rulerCapture = rulerCapture := by
  rw [normalizedPaneText, collapseWhitespace_rulerCapture]
  show String.ofList (rulerCapture.toList.map toAsciiLowercaseChar) = rulerCapture
  rw [List.map_congr_left (g := id), List.map_id, String.ofList_toList]
  intro c hc
  rcases mem_rulerCapture hc with rfl | rfl <;> decide

theorem not_contains_rulerCapture {phrase : String}
    (h : (phrase.toList.any fun c => c != '-' && c != '│') = true) :
    Text.contains rulerCapture phrase = false := by
  obtain ⟨c, hc, hother⟩ := List.any_eq_true.mp h
  obtain ⟨hdash, hbar⟩ := (Bool.and_eq_true _ _).mp hother
  refine decide_eq_false fun hwithin => ?_
  rcases mem_rulerCapture (hwithin.subset hc) with heq | heq
  · exact bne_iff_ne.mp hdash heq
  · exact bne_iff_ne.mp hbar heq

theorem rulerCapture_passedOver (pane : TmuxPane) (hcase : pane.case = Text.UnicodeCase.ascii)
    (hcapture : pane.captures 0 = .ok rulerCapture) : PassedOver pane (codexScreen pane) 0 := by
  have hshows : ∀ {phrases : List String},
      (phrases.all fun phrase => phrase.toList.any fun c => c != '-' && c != '│') = true →
      showsAny rulerCapture phrases = false := by
    intro phrases h
    exact List.any_eq_false.mpr fun phrase hmem => by
      rw [not_contains_rulerCapture (List.all_eq_true.mp h phrase hmem)]
      exact Bool.false_ne_true
  have hprompt : codexWorkspaceTrustPromptVisible Text.UnicodeCase.ascii rulerCapture = false := by
    rw [codexWorkspaceTrustPromptVisible, normalizedPaneText_rulerCapture,
      hshows (by decide), Bool.false_or, List.all_cons,
      not_contains_rulerCapture (by decide), Bool.false_and]
  have hready : codexViewportReady Text.UnicodeCase.ascii rulerCapture = false := by
    have hbar : rulerCapture.toList.contains '›' = false ∧ rulerCapture.toList.contains '▌' = false := by
      constructor <;>
        · rw [← Bool.not_eq_true, List.contains_iff_mem]
          intro hmem
          rcases mem_rulerCapture hmem with h | h <;> cases h
    rw [codexViewportReady, normalizedPaneText_rulerCapture, hshows (by decide), hbar.1,
      hbar.2, Bool.or_false, Bool.or_false, Bool.and_false]
  refine ⟨rulerCapture, hcapture, ?_⟩
  rw [codexScreen, hcase, hready, hprompt]
  rfl

theorem toList_limitError : limitError.toList
    = "usage".toList ++ ' ' :: ("limit:".toList ++ ' ' :: List.replicate 76 '│') := by
  rw [limitError, String.toList_append, toList_bars,
    show "usage limit: ".toList = "usage".toList ++ ' ' :: ("limit:".toList ++ [' ']) by decide]
  simp only [List.append_assoc, List.cons_append, List.nil_append]

theorem collapseWhitespace_limitError : Text.collapseWhitespace limitError = limitError := by
  have hbars : ∀ c ∈ List.replicate 76 '│', isWhitespace c = false := by
    intro c hc
    rw [List.eq_of_mem_replicate hc]
    decide
  have hword : ∀ {word : List Char}, (word.all fun c => !isWhitespace c) = true →
      ∀ c ∈ word, isWhitespace c = false := fun h c hc => by
    simpa only [Bool.not_eq_true'] using List.all_eq_true.mp h c hc
  have hpieces : limitError.toList.splitOnP isWhitespace
      = ["usage".toList, "limit:".toList, List.replicate 76 '│'] := by
    rw [toList_limitError, List.splitOnP_append_cons _ _ (by decide),
      List.splitOnP_append_cons _ _ (by decide), List.splitOnP_eq_singleton hbars,
      List.splitOnP_eq_singleton (hword (by decide)),
      List.splitOnP_eq_singleton (hword (by decide))]
    rfl
  have hjoin : ∀ runs : List Char, runs ≠ [] →
      [' '].intercalate (["usage".toList, "limit:".toList, runs].filter fun run => !run.isEmpty)
        = "usage".toList ++ ' ' :: ("limit:".toList ++ ' ' :: runs) := by
    intro runs hruns
    cases runs with
    | nil => exact absurd rfl hruns
    | cons c runs => simp [List.intercalate, List.intersperse]
  rw [← String.toList_inj, toList_collapseWhitespace, hpieces, toList_limitError]
  exact hjoin _ (by simp)

theorem speaksOfUsageLimit_limitError : speaksOfUsageLimit limitError = true := by
  refine List.any_eq_true.mpr ⟨("usage_limit", "usage limit"), List.mem_cons_self, decide_eq_true ?_⟩
  refine ⟨[], ":".toList ++ ' ' :: (List.replicate 76 '│').map toAsciiLowercaseChar, ?_⟩
  rw [toAsciiLowercase, String.toList_ofList, toList_limitError, List.map_append, List.map_cons,
    List.map_append, List.map_cons, show "usage".toList.map toAsciiLowercaseChar = "usage".toList
      by decide, show "limit:".toList.map toAsciiLowercaseChar = "limit:".toList by decide,
    show toAsciiLowercaseChar ' ' = ' ' by decide]
  generalize (List.replicate 76 '│').map toAsciiLowercaseChar = shown
  simp

/-- A pane that shows a ruler, and an error that ends in one. -/
theorem evidence_panics :
    (¬ EvidenceReturns
      { case := Text.UnicodeCase.ascii
        env := fun name =>
          if name = "SHEA_SYMPHONY_CODEX_TMUX_READINESS_ATTEMPTS" then some "1" else none
        processEnv := fun _ => none
        workspace := []
        canonicalize := some
        captures := fun _ => .ok rulerCapture
        keys := fun _ => .ok () } "" [])
      ∧ usageLimitPauseFromEvents [.failed "claude-code" limitError] = none := by
  constructor
  · intro h
    refine h.codexWait (codexWait_panics_iff.mpr ⟨rulerCapture, .unready (fun k hk => ?_), ?_⟩)
    · have hone : k < 1 := hk
      obtain rfl : k = 0 := by omega
      exact rulerCapture_passedOver _ rfl rfl
    · rw [collapseWhitespace_rulerCapture]
      exact Text.not_cutsAt_replicate (by decide) (by decide) (by decide)
  · by_contra hsome
    refine absurd (firstUsageLimitPause_ne_none_iff.mp hsome limitError ?_) ?_
    · exact List.find?_cons_of_pos speaksOfUsageLimit_limitError
    · rw [collapseWhitespace_limitError]
      exact Text.not_cutsAt_replicate (by decide) (by decide) (by decide)

end SheaSymphony.Agent

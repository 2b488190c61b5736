import SheaSymphony.Latest
import SheaSymphony.ProjectorForward

/-!
# Delivery order does not matter

Seen through its run, start, status and outcome, the row of a workflow is a
register that keeps its highest-ranked evidence (`Latest`). A description ranks
by its start time first; among descriptions of one start an open one ranks
below an unclassified close, and that below a classified one. The projector
keeps the row when a description does not outrank what is shown and adopts the
description when it does (`projectStep_shows`), so after any delivery order,
with any repetitions, the row shows the same.

The assumptions a `History` collects are those of one workflow chain: the same
start facts throughout, one start per run and one run per start, closes of the
latest run only, and no two close classifications that contradict each other.
-/

namespace SheaSymphony.LocalState

/-- A Describe-backed observation, open or closed. -/
structure Description where
  facts : ActivationFacts
  runId : String
  startedAt : OffsetDateTime
  observedAt : OffsetDateTime
  close : Option (Option WorkflowCloseStatus × Option OffsetDateTime)

namespace Description

def observation (d : Description) : WorkflowLifecycleObservation :=
  match d.close with
  | none => .describeOpen d.facts d.runId d.startedAt d.observedAt
  | some (closeStatus, closedAt) =>
      .describeClosed d.facts d.runId d.startedAt closeStatus closedAt d.observedAt

@[simp] theorem facts_observation (d : Description) : d.observation.facts = d.facts := by
  unfold observation
  split <;> rfl

/-- The moment the described run started. -/
def start (d : Description) : Int := d.startedAt.unixNanos

/-- How far along its run a description is. -/
def phase (d : Description) : Int :=
  match d.close with
  | none => 0
  | some (none, _) => 1
  | some (some _, _) => 2

/-- Start time first, phase second: three phases fit between two starts. -/
def rank (d : Description) : Int := 3 * d.start + d.phase

theorem phase_bounds (d : Description) : 0 ≤ d.phase ∧ d.phase ≤ 2 := by
  unfold phase
  split <;> omega

theorem rank_le_iff {a b : Description} :
    a.rank ≤ b.rank ↔ a.start < b.start ∨ (a.start = b.start ∧ a.phase ≤ b.phase) := by
  have ha := a.phase_bounds
  have hb := b.phase_bounds
  unfold rank
  omega

/-- The status and outcome a description claims. -/
def lifecycle (d : Description) : WorkflowIndexStatus × Option WorkflowTerminalOutcome :=
  match d.close with
  | none => (.running, none)
  | some (closeStatus, _) =>
      ((terminalProjection closeStatus).1, some (terminalProjection closeStatus).2)

/-- The projector stores the description when nothing is stored. -/
def Admissible (rfc : Rfc3339) (d : Description) : Prop :=
  (∃ startedAt observedAt,
      Accepted rfc d.facts d.runId d.startedAt d.observedAt startedAt observedAt)
    ∧ d.facts.issueRef.repoId = d.facts.repoId

end Description

/-- What the convergence of a row is about. -/
structure Shown where
  runId : Option String
  startedAt : String
  status : WorkflowIndexStatus
  terminalOutcome : Option WorkflowTerminalOutcome
deriving DecidableEq

def WorkflowIndexRow.shown (row : WorkflowIndexRow) : Shown where
  runId := row.runId
  startedAt := row.startedAt
  status := row.status
  terminalOutcome := row.terminalOutcome

/-- What a row shows that stands for a description; the text of its start is
only used of descriptions that were accepted, which have one. -/
def Description.shown (rfc : Rfc3339) (d : Description) : Shown where
  runId := some d.runId
  startedAt := (rfc.format d.start).toOption.getD ""
  status := d.lifecycle.1
  terminalOutcome := d.lifecycle.2

/-- The activation facts without the caller's tracker context. -/
def ActivationFacts.startFacts (facts : ActivationFacts) : ActivationFacts :=
  { facts with currentState := "" }

/-- The descriptions of one workflow chain. -/
structure History (facts : ActivationFacts) (seen : List Description) : Prop where
  sameFacts : ∀ a ∈ seen, a.facts.startFacts = facts.startFacts
  oneStart : ∀ a ∈ seen, ∀ b ∈ seen, a.runId = b.runId → a.start = b.start
  distinctStarts : ∀ a ∈ seen, ∀ b ∈ seen, a.start = b.start → a.runId = b.runId
  closedLatest : ∀ a ∈ seen, a.close.isSome = true → ∀ b ∈ seen, b.start ≤ a.start
  agree : ∀ a ∈ seen, ∀ b ∈ seen, ∀ ca cb ta tb,
    a.close = some (some ca, ta) → b.close = some (some cb, tb) → ca = cb

theorem History.coherent {rfc : Rfc3339} {facts : ActivationFacts} {seen : List Description}
    (h : History facts seen) :
    ∀ a ∈ seen, ∀ b ∈ seen, a.rank = b.rank → a.shown rfc = b.shown rfc := by
  intro a ha b hb hrank
  obtain hlt | ⟨hstart, hle⟩ := Description.rank_le_iff.mp hrank.le
  · have hb' := Description.rank_le_iff.mp hrank.ge
    omega
  have hphase : a.phase = b.phase := by
    have hge := Description.rank_le_iff.mp hrank.ge
    omega
  have hlife : a.lifecycle = b.lifecycle := by
    unfold Description.phase at hphase
    unfold Description.lifecycle
    rcases hca : a.close with _ | ⟨_ | ca, ta⟩ <;> rcases hcb : b.close with _ | ⟨_ | cb, tb⟩ <;>
      rw [hca, hcb] at hphase
    -- Where the phases agree, only two classified closes could still differ.
    case some.some.some.some => rw [h.agree a ha b hb ca cb ta tb hca hcb]
    all_goals first | rfl | simp at hphase
  unfold Description.shown
  rw [h.distinctStarts a ha b hb hstart, hstart, hlife]

/-! ## One delivery -/

variable {closeStatus : Option WorkflowCloseStatus} {closedAt : Option OffsetDateTime}

section

variable {rfc : Rfc3339} {facts : ActivationFacts} {seen : List Description} {e d : Description}
  {row : WorkflowIndexRow} {startedAt observedAt : String}

theorem sameImmutableStartFacts_congr {a b : ActivationFacts} (h : a.startFacts = b.startFacts) :
    sameImmutableStartFacts row a = sameImmutableStartFacts row b := by
  simp only [ActivationFacts.startFacts, ActivationFacts.mk.injEq] at h
  obtain ⟨h1, h2, h3, h4, h5, -, h6, h7, h8, h9⟩ := h
  simp only [sameImmutableStartFacts, h1, h2, h3, h4, h5, h6, h7, h8, h9]

theorem Description.shown_startedAt
    (accepted : Accepted rfc d.facts d.runId d.startedAt d.observedAt startedAt observedAt) :
    (d.shown rfc).startedAt = startedAt := by
  have hformat : rfc.format d.start = .ok startedAt := accepted.startedAt
  simp [shown, hformat, Except.toOption]

/-- The decision of an accepted description. -/
def Description.decide (rfc : Rfc3339) (d : Description) (startedAt observedAt : String)
    (stored : Option WorkflowIndexRow) : Decision :=
  match d.close with
  | none => decideOpen rfc d.facts d.runId d.startedAt startedAt observedAt stored
  | some (closeStatus, _) =>
      decideClosed rfc d.facts d.runId d.startedAt startedAt observedAt closeStatus stored

theorem Description.decision_observation
    (accepted : Accepted rfc d.facts d.runId d.startedAt d.observedAt startedAt observedAt) :
    decision rfc d.observation = .ok (d.decide rfc startedAt observedAt) := by
  unfold observation
  cases hclose : d.close with
  | none =>
      rw [show d.decide rfc startedAt observedAt = _ from
        funext fun stored => by rw [Description.decide, hclose]]
      exact decision_describeOpen accepted
  | some close =>
      rw [show d.decide rfc startedAt observedAt = _ from
        funext fun stored => by rw [Description.decide, hclose]]
      exact decision_describeClosed accepted close.1 close.2

theorem Description.accepted_of_decision {D : Option WorkflowIndexRow → Decision}
    (h : decision rfc d.observation = .ok D) :
    ∃ startedAt observedAt,
      Accepted rfc d.facts d.runId d.startedAt d.observedAt startedAt observedAt := by
  unfold observation at h
  split at h
  · exact accepted_of_decision_describeOpen h
  · exact accepted_of_decision_describeClosed h

theorem Description.decide_none
    (accepted : Accepted rfc d.facts d.runId d.startedAt d.observedAt startedAt observedAt)
    (scope : d.facts.issueRef.repoId = d.facts.repoId) :
    ∃ row, (d.decide rfc startedAt observedAt none).written = some row
      ∧ row.shown = d.shown rfc ∧ sameImmutableStartFacts row d.facts = true
      ∧ row.repoId = d.facts.repoId.databaseKey ∧ row.issueRef = d.facts.issueRef.databaseKey := by
  have hstart := shown_startedAt accepted
  cases hclose : d.close with
  | none =>
      simp only [Description.decide, hclose, decideOpen, if_pos scope]
      refine ⟨_, rfl, ?_, sameImmutableStartFacts_describedRow .., rfl, rfl⟩
      rw [← hstart]
      simp [WorkflowIndexRow.shown, describedRow, Description.shown, lifecycle, hclose]
  | some close =>
      simp only [Description.decide, hclose, decideClosed, if_pos scope]
      refine ⟨_, rfl, ?_, sameImmutableStartFacts_describedRow .., rfl, rfl⟩
      rw [← hstart]
      simp [WorkflowIndexRow.shown, describedRow, Description.shown, lifecycle, hclose]

theorem newerRun_of_format {described : OffsetDateTime} {moment : Int} {D : Decision}
    (h : rfc.format moment = .ok row.startedAt) :
    newerRun rfc described row D
      = if described.unixNanos ≤ moment then .answer (.staleObservation row) else D := by
  obtain ⟨t, hparse, rfl⟩ := rfc.parse_format h
  simp [newerRun, parsePersistedTimestamp, hparse, Except.mapError]

theorem Description.lifecycle_eq_running_iff (d : Description) :
    d.lifecycle.1 = .running ↔ d.close = none := by
  unfold lifecycle
  cases d.close with
  | none => simp
  | some close => simp [terminalProjection_ne_running]

/-- Against a row that shows `e`, an open description either is outranked and
writes nothing, or outranks `e` and is shown instead. -/
theorem Description.decideOpen_some (history : History facts seen) (he : e ∈ seen) (hd : d ∈ seen)
    (hopen : d.close = none) (hstart : rfc.format e.start = .ok row.startedAt)
    (hshown : row.shown = e.shown rfc) (same : sameImmutableStartFacts row d.facts = true)
    (accepted : Accepted rfc d.facts d.runId d.startedAt d.observedAt startedAt observedAt) :
    (d.rank ≤ e.rank
        ∧ (decideOpen rfc d.facts d.runId d.startedAt startedAt observedAt (some row)).written
          = none)
      ∨ (e.rank ≤ d.rank ∧ ∃ row',
        (decideOpen rfc d.facts d.runId d.startedAt startedAt observedAt (some row)).written
          = some row'
        ∧ row'.shown = d.shown rfc ∧ sameImmutableStartFacts row' d.facts = true) := by
  have hrunId : row.runId = some e.runId := congrArg Shown.runId hshown
  have hstatus : row.status = e.lifecycle.1 := congrArg Shown.status hshown
  have hphase : d.phase = 0 := by rw [phase, hopen]
  have hbounds := e.phase_bounds
  simp only [decideOpen, same, Bool.true_eq_false, if_false]
  by_cases hclosed : e.close = none
  · have hrunning : row.status = .running := by rw [hstatus, lifecycle_eq_running_iff, hclosed]
    by_cases hrun : e.runId = d.runId
    · -- The stored run again: its start is the one stored.
      have hsame : e.start = d.start := history.oneStart e he d hd hrun
      have htext : row.startedAt = startedAt := by
        rw [hsame] at hstart
        exact Except.ok.inj (hstart.symm.trans accepted.startedAt)
      refine Or.inl ⟨rank_le_iff.mpr (Or.inr ⟨hsame.symm, by omega⟩), ?_⟩
      simp [hrunning, hrunId, hrun, htext, Decision.written]
    · rw [newerRun_of_format hstart]
      by_cases hnewer : d.start ≤ e.start
      · have hne : d.start ≠ e.start := fun h =>
          hrun (history.distinctStarts e he d hd h.symm)
        refine Or.inl ⟨rank_le_iff.mpr (Or.inl (by omega)), ?_⟩
        have hle : d.startedAt.unixNanos ≤ e.start := hnewer
        simp [hrunning, hrunId, hrun, hle, Decision.written]
      · refine Or.inr ⟨rank_le_iff.mpr (Or.inl (by omega)), ?_⟩
        have hle : ¬ d.startedAt.unixNanos ≤ e.start := hnewer
        refine ⟨reopened d.facts d.runId startedAt observedAt row, ?_, ?_, same⟩
        · simp [hrunning, hrunId, hrun, hle, Decision.written]
        · rw [← shown_startedAt accepted]
          simp [WorkflowIndexRow.shown, reopened, Description.shown, lifecycle, hopen]
  · -- A close of the latest run has been shown; no open description outranks it.
    have hne : row.status ≠ .running := by
      rw [hstatus]
      exact fun h => hclosed (e.lifecycle_eq_running_iff.mp h)
    have hle := history.closedLatest e he (Option.isSome_iff_ne_none.mpr hclosed) d hd
    refine Or.inl ⟨rank_le_iff.mpr ?_, ?_⟩
    · omega
    · simp [hne, Decision.written]

theorem Description.shown_closedBy (hclose : d.close = some (closeStatus, closedAt))
    (accepted : Accepted rfc d.facts d.runId d.startedAt d.observedAt startedAt observedAt) :
    (closedBy d.facts d.runId startedAt observedAt closeStatus row).shown = d.shown rfc := by
  rw [← shown_startedAt accepted]
  simp [WorkflowIndexRow.shown, closedBy, Description.shown, lifecycle, hclose]

theorem decideClose_of_final (final : Final row) (facts : ActivationFacts) (runId : String)
    (closeStatus : Option WorkflowCloseStatus) :
    (decideClose facts runId startedAt observedAt closeStatus row).written = none := by
  rcases final with h | h <;> simp only [decideClose, h, apply_ite Decision.written] <;>
    exact ite_self none

theorem Description.decideClose_some (history : History facts seen) (he : e ∈ seen)
    (hd : d ∈ seen) (hclose : d.close = some (closeStatus, closedAt)) (hrun : e.runId = d.runId)
    (hshown : row.shown = e.shown rfc) :
    (d.rank ≤ e.rank
        ∧ (decideClose d.facts d.runId startedAt observedAt closeStatus row).written = none)
      ∨ (e.rank ≤ d.rank
        ∧ (decideClose d.facts d.runId startedAt observedAt closeStatus row).written
          = some (closedBy d.facts d.runId startedAt observedAt closeStatus row)) := by
  have hstatus : row.status = e.lifecycle.1 := congrArg Shown.status hshown
  have houtcome : row.terminalOutcome = e.lifecycle.2 := congrArg Shown.terminalOutcome hshown
  have hsame : e.start = d.start := history.oneStart e he d hd hrun
  have hranks : (d.phase ≤ e.phase → d.rank ≤ e.rank) ∧ (e.phase ≤ d.phase → e.rank ≤ d.rank) :=
    ⟨fun h => rank_le_iff.mpr (Or.inr ⟨hsame.symm, h⟩),
      fun h => rank_le_iff.mpr (Or.inr ⟨hsame, h⟩)⟩
  have hbounds := d.phase_bounds
  unfold decideClose
  rcases hshow : e.close with _ | ⟨_ | shownClose, shownAt⟩
  · -- The shown run is running: any close says more.
    have hrunning : row.status = .running := by rw [hstatus, lifecycle_eq_running_iff, hshow]
    have hphase : e.phase = 0 := by rw [phase, hshow]
    rw [hrunning]
    exact Or.inr ⟨hranks.2 (by omega), rfl⟩
  · -- The shown close is unclassified: a classified one says more.
    have hunknown : row.status = .closedUnknown := by rw [hstatus, lifecycle, hshow]; rfl
    have hnone : row.terminalOutcome = some .closedUnknown := by
      rw [houtcome, lifecycle, hshow]; rfl
    have hphase : e.phase = 1 := by rw [phase, hshow]
    rw [hunknown, hnone]
    cases closeStatus with
    | none =>
        have hphase' : d.phase = 1 := by rw [phase, hclose]
        exact Or.inl ⟨hranks.1 (by omega), rfl⟩
    | some classified =>
        have hphase' : d.phase = 2 := by rw [phase, hclose]
        exact Or.inr ⟨hranks.2 (by omega), by cases classified <;> rfl⟩
  · -- The shown close is classified: nothing says more.
    have hphase : e.phase = 2 := by rw [phase, hshow]
    have hfinal : Final row := by
      rw [Final, hstatus, lifecycle, hshow]
      cases shownClose <;> simp [terminalProjection]
    exact Or.inl ⟨hranks.1 (by omega), decideClose_of_final hfinal d.facts d.runId closeStatus⟩

/-- Against a row that shows `e`, a close either is outranked and writes
nothing, or outranks `e` and is shown instead. -/
theorem Description.decideClosed_some (history : History facts seen) (he : e ∈ seen)
    (hd : d ∈ seen) (hclose : d.close = some (closeStatus, closedAt))
    (hstart : rfc.format e.start = .ok row.startedAt) (hshown : row.shown = e.shown rfc)
    (same : sameImmutableStartFacts row d.facts = true)
    (accepted : Accepted rfc d.facts d.runId d.startedAt d.observedAt startedAt observedAt) :
    (d.rank ≤ e.rank
        ∧ (decideClosed rfc d.facts d.runId d.startedAt startedAt observedAt closeStatus
          (some row)).written = none)
      ∨ (e.rank ≤ d.rank ∧ ∃ row',
        (decideClosed rfc d.facts d.runId d.startedAt startedAt observedAt closeStatus
          (some row)).written = some row'
        ∧ row'.shown = d.shown rfc ∧ sameImmutableStartFacts row' d.facts = true) := by
  have hrunId : row.runId = some e.runId := congrArg Shown.runId hshown
  have hstatus : row.status = e.lifecycle.1 := congrArg Shown.status hshown
  have hlatest := history.closedLatest d hd (by rw [hclose]; rfl) e he
  simp only [decideClosed, same, Bool.true_eq_false, if_false]
  by_cases hrun : e.runId = d.runId
  · have htext : row.startedAt = startedAt := by
      rw [history.oneStart e he d hd hrun] at hstart
      exact Except.ok.inj (hstart.symm.trans accepted.startedAt)
    rw [if_pos (by rw [hrunId, hrun]), if_neg (by simpa using htext)]
    rcases decideClose_some history he hd hclose hrun hshown with ⟨hrank, hw⟩ | ⟨hrank, hw⟩
    · exact Or.inl ⟨hrank, hw⟩
    · exact Or.inr ⟨hrank, _, hw, shown_closedBy hclose accepted, same⟩
  · -- A close of another run is a close of a later one, and the shown run is open.
    have hne : e.start ≠ d.start := fun h => hrun (history.distinctStarts e he d hd h)
    have hopen : e.close = none := by
      by_contra hclosed
      have := history.closedLatest e he (Option.isSome_iff_ne_none.mpr hclosed) d hd
      omega
    have hrunning : row.status = .running := by rw [hstatus, lifecycle_eq_running_iff, hopen]
    have hle : ¬ d.startedAt.unixNanos ≤ e.start := by
      change ¬ d.start ≤ e.start
      omega
    rw [if_neg (by rw [hrunId]; simpa using hrun), if_neg (by simpa using hrunning),
      newerRun_of_format hstart, if_neg hle]
    refine Or.inr ⟨rank_le_iff.mpr (Or.inl (by omega)), _, rfl, ?_, same⟩
    exact shown_closedBy hclose accepted

theorem Description.decide_some (history : History facts seen) (he : e ∈ seen) (hd : d ∈ seen)
    (hstart : rfc.format e.start = .ok row.startedAt) (hshown : row.shown = e.shown rfc)
    (same : sameImmutableStartFacts row d.facts = true)
    (accepted : Accepted rfc d.facts d.runId d.startedAt d.observedAt startedAt observedAt) :
    (d.rank ≤ e.rank ∧ (d.decide rfc startedAt observedAt (some row)).written = none)
      ∨ (e.rank ≤ d.rank ∧ ∃ row',
        (d.decide rfc startedAt observedAt (some row)).written = some row'
        ∧ row'.shown = d.shown rfc ∧ sameImmutableStartFacts row' d.facts = true) := by
  unfold Description.decide
  cases hclose : d.close with
  | none => exact decideOpen_some history he hd hclose hstart hshown same accepted
  | some close => exact decideClosed_some history he hd hclose hstart hshown same accepted

theorem Description.decide_of_not_scope (scope : ¬ d.facts.issueRef.repoId = d.facts.repoId) :
    (d.decide rfc startedAt observedAt none).written = none := by
  unfold Description.decide
  split <;> simp [decideOpen, decideClosed, scope, Decision.written]

end

/-! ## Runs of deliveries -/

/-- What a table shows of a workflow after the admissible descriptions `seen`:
no other row is active for its issue, and its row is the register of `seen`. -/
structure Shows (rfc : Rfc3339) (facts : ActivationFacts) (table : Table)
    (seen : List Description) : Prop where
  free : ∀ text ∈ table.rows, text.workflowId ≠ facts.workflowId →
    activeIssue text ≠ some (facts.repoId.databaseKey, facts.issueRef.databaseKey)
  admissible : ∀ d ∈ seen, d.Admissible rfc
  row : ∃ stored : Option WorkflowIndexRow,
    table.lookup facts.workflowId = stored.map WorkflowIndexRow.stored
      ∧ (∀ row, stored = some row → sameImmutableStartFacts row facts = true)
      ∧ Latest Description.rank (Description.shown rfc) seen (stored.map WorkflowIndexRow.shown)

theorem ActivationFacts.startFacts_inj {a b : ActivationFacts} (h : a.startFacts = b.startFacts) :
    a.workflowId = b.workflowId ∧ a.repoId = b.repoId ∧ a.issueRef = b.issueRef := by
  simp only [startFacts, ActivationFacts.mk.injEq] at h
  exact ⟨h.1, h.2.2.1, h.2.2.2.1⟩

section

variable {rfc : Rfc3339} {facts : ActivationFacts} {table : Table} {all seen : List Description}
  {sqlite : Sqlite} {d : Description}

theorem Shows.free_project (h : Shows rfc facts table seen) (db : LocalStateDatabase)
    (sqlite : Sqlite) {o : WorkflowLifecycleObservation}
    (ho : o.facts.workflowId = facts.workflowId) :
    ∀ text ∈ (project rfc db sqlite o table).2.rows, text.workflowId ≠ facts.workflowId →
      activeIssue text ≠ some (facts.repoId.databaseKey, facts.issueRef.databaseKey) := by
  rcases project_cases rfc db sqlite o table with ⟨stored, row, -, m, w⟩ | ⟨-, hsame⟩
  · intro text htext hne
    rcases w.mem_rows htext with rfl | hold
    · exact absurd (m.workflowId.trans ho) hne
    · exact h.free text hold hne
  · rw [hsame]
    exact h.free

theorem Shows.format_start {row : WorkflowIndexRow} {e : Description} (admissible : e.Admissible rfc)
    (hview : e.shown rfc = row.shown) : rfc.format e.start = .ok row.startedAt := by
  obtain ⟨⟨startedAt, observedAt, accepted⟩, -⟩ := admissible
  have htext := Description.shown_startedAt accepted
  rw [hview] at htext
  exact accepted.startedAt.trans (congrArg Except.ok htext.symm)

theorem Shows.project_admissible (h : Shows rfc facts table seen) (history : History facts all)
    (hseen : ∀ a ∈ seen, a ∈ all) (hd : d ∈ all) (healthy : sqlite.Healthy)
    (db : LocalStateDatabase) (admissible : d.Admissible rfc) :
    Shows rfc facts (project rfc db sqlite d.observation table).2 (seen ++ [d]) := by
  have hfacts := history.sameFacts d hd
  obtain ⟨hkey, hrepo, hissue⟩ := ActivationFacts.startFacts_inj hfacts
  have hkey' : d.observation.facts.workflowId = facts.workflowId := by
    rw [d.facts_observation, hkey]
  obtain ⟨stored, hlookup, hsame, hlatest⟩ := h.row
  obtain ⟨⟨startedAt, observedAt, accepted⟩, scope⟩ := id admissible
  have hfree := h.free_project db sqlite hkey'
  have hadmissible : ∀ a ∈ seen ++ [d], a.Admissible rfc := by
    intro a ha
    rcases List.mem_append.mp ha with ha | ha
    · exact h.admissible a ha
    · rw [List.mem_singleton.mp ha]
      exact admissible
  have hafter := lookup_project_of_healthy healthy db (Description.decision_observation accepted)
    (by rw [hkey', hlookup]) ?_
  · rw [hkey'] at hafter
    cases stored with
    | none =>
        obtain ⟨row, hwritten, hshown, hsame', -⟩ := Description.decide_none accepted scope
        rw [hwritten] at hafter
        refine ⟨hfree, hadmissible, some row, hafter, ?_, ?_⟩
        · intro row' he
          rw [← Option.some.inj he, ← sameImmutableStartFacts_congr hfacts]
          exact hsame'
        · have hnil : seen = [] := hlatest
          rw [Option.map_some, hshown, hnil]
          exact Latest.adopt fun a ha => absurd ha List.not_mem_nil
    | some row =>
        obtain ⟨e, he, hview, hmax⟩ := hlatest
        have hrow : sameImmutableStartFacts row d.facts = true := by
          rw [sameImmutableStartFacts_congr hfacts]
          exact hsame row rfl
        rcases Description.decide_some history (hseen e he) hd
            (Shows.format_start (h.admissible e he) hview) hview.symm hrow accepted
          with ⟨hrank, hw⟩ | ⟨hrank, row', hw, hshown, hsame'⟩
        · rw [hw] at hafter
          refine ⟨hfree, hadmissible, some row, hafter, hsame, ?_⟩
          rw [Option.map_some, ← hview]
          exact Latest.keep he hmax hrank
        · rw [hw] at hafter
          refine ⟨hfree, hadmissible, some row', hafter, ?_, ?_⟩
          · intro row'' heq
            rw [← Option.some.inj heq, ← sameImmutableStartFacts_congr hfacts]
            exact hsame'
          · rw [Option.map_some, hshown]
            exact Latest.adopt fun a ha => (hmax a ha).trans hrank
  · -- The slot of a first row is free: no other row is active for its issue.
    rintro row hwritten rfl
    obtain ⟨row', hw, -, -, hrepo', hissue'⟩ := Description.decide_none accepted scope
    obtain rfl := Option.some.inj (hw.symm.trans hwritten)
    rw [hrepo', hissue', hrepo, hissue]
    refine Store.occupant_eq_none.mpr fun text htext => h.free text htext fun heq => ?_
    exact Store.lookup_eq_none.mp hlookup text htext heq

theorem Shows.project_inadmissible (h : Shows rfc facts table seen) (history : History facts all)
    (hseen : ∀ a ∈ seen, a ∈ all) (hd : d ∈ all) (healthy : sqlite.Healthy)
    (db : LocalStateDatabase) (inadmissible : ¬ d.Admissible rfc) :
    Shows rfc facts (project rfc db sqlite d.observation table).2 seen := by
  obtain ⟨hkey, hrepo, hissue⟩ := ActivationFacts.startFacts_inj (history.sameFacts d hd)
  have hkey' : d.observation.facts.workflowId = facts.workflowId := by
    rw [d.facts_observation, hkey]
  obtain ⟨stored, hlookup, hsame, hlatest⟩ := h.row
  refine ⟨h.free_project db sqlite hkey', h.admissible, stored, ?_, hsame, hlatest⟩
  cases hdec : decision rfc d.observation with
  | error e =>
      rw [project_eq, hdec]
      exact hlookup
  | ok D =>
      obtain ⟨startedAt, observedAt, accepted⟩ := Description.accepted_of_decision hdec
      have hscope : ¬ d.facts.issueRef.repoId = d.facts.repoId := fun hscope =>
        inadmissible ⟨⟨startedAt, observedAt, accepted⟩, hscope⟩
      cases stored with
      | some row =>
          -- What the stored row shows had the scope this description lacks.
          obtain ⟨e, he, -, -⟩ := hlatest
          obtain ⟨-, hrepo', hissue'⟩ :=
            ActivationFacts.startFacts_inj (history.sameFacts e (hseen e he))
          have hscope' := (h.admissible e he).2
          rw [hrepo', hissue', ← hrepo, ← hissue] at hscope'
          exact absurd hscope' hscope
      | none =>
          have hnone : (d.decide rfc startedAt observedAt none).written = none :=
            Description.decide_of_not_scope hscope
          have hafter := lookup_project_of_healthy healthy db
            (Description.decision_observation accepted) (by rw [hkey', hlookup])
            (fun row hw _ => by rw [hnone] at hw; cases hw)
          rw [hnone, hkey'] at hafter
          exact hafter

end

/-- The table after a sequence of deliveries. -/
def deliver (rfc : Rfc3339) (db : LocalStateDatabase) (table : Table)
    (deliveries : List (Sqlite × Description)) : Table :=
  Runs.run (projectStep rfc db) table (deliveries.map fun x => (x.1, x.2.observation))

theorem deliver_cons (rfc : Rfc3339) (db : LocalStateDatabase) (table : Table)
    (x : Sqlite × Description) (deliveries : List (Sqlite × Description)) :
    deliver rfc db table (x :: deliveries)
      = deliver rfc db (project rfc db x.1 x.2.observation table).2 deliveries := by
  rw [deliver, List.map_cons, Runs.run_cons]
  unfold projectStep
  rfl

theorem Shows.deliver {rfc : Rfc3339} (db : LocalStateDatabase) {facts : ActivationFacts}
    {all : List Description} (history : History facts all)
    (deliveries : List (Sqlite × Description)) {table : Table} {seen : List Description}
    (hdeliveries : ∀ x ∈ deliveries, x.1.Healthy ∧ x.2 ∈ all) (hseen : ∀ a ∈ seen, a ∈ all)
    (h : Shows rfc facts table seen) :
    ∃ seen', (∀ a, a ∈ seen' ↔ a ∈ seen ∨ ∃ x ∈ deliveries, x.2 = a ∧ a.Admissible rfc)
      ∧ Shows rfc facts (deliver rfc db table deliveries) seen' := by
  induction deliveries generalizing table seen with
  | nil => exact ⟨seen, by simp, h⟩
  | cons x deliveries ih =>
      rw [deliver_cons]
      obtain ⟨hhealthy, hmem⟩ := hdeliveries x List.mem_cons_self
      have htail : ∀ y ∈ deliveries, y.1.Healthy ∧ y.2 ∈ all := fun y hy =>
        hdeliveries y (List.mem_cons_of_mem _ hy)
      by_cases hadmissible : x.2.Admissible rfc
      · have hseen' : ∀ a ∈ seen ++ [x.2], a ∈ all := by
          intro a ha
          rcases List.mem_append.mp ha with ha | ha
          · exact hseen a ha
          · rw [List.mem_singleton.mp ha]
            exact hmem
        obtain ⟨seen', hmem', hshows⟩ :=
          ih htail hseen' (h.project_admissible history hseen hmem hhealthy db hadmissible)
        refine ⟨seen', fun a => (hmem' a).trans ?_, hshows⟩
        simp only [List.mem_append, List.mem_singleton, List.exists_mem_cons_iff, or_assoc]
        refine or_congr_right (or_congr_left ⟨?_, fun hx => hx.1.symm⟩)
        rintro rfl
        exact ⟨rfl, hadmissible⟩
      · obtain ⟨seen', hmem', hshows⟩ :=
          ih htail hseen (h.project_inadmissible history hseen hmem hhealthy db hadmissible)
        refine ⟨seen', fun a => (hmem' a).trans ?_, hshows⟩
        simp only [List.exists_mem_cons_iff]
        refine or_congr_right (Iff.symm (or_iff_right ?_))
        rintro ⟨rfl, ha⟩
        exact hadmissible ha

/-- Delivered to a table without a row for the workflow, descriptions are shown
as far as they are admissible. -/
theorem Shows.deliver_first {rfc : Rfc3339} (db : LocalStateDatabase) {facts : ActivationFacts}
    {all : List Description} (history : History facts all) {table : Table}
    (absent : table.lookup facts.workflowId = none)
    (free : ∀ text ∈ table.rows,
      activeIssue text ≠ some (facts.repoId.databaseKey, facts.issueRef.databaseKey))
    {deliveries : List (Sqlite × Description)} (healthy : ∀ x ∈ deliveries, x.1.Healthy)
    (same : ∀ d, d ∈ all ↔ d ∈ deliveries.map Prod.snd) :
    ∃ seen, (∀ a, a ∈ seen ↔ a ∈ all ∧ a.Admissible rfc)
      ∧ Shows rfc facts (LocalState.deliver rfc db table deliveries) seen := by
  have hstart : Shows rfc facts table [] :=
    ⟨fun text htext _ => free text htext, fun _ h => absurd h List.not_mem_nil,
      none, absent, fun _ h => (by cases h), Latest.nil⟩
  obtain ⟨seen, hseen, hshows⟩ := Shows.deliver db history deliveries
    (fun x hx => ⟨healthy x hx, (same x.2).mpr (List.mem_map_of_mem hx)⟩)
    (fun _ h => absurd h List.not_mem_nil) hstart
  refine ⟨seen, fun a => ?_, hshows⟩
  rw [hseen, same]
  simp only [List.not_mem_nil, false_or, List.mem_map]
  constructor
  · rintro ⟨x, hx, he, ha⟩
    exact ⟨⟨x, hx, he⟩, ha⟩
  · rintro ⟨⟨x, hx, he⟩, ha⟩
    exact ⟨x, hx, he, ha⟩

/-- Every order of delivery, with any repetition, of the descriptions of one
workflow chain ends with the same run, start, status and outcome in the stored
row, and there is a row as soon as one description is admissible. -/
theorem delivery_order_immaterial {rfc : Rfc3339} {db : LocalStateDatabase}
    {facts : ActivationFacts} {table : Table}
    (absent : table.lookup facts.workflowId = none)
    (free : ∀ text ∈ table.rows,
      activeIssue text ≠ some (facts.repoId.databaseKey, facts.issueRef.databaseKey))
    {deliveries deliveries' : List (Sqlite × Description)}
    (healthy : ∀ x ∈ deliveries ++ deliveries', x.1.Healthy)
    (history : History facts (deliveries.map Prod.snd))
    (same : ∀ d, d ∈ deliveries.map Prod.snd ↔ d ∈ deliveries'.map Prod.snd) :
    ∃ stored stored' : Option WorkflowIndexRow,
      (deliver rfc db table deliveries).lookup facts.workflowId
          = stored.map WorkflowIndexRow.stored
        ∧ (deliver rfc db table deliveries').lookup facts.workflowId
          = stored'.map WorkflowIndexRow.stored
        ∧ stored.map WorkflowIndexRow.shown = stored'.map WorkflowIndexRow.shown
        ∧ ((∃ d ∈ deliveries.map Prod.snd, d.Admissible rfc) → stored.isSome = true) := by
  obtain ⟨seen, hmem, hshows⟩ := Shows.deliver_first db history absent free
    (fun x hx => healthy x (List.mem_append_left _ hx)) (fun _ => Iff.rfl)
  obtain ⟨seen', hmem', hshows'⟩ := Shows.deliver_first db history absent free
    (fun x hx => healthy x (List.mem_append_right _ hx)) same
  obtain ⟨stored, hlookup, -, hlatest⟩ := hshows.row
  obtain ⟨stored', hlookup', -, hlatest'⟩ := hshows'.row
  refine ⟨stored, stored', hlookup, hlookup', ?_, ?_⟩
  · exact Latest.eq_of_same (fun a => (hmem a).trans (hmem' a).symm)
      (fun a ha b hb => history.coherent a ((hmem a).mp ha).1 b ((hmem b).mp hb).1) hlatest hlatest'
  · rintro ⟨d, hd, hadmissible⟩
    cases stored with
    | some row => rfl
    | none =>
        have hnil : seen = [] := hlatest
        have hin := (hmem d).mpr ⟨hd, hadmissible⟩
        rw [hnil] at hin
        exact absurd hin List.not_mem_nil

/-- `run-1`, started in second 1, seen running. -/
def sampleStart : Description where
  facts := sampleFacts
  runId := "run-1"
  startedAt := Rfc3339.epochSecond 1
  observedAt := Rfc3339.epochSecond 2
  close := none

/-- `run-2`, started in second 5, seen completed. -/
def sampleFinish : Description where
  facts := sampleFacts
  runId := "run-2"
  startedAt := Rfc3339.epochSecond 5
  observedAt := Rfc3339.epochSecond 9
  close := some (some .completed, none)

theorem sample_history : History sampleFacts [sampleStart, sampleFinish] where
  sameFacts := by decide
  oneStart := by decide
  distinctStarts := by decide
  closedLatest := by decide
  agree := by
    intro a ha b hb ca cb ta tb hca hcb
    have hone : ∀ d ∈ [sampleStart, sampleFinish], ∀ c t, d.close = some (some c, t) →
        c = .completed := by
      simp only [List.mem_cons, List.not_mem_nil, or_false]
      rintro d (rfl | rfl) c t h
      · cases h
      · cases h; rfl
    rw [hone a ha ca ta hca, hone b hb cb tb hcb]

theorem delivery_order_immaterial_sample :
    ∃ stored stored' : Option WorkflowIndexRow,
      (deliver Rfc3339.epochMinute sampleDatabase Store.empty
          [(.willing, sampleStart), (.willing, sampleFinish)]).lookup sampleFacts.workflowId
            = stored.map WorkflowIndexRow.stored
        ∧ (deliver Rfc3339.epochMinute sampleDatabase Store.empty
          [(.willing, sampleFinish), (.willing, sampleStart), (.willing, sampleFinish)]).lookup
            sampleFacts.workflowId = stored'.map WorkflowIndexRow.stored
        ∧ stored.map WorkflowIndexRow.shown = stored'.map WorkflowIndexRow.shown
        ∧ ((∃ d ∈ [sampleStart, sampleFinish], d.Admissible Rfc3339.epochMinute) →
          stored.isSome = true) :=
  delivery_order_immaterial rfl (fun _ h => absurd h List.not_mem_nil)
    (by
      intro x hx
      simp only [List.cons_append, List.nil_append, List.mem_cons, List.not_mem_nil,
        or_false] at hx
      rcases hx with rfl | rfl | rfl | rfl | rfl <;> exact Sqlite.willing_healthy)
    sample_history
    (by intro d; simp only [List.map_cons, List.map_nil, List.mem_cons]; tauto)

end SheaSymphony.LocalState

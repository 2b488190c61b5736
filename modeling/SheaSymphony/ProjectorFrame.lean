import SheaSymphony.ProjectorForward

/-!
# Frame, atomicity and repetition

What a projection leaves alone, on any table that satisfies the schema and
whatever SQLite answers: an `Applied` outcome changes one row and returns it,
and every other return leaves the table as it was. A second projection of the
same observation has nothing left to write (`Material.settled`).
-/

namespace SheaSymphony.LocalState

section

variable {rfc : Rfc3339} {o : WorkflowLifecycleObservation} {prev row : WorkflowIndexRow}

theorem Material.keeps (m : Material rfc o (some prev) row) :
    SameStartFacts prev row ∧ row.lastProgressAt = prev.lastProgressAt := by
  cases m <;> exact ⟨⟨rfl, rfl, rfl, rfl, rfl, rfl, rfl, rfl, rfl⟩, rfl⟩

theorem decideClosed_of_closed {facts : ActivationFacts} {runId startedAt observedAt : String}
    {described : OffsetDateTime} {closeStatus : Option WorkflowCloseStatus}
    (same : sameImmutableStartFacts row facts = true) (run : row.runId = some runId)
    (start : row.startedAt = startedAt) (status : row.status = (terminalProjection closeStatus).1)
    (outcome : row.terminalOutcome = some (terminalProjection closeStatus).2) :
    (decideClosed rfc facts runId described startedAt observedAt closeStatus (some row)).written
      = none := by
  have hknown : decideClose facts runId startedAt observedAt closeStatus row
      = .answer (.alreadyApplied row) := by
    rcases closeStatus with _ | (_ | _ | _ | _ | _) <;>
      simp [decideClose, status, outcome, terminalProjection]
  simp [decideClosed, same, run, start, hknown, Decision.written]

theorem Material.settled {stored : Option WorkflowIndexRow} (m : Material rfc o stored row)
    {d : Option WorkflowIndexRow → Decision} (hd : decision rfc o = .ok d) :
    (d (some row)).written = none := by
  have hopen : ∀ {facts runId described startedAt observedAt},
      sameImmutableStartFacts row facts = true → row.status = .running →
      row.runId = some runId → row.startedAt = startedAt →
      (decideOpen rfc facts runId described startedAt observedAt (some row)).written = none := by
    intro facts runId described startedAt observedAt same status run start
    simp [decideOpen, same, status, run, start, Decision.written]
  cases m with
  | openInsert accepted =>
      obtain rfl := Except.ok.inj ((decision_describeOpen accepted).symm.trans hd)
      exact hopen (sameImmutableStartFacts_describedRow ..) rfl rfl rfl
  | closedInsert accepted =>
      obtain rfl := Except.ok.inj ((decision_describeClosed accepted _ _).symm.trans hd)
      exact decideClosed_of_closed (sameImmutableStartFacts_describedRow ..) rfl rfl rfl rfl
  | reopen accepted same =>
      obtain rfl := Except.ok.inj ((decision_describeOpen accepted).symm.trans hd)
      exact hopen same rfl rfl rfl
  | closeSame accepted same | closeNewer accepted same | refined accepted same =>
      obtain rfl := Except.ok.inj ((decision_describeClosed accepted _ _).symm.trans hd)
      exact decideClosed_of_closed same rfl rfl rfl rfl

theorem Write.not_occupied {table table' : Table} (w : Write row table table' none)
    (status : row.status = .running) : table.occupant (row.repoId, row.issueRef) = none := by
  cases w with
  | insert _ done =>
      refine Store.occupant_eq_none.mpr fun text htext hslot => ?_
      have hrow : activeIssue row.stored = some (row.repoId, row.issueRef) := by
        rw [activeIssue_stored, status]
        rfl
      have hviolation := Store.insert_eq_none.mpr (Or.inr ⟨_, hrow, text, htext, hslot⟩)
      rw [done] at hviolation
      cases hviolation

end

/-- After a projection that returned, the same observation changes nothing
more, whatever SQLite answers the second time. -/
theorem project_settled {rfc : Rfc3339} {db : LocalStateDatabase} {sqlite : Sqlite}
    {o : WorkflowLifecycleObservation} {table : Table}
    {outcome : WorkflowLifecycleProjectionOutcome}
    (h : (project rfc db sqlite o table).1 = .ok outcome) (sqlite' : Sqlite)
    (row : WorkflowIndexRow) :
    (project rfc db sqlite' o (project rfc db sqlite o table).2).1 ≠ .ok (.applied row) := by
  intro hagain
  obtain ⟨d, stored, hd, hlookup, hperform⟩ := project_eq_ok h
  obtain ⟨d', stored', hd', hlookup', hperform'⟩ := project_eq_ok hagain
  obtain rfl := Except.ok.inj (hd.symm.trans hd')
  have hjust' := decision_justified hd stored'
  rcases perform_eq_ok hlookup' hjust' hperform' with ⟨row', he, hw', m', w'⟩ | ⟨hne, -, -⟩
  case inr => exact hne row rfl
  rcases perform_eq_ok hlookup (decision_justified hd stored) hperform with
    ⟨first, rfl, -, m, w⟩ | ⟨-, hsame, hquiet⟩
  · -- The first projection stored a row, and that row settles the observation.
    have hfirst : stored' = some first := by
      rw [← m.workflowId, w.lookup_self] at hlookup'
      obtain ⟨b, rfl, hb⟩ := Option.map_eq_some_iff.mp hlookup'.symm
      rw [stored_injective hb]
    rw [hfirst, m.settled hd] at hw'
    cases hw'
  · -- The first projection wrote nothing, for a reason that is still there.
    rw [hsame, hlookup] at hlookup'
    have hstored : stored = stored' :=
      Option.map_injective (fun _ _ h => stored_injective h) hlookup'
    subst hstored
    rcases hquiet with hnone | ⟨open', hopen, hocc⟩
    · rw [hnone] at hw'
      cases hw'
    · rw [hopen] at hw' hjust'
      obtain rfl := Option.some.inj hw'
      obtain ⟨rfl, -, hrunning⟩ := hjust'
      rw [hsame] at w'
      exact hocc (w'.not_occupied hrunning)

/-- `project` is atomic and framed: `Applied` changes the row of its workflow
only, keeps its start columns and progress time, and returns it as stored; any
other return leaves the table unchanged. Start responses and start failures
never change it, and the same observation twice changes it once. -/
theorem project_frame (rfc : Rfc3339) (db : LocalStateDatabase) (sqlite : Sqlite)
    (o : WorkflowLifecycleObservation) (table : Table) :
    let result := project rfc db sqlite o table
    (∀ row, result.1 = .ok (.applied row) →
        result.2.lookup o.facts.workflowId = some row.stored
          ∧ (∀ workflowId, workflowId ≠ o.facts.workflowId →
            result.2.lookup workflowId = table.lookup workflowId)
          ∧ ∀ text, table.lookup o.facts.workflowId = some text →
            ∃ prev : WorkflowIndexRow, text = prev.stored ∧ SameStartFacts prev row
              ∧ row.lastProgressAt = prev.lastProgressAt)
      ∧ ((∀ row, result.1 ≠ .ok (.applied row)) → result.2 = table)
      ∧ (o.described = none → result.2 = table)
      ∧ ∀ sqlite', (sqlite' = sqlite ∨ ∃ outcome, result.1 = .ok outcome) →
        (project rfc db sqlite' o result.2).2 = result.2
          ∧ ∀ row, (project rfc db sqlite' o result.2).1 ≠ .ok (.applied row) := by
  intro result
  have hcases := project_cases rfc db sqlite o table
  refine ⟨fun row happlied => ?_, fun hne => ?_, fun hnone => ?_, fun sqlite' hagain => ?_⟩
  · rcases hcases with ⟨stored, row', hrow', m, w⟩ | ⟨hne, -⟩
    · have hrow : row' = row := by
        rw [happlied] at hrow'
        cases hrow'
        rfl
      subst hrow
      rw [← m.workflowId]
      refine ⟨w.lookup_self, fun workflowId hne => w.lookup_of_ne hne.symm, fun text htext => ?_⟩
      have hbefore := w.before
      rw [htext] at hbefore
      obtain ⟨prev, rfl, hprev⟩ := Option.map_eq_some_iff.mp hbefore.symm
      exact ⟨prev, hprev.symm, m.keeps⟩
    · exact absurd happlied (hne row)
  · rcases hcases with ⟨stored, row, hrow, -, -⟩ | ⟨-, hsame⟩
    · exact absurd hrow (hne row)
    · exact hsame
  · rcases hcases with ⟨stored, row, -, m, -⟩ | ⟨-, hsame⟩
    · cases m <;> cases hnone
    · exact hsame
  · have hnot : ∀ row, (project rfc db sqlite' o result.2).1 ≠ .ok (.applied row) := by
      intro row
      cases hout : result.1 with
      | ok outcome => exact project_settled hout sqlite' row
      | error e =>
          obtain rfl : sqlite' = sqlite := by
            rcases hagain with h | ⟨outcome, h⟩
            · exact h
            · rw [hout] at h; cases h
          have hsame : result.2 = table := project_eq_error hout
          rw [hsame]
          change result.1 ≠ _
          rw [hout]
          exact fun he => by cases he
    refine ⟨?_, hnot⟩
    rcases project_cases rfc db sqlite' o result.2 with ⟨stored, row, hrow, -, -⟩ | ⟨-, hsame⟩
    · exact absurd hrow (hnot row)
    · exact hsame

end SheaSymphony.LocalState

import SheaSymphony.Autoloop
import SheaSymphony.Traces
import Mathlib.Tactic.Linarith

/-!
# Accounting of the autoloop

What holds of the autoloop in whatever order its workers, its supervisor and an
interrupt take their turns. `Worker.Sound` says of a worker what its phase tells
about its own part of the trace; `World.Sound` adds what the supervisor has
counted. Both are kept by every step, and a worker's `rank` falls with each of
its moves.

The counters are `usize`: the total saturates and the iteration does too, so
work beyond `usizeMax` is not accounted for and a limit of `usizeMax` does not
bound the ticks.
-/

namespace SheaSymphony.Autoloop

/-! ## What the trace tells -/

def AutopilotLaneWorkerMessage.workUnits : AutopilotLaneWorkerMessage → Nat
  | .finished _ _ result => completedThisTick result
  | _ => 0

def Event.isStopped : Event → Bool
  | .sent (.stopped _ _ _) => true
  | _ => false

def ticks (history : List Event) : Nat := history.count .startedTick

def stops (history : List Event) : Nat := history.countP Event.isStopped

/-- No tick starts behind an observed cancellation. -/
def RespectsCancellation (history : List Event) : Prop :=
  Traces.Everywhere (fun earlier event => event = .startedTick → .observedCancellation ∉ earlier)
    history

/-- The part of the trace that is a worker's own. -/
def World.history (world : World) (index : Nat) : List Event :=
  world.trace.filterMap fun (sender, event) => if sender = index then some event else none

/-- The work in the messages the supervisor has taken. -/
def World.recordedWork (world : World) : Nat :=
  ((world.messages.take world.taken).map AutopilotLaneWorkerMessage.workUnits).sum

def AutopilotWorkUnitCounters.laneSum (counters : AutopilotWorkUnitCounters) : Nat :=
  (counters.lanes.map Prod.snd).sum

@[simp] theorem ticks_nil : ticks [] = 0 := rfl

@[simp] theorem stops_nil : stops [] = 0 := rfl

@[simp] theorem ticks_append (history events : List Event) :
    ticks (history ++ events) = ticks history + ticks events := List.count_append

@[simp] theorem stops_append (history events : List Event) :
    stops (history ++ events) = stops history + stops events := List.countP_append

theorem respectsCancellation_of_notMem {history : List Event}
    (h : .observedCancellation ∉ history) : RespectsCancellation history := by
  intro earlier event later heq _ hmem
  exact h (heq ▸ List.mem_append_left _ hmem)

theorem RespectsCancellation.append {history events : List Event}
    (h : RespectsCancellation history) (hevents : .startedTick ∉ events) :
    RespectsCancellation (history ++ events) :=
  Traces.Everywhere.append h fun _ hevent _ htick => absurd (htick ▸ hevent) hevents

/-! ## Workers -/

/-- The longest sleep between two ticks. -/
def longestDelayMs (pollIntervalMs : Nat) : Nat := max pollIntervalMs 60000

/-- Not stopped and not about to. -/
structure Fresh (history : List Event) : Prop where
  unobserved : .observedCancellation ∉ history
  unstopped : stops history = 0

/-- What a worker's phase says about its history. -/
def Worker.Sound (pollIntervalMs limit : Nat) (worker : Worker) (history : List Event) : Prop :=
  match worker.phase with
  | .head =>
      Fresh history ∧ ticks history + 1 = worker.iteration ∧ worker.iteration ≤ limit + 1
  | .loading | .reporting =>
      Fresh history ∧ ticks history + 1 = worker.iteration ∧ worker.iteration ≤ limit
  | .ticking => Fresh history ∧ ticks history = worker.iteration ∧ worker.iteration ≤ limit
  | .sleeping remainingMs =>
      Fresh history ∧ ticks history = worker.iteration ∧ worker.iteration ≤ limit
        ∧ remainingMs ≤ longestDelayMs pollIntervalMs
  | .stopping _ _ =>
      RespectsCancellation history ∧ stops history = 0 ∧ ticks history ≤ limit
  | .done => RespectsCancellation history ∧ stops history = 1 ∧ ticks history ≤ limit

/-- A bound on the moves a worker still makes. -/
def Worker.rank (pollIntervalMs limit : Nat) (worker : Worker) : Nat :=
  let perTick := longestDelayMs pollIntervalMs + 5
  let later := (limit - worker.iteration) * perTick + 2
  match worker.phase with
  | .head => (limit + 1 - worker.iteration) * perTick + 2
  | .loading => later + (longestDelayMs pollIntervalMs + 4)
  | .reporting => later + (longestDelayMs pollIntervalMs + 3)
  | .ticking => later + (longestDelayMs pollIntervalMs + 2)
  | .sleeping remainingMs => later + (remainingMs + 1)
  | .stopping _ _ => 1
  | .done => 0

/-- A move to `next` keeps the worker sound and brings it nearer to its end. -/
def Worker.Advances (pollIntervalMs limit : Nat) (worker : Worker) (history events : List Event)
    (next : Worker) : Prop :=
  next.Sound pollIntervalMs limit (history ++ events)
    ∧ next.rank pollIntervalMs limit < worker.rank pollIntervalMs limit

theorem Fresh.respectsCancellation {history : List Event} (h : Fresh history) :
    RespectsCancellation history := respectsCancellation_of_notMem h.unobserved

theorem Fresh.append {history events : List Event} (h : Fresh history)
    (hobserved : .observedCancellation ∉ events) (hstops : stops events = 0) :
    Fresh (history ++ events) where
  unobserved := by simp [h.unobserved, hobserved]
  unstopped := by simp [h.unstopped, hstops]

theorem Fresh.observe {history : List Event} {limit : Nat} (h : Fresh history)
    (hticks : ticks history ≤ limit) :
    RespectsCancellation (history ++ [.observedCancellation])
      ∧ stops (history ++ [.observedCancellation]) = 0
      ∧ ticks (history ++ [.observedCancellation]) ≤ limit := by
  refine ⟨h.respectsCancellation.append (by simp), ?_, ?_⟩
  · simpa [stops, Event.isStopped] using h.unstopped
  · simpa [ticks] using hticks

theorem errorBackoff_le (pollIntervalMs attempt : Nat) :
    autopilotLaneErrorBackoffMs pollIntervalMs attempt ≤ longestDelayMs pollIntervalMs := by
  simp only [autopilotLaneErrorBackoffMs, longestDelayMs]
  omega

theorem saturatingAdd_one {n : Nat} (h : n < usizeMax) : saturatingAdd n 1 = n + 1 :=
  Nat.min_eq_left h

section Worker
variable {pollIntervalMs limit : Nat} {cancelled : Bool} {result : AutopilotLoopLaneResult}
  {worker next : Worker} {history events : List Event}

theorem Worker.Sound.ticks_le (h : worker.Sound pollIntervalMs limit history) :
    ticks history ≤ limit := by
  unfold Worker.Sound at h
  split at h <;> omega

theorem Worker.Sound.respectsCancellation (h : worker.Sound pollIntervalMs limit history) :
    RespectsCancellation history := by
  unfold Worker.Sound at h
  split at h <;> first | exact h.1 | exact h.1.respectsCancellation

theorem Worker.Sound.stops_eq (h : worker.Sound pollIntervalMs limit history) :
    stops history = if worker.phase = .done then 1 else 0 := by
  unfold Worker.Sound at h
  split at h <;> rename_i hphase <;> rw [hphase]
  case h_7 => simpa using h.2.1
  case h_6 => simpa using h.2.1
  all_goals simpa using h.1.unstopped

variable (h : worker.Sound pollIntervalMs limit history)
  (hstep : worker.step pollIntervalMs (some limit) cancelled result = some (next, events))
include h hstep

theorem Worker.Sound.step_head (hphase : worker.phase = .head) :
    worker.Advances pollIntervalMs limit history events next := by
  simp only [Worker.Sound, hphase] at h
  obtain ⟨hfresh, hticks, hle⟩ := h
  simp only [Worker.step, hphase, Option.any_some, decide_eq_true_eq] at hstep
  split at hstep
  · cases hstep
    simp only [Worker.Advances, Worker.Sound, Worker.rank, hphase, List.append_nil]
    exact ⟨⟨hfresh.respectsCancellation, hfresh.unstopped, by omega⟩, by omega⟩
  · rename_i hlimit
    cases hstep
    have hsplit : limit + 1 - worker.iteration = limit - worker.iteration + 1 := by omega
    simp only [Worker.Advances, Worker.Sound, Worker.rank, hphase, List.append_nil, hsplit,
      Nat.add_mul]
    exact ⟨⟨hfresh, hticks, by omega⟩, by omega⟩

theorem Worker.Sound.step_loading (hphase : worker.phase = .loading) :
    worker.Advances pollIntervalMs limit history events next := by
  simp only [Worker.Sound, hphase] at h
  obtain ⟨hfresh, hticks, hle⟩ := h
  simp only [Worker.step, hphase] at hstep
  split at hstep <;> cases hstep
  · simp only [Worker.Advances, Worker.Sound, Worker.rank, hphase]
    exact ⟨hfresh.observe (by omega), by omega⟩
  · simp only [Worker.Advances, Worker.Sound, Worker.rank, hphase, List.append_nil]
    exact ⟨⟨hfresh, hticks, hle⟩, by omega⟩

theorem Worker.Sound.step_reporting (hphase : worker.phase = .reporting) :
    worker.Advances pollIntervalMs limit history events next := by
  simp only [Worker.Sound, hphase] at h
  obtain ⟨hfresh, hticks, hle⟩ := h
  simp only [Worker.step, hphase] at hstep
  cases hstep
  simp only [Worker.Advances, Worker.Sound, Worker.rank, hphase, ticks_append]
  have hone : ticks [.sent (.running worker.lane worker.iteration), .startedTick] = 1 := by
    simp [ticks]
  exact ⟨⟨hfresh.append (by simp) (by simp [stops, Event.isStopped]), by omega, hle⟩, by omega⟩

/-- After a tick a worker sleeps, or goes to the head at once when it has used
up its iterations. -/
theorem Worker.Sound.step_ticking (hlimit : limit < usizeMax) (hphase : worker.phase = .ticking) :
    worker.Advances pollIntervalMs limit history events next := by
  simp only [Worker.Sound, hphase] at h
  obtain ⟨hfresh, hticks, hle⟩ := h
  have hreport : Fresh (history ++ [.sent (.finished worker.lane worker.iteration result)]) :=
    hfresh.append (by simp) (by simp [stops, Event.isStopped])
  have hnone : ticks [.sent (.finished worker.lane worker.iteration result)] = 0 := by
    simp [ticks]
  simp only [Worker.step, hphase, autopilotShouldContinue, Option.all_some,
    decide_eq_true_eq] at hstep
  split at hstep <;> cases hstep
  · have hdelay : (if (result.status == "error") = true then
        autopilotLaneErrorBackoffMs pollIntervalMs
          (if (result.status == "error") = true then min (worker.errorAttempt + 1) 4294967295 else 0)
        else pollIntervalMs) ≤ longestDelayMs pollIntervalMs := by
      split
      · exact errorBackoff_le _ _
      · exact Nat.le_max_left _ _
    simp only [Worker.Advances, Worker.Sound, Worker.rank, hphase, ticks_append]
    exact ⟨⟨hreport, by omega, hle, hdelay⟩, by omega⟩
  · rw [saturatingAdd_one (by omega)]
    simp only [Worker.Advances, Worker.Sound, Worker.rank, hphase, ticks_append, Nat.add_sub_add_right]
    exact ⟨⟨hreport, by omega, by omega⟩, by omega⟩

theorem Worker.Sound.step_sleeping {remainingMs : Nat} (hlimit : limit < usizeMax)
    (hphase : worker.phase = .sleeping remainingMs) :
    worker.Advances pollIntervalMs limit history events next := by
  simp only [Worker.Sound, hphase] at h
  obtain ⟨hfresh, hticks, hle, hremaining⟩ := h
  simp only [Worker.step, hphase] at hstep
  split at hstep
  · cases hstep
    simp only [Worker.Advances, Worker.Sound, Worker.rank, hphase]
    exact ⟨hfresh.observe (by omega), by omega⟩
  · split at hstep <;> cases hstep
    · rw [saturatingAdd_one (by omega)]
      simp only [Worker.Advances, Worker.Sound, Worker.rank, hphase, List.append_nil, Nat.add_sub_add_right]
      exact ⟨⟨hfresh, by omega, by omega⟩, by omega⟩
    · simp only [Worker.Advances, Worker.Sound, Worker.rank, hphase, List.append_nil]
      exact ⟨⟨hfresh, hticks, hle, by omega⟩, by omega⟩

theorem Worker.Sound.step_stopping {reason : String} {iterations : Nat}
    (hphase : worker.phase = .stopping reason iterations) :
    worker.Advances pollIntervalMs limit history events next := by
  simp only [Worker.Sound, hphase] at h
  obtain ⟨hrespects, hstops, hticks⟩ := h
  simp only [Worker.step, hphase] at hstep
  cases hstep
  have hone : stops [.sent (.stopped worker.lane reason iterations)] = 1 := by
    simp [stops, Event.isStopped]
  have hnone : ticks [.sent (.stopped worker.lane reason iterations)] = 0 := by simp [ticks]
  simp only [Worker.Advances, Worker.Sound, Worker.rank, hphase, ticks_append, stops_append]
  exact ⟨⟨hrespects.append (by simp), by omega, by omega⟩, Nat.one_pos⟩

theorem Worker.Sound.step (hlimit : limit < usizeMax) :
    worker.Advances pollIntervalMs limit history events next := by
  cases hphase : worker.phase with
  | head => exact h.step_head hstep hphase
  | loading => exact h.step_loading hstep hphase
  | reporting => exact h.step_reporting hstep hphase
  | ticking => exact h.step_ticking hstep hlimit hphase
  | sleeping remainingMs => exact h.step_sleeping hstep hlimit hphase
  | stopping reason iterations => exact h.step_stopping hstep hphase
  | done => simp [Worker.step, hphase] at hstep

end Worker

/-! ## Counters -/

theorem sum_addToLane (lane : String) (units : Nat) : ∀ lanes : List (String × Nat),
    (lanes.map Prod.snd).sum + units ≤ usizeMax →
      ((addToLane lanes lane units).map Prod.snd).sum = (lanes.map Prod.snd).sum + units
  | [], h => by
      simp only [List.map_nil, List.sum_nil, Nat.zero_add] at h
      simp [addToLane, wrappingAdd, Nat.mod_eq_of_lt (Nat.lt_succ_of_le h)]
  | (name, completed) :: rest, h => by
      simp only [List.map_cons, List.sum_cons] at h
      rw [addToLane]
      split
      · have hfits : completed + units < usizeMax + 1 := by omega
        simp only [List.map_cons, List.sum_cons, wrappingAdd, Nat.mod_eq_of_lt hfits]
        omega
      · simp only [List.map_cons, List.sum_cons, sum_addToLane lane units rest (by omega)]
        omega

section Counters
variable {counters : AutopilotWorkUnitCounters} {lane : AutopilotLoopLaneResult}

theorem recordLaneResult_total (h : counters.total ≤ usizeMax) :
    (counters.recordLaneResult lane).1.total
      = min (counters.total + completedThisTick lane) usizeMax := by
  simp only [AutopilotWorkUnitCounters.recordLaneResult]
  split
  · rfl
  · have hnone : completedThisTick lane = 0 := by omega
    rw [hnone, Nat.add_zero, Nat.min_eq_left h]

theorem recordLaneResult_laneSum (h : counters.laneSum + completedThisTick lane ≤ usizeMax) :
    (counters.recordLaneResult lane).1.laneSum = counters.laneSum + completedThisTick lane := by
  simp only [AutopilotWorkUnitCounters.recordLaneResult]
  split
  · exact sum_addToLane _ _ _ h
  · omega

end Counters

section Supervisor
variable {supervisor : Supervisor} {message : AutopilotLaneWorkerMessage}
  (workUnitLimit : Option Nat)

theorem Supervisor.take_total (h : supervisor.completedWorkUnits.total ≤ usizeMax) :
    (supervisor.take workUnitLimit message).1.completedWorkUnits.total
      = min (supervisor.completedWorkUnits.total + message.workUnits) usizeMax := by
  cases message with
  | running => exact (Nat.min_eq_left h).symm
  | finished lane iteration result => exact recordLaneResult_total h
  | stopped => exact (Nat.min_eq_left h).symm

theorem Supervisor.take_laneSum
    (h : supervisor.completedWorkUnits.laneSum + message.workUnits ≤ usizeMax) :
    (supervisor.take workUnitLimit message).1.completedWorkUnits.laneSum
      = supervisor.completedWorkUnits.laneSum + message.workUnits := by
  cases message with
  | running => rfl
  | finished lane iteration result => exact recordLaneResult_laneSum h
  | stopped => rfl

theorem Supervisor.take_cancels
    (h : reached workUnitLimit
      (supervisor.take workUnitLimit message).1.completedWorkUnits.total = true) :
    (supervisor.take workUnitLimit message).2 = true
      ∨ reached workUnitLimit supervisor.completedWorkUnits.total = true := by
  cases message with
  | running => exact .inr h
  | finished lane iteration result => exact .inl h
  | stopped => exact .inr h

end Supervisor

/-! ## The system -/

/-- Only `"work_unit_limit"` says that the limit is reached. -/
theorem stopReason_eq_iff {limit : Nat} {cancelled : Bool} {supervisor : Supervisor}
    (h : limit ≤ supervisor.completedWorkUnits.total → cancelled = true) :
    stopReason (some limit) cancelled supervisor = "work_unit_limit"
      ↔ limit ≤ supervisor.completedWorkUnits.total := by
  unfold stopReason
  by_cases hreached : limit ≤ supervisor.completedWorkUnits.total
  · simp [h hreached, reached, hreached]
  · simp only [reached, Option.any_some, decide_eq_true_eq, hreached, iff_false]
    split
    · decide
    · split <;> decide

structure World.Sound (pollIntervalMs limit : Nat) (world : World) : Prop where
  workers : ∀ (index : Nat) (worker : Worker), world.workers[index]? = some worker →
    worker.Sound pollIntervalMs limit (world.history index)
  strangers : ∀ index : Nat, world.workers[index]? = none → world.history index = []
  taken_le : world.taken ≤ world.messages.length
  total_eq : world.supervisor.completedWorkUnits.total = min world.recordedWork usizeMax
  lanes_eq : world.recordedWork ≤ usizeMax →
    world.supervisor.completedWorkUnits.laneSum = world.recordedWork
  cancelled : world.stopped = none → limit ≤ world.supervisor.completedWorkUnits.total →
    world.cancellation = true
  settled : ∀ reason, world.stopped = some reason →
    (∀ worker ∈ world.workers, worker.phase = .done) ∧ world.taken = world.messages.length
      ∧ (reason = "work_unit_limit" ↔ limit ≤ world.supervisor.completedWorkUnits.total)

section World
variable {pollIntervalMs limit : Nat} {world next : World}

/-- The world after a worker's move. -/
def World.moved (world : World) (index : Nat) (worker : Worker) (events : List Event) : World :=
  { world with
    workers := world.workers.set index worker
    trace := world.trace ++ events.map fun event => (index, event) }

theorem World.act_work {index : Nat} {result : AutopilotLoopLaneResult}
    (h : world.act pollIntervalMs (some limit) (.work index result) = some next) :
    ∃ worker after events, world.workers[index]? = some worker
      ∧ worker.step pollIntervalMs (some limit) world.cancellation result = some (after, events)
      ∧ next = world.moved index after events := by
  simp only [World.act, Option.bind_eq_bind, Option.bind_eq_some_iff] at h
  obtain ⟨worker, hworker, ⟨after, events⟩, hstep, hnext⟩ := h
  exact ⟨worker, after, events, hworker, hstep, (Option.some.inj hnext).symm⟩

theorem World.act_take (h : world.act pollIntervalMs (some limit) .take = some next) :
    ∃ message, world.messages[world.taken]? = some message
      ∧ next = { world with
          supervisor := (world.supervisor.take (some limit) message).1
          taken := world.taken + 1
          cancellation :=
            world.cancellation || (world.supervisor.take (some limit) message).2 } := by
  simp only [World.act, Option.bind_eq_bind, Option.bind_eq_some_iff] at h
  obtain ⟨message, hmessage, hnext⟩ := h
  exact ⟨message, hmessage, (Option.some.inj hnext).symm⟩

theorem World.act_finish (h : world.act pollIntervalMs (some limit) .finish = some next) :
    (world.stopped = none ∧ (∀ worker ∈ world.workers, worker.phase = .done)
        ∧ world.taken = world.messages.length)
      ∧ next = { world with
          stopped := some (stopReason (some limit) world.cancellation world.supervisor) } := by
  simp only [World.act] at h
  split at h
  · rename_i hclosed
    exact ⟨hclosed, (Option.some.inj h).symm⟩
  · cases h

theorem World.history_moved (index sender : Nat) (worker : Worker) (events : List Event) :
    (world.moved sender worker events).history index
      = if sender = index then world.history index ++ events else world.history index := by
  simp only [World.history, World.moved, List.filterMap_append, List.filterMap_map]
  split
  · rename_i heq
    subst heq
    simp [Function.comp_def]
  · rename_i hne
    simp [Function.comp_def, hne]

theorem World.messages_moved (index : Nat) (worker : Worker) (events : List Event) :
    ∃ sent, (world.moved index worker events).messages = world.messages ++ sent := by
  simp only [World.messages, World.moved, List.filterMap_append]
  exact ⟨_, rfl⟩

theorem World.recordedWork_moved (index : Nat) (worker : Worker) (events : List Event)
    (h : world.taken ≤ world.messages.length) :
    (world.moved index worker events).recordedWork = world.recordedWork := by
  obtain ⟨sent, hsent⟩ := world.messages_moved index worker events
  have htaken : (world.moved index worker events).taken = world.taken := rfl
  rw [World.recordedWork, hsent, htaken, List.take_append_of_le_length h, World.recordedWork]

theorem World.Sound.act_work {index : Nat} {result : AutopilotLoopLaneResult}
    (hlimit : limit < usizeMax) (h : world.Sound pollIntervalMs limit)
    (hact : world.act pollIntervalMs (some limit) (.work index result) = some next) :
    next.Sound pollIntervalMs limit := by
  obtain ⟨worker, after, events, hworker, hstep, rfl⟩ := World.act_work hact
  obtain ⟨hafter, -⟩ := (h.workers index worker hworker).step hstep hlimit
  have hindex : index < world.workers.length := (List.getElem?_eq_some_iff.mp hworker).1
  constructor
  case workers =>
    intro other someone hother
    rw [World.history_moved]
    simp only [World.moved, List.getElem?_set] at hother
    split at hother
    · rename_i heq
      subst heq
      rw [if_pos rfl, ← Option.some.inj hother]
      exact hafter
    · rename_i hne
      rw [if_neg hne]
      exact h.workers other someone hother
  case strangers =>
    intro other hother
    simp only [World.moved, List.getElem?_eq_none_iff, List.length_set] at hother
    rw [World.history_moved, if_neg (by omega)]
    exact h.strangers other (List.getElem?_eq_none_iff.mpr hother)
  case taken_le =>
    obtain ⟨sent, hsent⟩ := world.messages_moved index after events
    rw [hsent, List.length_append]
    exact Nat.le_add_right_of_le h.taken_le
  case total_eq =>
    rw [World.recordedWork_moved index after events h.taken_le]
    exact h.total_eq
  case lanes_eq =>
    rw [World.recordedWork_moved index after events h.taken_le]
    exact h.lanes_eq
  case cancelled => exact h.cancelled
  case settled =>
    intro reason hreason
    -- a stopped system has no worker left to move
    have hdone := (h.settled reason hreason).1 worker (List.mem_of_getElem? hworker)
    simp [Worker.step, hdone] at hstep

theorem World.recordedWork_take {message : AutopilotLaneWorkerMessage}
    (h : world.messages[world.taken]? = some message) :
    ((world.messages.take (world.taken + 1)).map AutopilotLaneWorkerMessage.workUnits).sum
      = world.recordedWork + message.workUnits := by
  rw [List.take_add_one, h, World.recordedWork]
  simp

theorem World.Sound.act_take (h : world.Sound pollIntervalMs limit)
    (hact : world.act pollIntervalMs (some limit) .take = some next) :
    next.Sound pollIntervalMs limit := by
  obtain ⟨message, hmessage, rfl⟩ := World.act_take hact
  have hrecorded := World.recordedWork_take hmessage
  have htotal := h.total_eq
  have htaken : world.taken < world.messages.length := (List.getElem?_eq_some_iff.mp hmessage).1
  constructor
  case workers => exact h.workers
  case strangers => exact h.strangers
  case taken_le => exact htaken
  case total_eq =>
    refine (Supervisor.take_total (some limit) (by omega)).trans ?_
    rw [World.recordedWork]
    simp only [World.messages] at hrecorded ⊢
    rw [hrecorded, htotal]
    omega
  case lanes_eq =>
    intro hfits
    rw [World.recordedWork] at hfits ⊢
    simp only [World.messages] at hrecorded hfits ⊢
    rw [hrecorded] at hfits ⊢
    have hlanes := h.lanes_eq (by omega)
    rw [Supervisor.take_laneSum (some limit) (by omega), hlanes]
  case cancelled =>
    intro hrunning hreached
    rcases Supervisor.take_cancels (some limit) (by simpa [reached] using hreached) with hset | hwas
    · simp [hset]
    · simp [h.cancelled hrunning (by simpa [reached] using hwas)]
  case settled =>
    intro reason hreason
    have hnone := (h.settled reason hreason).2.1
    omega

theorem World.Sound.act_finish (h : world.Sound pollIntervalMs limit)
    (hact : world.act pollIntervalMs (some limit) .finish = some next) :
    next.Sound pollIntervalMs limit := by
  obtain ⟨⟨hrunning, hdone, htaken⟩, rfl⟩ := World.act_finish hact
  constructor
  case workers => exact h.workers
  case strangers => exact h.strangers
  case taken_le => exact h.taken_le
  case total_eq => exact h.total_eq
  case lanes_eq => exact h.lanes_eq
  case cancelled => exact nofun
  case settled =>
    intro reason hreason
    have hreason : stopReason (some limit) world.cancellation world.supervisor = reason :=
      Option.some.inj hreason
    exact ⟨hdone, htaken, hreason ▸ stopReason_eq_iff (h.cancelled hrunning)⟩

theorem World.Sound.interrupt (h : world.Sound pollIntervalMs limit) :
    ({ world with cancellation := true } : World).Sound pollIntervalMs limit where
  workers := h.workers
  strangers := h.strangers
  taken_le := h.taken_le
  total_eq := h.total_eq
  lanes_eq := h.lanes_eq
  cancelled := fun _ _ => rfl
  settled := h.settled

theorem World.Sound.step (hlimit : limit < usizeMax) (h : world.Sound pollIntervalMs limit)
    (action : Action) : (world.next pollIntervalMs (some limit) action).Sound pollIntervalMs limit := by
  unfold World.next
  cases hact : world.act pollIntervalMs (some limit) action with
  | none => exact h
  | some after =>
      cases action with
      | work index result => exact h.act_work hlimit hact
      | take => exact h.act_take hact
      | interrupt => exact Option.some.inj hact ▸ h.interrupt
      | finish => exact h.act_finish hact

theorem World.sound_idle {reason : String}
    (h : reason = "work_unit_limit" ↔ limit ≤ 0) :
    ({ World.idle with stopped := some reason } : World).Sound pollIntervalMs limit where
  workers := fun index worker hworker => by simp [World.idle] at hworker
  strangers := fun _ _ => rfl
  taken_le := Nat.le_refl 0
  total_eq := rfl
  lanes_eq := fun _ => rfl
  cancelled := nofun
  settled := fun other hother =>
    ⟨fun worker hworker => by simp [World.idle] at hworker, rfl, Option.some.inj hother ▸ h⟩

theorem World.sound_start (lanes : List AutopilotLaneKind) :
    (World.start (some limit) lanes).Sound pollIntervalMs limit := by
  unfold World.start
  simp only [reached, Option.any_some, decide_eq_true_eq]
  split
  · rename_i hzero
    exact World.sound_idle (by simpa using hzero)
  · rename_i hpositive
    split
    · exact World.sound_idle (by simpa using hpositive)
    · constructor
      case workers =>
        intro index worker hworker
        simp only [List.getElem?_map, Option.map_eq_some_iff] at hworker
        obtain ⟨lane, -, rfl⟩ := hworker
        exact ⟨⟨List.not_mem_nil, rfl⟩, rfl, Nat.le_add_left 1 limit⟩
      case strangers => exact fun _ _ => rfl
      case taken_le => exact Nat.le_refl 0
      case total_eq => rfl
      case lanes_eq => exact fun _ => rfl
      case cancelled => exact fun _ hreached => absurd hreached hpositive
      case settled => exact fun _ hreason => nomatch hreason

theorem World.sound_run (hlimit : limit < usizeMax) (lanes : List AutopilotLaneKind)
    (actions : List Action) :
    (Runs.run (World.next pollIntervalMs (some limit))
      (World.start (some limit) lanes) actions).Sound pollIntervalMs limit :=
  Runs.invariant_run (P := World.Sound pollIntervalMs limit)
    (fun _ action h => h.step hlimit action) actions (World.sound_start lanes)

end World

/-! ## Every worker stops -/

def Action.moves (index : Nat) : Action → Bool
  | .work worker _ => worker == index
  | _ => false

def World.rank (pollIntervalMs limit : Nat) (world : World) (index : Nat) : Nat :=
  world.workers[index]?.elim 0 (Worker.rank pollIntervalMs limit)

theorem Worker.rank_eq_zero {pollIntervalMs limit : Nat} {worker : Worker}
    (h : worker.rank pollIntervalMs limit = 0) : worker.phase = .done := by
  cases hphase : worker.phase with
  | done => rfl
  | _ => simp [Worker.rank, hphase] at h

theorem Worker.step_isSome {worker : Worker} (h : worker.phase ≠ .done) (pollIntervalMs : Nat)
    (maxIterations : Option Nat) (cancelled : Bool) (result : AutopilotLoopLaneResult) :
    ∃ next, worker.step pollIntervalMs maxIterations cancelled result = some next := by
  cases hphase : worker.phase with
  | done => exact absurd hphase h
  | reporting | stopping =>
      simp only [Worker.step, hphase]
      exact ⟨_, rfl⟩
  | sleeping remainingMs =>
      simp only [Worker.step, hphase]
      split
      · exact ⟨_, rfl⟩
      · split <;> exact ⟨_, rfl⟩
  | _ =>
      simp only [Worker.step, hphase]
      split <;> exact ⟨_, rfl⟩

section Rank
variable {pollIntervalMs limit : Nat} {world : World} {index : Nat}

theorem World.rank_moved (index sender : Nat) (worker : Worker) (events : List Event)
    (hsender : sender < world.workers.length) :
    (world.moved sender worker events).rank pollIntervalMs limit index
      = if sender = index then worker.rank pollIntervalMs limit
        else world.rank pollIntervalMs limit index := by
  simp only [World.rank, World.moved, List.getElem?_set, hsender]
  split <;> simp

theorem World.workers_next (world : World) {action : Action}
    (h : ∀ index result, action ≠ .work index result) :
    (world.next pollIntervalMs (some limit) action).workers = world.workers := by
  unfold World.next
  cases hact : world.act pollIntervalMs (some limit) action with
  | none => rfl
  | some after =>
      cases action with
      | work index result => exact absurd rfl (h index result)
      | take =>
          obtain ⟨message, -, rfl⟩ := World.act_take hact
          rfl
      | interrupt => exact Option.some.inj hact ▸ rfl
      | finish =>
          obtain ⟨-, rfl⟩ := World.act_finish hact
          rfl

theorem World.length_next (world : World) (action : Action) :
    (world.next pollIntervalMs (some limit) action).workers.length = world.workers.length := by
  cases action with
  | work index result =>
      unfold World.next
      cases hact : world.act pollIntervalMs (some limit) (.work index result) with
      | none => rfl
      | some after =>
          obtain ⟨worker, moved, events, -, -, rfl⟩ := World.act_work hact
          exact List.length_set
  | take | interrupt | finish => rw [world.workers_next (by simp)]

theorem World.length_run (world : World) (actions : List Action) :
    (Runs.run (World.next pollIntervalMs (some limit)) world actions).workers.length
      = world.workers.length :=
  Runs.invariant_run (P := fun reached : World => reached.workers.length = world.workers.length)
    (fun reached action h => (reached.length_next action).trans h) actions rfl

theorem World.Sound.rank_next (hlimit : limit < usizeMax) (h : world.Sound pollIntervalMs limit)
    (action : Action) :
    (world.next pollIntervalMs (some limit) action).rank pollIntervalMs limit index
      ≤ world.rank pollIntervalMs limit index - if action.moves index then 1 else 0 := by
  cases action with
  | work sender result =>
      cases hworker : world.workers[sender]? with
      | none =>
          have hstays : world.next pollIntervalMs (some limit) (.work sender result) = world := by
            simp [World.next, World.act, hworker]
          rw [hstays]
          split
          · rename_i hmoves
            have heq : sender = index := by simpa [Action.moves] using hmoves
            simp [World.rank, ← heq, hworker]
          · exact Nat.le_refl _
      | some worker =>
          have hsender : sender < world.workers.length :=
            (List.getElem?_eq_some_iff.mp hworker).1
          have hrank : world.rank pollIntervalMs limit sender
              = worker.rank pollIntervalMs limit := by simp [World.rank, hworker]
          cases hstep : worker.step pollIntervalMs (some limit) world.cancellation result with
          | none =>
              have hstays : world.next pollIntervalMs (some limit) (.work sender result) = world := by
                simp [World.next, World.act, hworker, hstep]
              have hdone : worker.phase = .done := by
                by_contra hphase
                obtain ⟨next, hnext⟩ := Worker.step_isSome hphase pollIntervalMs (some limit)
                  world.cancellation result
                exact nomatch hstep.symm.trans hnext
              rw [hstays]
              split
              · rename_i hmoves
                have heq : sender = index := by simpa [Action.moves] using hmoves
                rw [← heq, hrank]
                simp [Worker.rank, hdone]
              · exact Nat.le_refl _
          | some moved =>
              obtain ⟨after, events⟩ := moved
              have hmoved : world.next pollIntervalMs (some limit) (.work sender result)
                  = world.moved sender after events := by
                simp [World.next, World.act, hworker, hstep, World.moved]
              have hless := ((h.workers sender worker hworker).step hstep hlimit).2
              rw [hmoved, World.rank_moved index sender after events hsender]
              by_cases heq : sender = index
              · rw [if_pos heq, ← heq, hrank, if_pos (by simp [Action.moves])]
                omega
              · rw [if_neg heq, if_neg (by simpa [Action.moves] using heq)]
                exact Nat.le_refl _
  | take | interrupt | finish =>
      unfold World.rank
      rw [world.workers_next (by simp)]
      exact Nat.le_refl _

theorem World.Sound.rank_run (hlimit : limit < usizeMax) (index : Nat) :
    ∀ (actions : List Action) {world : World}, world.Sound pollIntervalMs limit →
      (Runs.run (World.next pollIntervalMs (some limit)) world actions).rank
          pollIntervalMs limit index
        ≤ world.rank pollIntervalMs limit index - actions.countP (Action.moves index)
  | [], _, _ => Nat.le_refl _
  | action :: actions, world, h => by
      have hnext := @World.Sound.rank_next _ _ world index hlimit h action
      have hrest := World.Sound.rank_run hlimit index actions (h.step hlimit action)
      rw [Runs.run_cons, List.countP_cons]
      omega

theorem World.rank_start (lanes : List AutopilotLaneKind) (index : Nat) :
    (World.start (some limit) lanes).rank pollIntervalMs limit index
      ≤ limit * (longestDelayMs pollIntervalMs + 5) + 2 := by
  unfold World.start World.rank
  split
  · exact Nat.zero_le _
  · split
    · exact Nat.zero_le _
    · simp only [List.getElem?_map]
      cases lanes[index]? with
      | none => exact Nat.zero_le _
      | some lane => exact Nat.le_refl _

end Rank

/-! ## Accounting -/

/-- What the autoloop accounts for, as long as the work fits its counters. -/
structure Accounting (limit : Nat) (world : World) : Prop where
  total_eq : world.supervisor.completedWorkUnits.total = min world.recordedWork usizeMax
  laneSum_eq : world.recordedWork ≤ usizeMax →
    world.supervisor.completedWorkUnits.total = world.supervisor.completedWorkUnits.laneSum
  ticks_le : ∀ index, ticks (world.history index) ≤ limit
  stops_le : ∀ index, stops (world.history index) ≤ 1
  stops_eq : world.stopped ≠ none → ∀ index < world.workers.length,
    stops (world.history index) = 1
  respectsCancellation : ∀ index, RespectsCancellation (world.history index)
  reason_iff : ∀ reason, world.stopped = some reason →
    (reason = "work_unit_limit" ↔ limit ≤ world.supervisor.completedWorkUnits.total)

theorem World.Sound.history_sound {pollIntervalMs limit : Nat} {world : World}
    (h : world.Sound pollIntervalMs limit) (index : Nat) :
    ticks (world.history index) ≤ limit ∧ stops (world.history index) ≤ 1
      ∧ RespectsCancellation (world.history index) := by
  cases hworker : world.workers[index]? with
  | none =>
      rw [h.strangers index hworker]
      exact ⟨Nat.zero_le _, Nat.zero_le _, respectsCancellation_of_notMem List.not_mem_nil⟩
  | some worker =>
      have hsound := h.workers index worker hworker
      refine ⟨hsound.ticks_le, ?_, hsound.respectsCancellation⟩
      rw [hsound.stops_eq]
      split <;> omega

theorem World.Sound.stops_of_done {pollIntervalMs limit index : Nat} {world : World}
    (h : world.Sound pollIntervalMs limit) (hindex : index < world.workers.length)
    (hdone : world.workers[index].phase = .done) : stops (world.history index) = 1 := by
  rw [(h.workers index _ (List.getElem?_eq_getElem hindex)).stops_eq, if_pos hdone]

theorem World.Sound.accounting {pollIntervalMs limit : Nat} {world : World}
    (h : world.Sound pollIntervalMs limit) : Accounting limit world where
  total_eq := h.total_eq
  laneSum_eq hfits := by rw [h.total_eq, h.lanes_eq hfits, Nat.min_eq_left hfits]
  ticks_le index := (h.history_sound index).1
  stops_le index := (h.history_sound index).2.1
  stops_eq hstopped index hindex := by
    obtain ⟨reason, hreason⟩ := Option.ne_none_iff_exists'.mp hstopped
    exact h.stops_of_done hindex ((h.settled reason hreason).1 _ (List.getElem_mem hindex))
  respectsCancellation index := (h.history_sound index).2.2
  reason_iff reason hreason := (h.settled reason hreason).2.2

/-- Below the largest counter every run is accounted for, and a worker that has
had its turn often enough has sent its one last report. -/
theorem autoloop_accounting (pollIntervalMs limit : Nat) (lanes : List AutopilotLaneKind)
    (actions : List Action) (hlimit : limit < usizeMax) :
    let world :=
      Runs.run (World.next pollIntervalMs (some limit)) (World.start (some limit) lanes) actions
    Accounting limit world
      ∧ ∀ index < world.workers.length,
          limit * (longestDelayMs pollIntervalMs + 5) + 2 ≤ actions.countP (Action.moves index) →
            stops (world.history index) = 1 := by
  intro world
  have hsound : world.Sound pollIntervalMs limit := World.sound_run hlimit lanes actions
  refine ⟨hsound.accounting, fun index hindex hturns => hsound.stops_of_done hindex ?_⟩
  have hrun := @World.Sound.rank_run pollIntervalMs _ hlimit index actions _
    (World.sound_start lanes)
  have hstart := @World.rank_start pollIntervalMs limit lanes index
  have hzero : world.rank pollIntervalMs limit index = 0 := Nat.le_zero.mp (hrun.trans (by omega))
  refine @Worker.rank_eq_zero pollIntervalMs limit _ ?_
  simpa [World.rank, List.getElem?_eq_getElem hindex] using hzero

def tickResult (lane status : String) (units : Nat) : AutopilotLoopLaneResult where
  lane := lane
  status := status
  action := "worked"
  workUnitCompleted := false
  completedWorkUnits := units
  issueRef := some "ALI-1"
  latestResult := { status := "", action := "", issueRef := none, targetState := none }
  selectedIssue := none
  targetState := none

theorem autoloop_accounting_single :
    stops ((Runs.run (World.next 0 (some 1)) (World.start (some 1) [.main])
      (List.replicate 60007 (.work 0 (tickResult "main" "completed" 1)))).history 0) = 1 := by
  refine (autoloop_accounting 0 1 [.main] _ (by decide)).2 0 ?_ ?_
  · rw [World.length_run]
    decide
  · rw [List.countP_replicate]
    decide

/-! ## At the limits of the counters -/

/-- A lone worker at its loop's head that nobody stops. -/
structure Looping (world : World) : Prop where
  running : world.cancellation = false
  alone : ∃ iteration ≤ usizeMax,
    world.workers = [{ lane := .main, phase := .head, iteration, errorAttempt := 0 }]

theorem Looping.again {world : World} (h : Looping world) :
    ∃ actions,
      let after := Runs.run (World.next 0 (some usizeMax)) world actions
      Looping after ∧ ticks (after.history 0) = ticks (world.history 0) + 1 := by
  obtain ⟨workers, cancellation, trace, taken, supervisor, stopped⟩ := world
  obtain ⟨rfl, iteration, hle, rfl⟩ := h
  have hidle : ((tickResult "main" "idle" 0).status == "error") = false := by decide
  have hhead : ¬ usizeMax < iteration := by omega
  by_cases hlast : iteration < usizeMax
  · refine ⟨List.replicate 5 (.work 0 (tickResult "main" "idle" 0)), ⟨?_, ?_⟩, ?_⟩
    · simp [World.next, World.act, Worker.step, autopilotShouldContinue, hhead, hlast, hidle]
    · exact ⟨saturatingAdd iteration 1, Nat.min_le_right _ _, by
        simp [World.next, World.act, Worker.step, autopilotShouldContinue, hhead, hlast, hidle]⟩
    · simp [World.next, World.act, Worker.step, autopilotShouldContinue, hhead, hlast, hidle,
        World.history, ticks]
  · refine ⟨List.replicate 4 (.work 0 (tickResult "main" "idle" 0)), ⟨?_, ?_⟩, ?_⟩
    · simp [World.next, World.act, Worker.step, autopilotShouldContinue, hhead, hlast, hidle]
    · exact ⟨saturatingAdd iteration 1, Nat.min_le_right _ _, by
        simp [World.next, World.act, Worker.step, autopilotShouldContinue, hhead, hlast, hidle]⟩
    · simp [World.next, World.act, Worker.step, autopilotShouldContinue, hhead, hlast, hidle,
        World.history, ticks]

theorem Looping.ticks_eq {world : World} (h : Looping world)
    (hfirst : ticks (world.history 0) = 0) : ∀ n, ∃ actions,
      let after := Runs.run (World.next 0 (some usizeMax)) world actions
      Looping after ∧ ticks (after.history 0) = n
  | 0 => ⟨[], h, hfirst⟩
  | n + 1 => by
      obtain ⟨actions, hloops, hticks⟩ := h.ticks_eq hfirst n
      obtain ⟨more, hagain, hmore⟩ := hloops.again
      refine ⟨actions ++ more, ?_⟩
      rw [Runs.run_append]
      exact ⟨hagain, hmore.trans (by rw [hticks])⟩

/-- Two ticks overflow the total, and under the largest limit a worker's
iteration stays below its ticks. -/
theorem counters_overflow :
    (∃ actions,
      let world := Runs.run (World.next 0 (some 1)) (World.start (some 1) [.main, .review]) actions
      world.supervisor.completedWorkUnits.total ≠ world.supervisor.completedWorkUnits.laneSum)
    ∧ ∃ actions,
      let world := Runs.run (World.next 0 (some usizeMax)) (World.start (some usizeMax) [.main])
        actions
      usizeMax < ticks (world.history 0) := by
  constructor
  · exact ⟨List.replicate 4 (.work 0 (tickResult "main" "completed" usizeMax))
      ++ List.replicate 4 (.work 1 (tickResult "review" "completed" 1))
      ++ List.replicate 4 .take, by decide⟩
  · have hstart : Looping (World.start (some usizeMax) [.main]) := by
      refine ⟨rfl, 1, by decide, rfl⟩
    obtain ⟨actions, -, hticks⟩ := hstart.ticks_eq rfl (usizeMax + 1)
    exact ⟨actions, (Nat.lt_succ_self usizeMax).trans_eq hticks.symm⟩

end SheaSymphony.Autoloop

import Mathlib.Algebra.Ring.Parity
import SheaSymphony.Runs

/-!
# The autoloop

The supervisor and the lane workers of `commands/autopilot/looping.rs`. Every
enabled lane has a worker that ticks, reports over a channel and sleeps, until
its iterations are used up or it finds the cancellation flag set; the supervisor
takes the messages one by one, counts completed work and sets the flag once the
limit is reached. The flag may also be set from outside at any time.

The system is a step function on the shared state, and a run is any sequence of
actions: which worker moves, when the supervisor takes the next message, what a
tick results in. A tick returns, and what is printed on the way does not fail.
Every worker's load of the flag is a step of its own. `trace` records what has
happened in the order it happened; the channel is the part of its messages that
the supervisor has not taken yet. Counters are `usize`, numbers up to
`usizeMax` here.
-/

namespace SheaSymphony.Autoloop

/-! ## Counters -/

def usizeMax : Nat := 18446744073709551615

def saturatingAdd (a b : Nat) : Nat := min (a + b) usizeMax

/-- `+=` on a `usize`, as a release build has it. -/
def wrappingAdd (a b : Nat) : Nat := (a + b) % (usizeMax + 1)

structure AutopilotIssueSummary where
  identifier : String
deriving DecidableEq

structure AutopilotLaneLatestResult where
  status : String
  action : String
  issueRef : Option String
  targetState : Option String
deriving DecidableEq

structure AutopilotLoopLaneResult where
  lane : String
  status : String
  action : String
  workUnitCompleted : Bool
  completedWorkUnits : Nat
  issueRef : Option String
  latestResult : AutopilotLaneLatestResult
  selectedIssue : Option AutopilotIssueSummary
  targetState : Option String
deriving DecidableEq

structure AutopilotWorkUnitCounters where
  total : Nat
  lanes : List (String × Nat)
deriving DecidableEq

/-- `*lanes.entry(lane).or_default() += units`. -/
def addToLane (lanes : List (String × Nat)) (lane : String) (units : Nat) : List (String × Nat) :=
  match lanes with
  | [] => [(lane, wrappingAdd 0 units)]
  | (name, completed) :: rest =>
      if name = lane then (name, wrappingAdd completed units) :: rest
      else (name, completed) :: addToLane rest lane units

def completedThisTick (lane : AutopilotLoopLaneResult) : Nat :=
  if lane.status = "completed" ∧ (lane.selectedIssue.isSome ∨ lane.issueRef.isSome) then
    max lane.completedWorkUnits 1
  else 0

def AutopilotWorkUnitCounters.recordLaneResult (counters : AutopilotWorkUnitCounters)
    (lane : AutopilotLoopLaneResult) : AutopilotWorkUnitCounters × AutopilotLoopLaneResult :=
  let units := completedThisTick lane
  let counters :=
    if 0 < units then
      { total := saturatingAdd counters.total units
        lanes := addToLane counters.lanes lane.lane units }
    else counters
  (counters,
    { lane with
      workUnitCompleted := decide (0 < units)
      completedWorkUnits := (counters.lanes.lookup lane.lane).getD 0
      latestResult :=
        { status := lane.status
          action := lane.action
          issueRef := lane.issueRef
          targetState := lane.targetState } })

/-! ## Workers -/

inductive AutopilotLaneKind where
  | main | review | merge
deriving DecidableEq

inductive AutopilotLaneWorkerMessage where
  | running (lane : AutopilotLaneKind) (iteration : Nat)
  | finished (lane : AutopilotLaneKind) (iteration : Nat) (result : AutopilotLoopLaneResult)
  | stopped (lane : AutopilotLaneKind) (reason : String) (iterations : Nat)
deriving DecidableEq

/-- What a worker does that others may see, or that its own later steps must
respect. -/
inductive Event where
  | observedCancellation
  | startedTick
  | sent (message : AutopilotLaneWorkerMessage)
deriving DecidableEq

/-- Where a worker stands: at the head of its loop, before the load of the flag,
before its report that it runs, in a tick, in a sleep with so many milliseconds
left, before its last report, or behind it. -/
inductive Phase where
  | head
  | loading
  | reporting
  | ticking
  | sleeping (remainingMs : Nat)
  | stopping (reason : String) (iterations : Nat)
  | done
deriving DecidableEq

structure Worker where
  lane : AutopilotLaneKind
  phase : Phase
  iteration : Nat
  errorAttempt : Nat
deriving DecidableEq

def autopilotShouldContinue (iteration : Nat) (maxIterations : Option Nat) : Bool :=
  maxIterations.all fun limit => iteration < limit

def autopilotLaneErrorBackoffMs (pollIntervalMs attempt : Nat) : Nat :=
  let exponent := min (attempt - 1) 5
  max 1 (min (min (pollIntervalMs * 2 ^ exponent) usizeMax) 60000)

/-- One step of a worker under the flag it may load; `result` is what a tick
results in, the evidence of a failed plan included. -/
def Worker.step (pollIntervalMs : Nat) (maxIterations : Option Nat) (cancelled : Bool)
    (result : AutopilotLoopLaneResult) (worker : Worker) : Option (Worker × List Event) :=
  match worker.phase with
  | .head =>
      if maxIterations.any fun limit => limit < worker.iteration then
        some ({ worker with phase := .stopping "max_iterations" (worker.iteration - 1) }, [])
      else some ({ worker with phase := .loading }, [])
  | .loading =>
      if cancelled then
        some ({ worker with phase := .stopping "cancelled" (worker.iteration - 1) },
          [.observedCancellation])
      else some ({ worker with phase := .reporting }, [])
  | .reporting =>
      some ({ worker with phase := .ticking },
        [.sent (.running worker.lane worker.iteration), .startedTick])
  | .ticking =>
      let hadError := result.status == "error"
      let errorAttempt := if hadError then min (worker.errorAttempt + 1) 4294967295 else 0
      let report := [.sent (.finished worker.lane worker.iteration result)]
      if autopilotShouldContinue worker.iteration maxIterations then
        let delayMs :=
          if hadError then autopilotLaneErrorBackoffMs pollIntervalMs errorAttempt
          else pollIntervalMs
        some ({ worker with phase := .sleeping delayMs, errorAttempt }, report)
      else
        some ({ worker with
          phase := .head, iteration := saturatingAdd worker.iteration 1, errorAttempt }, report)
  | .sleeping remainingMs =>
      if cancelled then
        some ({ worker with phase := .stopping "cancelled" worker.iteration },
          [.observedCancellation])
      else if remainingMs = 0 then
        some ({ worker with phase := .head, iteration := saturatingAdd worker.iteration 1 }, [])
      else some ({ worker with phase := .sleeping (remainingMs - min remainingMs 250) }, [])
  | .stopping reason iterations =>
      some ({ worker with phase := .done }, [.sent (.stopped worker.lane reason iterations)])
  | .done => none

/-! ## The supervisor -/

structure Supervisor where
  completedWorkUnits : AutopilotWorkUnitCounters
  hadLaneError : Bool
  stoppedCount : Nat
  finalIterations : Nat
deriving DecidableEq

def reached (workUnitLimit : Option Nat) (total : Nat) : Bool :=
  workUnitLimit.any fun limit => limit ≤ total

/-- The supervisor takes a message; the flag tells that it sets cancellation. -/
def Supervisor.take (workUnitLimit : Option Nat) (supervisor : Supervisor) :
    AutopilotLaneWorkerMessage → Supervisor × Bool
  | .running _ _ => (supervisor, false)
  | .finished _ _ result =>
      let (completedWorkUnits, laneResult) :=
        supervisor.completedWorkUnits.recordLaneResult result
      ({ supervisor with
          completedWorkUnits
          hadLaneError := supervisor.hadLaneError || laneResult.status == "error" },
        reached workUnitLimit completedWorkUnits.total)
  | .stopped _ _ iterations =>
      ({ supervisor with
          stoppedCount := saturatingAdd supervisor.stoppedCount 1
          finalIterations := max supervisor.finalIterations iterations }, false)

def stopReason (workUnitLimit : Option Nat) (cancelled : Bool) (supervisor : Supervisor) : String :=
  if cancelled then
    if reached workUnitLimit supervisor.completedWorkUnits.total then "work_unit_limit"
    else "cancelled"
  else if supervisor.stoppedCount = 0 then "worker_channel_closed"
  else "max_iterations"

/-! ## The system -/

structure World where
  workers : List Worker
  cancellation : Bool
  trace : List (Nat × Event)
  taken : Nat
  supervisor : Supervisor
  stopped : Option String
deriving DecidableEq

/-- All messages sent so far, in the order of the channel. -/
def World.messages (world : World) : List AutopilotLaneWorkerMessage :=
  world.trace.filterMap fun (_, event) =>
    match event with
    | .sent message => some message
    | _ => none

inductive Action where
  | work (index : Nat) (result : AutopilotLoopLaneResult)
  | take
  | interrupt
  | finish
deriving DecidableEq

def World.act (pollIntervalMs : Nat) (workUnitLimit : Option Nat) (world : World) :
    Action → Option World
  | .work index result => do
      let worker ← world.workers[index]?
      let (worker, events) ←
        worker.step pollIntervalMs workUnitLimit world.cancellation result
      return { world with
        workers := world.workers.set index worker
        trace := world.trace ++ events.map fun event => (index, event) }
  | .take => do
      let message ← world.messages[world.taken]?
      let (supervisor, cancel) := world.supervisor.take workUnitLimit message
      return { world with
        supervisor, taken := world.taken + 1, cancellation := world.cancellation || cancel }
  | .interrupt => some { world with cancellation := true }
  | .finish =>
      -- the channel is closed when every worker has dropped its end
      if world.stopped = none ∧ (∀ worker ∈ world.workers, worker.phase = .done)
          ∧ world.taken = world.messages.length then
        some { world with
          stopped := some (stopReason workUnitLimit world.cancellation world.supervisor) }
      else none

/-- An action that is not enabled changes nothing. -/
def World.next (pollIntervalMs : Nat) (workUnitLimit : Option Nat) (world : World)
    (action : Action) : World :=
  (world.act pollIntervalMs workUnitLimit action).getD world

def Supervisor.start : Supervisor where
  completedWorkUnits := { total := 0, lanes := [] }
  hadLaneError := false
  stoppedCount := 0
  finalIterations := 0

def Worker.start (lane : AutopilotLaneKind) : Worker where
  lane := lane
  phase := .head
  iteration := 1
  errorAttempt := 0

def World.idle : World where
  workers := []
  cancellation := false
  trace := []
  taken := 0
  supervisor := .start
  stopped := none

/-- The loop stops at once when its limit is reached without work or no lane is
enabled. -/
def World.start (workUnitLimit : Option Nat) (lanes : List AutopilotLaneKind) : World :=
  if reached workUnitLimit 0 then { World.idle with stopped := some "work_unit_limit" }
  else if lanes = [] then { World.idle with stopped := some "no_enabled_lanes" }
  else { World.idle with workers := lanes.map Worker.start }

end SheaSymphony.Autoloop

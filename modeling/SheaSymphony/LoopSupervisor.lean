import SheaSymphony.ReviewActions

/-!
# The loop of the desktop app

`app/src-tauri/src/autoloop.rs` starts the autopilot loop as a child process and keeps
what is known of it behind one lock. Calls of `start_autoloop` and `stop_autoloop`, a
thread for each stream of a child and one that waits for its end take turns at the lock;
the child prints what it likes and ends when it likes.

What a line of the child does to the state is in `app/src-tauri/src/autoloop_events.rs`.
The lanes and the recent lines, which only the display reads, are left out.
-/

namespace SheaSymphony.App.Supervisor

/-! ## The state -/

structure LoopState where
  running : Bool
  stopping : Bool
  pid : Option Nat
  mode : String
  workflowPath : String
  startedAtMs : Option Nat
  stoppedAtMs : Option Nat
  exitCode : Option Int
  error : Option String
deriving DecidableEq

def LoopState.initial : LoopState where
  running := false
  stopping := false
  pid := none
  mode := "dry-run"
  workflowPath := ".shea/workflows/shea-symphony.md"
  startedAtMs := none
  stoppedAtMs := none
  exitCode := none
  error := none

structure AutoloopOptions where
  workflowPath : Option String
  maxIterations : Option Nat
  once : Option Bool
  continuous : Option Bool
  write : Option Bool
  signalFormat : Option String
  pollIntervalMs : Option Nat
  mainMaxConcurrent : Option Nat
  reviewMaxConcurrent : Option Nat
  mergeMaxConcurrent : Option Nat
deriving DecidableEq

/-- The options of a call that gives none. -/
def AutoloopOptions.unset : AutoloopOptions where
  workflowPath := none
  maxIterations := some 1
  once := none
  continuous := some true
  write := some false
  signalFormat := some "json"
  pollIntervalMs := none
  mainMaxConcurrent := none
  reviewMaxConcurrent := none
  mergeMaxConcurrent := none

def numberArg (flag : String) (value : Option Nat) : List String :=
  value.elim [] fun value => [flag, toString value]

def AutoloopOptions.args (options : AutoloopOptions) (workflowPath : String) : List String :=
  ["autopilot", "loop", workflowPath]
    ++ (if options.once.getD false then ["--once"]
      else if options.continuous.getD true then ["--continuous"]
      else ["--max-iterations", toString (max (options.maxIterations.getD 1) 1)])
    ++ [if options.write.getD false then "--write" else "--dry-run"]
    ++ (if options.signalFormat.getD "json" = "plain" then [] else ["--event-json"])
    ++ numberArg "--poll-interval-ms" (options.pollIntervalMs.map (max · 1))
    ++ numberArg "--main-max-concurrent" options.mainMaxConcurrent
    ++ numberArg "--review-max-concurrent" options.reviewMaxConcurrent
    ++ numberArg "--merge-max-concurrent" options.mergeMaxConcurrent

def AutoloopOptions.mode (options : AutoloopOptions) : String :=
  if options.write.getD false then "write" else "dry-run"

/-! ## Lines of the child -/

section

variable (parse : String → Option Json)

/-- An event of the loop; what is made of a line of text is no event the state reacts to. -/
def parseAutoloopEvent (line : String) : Option Json :=
  (parse line).filter fun value =>
    (value.get "source").bind Json.asStr == some "shea-symphony"
      && ((value.get "event").bind Json.asStr).isSome

def eventName (line : String) : Option String :=
  (parseAutoloopEvent parse line).bind fun event => (event.get "event").bind Json.asStr

def eventMode (line : String) : Option String :=
  (parseAutoloopEvent parse line).bind fun event =>
    (event.get "payload").bind fun payload => (payload.get "mode").bind Json.asStr

end

def LoopState.stopped (state : LoopState) (atMs : Nat) : LoopState :=
  { state with running := false, stopping := false, pid := none, stoppedAtMs := some atMs }

def LoopState.withMode (state : LoopState) (mode : Option String) : LoopState :=
  { state with mode := mode.getD state.mode }

def progressEvents : List String :=
  ["autopilot_loop_status", "autopilot_loop_iteration", "autopilot_loop_result"]

/-- With the answer whether the event is one of the loop. -/
def applyAutoloopEvent (parse : String → Option Json) (state : LoopState) (line : String)
    (atMs : Nat) : Option LoopState :=
  match eventName parse line with
  | none => none
  | some name =>
      if progressEvents.contains name then some (state.withMode (eventMode parse line))
      else if name = "autopilot_loop_stopped" then some (state.stopped atMs)
      else none

/-- The text between quotes, when there are two. -/
def unquote (value : String) : String :=
  match value.toList with
  | '"' :: quoted => if quoted.getLast? = some '"' then String.ofList quoted.dropLast else value
  | _ => value

/-- The last value of a key counts. -/
def keyValue (line key : String) : Option String :=
  ((Text.splitWhitespace line).drop 1).reverse.findSome? fun token =>
    match Text.splitOnce '=' token with
    | some (name, value) => if name = key then some (unquote value) else none
    | none => none

def applyAutoloopResult (state : LoopState) (line : String) : Option LoopState :=
  if Text.startsWith line "autopilot_loop_result " then
    some (state.withMode (keyValue line "mode"))
  else none

def applyAutoloopStopped (state : LoopState) (line : String) (atMs : Nat) : Option LoopState :=
  if Text.startsWith line "autopilot_loop=stopped " then some (state.stopped atMs) else none

def applyLine (parse : String → Option Json) (state : LoopState) (line : String) (atMs : Nat) :
    LoopState :=
  ((applyAutoloopEvent parse state line atMs <|> applyAutoloopResult state line)
    <|> applyAutoloopStopped state line atMs).getD state

/-- The line says that the loop has stopped. -/
def saysStopped (parse : String → Option Json) (line : String) : Bool :=
  match eventName parse line with
  | some name =>
      name == "autopilot_loop_stopped"
        || (!progressEvents.contains name && !Text.startsWith line "autopilot_loop_result "
          && Text.startsWith line "autopilot_loop=stopped ")
  | none =>
      !Text.startsWith line "autopilot_loop_result "
        && Text.startsWith line "autopilot_loop=stopped "

/-! ## Threads -/

/-- A child of the app; `recorded` is set when its process number is in the state. -/
structure Child where
  pid : Nat
  args : List String
  alive : Bool
  recorded : Bool
deriving DecidableEq

/-- The state behind the lock, the selected workspace and the children, in the order they
were spawned. -/
structure Desk where
  state : LoopState
  workspace : WorkspaceProfile
  children : List Child

/-- Where a call or a thread has got to; a child is known by its place. -/
inductive Thread where
  | entering (mode workflowPath : String) (args : List String)
  | building (args : List String)
  | previewing (args : List String)
  | spawning (args : List String)
  | recordingSpawnError (message : String)
  | recording (child pid : Nat)
  | attaching (child pid : Nat)
  | stopping
  | signalling (pid : Nat)
  | recordingStopError (message : String)
  | showing
  | returned (result : Except String LoopState)
  | reading (stream : String) (child : Nat)
  | waiting (child pid : Nat)
  | ended

/-- What a step is answered from outside: the profile and the command it gives, the process
number of a child, the signal, the next line of a stream, the end of a child and the clock. -/
structure Answer where
  command : Except String Unit
  preview : Except String (List String)
  spawn : Except String Nat
  kill : Except String Unit
  line : Option String
  wait : Except String (Option Int)
  nowMs : Nat

abbrev Move := Threads.Move Desk Thread

def Desk.withState (desk : Desk) (state : LoopState) : Desk := { desk with state }

def alreadyRunning (state : LoopState) : String :=
  "autoloop already running with pid " ++ (state.pid.map toString).getD "unknown"

def enter (desk : Desk) (answer : Answer) (mode workflowPath : String) (args : List String) :
    Move :=
  if desk.state.running then
    { shared := desk, next := .returned (.error (alreadyRunning desk.state)) }
  else
    { shared := desk.withState
        { running := true, stopping := false, pid := none, mode, workflowPath
          startedAtMs := some answer.nowMs, stoppedAtMs := none, exitCode := none, error := none }
      next := .building args }

/-- `shea_command_for_workspace(..)?` -/
def build (desk : Desk) (answer : Answer) (args : List String) : Move :=
  match answer.command with
  | .error error => { shared := desk, next := .returned (.error error) }
  | .ok () => { shared := desk, next := .previewing args }

/-- `command_preview_for_workspace(..)?` -/
def preview (desk : Desk) (answer : Answer) (args : List String) : Move :=
  match answer.preview with
  | .error error => { shared := desk, next := .returned (.error error) }
  | .ok _ => { shared := desk, next := .spawning args }

def spawn (desk : Desk) (answer : Answer) (args : List String) : Move :=
  match answer.spawn with
  | .error error =>
      { shared := desk, next := .recordingSpawnError ("failed to start autoloop: " ++ error) }
  | .ok pid =>
      { shared :=
          { desk with
            children := desk.children ++ [{ pid, args, alive := true, recorded := false }] }
        next := .recording desk.children.length pid }

def recordError (desk : Desk) (answer : Answer) (message : String) : Move where
  shared := desk.withState { desk.state.stopped answer.nowMs with error := some message }
  next := .returned (.error message)

def record (desk : Desk) (child pid : Nat) : Move where
  shared :=
    { desk with
      state := { desk.state with pid := some pid }
      children := desk.children.modify child fun child => { child with recorded := true } }
  next := .attaching child pid

def attach (desk : Desk) (child pid : Nat) : Move where
  shared := desk
  next := .showing
  started := [.reading "stdout" child, .reading "stderr" child, .waiting child pid]

/-- The path of the workspace is shown while no loop runs. -/
def shown (desk : Desk) : LoopState :=
  if desk.state.running then desk.state
  else { desk.state with workflowPath := desk.workspace.workflowPath }

def stop (desk : Desk) : Move :=
  match desk.state.pid with
  | none =>
      let desk := desk.withState { desk.state with running := false, stopping := false }
      { shared := desk, next := .returned (.ok (shown desk)) }
  | some pid =>
      { shared := desk.withState { desk.state with stopping := true }, next := .signalling pid }

def signal (desk : Desk) (answer : Answer) : Move :=
  match answer.kill with
  | .error error =>
      { shared := desk
        next := .recordingStopError ("failed to signal autoloop stop: " ++ error) }
  | .ok () => { shared := desk, next := .showing }

def readLine (parse : String → Option Json) (desk : Desk) (answer : Answer) (stream : String)
    (child : Nat) : Move :=
  match answer.line with
  | none => { shared := desk, next := .ended }
  | some line =>
      { shared := desk.withState (applyLine parse desk.state line answer.nowMs)
        next := .reading stream child }

def exitError (waitError : Option String) (exitCode : Option Int) : Option String :=
  match waitError, exitCode with
  | some error, _ => some error
  | none, some code => if code = 0 then none else some ("autoloop exited with status " ++ toString code)
  | none, none => none

def clear (desk : Desk) (answer : Answer) (exitCode : Option Int) (waitError : Option String) :
    Move where
  shared := desk.withState
    { desk.state.stopped answer.nowMs with exitCode, error := exitError waitError exitCode }
  next := .ended

/-- A child that is alive is waited for, unless the waiting itself fails. -/
def wait (desk : Desk) (answer : Answer) (child pid : Nat) : Move :=
  match answer.wait with
  | .error error => clear desk answer none (some error)
  | .ok exitCode =>
      if desk.children[child]?.any (·.alive) then { shared := desk, next := .waiting child pid }
      else clear desk answer exitCode none

def act (parse : String → Option Json) (answer : Answer) (desk : Desk) : Thread → Move
  | .entering mode workflowPath args => enter desk answer mode workflowPath args
  | .building args => build desk answer args
  | .previewing args => preview desk answer args
  | .spawning args => spawn desk answer args
  | .recordingSpawnError message => recordError desk answer message
  | .recording child pid => record desk child pid
  | .attaching child pid => attach desk child pid
  | .stopping => stop desk
  | .signalling _ => signal desk answer
  | .recordingStopError message => recordError desk answer message
  | .showing => { shared := desk, next := .returned (.ok (shown desk)) }
  | .returned result => { shared := desk, next := .returned result }
  | .reading stream child => readLine parse desk answer stream child
  | .waiting child pid => wait desk answer child pid
  | .ended => { shared := desk, next := .ended }

/-! ## Runs -/

inductive Input where
  | start (options : Option AutoloopOptions)
  | stop
  | goOn (thread : Nat) (answer : Answer)
  | exit (child : Nat)
  | switch (workspace : WorkspaceProfile)

abbrev Session := Threads.State Desk Thread

def beginStart (desk : Desk) (options : Option AutoloopOptions) : Thread :=
  let options := options.getD .unset
  let workflowPath := options.workflowPath.getD desk.workspace.workflowPath
  .entering options.mode workflowPath (options.args workflowPath)

def step (parse : String → Option Json) (s : Session) : Input → Session
  | .start options => s.start (beginStart s.shared options)
  | .stop => s.start .stopping
  | .goOn thread answer => Threads.advance (act parse answer) s thread
  | .exit child =>
      s.put { s.shared with
        children := s.shared.children.modify child fun child => { child with alive := false } }
  | .switch workspace => s.put { s.shared with workspace }

def opened (workspace : WorkspaceProfile) : Session where
  shared := { state := .initial, workspace, children := [] }
  threads := []

end SheaSymphony.App.Supervisor

import SheaSymphony.HandoffPlan
import SheaSymphony.Threads

/-!
# The review actions of the desktop app

`app/src-tauri/src/review_actions.rs` runs a write of the review lane in two calls: a
preparation checks the workspace and makes a dry run, and gives out a token; presented in
time and with nothing changed, the token starts the write. The calls share what is behind
one lock, and a preparation works outside of it.

A call goes from one section of the lock to the next, and from one access of the disk or
of the command to the next, in steps; between them other calls are made, the workspace is
switched and its files are edited.
-/

namespace SheaSymphony.App

inductive ReviewAction where
  | once | recover
deriving DecidableEq

def ReviewAction.command : ReviewAction → String
  | .once => "once"
  | .recover => "recover"

structure WorkspaceProfile where
  engineRoot : String
  targetRoot : String
  workflowPath : String
  cliPath : Option String
  source : String
  error : Option String
deriving DecidableEq

def WorkspaceProfile.workflowFilePath (workspace : WorkspaceProfile) : String :=
  MainHandoff.joinPath workspace.targetRoot workspace.workflowPath

structure CommandSummary where
  ok : Bool
  stderr : String
deriving DecidableEq

structure ActionState where
  running : Bool
  issue : Option String
  action : Option ReviewAction
  workspace : Option String
  result : Option CommandSummary
deriving DecidableEq

/-- A fingerprint is a `φ`, and the time is in nanoseconds. -/
structure PreparedAction (φ : Type) where
  token : String
  issue : String
  action : ReviewAction
  workspace : WorkspaceProfile
  fingerprint : φ
  created : Nat
deriving DecidableEq

structure Inner (φ : Type) where
  preparing : Bool
  sequence : Nat
  prepared : Option (PreparedAction φ)
  state : ActionState
deriving DecidableEq

def Inner.initial {φ : Type} : Inner φ where
  preparing := false
  sequence := 0
  prepared := none
  state := { running := false, issue := none, action := none, workspace := none, result := none }

structure ActionPreview where
  token : String
  issue : String
  action : ReviewAction
  workspace : String
  summary : CommandSummary
deriving DecidableEq

def issueIdentifier (issue : String) : Except String String :=
  let number := (Text.stripPrefix issue "#").getD issue
  if number = "" ∨ 12 < Text.byteLength number ∨ !number.toList.all Char.isDigit
      ∨ Text.startsWith number "0" then
    .error "Select a positive GitHub Issue number."
  else .ok ("#" ++ number)

def actionArgs (workspace : WorkspaceProfile) (issue : String) (action : ReviewAction)
    (write : Bool) : List String :=
  ["review", action.command, workspace.workflowPath, issue,
    if write then "--write" else "--dry-run"]

/-! ## The configuration -/

inductive ReadError where
  | notFound
  | other (message : String)
deriving DecidableEq

/-- The files as they are at some time, and the runtime profile the configuration of a
workspace names in them. -/
structure Disk where
  runtimeProfilePath : WorkspaceProfile → Except String String
  read : String → Except ReadError (List UInt8)

/-- What goes into a fingerprint: each path, with the text of its file if it has one. -/
abbrev ConfigurationFiles := List (String × Option (List UInt8))

def readConfigurationFile (disk : Disk) (path : String) :
    Except String (String × Option (List UInt8)) :=
  match disk.read path with
  | .ok bytes => .ok (path, some bytes)
  | .error .notFound => .ok (path, none)
  | .error (.other message) => .error message

def configurationFiles (disk : Disk) (workspace : WorkspaceProfile) :
    Except String ConfigurationFiles := do
  let runtimeProfile ← disk.runtimeProfilePath workspace
  [workspace.workflowFilePath, runtimeProfile,
    MainHandoff.joinPath workspace.targetRoot ".shea/app-profile.json",
    MainHandoff.joinPath workspace.targetRoot ".shea/app-profile.local.json"].mapM
      (readConfigurationFile disk)

/-! ## The calls -/

/-- What a preparation is about; a call is known by its place among the calls. -/
structure Request where
  call : Nat
  issue : String
  action : ReviewAction
  workspace : WorkspaceProfile
deriving DecidableEq

/-- What has happened, for the record. -/
inductive Event where
  | entered (request : Request)
  | ready (request : Request)
  | fingerprinted (request : Request) (files : ConfigurationFiles)
  | dryRan (request : Request)
  | prepared (request : Request) (token : String) (time : Nat)
  | presented (token : String) (workspace : WorkspaceProfile)
      (files : Except String ConfigurationFiles) (time : Nat)
  | started (token : String) (workspace : WorkspaceProfile) (args : List String)

/-- Where a call of `prepare_review_action` or `execute_review_action`, or the thread of a
write, has got to. -/
inductive Call (φ : Type) where
  | entering (request : Request)
  | checking (request : Request)
  | fingerprinting (request : Request)
  | dryRunning (request : Request) (fingerprint : φ)
  | closing (request : Request) (preparation : Except String (φ × CommandSummary))
  | prepareReturned (result : Except String ActionPreview)
  | confirming (token : String) (workspace : WorkspaceProfile)
  | executeReturned (result : Except String ActionState)
  | launching (workspace : WorkspaceProfile) (prepared : PreparedAction φ)
  | writing
  | ended

/-- What the calls share, with the workspace that is selected and its files. -/
structure Desk (φ : Type) where
  workspace : WorkspaceProfile
  disk : Disk
  now : Nat
  inner : Inner φ
  log : List Event

def Desk.note {φ : Type} (desk : Desk φ) (event : Event) : Desk φ :=
  { desk with log := desk.log ++ [event] }

/-- What a step is answered from outside: what the readiness check finds, what a command
gives and whether it starts, and the clock on the wall. -/
structure Answer where
  readiness : Except String Unit
  starts : Bool
  summary : CommandSummary
  nowMs : Nat

def busyText : String := "Another Review operation is active in this App."

def previewMaxAge : Nat := 300 * 10 ^ 9

section

variable {φ : Type} [DecidableEq φ] (digest : ConfigurationFiles → φ) (pid : Nat)

def configurationFingerprint (disk : Disk) (workspace : WorkspaceProfile) : Except String φ :=
  (configurationFiles disk workspace).map digest

def actionToken (nowMs sequence : Nat) : String :=
  toString pid ++ "-" ++ toString nowMs ++ "-" ++ toString sequence

def takePrepared (disk : Disk) (now : Nat) (inner : Inner φ) (workspace : WorkspaceProfile)
    (token : String) : Except String (PreparedAction φ) × Inner φ :=
  if inner.state.running || inner.preparing then (.error busyText, inner)
  else
    match inner.prepared with
    | none => (.error "Prepare the Review operation before confirming it.", inner)
    | some prepared =>
        let taken := { inner with prepared := none }
        if prepared.token ≠ token ∨ previewMaxAge < now - prepared.created
            ∨ prepared.workspace ≠ workspace then
          (.error "Review preview changed or expired. Prepare again.", taken)
        else
          match configurationFingerprint digest disk workspace with
          | .error error => (.error error, taken)
          | .ok fingerprint =>
              if prepared.fingerprint ≠ fingerprint then
                (.error "Workspace configuration changed. Prepare again.", taken)
              else (.ok prepared, taken)

/-! ### prepare_review_action -/

def enter (desk : Desk φ) (request : Request) : Threads.Move (Desk φ) (Call φ) :=
  if desk.inner.state.running || desk.inner.preparing then
    { shared := desk, next := .prepareReturned (.error busyText) }
  else
    { shared :=
        { desk with inner := { desk.inner with preparing := true, prepared := none } }.note
          (.entered request)
      next := .checking request }

def check (desk : Desk φ) (answer : Answer) (request : Request) :
    Threads.Move (Desk φ) (Call φ) :=
  match answer.readiness with
  | .error error => { shared := desk, next := .closing request (.error error) }
  | .ok () => { shared := desk.note (.ready request), next := .fingerprinting request }

def fingerprint (desk : Desk φ) (request : Request) : Threads.Move (Desk φ) (Call φ) :=
  match configurationFiles desk.disk request.workspace with
  | .error error => { shared := desk, next := .closing request (.error error) }
  | .ok files =>
      { shared := desk.note (.fingerprinted request files)
        next := .dryRunning request (digest files) }

/-- The command is run with `action_args(workspace, issue, action, false)`. -/
def dryRun (desk : Desk φ) (answer : Answer) (request : Request) (fingerprint : φ) :
    Threads.Move (Desk φ) (Call φ) :=
  if answer.summary.ok then
    { shared := desk.note (.dryRan request)
      next := .closing request (.ok (fingerprint, answer.summary)) }
  else { shared := desk, next := .closing request (.error answer.summary.stderr) }

def close (desk : Desk φ) (answer : Answer) (request : Request)
    (preparation : Except String (φ × CommandSummary)) : Threads.Move (Desk φ) (Call φ) :=
  let inner := { desk.inner with preparing := false }
  match preparation with
  | .error error => { shared := { desk with inner }, next := .prepareReturned (.error error) }
  | .ok (fingerprint, summary) =>
      let sequence := inner.sequence + 1
      let token := actionToken pid answer.nowMs sequence
      let prepared :=
        { token, issue := request.issue, action := request.action
          workspace := request.workspace, fingerprint, created := desk.now }
      { shared :=
          { desk with inner := { inner with sequence, prepared := some prepared } }.note
            (.prepared request token desk.now)
        next := .prepareReturned (.ok
          { token, issue := request.issue, action := request.action
            workspace := request.workspace.targetRoot, summary }) }

/-! ### execute_review_action -/

def confirm (desk : Desk φ) (token : String) (workspace : WorkspaceProfile) :
    Threads.Move (Desk φ) (Call φ) :=
  match takePrepared digest desk.disk desk.now desk.inner workspace token with
  | (.error error, inner) =>
      { shared := { desk with inner }, next := .executeReturned (.error error) }
  | (.ok prepared, inner) =>
      let state : ActionState :=
        { running := true, issue := some prepared.issue, action := some prepared.action
          workspace := some workspace.targetRoot, result := none }
      { shared :=
          { desk with inner := { inner with state } }.note
            (.presented token workspace (configurationFiles desk.disk workspace) desk.now)
        next := .executeReturned (.ok state)
        started := [.launching workspace prepared] }

def launch (desk : Desk φ) (answer : Answer) (workspace : WorkspaceProfile)
    (prepared : PreparedAction φ) : Threads.Move (Desk φ) (Call φ) :=
  if answer.starts then
    { shared := desk.note (.started prepared.token workspace
        (actionArgs workspace prepared.issue prepared.action true))
      next := .writing }
  else { shared := desk, next := .writing }

def finish (desk : Desk φ) (answer : Answer) : Threads.Move (Desk φ) (Call φ) where
  shared :=
    { desk with inner :=
      { desk.inner with state :=
        { desk.inner.state with running := false, result := some answer.summary } } }
  next := .ended

/-! ### Runs -/

def act (answer : Answer) (desk : Desk φ) : Call φ → Threads.Move (Desk φ) (Call φ)
  | .entering request => enter desk request
  | .checking request => check desk answer request
  | .fingerprinting request => fingerprint digest desk request
  | .dryRunning request fingerprint => dryRun desk answer request fingerprint
  | .closing request preparation => close pid desk answer request preparation
  | .confirming token workspace => confirm digest desk token workspace
  | .launching workspace prepared => launch desk answer workspace prepared
  | .writing => finish desk answer
  | .prepareReturned result => { shared := desk, next := .prepareReturned result }
  | .executeReturned result => { shared := desk, next := .executeReturned result }
  | .ended => { shared := desk, next := .ended }

inductive Input where
  | prepare (issue : String) (action : ReviewAction)
  | execute (token : String)
  | goOn (call : Nat) (answer : Answer)
  | switch (workspace : WorkspaceProfile)
  | edit (disk : Disk)
  | tick (elapsed : Nat)

abbrev Session (φ : Type) := Threads.State (Desk φ) (Call φ)

/-- A preparation looks at its issue and at the selected workspace as it is called. -/
def beginPrepare (s : Session φ) (issue : String) (action : ReviewAction) : Call φ :=
  match issueIdentifier issue with
  | .error error => .prepareReturned (.error error)
  | .ok issue =>
      .entering { call := s.threads.length, issue, action, workspace := s.shared.workspace }

def step (s : Session φ) : Input → Session φ
  | .prepare issue action => s.start (beginPrepare s issue action)
  | .execute token => s.start (.confirming token s.shared.workspace)
  | .goOn call answer => Threads.advance (act digest pid answer) s call
  | .switch workspace => s.put { s.shared with workspace }
  | .edit disk => s.put { s.shared with disk }
  | .tick elapsed => s.put { s.shared with now := s.shared.now + elapsed }

/-- The app as it starts. -/
def opened (workspace : WorkspaceProfile) (disk : Disk) (now : Nat) : Session φ where
  shared := { workspace, disk, now, inner := .initial, log := [] }
  threads := []

end

end SheaSymphony.App

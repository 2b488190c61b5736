import SheaSymphony.Runs
import SheaSymphony.Text
import SheaSymphony.Threads

/-!
# The overview of the desktop app

`app/src/lib/operatorOverviewStore.ts` refreshes what the app shows. A request changes the
store at once and issues reads; what has been read, or why it has not, changes the store
when it comes back, unless a newer request has taken over in the meantime. Nothing runs in
parallel: between two points where a function waits, it has the store to itself.

Of the view only its being there is kept, and of the texts of a surface its pause of the
project reads.
-/

namespace SheaSymphony.App.Overviews

def slowSurfaces : List String := ["githubQueue", "sessions", "status"]

def projectReadSurfaces : List String := ["autopilot", "doctor", "review", "githubQueue"]

def localArtifactReadSurfaces : List String := ["sessions", "status"]

/-! ## The stores -/

structure LocalArtifactRefreshStatus where
  running : Bool
  remaining : Nat
  startedAt : Option Nat
  lastRefreshedAt : Option Nat
  error : String
  source : String
deriving DecidableEq

def idleLocalArtifactsRefresh : LocalArtifactRefreshStatus where
  running := false
  remaining := 0
  startedAt := none
  lastRefreshedAt := none
  error := ""
  source := "idle"

structure RefreshStatus where
  running : Bool
  remaining : Nat
  startedAt : Option Nat
  finishedAt : Option Nat
  source : String
  detail : String
deriving DecidableEq

/-- `renderable` is `view.dataSource.mode !== 'offline'`. -/
structure Overview where
  renderable : Bool
  loading : Bool
  fullLoading : Bool
  backgroundRefreshing : Bool
  slowReadsRemaining : Nat
  liveError : String
  localArtifactsRefresh : LocalArtifactRefreshStatus
  projectReadCooldown : Option Nat
deriving DecidableEq

/-- The two stores, the variables of the module and the time. -/
structure Page where
  overview : Overview
  refreshStatus : RefreshStatus
  readGeneration : Nat
  localArtifactsGeneration : Nat
  backgroundReadsInFlight : Bool
  projectReadCooldownUntilMs : Nat
  nowMs : Nat
deriving DecidableEq

def Page.loaded (nowMs : Nat) : Page where
  overview :=
    { renderable := false, loading := true, fullLoading := false, backgroundRefreshing := false
      slowReadsRemaining := 0, liveError := ""
      localArtifactsRefresh := idleLocalArtifactsRefresh, projectReadCooldown := none }
  refreshStatus :=
    { running := false, remaining := 0, startedAt := none, finishedAt := none, source := "idle"
      detail := "Idle" }
  readGeneration := 0
  localArtifactsGeneration := 0
  backgroundReadsInFlight := false
  projectReadCooldownUntilMs := 0
  nowMs

/-! ## What comes back -/

/-- A view is built from what has been read, and it may tell of a pause of the project
reads. -/
structure Surface where
  renderable : Bool
  cooldown : Option Nat
deriving DecidableEq

def Page.projectReadCooldownActive (page : Page) : Bool :=
  decide (page.nowMs < page.projectReadCooldownUntilMs)

/-- `normalizeProjectCooldown` also sets the time until which project reads pause. -/
def Page.read (page : Page) (surface : Surface) : Page :=
  { page with
    overview :=
      { page.overview with
        renderable := surface.renderable
        projectReadCooldown := surface.cooldown <|> page.overview.projectReadCooldown }
    projectReadCooldownUntilMs :=
      max page.projectReadCooldownUntilMs (surface.cooldown.getD 0) }

def Page.withOverview (page : Page) (overview : Overview) : Page := { page with overview }

def Page.withStatus (page : Page) (refreshStatus : RefreshStatus) : Page :=
  { page with refreshStatus }

/-! ## The background reads -/

/-- Where the requests have got to: an overview read, the background reads with the surface
that is being read first, and the reads of the doctor and of a local surface, each of which
has an end of its own; and the end of the background reads. -/
inductive Task where
  | overview (includeSlowReads publishStatus : Bool) (source : String) (wasRenderable : Bool)
  | background (generation : Nat) (publishStatus : Bool) (source : String) (names : List String)
  | clearing
  | doctor (generation : Nat) (publishStatus : Bool)
  | doctorEnd (generation : Nat) (publishStatus : Bool)
  | local (generation : Nat) (publishStatus : Bool) (source : String)
  | localEnd (generation : Nat) (publishStatus : Bool) (source : String)
  | done
deriving DecidableEq

abbrev Session := Threads.State Page Task

abbrev Move := Threads.Move Page Task

/-- The words behind the number of surfaces that are being loaded. -/
def plural (count : Nat) (word : String) : String :=
  toString count ++ " " ++ word ++ (if count = 1 then "" else "s")

/-- One surface less; `source` is that of a surface that was skipped. -/
def finishBackgroundSurface (page : Page) (generation : Nat) (publishStatus : Bool)
    (source : Option String) (loading : String) : Page :=
  if generation ≠ page.readGeneration then page
  else
    let nextRemaining := page.overview.slowReadsRemaining - 1
    let page := page.withOverview
      { page.overview with
        slowReadsRemaining := nextRemaining
        fullLoading := decide (0 < nextRemaining)
        backgroundRefreshing := decide (0 < nextRemaining) }
    if publishStatus || page.refreshStatus.running then
      page.withStatus
        { page.refreshStatus with
          running := decide (0 < nextRemaining)
          remaining := nextRemaining
          source := source.getD page.refreshStatus.source
          finishedAt := if nextRemaining = 0 then some page.nowMs else page.refreshStatus.finishedAt
          detail := if nextRemaining = 0 then "Refresh complete"
            else loading ++ plural nextRemaining "CLI surface" }
    else page

def finishLoadedBackgroundSurface (page : Page) (generation : Nat) (publishStatus : Bool) : Page :=
  finishBackgroundSurface page generation publishStatus none "Loading "

def finishSkippedBackgroundSurface (page : Page) (generation : Nat) (source : String)
    (publishStatus : Bool) : Page :=
  finishBackgroundSurface page generation publishStatus (some source)
    "Project read paused; loading "

/-- The loop of `runBackgroundReadsSequentially` up to the next read, with the surfaces from
that one on; none are left when it is over. -/
def runBackgroundReads (generation : Nat) (publishStatus : Bool) (source : String) :
    Page → List String → Page × List String
  | page, [] => (page, [])
  | page, name :: names =>
      if generation ≠ page.readGeneration then (page, [])
      else if projectReadSurfaces.contains name && page.projectReadCooldownActive then
        runBackgroundReads generation publishStatus source
          (finishSkippedBackgroundSurface page generation source publishStatus) names
      else (page, name :: names)

def backgroundTask (generation : Nat) (publishStatus : Bool) (source : String) :
    List String → Task
  | [] => .clearing
  | names => .background generation publishStatus source names

/-- What has been read is looked at only by the newest generation. -/
def absorb (page : Page) (generation : Nat) (result : Except String Surface) : Page :=
  if generation ≠ page.readGeneration then page
  else
    match result with
    | .ok surface => page.read surface
    | .error message => page.withOverview { page.overview with liveError := message }

def backgroundRead (page : Page) (generation : Nat) (publishStatus : Bool) (source : String)
    (names : List String) (result : Except String Surface) : Move :=
  let stale := decide (generation ≠ page.readGeneration)
  let page := finishLoadedBackgroundSurface (absorb page generation result) generation
    publishStatus
  if stale then { shared := page, next := .clearing }
  else
    let (page, names) := runBackgroundReads generation publishStatus source page names.tail
    { shared := page, next := backgroundTask generation publishStatus source names }

/-- With the task that is started and whether there is one. -/
def startOperatorBackgroundReads (page : Page) (source : String) (publishStatus : Bool) :
    Page × List Task :=
  if page.backgroundReadsInFlight then
    let page := page.withOverview
      { page.overview with backgroundRefreshing := true, fullLoading := true }
    if publishStatus then
      (page.withStatus
        { running := true
          remaining := page.overview.slowReadsRemaining
          startedAt := some page.nowMs
          finishedAt := none
          source
          detail := "Background refresh already in progress" }, [])
    else (page, [])
  else
    let generation := page.readGeneration + 1
    let page :=
      { page with
        backgroundReadsInFlight := true
        readGeneration := generation
        overview :=
          { page.overview with fullLoading := true, slowReadsRemaining := slowSurfaces.length }
        refreshStatus :=
          if publishStatus then
            { page.refreshStatus with
              running := true, remaining := slowSurfaces.length, source
              detail := "Loading CLI read surfaces" }
          else page.refreshStatus }
    let (page, names) := runBackgroundReads generation publishStatus source page slowSurfaces
    (page, [backgroundTask generation publishStatus source names])

/-! ## Requests -/

def requestOperatorOverviewRefresh (page : Page) (includeSlowReads : Bool) (source : String)
    (publishStatus : Bool) : Page × List Task :=
  let renderable := page.overview.renderable
  let page := page.withOverview
    { page.overview with
      backgroundRefreshing := renderable
      loading := !renderable
      fullLoading := includeSlowReads
      slowReadsRemaining := 0
      liveError := "" }
  let page :=
    if publishStatus then
      page.withStatus
        { running := true
          remaining := if includeSlowReads then slowSurfaces.length else 1
          startedAt := some page.nowMs
          finishedAt := none
          source
          detail := "Requesting overview" }
    else page
  (page, [.overview includeSlowReads publishStatus source renderable])

def finishedStatus (page : Page) (source detail : String) : RefreshStatus where
  running := false
  remaining := 0
  startedAt := none
  finishedAt := some page.nowMs
  source := source
  detail := detail

/-- The `finally` of the request. -/
def endOverviewRefresh (page : Page) (includeSlowReads publishStatus : Bool) (source : String)
    (backgroundReadsStarted : Bool) : Page :=
  let page := page.withOverview
    { page.overview with
      loading := false
      backgroundRefreshing :=
        if backgroundReadsStarted || page.backgroundReadsInFlight then
          page.overview.backgroundRefreshing
        else false }
  if !includeSlowReads && publishStatus then
    page.withStatus (finishedStatus page source "Overview refreshed")
  else page

def overviewRead (page : Page) (includeSlowReads publishStatus : Bool) (source : String)
    (wasRenderable : Bool) (result : Except String Surface) : Move :=
  match result with
  | .ok surface =>
      let page := page.read surface
      let page := page.withOverview { page.overview with loading := false }
      if includeSlowReads then
        let (page, started) := startOperatorBackgroundReads page source publishStatus
        { shared := endOverviewRefresh page includeSlowReads publishStatus source !started.isEmpty
          next := .done
          started }
      else
        { shared := endOverviewRefresh page includeSlowReads publishStatus source false
          next := .done }
  | .error message =>
      let page := page.withOverview
        { page.overview with
          liveError := message
          renderable := if wasRenderable then page.overview.renderable else false }
      let page :=
        if publishStatus then page.withStatus (finishedStatus page source message) else page
      { shared := endOverviewRefresh page includeSlowReads publishStatus source false
        next := .done }

def requestOperatorDoctorRefresh (page : Page) (source : String) (publishStatus : Bool) :
    Page × List Task :=
  let generation := page.readGeneration + 1
  let page :=
    { page with
      readGeneration := generation
      refreshStatus :=
        if publishStatus then
          { running := true, remaining := 1, startedAt := some page.nowMs, finishedAt := none
            source, detail := "Refreshing doctor" }
        else page.refreshStatus
      overview :=
        { page.overview with
          liveError := "", fullLoading := true, backgroundRefreshing := true
          slowReadsRemaining := 1 } }
  if page.projectReadCooldownActive then
    (finishSkippedBackgroundSurface page generation source publishStatus, [])
  else (page, [.doctor generation publishStatus])

def requestOperatorLocalArtifactsRefresh (page : Page) (source : String) (publishStatus : Bool) :
    Page × List Task :=
  let generation := page.localArtifactsGeneration + 1
  let remaining := localArtifactReadSurfaces.length
  let page :=
    { page with
      localArtifactsGeneration := generation
      refreshStatus :=
        if publishStatus then
          { running := true, remaining, startedAt := some page.nowMs, finishedAt := none, source
            detail := "Refreshing local artifacts" }
        else page.refreshStatus
      overview :=
        { page.overview with
          liveError := ""
          localArtifactsRefresh :=
            { running := true, remaining, startedAt := some page.nowMs
              lastRefreshedAt := page.overview.localArtifactsRefresh.lastRefreshedAt
              error := "", source } } }
  (page, localArtifactReadSurfaces.map fun _ => .local generation publishStatus source)

def localRead (page : Page) (generation : Nat) (source : String)
    (result : Except String Surface) : Page :=
  if generation ≠ page.localArtifactsGeneration then page
  else
    match result with
    | .ok surface => page.read surface
    | .error message => page.withOverview
        { page.overview with
          localArtifactsRefresh :=
            { page.overview.localArtifactsRefresh with
              running := false, error := message, source } }

def localEnd (page : Page) (generation : Nat) (publishStatus : Bool) (source : String) : Page :=
  if generation ≠ page.localArtifactsGeneration then page
  else
    let status := page.overview.localArtifactsRefresh
    let nextRemaining := status.remaining - 1
    let finishedAt := if nextRemaining = 0 then some page.nowMs else none
    let page := page.withOverview
      { page.overview with
        localArtifactsRefresh :=
          { status with
            running := decide (0 < nextRemaining)
            remaining := nextRemaining
            lastRefreshedAt :=
              if finishedAt.isSome && status.error == "" then finishedAt
              else status.lastRefreshedAt
            source } }
    if publishStatus then
      page.withStatus
        { page.refreshStatus with
          running := decide (0 < nextRemaining)
          remaining := nextRemaining
          finishedAt := finishedAt <|> page.refreshStatus.finishedAt
          detail := if nextRemaining = 0 then "Local artifacts refreshed"
            else "Loading " ++ plural nextRemaining "local surface" }
    else page

/-! ## Runs -/

/-- The promise a task waits for is settled. -/
def act (result : Except String Surface) (page : Page) : Task → Move
  | .overview includeSlowReads publishStatus source wasRenderable =>
      overviewRead page includeSlowReads publishStatus source wasRenderable result
  | .background generation publishStatus source names =>
      backgroundRead page generation publishStatus source names result
  | .clearing => { shared := { page with backgroundReadsInFlight := false }, next := .done }
  | .doctor generation publishStatus =>
      { shared := absorb page generation result, next := .doctorEnd generation publishStatus }
  | .doctorEnd generation publishStatus =>
      { shared := finishLoadedBackgroundSurface page generation publishStatus, next := .done }
  | .local generation publishStatus source =>
      { shared := localRead page generation source result
        next := .localEnd generation publishStatus source }
  | .localEnd generation publishStatus source =>
      { shared := localEnd page generation publishStatus source, next := .done }
  | .done => { shared := page, next := .done }

inductive Input where
  | overview (includeSlowReads : Bool) (source : String) (publishStatus : Bool)
  | doctor (source : String) (publishStatus : Bool)
  | localArtifacts (source : String) (publishStatus : Bool)
  | settle (task : Nat) (result : Except String Surface)
  | tick (elapsed : Nat)
deriving DecidableEq

def request (s : Session) : Page × List Task → Session
  | (shared, tasks) => { shared, threads := s.threads ++ tasks }

def step (s : Session) : Input → Session
  | .overview includeSlowReads source publishStatus =>
      request s (requestOperatorOverviewRefresh s.shared includeSlowReads source publishStatus)
  | .doctor source publishStatus =>
      request s (requestOperatorDoctorRefresh s.shared source publishStatus)
  | .localArtifacts source publishStatus =>
      request s (requestOperatorLocalArtifactsRefresh s.shared source publishStatus)
  | .settle task result => Threads.advance (act result) s task
  | .tick elapsed => s.put { s.shared with nowMs := s.shared.nowMs + elapsed }

def opened (nowMs : Nat) : Session where
  shared := .loaded nowMs
  threads := []

end SheaSymphony.App.Overviews

import SheaSymphony.AgentEvents
import SheaSymphony.JsonText
import SheaSymphony.ReviewStructured
import SheaSymphony.ReviewWorkspace
import SheaSymphony.Runs

/-!
# Review jobs of the agents

`execute_codex_review` and `execute_claude_review`: the reviewer runs once, and once
more where it was interrupted; the snapshot of its workspace is taken again and
compared with the one from before; the report is decoded from the last attempt. A
job that completes has left the files as they were and reports what its last attempt
says (`kept_of_completed`), but it may have moved the commit (`review_kept_iff`).
-/

namespace SheaSymphony.ReviewWorker

open Agent (AgentEvent Fails messageField)
open Json Fallible
open Review (AgentReviewReport ReviewJob ReviewJobState parseStructuredReview structuredReport)

/-! ## The backends -/

/-- What `execute_codex_review` and `execute_claude_review` do each in their own way. -/
structure AgentReviewer where
  kind : String
  display : String
  /-- The attempt was cut off and may be continued. -/
  interruptedBeforeTerminal : List AgentEvent → Bool
  /-- The session that is continued, or none; an error ends the review. -/
  resumeId : List AgentEvent → Except String (Option String)
  structuredText : List AgentEvent → Option String
  sessionId : List AgentEvent → Option String

def terminalError (events : List AgentEvent) : Option String :=
  events.findSome? AgentEvent.failure

def failsWith (patterns : List String) (events : List AgentEvent) : Bool :=
  events.any fun event => event.failure.any fun error => patterns.any (Text.contains error)

def pointer (path : List String) (document : Json) : Option Json :=
  path.foldl (fun found name => found.bind (Json.get name)) (some document)

/-- The text a finished item of the protocol carries. -/
def agentOutput (reader : Reader) : AgentEvent → Option String
  | .message _ _ text =>
      match reader.parse text with
      | .error _ => none
      | .ok payload =>
          if (payload.get "method").bind asStr = some "item/completed" then
            (pointer ["params", "item"] payload).bind fun item =>
              match (item.get "type").bind asStr with
              | some "agentMessage" => (item.get "text").bind asStr
              | some "exitedReviewMode" => (item.get "review").bind asStr
              | _ => none
          else none
  | _ => none

def extractAgentOutput (reader : Reader) (events : List AgentEvent) : Option String :=
  events.reverse.findSome? (agentOutput reader)

def startedSessionId (events : List AgentEvent) : Option String :=
  events.findSome? AgentEvent.startedSession

def completedSummary (events : List AgentEvent) : Option String :=
  events.reverse.findSome? AgentEvent.completion

def codexReviewer (reader : Reader) : AgentReviewer where
  kind := "codex-app-server"
  display := "Codex Review"
  interruptedBeforeTerminal :=
    failsWith ["exited before a terminal turn event", "exited unexpectedly with status"]
  resumeId events :=
    match messageField events "thread_id=" with
    | none => .error "interrupted Codex Review did not record a resumable thread id"
    | some threadId => .ok (some threadId)
  structuredText := extractAgentOutput reader
  sessionId events := messageField events "thread_id="

def claudeReviewer : AgentReviewer where
  kind := "claude-code"
  display := "Claude Review"
  interruptedBeforeTerminal events :=
    (startedSessionId events).isSome
      && failsWith ["stream ended before a terminal result event"] events
  resumeId events := .ok (startedSessionId events)
  structuredText := completedSummary
  sessionId := startedSessionId

/-- The two agents that review as jobs. -/
def agentReviewers (reader : Reader) : List AgentReviewer := [codexReviewer reader, claudeReviewer]

/-! ## One review -/

/-- What happens around a review: what the attempts report, whether it is cancelled
before the second one, what the artifacts hold and whether the output is written. -/
structure AgentReviewRun where
  first : Except String (List AgentEvent)
  cancelled : Bool
  resumed : String → Except String (List AgentEvent)
  artifactTexts : List (List AgentEvent) → String
  write : Except String Unit

structure ReviewJobOutcome where
  sessionId : Option String
  report : Option AgentReviewReport
  error : Option String

/-- The attempts of a review, the first and what came after it. -/
def reviewAttempts (reviewer : AgentReviewer) (run : AgentReviewRun) :
    Except String (List AgentEvent × List (List AgentEvent)) := do
  let first ← run.first
  if reviewer.interruptedBeforeTerminal first && !run.cancelled then
    match ← reviewer.resumeId first with
    | none => return (first, [])
    | some session =>
        let second ← run.resumed session
        return (first, [second])
  else return (first, [])

def finalEvents (attempts : List AgentEvent × List (List AgentEvent)) : List AgentEvent :=
  attempts.2.getLast?.getD attempts.1

/-- What is made of the last attempt. -/
def reportResult (reader : Reader) (reviewer : AgentReviewer) (unchanged : Bool)
    (final : List AgentEvent) (sessionId : Option String) (stderr : String) :
    Except String AgentReviewReport :=
  if !unchanged then
    .error (reviewer.display ++ " changed the read-only Review workspace; review cannot pass")
  else
    match terminalError final with
    | some error => .error error
    | none =>
        match reviewer.structuredText final with
        | some text =>
            structuredReport reader text reviewer.kind reviewer.display sessionId stderr
              (messageField final "exit_status=")
        | none => .error (reviewer.display ++ " completed without a structured report")

variable {reviewer : AgentReviewer} {reader : Reader} {report : AgentReviewReport}

section
variable {C T : Type}

def executeReview (host : Host C T) (reader : Reader) (reviewer : AgentReviewer)
    (before : List UInt8) (workspace : Worktree C T) (run : AgentReviewRun) :
    Except String ReviewJobOutcome := do
  let attempts ← reviewAttempts reviewer run
  let after ← workspaceState host workspace
  let final := finalEvents attempts
  let sessionId := reviewer.sessionId final <|> reviewer.sessionId attempts.1
  let stderr := run.artifactTexts (attempts.1 :: attempts.2)
  let result := reportResult reader reviewer (decide (before = after)) final sessionId stderr
  run.write
  return {
    sessionId
    report := result.toOption
    error := match result with
      | .error error => some error
      | .ok _ => none }

/-! ## The job -/

/-- What a poll finds on the channel of the worker. -/
inductive PollAnswer where
  | empty
  | received
  | disconnected
  | notFound
deriving DecidableEq

inductive JobStep where
  | poll (answer : PollAnswer)
  | cancel
deriving DecidableEq

def pollReview (display : String) (result : Except String ReviewJobOutcome) (job : ReviewJob)
    (answer : PollAnswer) : ReviewJob :=
  if job.state ≠ .running then job
  else
    match answer with
    | .empty => job
    | .notFound =>
        { job with state := .failed, error := some (display ++ " job runtime was not found.") }
    | .disconnected =>
        { job with
          state := .failed
          error := some (display ++ " worker stopped without a terminal result.") }
    | .received =>
        match result with
        | .error error => { job with state := .failed, error := some error }
        | .ok outcome =>
            { job with
              report := outcome.report
              error := outcome.error
              state := if outcome.error.isSome then .failed else .completed }

def cancelReview (display : String) (job : ReviewJob) : ReviewJob :=
  if job.state = .running then
    { job with
      state := .cancelled
      error := some (display ++ " job was cancelled before a valid report.") }
  else job

def stepJob (display : String) (result : Except String ReviewJobOutcome) (job : ReviewJob) :
    JobStep → ReviewJob
  | .poll answer => pollReview display result job answer
  | .cancel => cancelReview display job

/-- A job from its start over any polls and cancellations; the workspace is seen
before the run and after it. -/
def reviewJob (host : Host C T) (reader : Reader) (reviewer : AgentReviewer)
    (before after : Worktree C T) (run : AgentReviewRun) (steps : List JobStep) :
    Except String ReviewJob := do
  let snapshot ← workspaceState host before
  return Runs.run
    (stepJob reviewer.display (executeReview host reader reviewer snapshot after run))
    { backend := reviewer.kind, state := .running, report := none, error := none } steps

/-! ## What a completed job reports -/

theorem toOption_eq_some {ε α : Type} {x : Except ε α} {a : α} :
    x.toOption = some a ↔ x = .ok a := by
  cases x <;> simp [Except.toOption]

theorem terminalError_eq_none_iff {events : List AgentEvent} :
    terminalError events = none ↔ ¬Fails events := by
  rw [← Agent.any_failure_iff, ← List.isSome_findSome?, terminalError]
  simp

theorem reportResult_eq_ok {unchanged : Bool} {final : List AgentEvent}
    {sessionId : Option String} {stderr : String} :
    reportResult reader reviewer unchanged final sessionId stderr = .ok report ↔
      unchanged = true ∧ terminalError final = none
        ∧ ∃ text, reviewer.structuredText final = some text
          ∧ structuredReport reader text reviewer.kind reviewer.display sessionId stderr
            (messageField final "exit_status=") = .ok report := by
  cases unchanged with
  | false => simp [reportResult]
  | true =>
      cases herror : terminalError final with
      | some error => simp [reportResult, herror]
      | none =>
          cases htext : reviewer.structuredText final with
          | none => simp [reportResult, herror, htext]
          | some text => simp [reportResult, herror, htext]

theorem executeReview_eq_ok {host : Host C T} {before : List UInt8} {workspace : Worktree C T}
    {run : AgentReviewRun} {outcome : ReviewJobOutcome}
    (h : executeReview host reader reviewer before workspace run = .ok outcome)
    (hreport : outcome.report = some report) :
    ∃ attempts sessionId stderr, reviewAttempts reviewer run = .ok attempts
      ∧ workspaceState host workspace = .ok before
      ∧ reportResult reader reviewer true (finalEvents attempts) sessionId stderr = .ok report := by
  obtain ⟨attempts, hattempts, h⟩ := bind_eq_ok h
  obtain ⟨after, hafter, h⟩ := bind_eq_ok h
  obtain ⟨_, -, h⟩ := bind_eq_ok h
  obtain rfl := Except.ok.inj h
  obtain hresult : reportResult reader reviewer (decide (before = after)) (finalEvents attempts)
      (reviewer.sessionId (finalEvents attempts) <|> reviewer.sessionId attempts.1)
      (run.artifactTexts (attempts.1 :: attempts.2)) = .ok report :=
    toOption_eq_some.mp hreport
  obtain ⟨hunchanged, -⟩ := reportResult_eq_ok.mp hresult
  obtain rfl := of_decide_eq_true hunchanged
  rw [hunchanged] at hresult
  exact ⟨attempts, _, _, hattempts, hafter, hresult⟩

theorem completed_stepJob {display : String} {result : Except String ReviewJobOutcome}
    {job : ReviewJob} {step : JobStep}
    (h : job.state = .completed → ∃ outcome, result = .ok outcome ∧ job.report = outcome.report) :
    (stepJob display result job step).state = .completed →
      ∃ outcome, result = .ok outcome ∧ (stepJob display result job step).report =
        outcome.report := by
  cases step with
  | cancel =>
      rw [stepJob, cancelReview]
      split
      · intro hstate
        cases hstate
      · exact h
  | poll answer =>
      show (pollReview display result job answer).state = .completed → ∃ outcome,
        result = .ok outcome ∧ (pollReview display result job answer).report = outcome.report
      unfold pollReview
      split
      · exact h
      · cases answer with
        | empty => exact h
        | disconnected | notFound =>
            intro hstate
            cases hstate
        | received =>
            cases result with
            | error error =>
                intro hstate
                cases hstate
            | ok outcome => exact fun _ => ⟨outcome, rfl, rfl⟩

/-- The worktree is what it was. -/
structure Worktree.Same (before after : Worktree C T) : Prop where
  head : before.head = after.head
  tracked : before.tracked = after.tracked
  untracked : before.untracked = after.untracked
  contents : ∀ path ∈ before.untracked, before.read path.bytes = after.read path.bytes

/-- The report is what the last attempt says, and that attempt did not fail. -/
def Reported (reader : Reader) (reviewer : AgentReviewer) (run : AgentReviewRun)
    (report : AgentReviewReport) : Prop :=
  ∃ attempts text sessionId stderr exitStatus, reviewAttempts reviewer run = .ok attempts
    ∧ ¬Fails (finalEvents attempts) ∧ reviewer.structuredText (finalEvents attempts) = some text
    ∧ structuredReport reader text reviewer.kind reviewer.display sessionId stderr exitStatus =
      .ok report

/-- Whatever the reviewer reports, a job completes with a report only over an
unchanged worktree. -/
def Kept (host : Host C T) (reader : Reader) (reviewer : AgentReviewer)
    (before after : Worktree C T) : Prop :=
  ∀ run steps job report, reviewJob host reader reviewer before after run steps = .ok job →
    job.state = .completed → job.report = some report →
      before.Same after ∧ Reported reader reviewer run report

theorem snapshots_of_completed {host : Host C T} {before after : Worktree C T}
    {run : AgentReviewRun} {steps : List JobStep} {job : ReviewJob}
    (h : reviewJob host reader reviewer before after run steps = .ok job)
    (hstate : job.state = .completed) (hreport : job.report = some report) :
    (∃ snapshot, workspaceState host before = .ok snapshot
        ∧ workspaceState host after = .ok snapshot)
      ∧ Reported reader reviewer run report := by
  obtain ⟨snapshot, hsnapshot, h⟩ := bind_eq_ok h
  obtain rfl := Except.ok.inj h
  obtain ⟨outcome, houtcome, hjob⟩ := Runs.invariant_run
    (P := fun job : ReviewJob => job.state = .completed → ∃ outcome,
      executeReview host reader reviewer snapshot after run = .ok outcome
        ∧ job.report = outcome.report)
    (fun _ _ h => completed_stepJob h) steps (fun hrunning => by cases hrunning) hstate
  rw [hjob] at hreport
  obtain ⟨attempts, sessionId, stderr, hattempts, hafter, hresult⟩ :=
    executeReview_eq_ok houtcome hreport
  obtain ⟨-, herror, text, htext, hdecoded⟩ := reportResult_eq_ok.mp hresult
  exact ⟨⟨snapshot, hsnapshot, hafter⟩, attempts, text, _, _, _, hattempts,
    terminalError_eq_none_iff.mp herror, htext, hdecoded⟩

/-- A completed job has left the files as they were, but for where the commit they are
compared with has moved. -/
theorem kept_of_completed {host : Host C T} (hhost : host.Documented)
    {before after : Worktree C T} {run : AgentReviewRun} {steps : List JobStep} {job : ReviewJob}
    (h : reviewJob host reader reviewer before after run steps = .ok job)
    (hstate : job.state = .completed) (hreport : job.report = some report)
    (hhead : before.head = after.head) :
    before.Same after ∧ Reported reader reviewer run report := by
  obtain ⟨⟨snapshot, hbefore, hafter⟩, hreported⟩ := snapshots_of_completed h hstate hreport
  obtain ⟨hdiff, huntracked, hcontents⟩ := workspaceState_inj hhost hbefore hafter
  refine ⟨⟨hhead, ?_, huntracked, hcontents⟩, hreported⟩
  obtain ⟨apply, happly⟩ := hhost.applies
  obtain ⟨patch, -, -, hpatch, -⟩ := (workspaceState_eq_ok hhost).mp hbefore
  rw [← happly before.head before.tracked patch hpatch,
    ← happly after.head after.tracked patch (hdiff ▸ hpatch), hhead]

/-! ## Reviewers that commit -/

/-- Every untracked file has a path in UTF-8 and can be read. -/
def Readable (workspace : Worktree C T) : Prop :=
  ∀ path ∈ workspace.untracked, (decodeUtf8 path.bytes).isSome = true
    ∧ ∃ contents, workspace.read path.bytes = .ok contents

/-- The commit has moved, but neither what differs from it nor the untracked files. -/
structure MovedUnseen (host : Host C T) (before after : Worktree C T) : Prop where
  moved : before.head ≠ after.head
  diff : host.diff before.head before.tracked = host.diff after.head after.tracked
  untracked : before.untracked = after.untracked
  contents : ∀ path ∈ before.untracked, before.read path.bytes = after.read path.bytes
  printed : (host.diff before.head before.tracked).isOk = true
    ∧ (host.lsFiles before.untracked).isOk = true
  readable : Readable before

theorem exists_reads {workspace : Worktree C T} (h : Readable workspace) :
    ∃ entries, Reads workspace entries := by
  unfold Reads
  unfold Readable at h
  generalize workspace.untracked = untracked at h ⊢
  induction untracked with
  | nil => exact ⟨[], rfl, List.forall_mem_nil _⟩
  | cons path untracked ih =>
      obtain ⟨⟨hutf8, contents, hcontents⟩, hrest⟩ := List.forall_mem_cons.mp h
      obtain ⟨entries, hentries, hread⟩ := ih hrest
      exact ⟨⟨path, contents⟩ :: entries, by rw [List.map_cons, hentries],
        List.forall_mem_cons.mpr ⟨⟨hutf8, hcontents⟩, hread⟩⟩

theorem exists_ok_of_isOk {ε α : Type} {x : Except ε α} (h : x.isOk = true) : ∃ a, x = .ok a := by
  cases x with
  | error error => cases h
  | ok a => exact ⟨a, rfl⟩

theorem MovedUnseen.snapshots {host : Host C T} (hhost : host.Documented)
    {before after : Worktree C T} (h : MovedUnseen host before after) :
    ∃ snapshot, workspaceState host before = .ok snapshot
      ∧ workspaceState host after = .ok snapshot := by
  obtain ⟨patch, hpatch⟩ := exists_ok_of_isOk h.printed.1
  obtain ⟨listing, hlisting⟩ := exists_ok_of_isOk h.printed.2
  obtain ⟨entries, hentries, hread⟩ := exists_reads h.readable
  refine ⟨_, (workspaceState_eq_ok hhost).mpr ⟨patch, listing, entries, hpatch, hlisting,
    ⟨hentries, hread⟩, rfl⟩, (workspaceState_eq_ok hhost).mpr ⟨patch, listing, entries,
    h.diff ▸ hpatch, h.untracked ▸ hlisting, ⟨hentries.trans h.untracked, ?_⟩, rfl⟩⟩
  intro entry hentry
  have hpath : entry.path ∈ before.untracked := hentries ▸ List.mem_map_of_mem hentry
  exact ⟨(hread entry hentry).1, (h.contents _ hpath).symm.trans (hread entry hentry).2⟩

theorem movedUnseen_of_snapshots {host : Host C T} (hhost : host.Documented)
    {before after : Worktree C T} {snapshot : List UInt8} (hmoved : before.head ≠ after.head)
    (hbefore : workspaceState host before = .ok snapshot)
    (hafter : workspaceState host after = .ok snapshot) : MovedUnseen host before after := by
  obtain ⟨hdiff, huntracked, hcontents⟩ := workspaceState_inj hhost hbefore hafter
  obtain ⟨patch, listing, entries, hpatch, hlisting, ⟨hentries, hread⟩, -⟩ :=
    (workspaceState_eq_ok hhost).mp hbefore
  refine ⟨hmoved, hdiff, huntracked, hcontents, ⟨by rw [hpatch]; rfl, by rw [hlisting]; rfl⟩,
    fun path hpath => ?_⟩
  rw [← hentries] at hpath
  obtain ⟨entry, hentry, rfl⟩ := List.mem_map.mp hpath
  exact ⟨(hread entry hentry).1, entry.contents, (hread entry hentry).2⟩

/-- A review that has nothing to say. -/
def passDocument : Json :=
  .obj
    [("summary", .str "Nothing to change."), ("terminal_classification", .str "pass"),
      ("findings", .arr [])]

/-- A text as a finished message of the app server. -/
def finishedMessage (text : String) : Json :=
  .obj
    [("method", .str "item/completed"),
      ("params", .obj [("item", .obj [("type", .str "agentMessage"), ("text", .str text)])])]

/-- The parser reads a passing review, and the message that carries it. -/
def ParsesPass (reader : Reader) : Prop :=
  reader.parse (render passDocument) = .ok passDocument
    ∧ reader.parse (render (finishedMessage (render passDocument))) =
      .ok (finishedMessage (render passDocument))

/-- What a reviewer reports when it passes the work. -/
def passEvents (reviewer : AgentReviewer) : List AgentEvent :=
  [.message reviewer.kind none (render (finishedMessage (render passDocument))),
    .completed reviewer.kind none (render passDocument)]

def passRun (reviewer : AgentReviewer) : AgentReviewRun where
  first := .ok (passEvents reviewer)
  cancelled := false
  resumed _ := .error "not resumed"
  artifactTexts _ := ""
  write := .ok ()

theorem structuredReport_pass (hreader : ParsesPass reader)
    (backendName displayName stderr : String) (sessionId exitStatus : Option String) :
    ∃ report, structuredReport reader (render passDocument) backendName displayName sessionId stderr
      exitStatus = .ok report := by
  have htrim : Text.trim (render passDocument) = render passDocument :=
    Text.trim_of_isTrimmed (isTrimmed_render_obj _)
  have hparsed : parseStructuredReview reader (render passDocument) =
      .ok { summary := "Nothing to change.", terminalClassification := .pass, findings := [] } := by
    rw [parseStructuredReview, htrim, hreader.1]
    rfl
  have hsummary : Text.isBlank "Nothing to change." = false := by decide
  rw [structuredReport, hparsed]
  simp only [Except.mapError, ok_bind, hsummary]
  exact ⟨_, rfl⟩

theorem agentOutput_finishedMessage {text message : String}
    (h : reader.parse message = .ok (finishedMessage text)) (backend : String)
    (sessionId : Option String) :
    agentOutput reader (.message backend sessionId message) = some text := by
  rw [agentOutput, h]
  rfl

theorem structuredText_pass (hreader : ParsesPass reader)
    (hreviewer : reviewer ∈ agentReviewers reader) :
    reviewer.structuredText (passEvents reviewer) = some (render passDocument) := by
  rcases List.mem_cons.mp hreviewer with rfl | hreviewer
  · show (passEvents (codexReviewer reader)).reverse.findSome? (agentOutput reader) = _
    have hreverse : (passEvents (codexReviewer reader)).reverse =
        [.completed "codex-app-server" none (render passDocument),
          .message "codex-app-server" none (render (finishedMessage (render passDocument)))] := rfl
    rw [hreverse, List.findSome?_cons_of_isNone (by rfl), List.findSome?_cons,
      agentOutput_finishedMessage hreader.2]
  · obtain rfl := List.mem_singleton.mp hreviewer
    rfl

theorem reviewAttempts_pass (hreviewer : reviewer ∈ agentReviewers reader) :
    reviewAttempts reviewer (passRun reviewer) = .ok (passEvents reviewer, []) := by
  have huninterrupted : reviewer.interruptedBeforeTerminal (passEvents reviewer) = false := by
    rcases List.mem_cons.mp hreviewer with rfl | hreviewer
    · rfl
    · obtain rfl := List.mem_singleton.mp hreviewer
      rfl
  show (if reviewer.interruptedBeforeTerminal (passEvents reviewer) && !false then _ else _) = _
  rw [huninterrupted]
  rfl

theorem completed_pass {host : Host C T} (hreader : ParsesPass reader)
    (hreviewer : reviewer ∈ agentReviewers reader) {before after : Worktree C T}
    {snapshot : List UInt8} (hbefore : workspaceState host before = .ok snapshot)
    (hafter : workspaceState host after = .ok snapshot) :
    ∃ job report, reviewJob host reader reviewer before after (passRun reviewer)
        [.poll .received] = .ok job
      ∧ job.state = .completed ∧ job.report = some report := by
  obtain ⟨report, hreport⟩ := structuredReport_pass hreader reviewer.kind reviewer.display ""
    (reviewer.sessionId (passEvents reviewer) <|> reviewer.sessionId (passEvents reviewer))
    (messageField (passEvents reviewer) "exit_status=")
  have hresult := reportResult_eq_ok.mpr ⟨rfl, (rfl : terminalError (passEvents reviewer) = none),
    _, structuredText_pass hreader hreviewer, hreport⟩
  have hexecuted : executeReview host reader reviewer snapshot after (passRun reviewer) =
      .ok {
        sessionId := reviewer.sessionId (passEvents reviewer)
          <|> reviewer.sessionId (passEvents reviewer)
        report := some report
        error := none } := by
    have hwrite : (passRun reviewer).write = .ok () := rfl
    have hfinal : finalEvents (passEvents reviewer, []) = passEvents reviewer := rfl
    have htexts : ∀ attempts, (passRun reviewer).artifactTexts attempts = "" := fun _ => rfl
    simp only [executeReview, reviewAttempts_pass hreviewer, hafter, hwrite, hfinal, htexts,
      decide_true, hresult, ok_bind, pure_eq, Except.toOption]
  refine ⟨_, report, by rw [reviewJob, hbefore, ok_bind, hexecuted]; rfl, rfl, rfl⟩

theorem review_kept_iff {host : Host C T} (hhost : host.Documented) {reader : Reader}
    (hreader : ParsesPass reader) {reviewer : AgentReviewer}
    (hreviewer : reviewer ∈ agentReviewers reader) (before after : Worktree C T) :
    Kept host reader reviewer before after ↔ ¬MovedUnseen host before after := by
  constructor
  · intro hkept hmoved
    obtain ⟨snapshot, hbefore, hafter⟩ := hmoved.snapshots hhost
    obtain ⟨job, report, hjob, hstate, hreport⟩ := completed_pass hreader hreviewer hbefore hafter
    exact hmoved.moved (hkept _ _ job report hjob hstate hreport).1.head
  · intro hunmoved run steps job report h hstate hreport
    refine kept_of_completed hhost h hstate hreport ?_
    by_contra hhead
    obtain ⟨⟨snapshot, hbefore, hafter⟩, -⟩ := snapshots_of_completed h hstate hreport
    exact hunmoved (movedUnseen_of_snapshots hhost hhead hbefore hafter)

end

/-! ## A reviewer that commits what it wrote -/

/-- The lines `git diff` prints of one file against one of two commits: a commit and a
worktree each hold `original` in it, or with the reviewer's line `mutated` behind it. -/
def samplePatch : Bool → Bool → List String
  | false, false | true, true => []
  | false, true =>
      ["diff --git a/tracked.txt b/tracked.txt", "index 4b48dee..301fd01 100644",
        "--- a/tracked.txt", "+++ b/tracked.txt", "@@ -1 +1,2 @@", " original", "+mutated"]
  | true, false =>
      ["diff --git a/tracked.txt b/tracked.txt", "index 301fd01..4b48dee 100644",
        "--- a/tracked.txt", "+++ b/tracked.txt", "@@ -1,2 +1 @@", " original", "-mutated"]

/-- The bytes of a patch, which is in ASCII. -/
def sampleBytes (head tracked : Bool) : List UInt8 :=
  (samplePatch head tracked).flatMap fun line =>
    line.toList.map (fun c => UInt8.ofNat c.toNat) ++ [10]

def sampleHost : Host Bool Bool where
  diff head tracked := .ok (sampleBytes head tracked)
  lsFiles paths := .ok (listed paths)
  utf8Error _ := "invalid utf-8 sequence of 1 bytes from index 0"

def sampleApply (head : Bool) (patch : List UInt8) : Bool :=
  decide (patch = sampleBytes head true)

/-- The eight bytes a patch begins with: `diff --g`. -/
def patchFront : List UInt8 := [100, 105, 102, 102, 32, 45, 45, 103]

theorem samplePatch_begins :
    ((sampleBytes false true).isPrefixOf (sampleBytes true false) = false
        ∧ (sampleBytes true false).isPrefixOf (sampleBytes false true) = false)
      ∧ (sampleBytes false true).take 8 = patchFront
        ∧ (sampleBytes true false).take 8 = patchFront := by
  decide

theorem continues_patch {patch : List UInt8} (h : patch.take 8 = patchFront) :
    Framing.Continues patch :=
  .inr ⟨patchFront, patch.drop 8, by rw [← h, List.take_append_drop], rfl, by decide⟩

theorem continues_of_not_prefix {patch patch' rest : List UInt8}
    (hbegins : patch.isPrefixOf patch' = false) (h : patch' = patch ++ rest) :
    Framing.Continues rest := by
  rw [List.isPrefixOf_iff_prefix.mpr ⟨rest, h.symm⟩] at hbegins
  cases hbegins

theorem continues_patches {added removed patch patch' rest : List UInt8}
    (hbegins : added.isPrefixOf removed = false ∧ removed.isPrefixOf added = false)
    (hadded : added.take 8 = patchFront) (hremoved : removed.take 8 = patchFront)
    (hpatch : patch = [] ∨ patch = added ∨ patch = removed)
    (hpatch' : patch' = [] ∨ patch' = added ∨ patch' = removed) (h : patch' = patch ++ rest) :
    Framing.Continues rest := by
  rcases hpatch with rfl | rfl | rfl
  · obtain rfl : patch' = rest := h
    rcases hpatch' with rfl | rfl | rfl
    · exact .inl rfl
    · exact continues_patch hadded
    · exact continues_patch hremoved
  · rcases hpatch' with rfl | rfl | rfl
    · exact .inl (List.append_eq_nil_iff.mp h.symm).2
    · exact .inl (List.self_eq_append_right.mp h)
    · exact continues_of_not_prefix hbegins.1 h
  · rcases hpatch' with rfl | rfl | rfl
    · exact .inl (List.append_eq_nil_iff.mp h.symm).2
    · exact continues_of_not_prefix hbegins.2 h
    · exact .inl (List.self_eq_append_right.mp h)

theorem sampleBytes_cases (head tracked : Bool) : sampleBytes head tracked = []
    ∨ sampleBytes head tracked = sampleBytes false true
    ∨ sampleBytes head tracked = sampleBytes true false := by
  cases head with
  | false =>
      cases tracked with
      | false => exact .inl rfl
      | true => exact .inr (.inl rfl)
  | true =>
      cases tracked with
      | false => exact .inr (.inr rfl)
      | true => exact .inl rfl

theorem sampleHost_documented : sampleHost.Documented where
  lists h := (Except.ok.inj h).symm
  applies := by
    obtain ⟨-, hadded, hremoved⟩ := samplePatch_begins
    refine ⟨sampleApply, fun head tracked patch h => ?_⟩
    obtain rfl := Except.ok.inj h
    cases tracked with
    | true => exact decide_eq_true rfl
    | false =>
        refine decide_eq_false fun heq => ?_
        cases head with
        | false =>
            rw [← heq] at hadded
            cases hadded
        | true =>
            rw [heq] at hremoved
            cases hremoved
  continues := by
    intro head tracked head' tracked' patch rest h h'
    obtain ⟨hbegins, hadded, hremoved⟩ := samplePatch_begins
    obtain rfl := Except.ok.inj h
    exact continues_patches hbegins hadded hremoved (sampleBytes_cases head tracked)
      (sampleBytes_cases head' tracked') (Except.ok.inj h')

def sampleReader : Reader :=
  pairReader passDocument (finishedMessage (render passDocument))

theorem sampleReader_parses : ParsesPass sampleReader := by
  have hmethod : "method".toList = 'm' :: "ethod".toList := by decide
  have hsummary : "summary".toList = 's' :: "ummary".toList := by decide
  have hdiffer : render (finishedMessage (render passDocument)) ≠ render passDocument :=
    render_obj_ne hmethod hsummary (by decide) (by decide) (by decide) _ _ _ _
  exact ⟨pairReader_first _ _, pairReader_second hdiffer⟩

def sampleWorktree (head tracked : Bool) : Worktree Bool Bool where
  head := head
  tracked := tracked
  untracked := []
  read _ := .error "No such file or directory (os error 2)"

theorem review_kept_unmoved : Kept sampleHost sampleReader claudeReviewer
    (sampleWorktree false false) (sampleWorktree false true) :=
  (review_kept_iff sampleHost_documented sampleReader_parses
    (List.mem_cons_of_mem _ List.mem_cons_self) _ _).mpr fun h => h.moved rfl

/-- A reviewer that writes to a tracked file and commits it passes its own change. -/
theorem review_passes_own_commit :
    (∃ job report, reviewJob sampleHost sampleReader (codexReviewer sampleReader)
        (sampleWorktree false false) (sampleWorktree true true) (passRun (codexReviewer sampleReader))
        [.poll .received] = .ok job
      ∧ job.state = .completed ∧ job.report = some report)
      ∧ ¬Kept sampleHost sampleReader (codexReviewer sampleReader) (sampleWorktree false false)
        (sampleWorktree true true) := by
  have hbefore : workspaceState sampleHost (sampleWorktree false false) = .ok [] := rfl
  have hafter : workspaceState sampleHost (sampleWorktree true true) = .ok [] := rfl
  have hreviewer : codexReviewer sampleReader ∈ agentReviewers sampleReader := List.mem_cons_self
  have hcompleted := completed_pass sampleReader_parses hreviewer hbefore hafter
  refine ⟨hcompleted, fun hkept => ?_⟩
  obtain ⟨job, report, hjob, hstate, hreport⟩ := hcompleted
  have hhead := (hkept _ _ job report hjob hstate hreport).1.head
  cases hhead

end SheaSymphony.ReviewWorker

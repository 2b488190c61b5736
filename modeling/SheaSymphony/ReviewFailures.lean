import SheaSymphony.GitHandoff

/-!
# Repeated review failures

What the review loop remembers of the failures of each worker: the signature of a failed
job (`review/gemini_health.rs`) and how often it has come one after the other
(`lanes/review/automatic.rs`). An entry describes the run of equal failures that its
worker's jobs end in (`Remembers`), whatever other workers do in between.
-/

namespace SheaSymphony.Review

open MainHandoff (parseU64)
open Model (TrackerIssue)

/-! ## Health of a backend -/

inductive GeminiReviewHealthCategory where
  | quotaRateLimit | transientBackend | nonRecoveringConfig | nonRecoveringPolicy
deriving DecidableEq

def GeminiReviewHealthCategory.asStr : GeminiReviewHealthCategory → String
  | quotaRateLimit => "quota_rate_limit"
  | transientBackend => "transient_backend"
  | nonRecoveringConfig => "non_recovering_config"
  | nonRecoveringPolicy => "non_recovering_policy"

inductive GeminiReviewRecoveryPolicy where
  | waitAndRetry | retryWithBackoff | requiresHumanInput
deriving DecidableEq

def GeminiReviewRecoveryPolicy.asStr : GeminiReviewRecoveryPolicy → String
  | waitAndRetry => "wait_and_retry"
  | retryWithBackoff => "retry_with_backoff"
  | requiresHumanInput => "requires_human_input"

def GeminiReviewRecoveryPolicy.isRecoverable : GeminiReviewRecoveryPolicy → Bool
  | waitAndRetry | retryWithBackoff => true
  | requiresHumanInput => false

def ReviewHealthReport.of (category : GeminiReviewHealthCategory)
    (policy : GeminiReviewRecoveryPolicy) (reasonCode message operatorStatus : String)
    (retryAfterMs : Option Nat) : ReviewHealthReport where
  category := category.asStr
  recoveryPolicy := policy.asStr
  reasonCode := reasonCode
  operatorStatus := operatorStatus
  isRecoverable := policy.isRecoverable
  message := message
  retryAfterMs := retryAfterMs

def GeminiReviewHealthDiagnostic.signature (diagnostic : GeminiReviewHealthDiagnostic) : String :=
  diagnostic.category ++ ":" ++ diagnostic.reasonCode

/-! ## Waiting times -/

def saturatingMul (n factor : Nat) : Nat := min (n * factor) 18446744073709551615

def durationWithUnitMs (number : Nat) (unit : String) : Nat :=
  let unit := Text.trimMatches (· == '.') unit
  if ["ms", "millisecond", "milliseconds"].contains unit then number
  else if ["m", "min", "mins", "minute", "minutes"].contains unit then saturatingMul number 60000
  else if ["h", "hr", "hrs", "hour", "hours"].contains unit then saturatingMul number 3600000
  else saturatingMul number 1000

def parseDurationTokenMs (token : String) : Option Nat :=
  match parseU64 token with
  | some seconds => some (saturatingMul seconds 1000)
  | none =>
      let digits := token.toList.takeWhile Char.isDigit
      if digits.isEmpty then none
      else (parseU64 (String.ofList digits)).map fun number =>
        durationWithUnitMs number (String.ofList (token.toList.dropWhile Char.isDigit))

/-- The value behind the words that announce it. -/
def announcedMs : List String → Option Nat
  | [] => none
  | [token] => parseDurationTokenMs token
  | token :: unit :: _ =>
      match parseU64 token with
      | some number => some (durationWithUnitMs number unit)
      | none => parseDurationTokenMs token

def retryAfterAt : List String → Option Nat
  | [] => none
  | token :: rest =>
      if token = "retry-after" then announcedMs rest
      else if token = "retry" ∧ (rest.head? = some "after" ∨ rest.head? = some "in") then
        announcedMs rest.tail
      else none

def parseRetryAfterMs (text : String) : Option Nat :=
  let normalized := Text.toAsciiLowercase <| String.ofList <| text.toList.map fun c =>
    if ['=', ':', ',', ';', '(', ')'].contains c then ' ' else c
  (Text.splitWhitespace normalized).tails.findSome? retryAfterAt

/-! ## The diagnosis -/

def normalizeDiagnosticText (text : String) : String :=
  Text.collapseWhitespace (Text.toAsciiLowercase text)

def containsAny (text : String) (patterns : List String) : Bool :=
  patterns.any fun pattern => Text.contains text pattern

def policyPatterns : List String :=
  ["allowed-tools", "allowed tools", "tool is not allowed", "not allowed to use", "policy refusal",
    "policy refused", "blocked by policy", "permission denied by policy", "approval mode"]

def configPatterns : List String :=
  ["review backend startup failed", "not found in worker path", "configured command",
    "permission denied", "auth required", "authentication required", "not authenticated",
    "login required", "unknown model", "invalid model", "unsupported model", "model not found",
    "model is not supported", "model unavailable for", "could not inspect", "command `"]

def transientPatterns : List String :=
  ["temporarily unavailable", "service unavailable", "backend unavailable", "server unavailable",
    "overloaded", "capacity", "try again later", "please retry", "internal error",
    "deadline exceeded", "connection reset", "connection refused", "network error", "http 500",
    "http 502", "http 503", "http 504", " 500 ", " 502 ", " 503 ", " 504 "]

/-- The outer `none` is a panic of the usage limit's evidence. -/
def classifyGeminiReviewHealthText (text : String) (timedOut : Bool) :
    Option (Option ReviewHealthReport) := do
  let normalized := normalizeDiagnosticText text
  if normalized = "" ∧ timedOut = false then return none
  else
    match ← classifyUsageLimitText text with
    | some pause =>
        return some <| .of .quotaRateLimit .waitAndRetry pause.classifier
          "Review backend reported quota or rate limiting."
          "Waiting for quota/rate-limit recovery, then retrying review automatically."
          (parseRetryAfterMs text)
    | none =>
        if containsAny normalized policyPatterns then
          return some <| .of .nonRecoveringPolicy .requiresHumanInput "policy_or_allowed_tools"
            "Review backend reported a policy or allowed-tools refusal."
            "Blocked until review policy or allowed-tools configuration is changed." none
        else if containsAny normalized configPatterns then
          return some <| .of .nonRecoveringConfig .requiresHumanInput "command_config_or_auth"
            "Review backend reported command, authentication, or model configuration failure."
            "Blocked until review command, auth, or model configuration is repaired." none
        else if timedOut || containsAny normalized transientPatterns then
          return some <| .of .transientBackend .retryWithBackoff
            (if timedOut then "timeout" else "transient_backend")
            "Review backend appears temporarily unavailable or capacity-limited."
            "Retrying with backoff while keeping review loop ownership visible."
            (parseRetryAfterMs text)
        else return none

def ReviewJobState.isFailure : ReviewJobState → Bool
  | failed | timedOut => true
  | _ => false

def reviewFailureText (job : ReviewJob) : String :=
  Text.join "\n" <| job.error.toList ++
    job.report.elim [] fun report =>
      report.stderr.toList ++ report.stdout.toList ++ report.summary.toList

def geminiReviewHealthDiagnostic (job : ReviewJob) : Option (Option ReviewHealthReport) :=
  let backend := Text.toAsciiLowercase job.backend
  if (Text.contains backend "gemini" || Text.contains backend "agy") && job.state.isFailure then
    classifyGeminiReviewHealthText (reviewFailureText job) (job.state == .timedOut)
  else some none

def genericSignature (job : ReviewJob) : Option String := do
  let error ← job.error
  let line ← ((Text.lines error).map Text.trim).find? fun line => line != ""
  return "generic:" ++ Text.collapseWhitespace line

def reviewFailureSignature (job : ReviewJob) : Option (Option String) :=
  (geminiReviewHealthDiagnostic job).map fun diagnostic =>
    (diagnostic.map fun diagnostic => diagnostic.signature) <|> genericSignature job

/-! ## The memory of the loop -/

structure ReviewLoopFailureMemory where
  signature : String
  firstJobId : String
  previousJobId : String
  repeatCount : Nat
deriving DecidableEq

structure ReviewRepeatedFailureEvidence where
  repeatCount : Nat
  firstJobId : String
  previousJobId : String
  signature : String
deriving DecidableEq

abbrev FailureMemory := String → Option ReviewLoopFailureMemory

def FailureMemory.insert (memory : FailureMemory) (key : String)
    (entry : Option ReviewLoopFailureMemory) : FailureMemory :=
  fun other => if other = key then entry else memory other

/-- `usize::MAX`. -/
def usizeMax : Nat := 18446744073709551615

def firstFailure (signature jobId : String) : ReviewLoopFailureMemory where
  signature := signature
  firstJobId := jobId
  previousJobId := jobId
  repeatCount := 1

/-- A finished job with the issue it has reviewed. -/
structure FinishedReview where
  issue : TrackerIssue
  job : ReviewRun

def FinishedReview.workerKey (case : Text.UnicodeCase) (review : FinishedReview) : String :=
  reviewWorkerKey case review.issue.identifier review.job.backend

def reviewLoopRepeatedFailureEvidence (case : Text.UnicodeCase) (memory : FailureMemory)
    (review : FinishedReview) : Option (Option ReviewRepeatedFailureEvidence × FailureMemory) :=
  let workerKey := review.workerKey case
  let jobId := review.job.id
  if review.job.state.isFailure then do
    match ← reviewFailureSignature review.job.toReviewJob with
    | none => return (none, memory)
    | some signature =>
        match (memory workerKey).filter fun previous => previous.signature == signature with
        | some previous =>
            let repeatCount := min (previous.repeatCount + 1) usizeMax
            return (some { repeatCount, firstJobId := previous.firstJobId
                           previousJobId := previous.previousJobId, signature },
              memory.insert workerKey (some { previous with repeatCount, previousJobId := jobId }))
        | none => return (none, memory.insert workerKey (some (firstFailure signature jobId)))
  else return (none, memory.insert workerKey none)

/-- The memory of the loop after some reviews. -/
def rememberedFailures (case : Text.UnicodeCase) (reviews : List FinishedReview) :
    Option FailureMemory :=
  reviews.foldlM (fun memory review =>
    (reviewLoopRepeatedFailureEvidence case memory review).map Prod.snd) fun _ => none

/-! ## Runs of equal failures -/

/-- The longest end of the items with the property. -/
structure Streak {α : Type} (P : α → Prop) (items run : List α) : Prop where
  all : ∀ item ∈ run, P item
  longest : ∃ front, items = front ++ run ∧ ∀ last ∈ front.getLast?, ¬ P last

namespace Streak

variable {α : Type} {P : α → Prop} {items run : List α} {item : α}

theorem nil (h : ∀ last ∈ items.getLast?, ¬ P last) : Streak P items [] where
  all := List.forall_mem_nil _
  longest := ⟨items, (List.append_nil items).symm, h⟩

theorem concat (h : Streak P items run) (hitem : P item) :
    Streak P (items ++ [item]) (run ++ [item]) where
  all := List.forall_mem_append.mpr ⟨h.all, List.forall_mem_singleton.mpr hitem⟩
  longest := by
    obtain ⟨front, rfl, hfront⟩ := h.longest
    exact ⟨front, List.append_assoc .., hfront⟩

theorem getLast?_eq (h : Streak P items run) (hne : run ≠ []) : items.getLast? = run.getLast? := by
  obtain ⟨front, rfl, -⟩ := h.longest
  exact List.getLast?_append_of_ne_nil _ hne

theorem eq_of_forall (h : Streak P items run) (hall : ∀ item ∈ items, P item) : run = items := by
  obtain ⟨front, rfl, hfront⟩ := h.longest
  rcases List.eq_nil_or_concat front with rfl | ⟨init, last, rfl⟩
  · rfl
  · refine absurd (hall last ?_) (hfront last ?_)
    · simp
    · simp

end Streak

/-! ## What the memory says -/

def FailsWith (signature : String) (job : ReviewRun) : Prop :=
  job.state.isFailure = true ∧ reviewFailureSignature job.toReviewJob = some (some signature)

/-- A job that has failed has a signature. -/
def Signed (job : ReviewRun) : Prop :=
  job.state.isFailure = true → ∃ signature, FailsWith signature job

/-- The jobs of one worker, in their order. -/
def workerJobs (case : Text.UnicodeCase) (reviews : List FinishedReview) (key : String) :
    List ReviewRun :=
  (reviews.filter fun review => review.workerKey case == key).map FinishedReview.job

/-- What the worker's jobs end in: no failure, or the run of equal ones in the entry. -/
def Remembers (jobs : List ReviewRun) : Option ReviewLoopFailureMemory → Prop
  | none => ∀ last ∈ jobs.getLast?, last.state.isFailure = false
  | some entry => ∃ run, Streak (FailsWith entry.signature) jobs run
      ∧ entry.repeatCount = min run.length usizeMax
      ∧ run.head?.map ReviewRun.id = some entry.firstJobId
      ∧ run.getLast?.map ReviewRun.id = some entry.previousJobId

/-- The evidence for a job behind those of its worker: there is some exactly where the job
before has failed equally, and then it gives the run of equal failures. -/
structure CountsRun (counted : Nat → Nat) (jobs : List ReviewRun) (job : ReviewRun)
    (evidence : Option ReviewRepeatedFailureEvidence) : Prop where
  given : evidence.isSome = true ↔ ∃ signature, FailsWith signature job
    ∧ ∃ previous, jobs.getLast? = some previous ∧ FailsWith signature previous
  counts : ∀ found, evidence = some found →
    ∃ run, Streak (FailsWith found.signature) (jobs ++ [job]) (run ++ [job])
      ∧ found.repeatCount = counted (run.length + 1)
      ∧ run.head?.map ReviewRun.id = some found.firstJobId
      ∧ run.getLast?.map ReviewRun.id = some found.previousJobId

theorem FailsWith.unique {signature other : String} {job : ReviewRun} (h : FailsWith signature job)
    (hother : FailsWith other job) : signature = other :=
  Option.some.inj (Option.some.inj (h.2.symm.trans hother.2))

theorem Remembers.last {jobs : List ReviewRun} {entry : ReviewLoopFailureMemory}
    (h : Remembers jobs (some entry)) :
    ∃ previous, jobs.getLast? = some previous ∧ FailsWith entry.signature previous := by
  obtain ⟨run, hrun, -, -, hlast⟩ := h
  obtain ⟨previous, hprevious, -⟩ := Option.map_eq_some_iff.mp hlast
  have hne : run ≠ [] := by
    rintro rfl
    cases hprevious
  exact ⟨previous, (hrun.getLast?_eq hne).trans hprevious,
    hrun.all previous (List.mem_of_getLast? hprevious)⟩

theorem Remembers.fresh {jobs : List ReviewRun} {job : ReviewRun} {signature : String}
    (hjob : FailsWith signature job)
    (hlast : ∀ previous ∈ jobs.getLast?, ¬ FailsWith signature previous) :
    Remembers (jobs ++ [job]) (some (firstFailure signature job.id)) :=
  ⟨[job], (Streak.nil hlast).concat hjob, rfl, rfl, rfl⟩

theorem Remembers.forget {jobs : List ReviewRun} {job : ReviewRun}
    (hjob : job.state.isFailure = false) : Remembers (jobs ++ [job]) none := by
  intro last hlast
  rw [List.getLast?_concat, Option.mem_some_iff] at hlast
  exact hlast ▸ hjob

/-! ## One review -/

section
variable {case : Text.UnicodeCase} {before : List FinishedReview} {review : FinishedReview}
  {memory : FailureMemory}

theorem workerJobs_concat (case : Text.UnicodeCase) (before : List FinishedReview)
    (review : FinishedReview) (key : String) :
    workerJobs case (before ++ [review]) key = workerJobs case before key ++
      if review.workerKey case = key then [review.job] else [] := by
  by_cases hkey : review.workerKey case = key <;> simp [workerJobs, hkey]

theorem remembers_insert (hmemory : ∀ key, Remembers (workerJobs case before key) (memory key))
    {entry : Option ReviewLoopFailureMemory}
    (hentry : Remembers (workerJobs case before (review.workerKey case) ++ [review.job]) entry)
    (key : String) :
    Remembers (workerJobs case (before ++ [review]) key)
      (memory.insert (review.workerKey case) entry key) := by
  rw [workerJobs_concat, FailureMemory.insert]
  by_cases hkey : review.workerKey case = key
  · rw [if_pos hkey, if_pos hkey.symm, ← hkey]
    exact hentry
  · rw [if_neg hkey, if_neg (Ne.symm hkey), List.append_nil]
    exact hmemory key

theorem reviewLoopRepeatedFailureEvidence_step
    (hmemory : ∀ key, Remembers (workerJobs case before key) (memory key))
    (hsigned : Signed review.job) :
    ∃ evidence after,
      reviewLoopRepeatedFailureEvidence case memory review = some (evidence, after)
        ∧ CountsRun (min · usizeMax) (workerJobs case before (review.workerKey case)) review.job
          evidence
        ∧ ∀ key, Remembers (workerJobs case (before ++ [review]) key) (after key) := by
  have hworker := hmemory (review.workerKey case)
  rw [reviewLoopRepeatedFailureEvidence]
  by_cases hfailure : review.job.state.isFailure = true
  · obtain ⟨signature, hjob⟩ := hsigned hfailure
    simp only [if_pos hfailure, hjob.2, Option.bind_eq_bind, Option.bind_some]
    cases hentry : (memory (review.workerKey case)).filter
        fun previous => previous.signature == signature with
    | none =>
        -- no run of this signature is remembered: one begins
        have hlast : ∀ previous ∈ (workerJobs case before (review.workerKey case)).getLast?,
            ¬ FailsWith signature previous := by
          intro previous hprevious hsame
          cases hold : memory (review.workerKey case) with
          | none =>
              rw [hold] at hworker
              exact Bool.false_ne_true ((hworker previous hprevious).symm.trans hsame.1)
          | some entry =>
              rw [hold] at hworker hentry
              obtain ⟨other, hother, hfails⟩ := hworker.last
              obtain rfl := Option.some.inj (hother.symm.trans hprevious)
              have hsignature : entry.signature = signature := hfails.unique hsame
              simp [Option.filter, hsignature] at hentry
        refine ⟨none, _, rfl, ?_, remembers_insert hmemory (Remembers.fresh hjob hlast)⟩
        constructor
        case given =>
          refine ⟨nofun, ?_⟩
          rintro ⟨other, hother, previous, hprevious, hsame⟩
          exact absurd (hjob.unique hother ▸ hsame) (hlast previous hprevious)
        case counts => exact fun _ h => (by cases h)
    | some entry =>
        -- the run that is remembered goes on
        obtain ⟨hold, hsame⟩ := Option.filter_eq_some_iff.mp hentry
        obtain rfl : entry.signature = signature := beq_iff_eq.mp hsame
        rw [hold] at hworker
        obtain ⟨previous, hprevious, hfails⟩ := hworker.last
        obtain ⟨run, hrun, hcount, hfirst, hlast⟩ := hworker
        have hnext : min (entry.repeatCount + 1) usizeMax = min (run.length + 1) usizeMax := by
          omega
        have hhead : (run ++ [review.job]).head? = run.head? := by
          cases run with
          | nil => cases hfirst
          | cons first rest => rfl
        refine ⟨_, _, rfl, ?_, remembers_insert hmemory ?_⟩
        · constructor
          case given => exact ⟨fun _ => ⟨_, hjob, previous, hprevious, hfails⟩, fun _ => rfl⟩
          case counts =>
            intro found hfound
            obtain rfl := Option.some.inj hfound
            exact ⟨run, hrun.concat hjob, hnext, hfirst, hlast⟩
        · refine ⟨run ++ [review.job], hrun.concat hjob, ?_, ?_, ?_⟩
          · rw [List.length_append, List.length_singleton]
            exact hnext
          · rw [hhead]
            exact hfirst
          · rw [List.getLast?_concat]
            rfl
  · have hdone : review.job.state.isFailure = false := eq_false_of_ne_true hfailure
    simp only [if_neg hfailure]
    refine ⟨none, _, rfl, ?_, remembers_insert hmemory (Remembers.forget hdone)⟩
    constructor
    case given =>
      refine ⟨nofun, ?_⟩
      rintro ⟨signature, hjob, -⟩
      exact absurd hjob.1 hfailure
    case counts => exact fun _ h => (by cases h)

/-! ## All reviews -/

theorem rememberedFailures_run (case : Text.UnicodeCase)
    (hsigned : ∀ review ∈ before, Signed review.job) :
    ∃ memory, rememberedFailures case before = some memory
      ∧ ∀ key, Remembers (workerJobs case before key) (memory key) := by
  induction before using List.reverseRecOn with
  | nil => exact ⟨_, rfl, fun _ => fun _ hlast => (by cases hlast)⟩
  | append_singleton before review ih =>
      rw [List.forall_mem_append, List.forall_mem_singleton] at hsigned
      obtain ⟨memory, hmemory, hremembers⟩ := ih hsigned.1
      obtain ⟨evidence, after, hstep, -, hafter⟩ :=
        reviewLoopRepeatedFailureEvidence_step hremembers hsigned.2
      refine ⟨after, ?_, hafter⟩
      rw [rememberedFailures] at hmemory ⊢
      rw [List.foldlM_append, hmemory, Option.bind_eq_bind, Option.bind_some, List.foldlM_cons,
        hstep]
      rfl

theorem repeated_failure_evidence
    (hsigned : ∀ finished ∈ before ++ [review], Signed finished.job) :
    ∃ memory evidence after, rememberedFailures case before = some memory
      ∧ reviewLoopRepeatedFailureEvidence case memory review = some (evidence, after)
      ∧ CountsRun (min · usizeMax) (workerJobs case before (review.workerKey case)) review.job
        evidence := by
  rw [List.forall_mem_append, List.forall_mem_singleton] at hsigned
  obtain ⟨memory, hmemory, hremembers⟩ := rememberedFailures_run case hsigned.1
  obtain ⟨evidence, after, hstep, hcounts, -⟩ :=
    reviewLoopRepeatedFailureEvidence_step hremembers hsigned.2
  exact ⟨memory, evidence, after, hmemory, hstep, hcounts⟩

end

/-! ## A failure that goes on -/

def failedReview (id : String) : FinishedReview where
  issue :=
    { id := "I_7", identifier := "#7", title := "Review", description := none
      state := "Agent Review", priority := none, blockedBy := []
      projectFields := fun _ => none, createdAt := none }
  job :=
    { backend := "codex", state := .failed, report := none, error := some "exit status 1"
      id, issueRef := "#7", artifactPath := none, ledgerPath := none, backendSessionId := none }

theorem failsWith_failedReview (id : String) :
    FailsWith "generic:exit status 1" (failedReview id).job :=
  ⟨rfl, (by decide : reviewFailureSignature (failedReview "job").job.toReviewJob
    = some (some "generic:exit status 1"))⟩

theorem second_failure_counted :
    ∃ memory evidence after, rememberedFailures .ascii [failedReview "job-1"] = some memory
      ∧ reviewLoopRepeatedFailureEvidence .ascii memory (failedReview "job-2")
        = some (evidence, after)
      ∧ CountsRun (min · usizeMax)
        (workerJobs .ascii [failedReview "job-1"] ((failedReview "job-2").workerKey .ascii))
        (failedReview "job-2").job evidence := by
  refine repeated_failure_evidence ?_
  intro finished hfinished _
  rcases List.mem_pair.mp hfinished with rfl | rfl
  · exact ⟨_, failsWith_failedReview "job-1"⟩
  · exact ⟨_, failsWith_failedReview "job-2"⟩

/-- A run of more failures than a `usize` counts is not counted to its end. -/
theorem saturated_count :
    ¬ ∀ (before : List FinishedReview) (review : FinishedReview),
      (∀ finished ∈ before ++ [review], Signed finished.job) →
      ∃ memory evidence after, rememberedFailures .ascii before = some memory
        ∧ reviewLoopRepeatedFailureEvidence .ascii memory review = some (evidence, after)
        ∧ CountsRun id (workerJobs .ascii before (review.workerKey .ascii)) review.job
          evidence := by
  intro h
  let review := failedReview "job"
  let before := List.replicate usizeMax review
  have hsigned : ∀ finished ∈ before, Signed finished.job := by
    intro finished hfinished _
    rw [List.eq_of_mem_replicate hfinished]
    exact ⟨_, failsWith_failedReview "job"⟩
  have hjobs : workerJobs .ascii before (review.workerKey .ascii)
      = List.replicate usizeMax review.job := by
    rw [workerJobs, List.filter_eq_self.mpr, List.map_replicate]
    intro finished hfinished
    rw [List.eq_of_mem_replicate hfinished, beq_self_eq_true]
  obtain ⟨memory, evidence, after, hmemory, hstep, hcounts⟩ := h before review
    (List.forall_mem_append.mpr ⟨hsigned, List.forall_mem_singleton.mpr
      fun _ => ⟨_, failsWith_failedReview "job"⟩⟩)
  obtain ⟨kept, hkept, hremembers⟩ := rememberedFailures_run .ascii hsigned
  obtain rfl := Option.some.inj (hkept.symm.trans hmemory)
  obtain ⟨found, _, hfound, hsaturated, -⟩ := reviewLoopRepeatedFailureEvidence_step hremembers
    (fun _ => ⟨_, failsWith_failedReview "job"⟩ : Signed review.job)
  obtain ⟨rfl, rfl⟩ := Prod.mk.inj (Option.some.inj (hfound.symm.trans hstep))
  rw [hjobs] at hcounts hsaturated
  have hgiven : found.isSome = true := hcounts.given.mpr ⟨_, failsWith_failedReview "job", _,
    List.getLast?_replicate .., failsWith_failedReview "job"⟩
  obtain ⟨given, hsome⟩ := Option.isSome_iff_exists.mp hgiven
  obtain ⟨run, hrun, hcount, -⟩ := hcounts.counts given hsome
  obtain ⟨_, -, hbounded, -⟩ := hsaturated.counts given hsome
  have hall : ∀ job ∈ List.replicate usizeMax review.job ++ [review.job],
      FailsWith given.signature job := by
    have hlast := hrun.all review.job (List.mem_append_right _ List.mem_cons_self)
    intro job hjob
    rcases List.mem_append.mp hjob with hjob | hjob
    · rw [List.eq_of_mem_replicate hjob]
      exact hlast
    · rw [List.mem_singleton.mp hjob]
      exact hlast
  have hlength := congrArg List.length (hrun.eq_of_forall hall)
  rw [List.length_append, List.length_append, List.length_replicate] at hlength
  have hover : given.repeatCount = usizeMax + 1 := by
    rw [hcount, id, Nat.add_right_cancel hlength]
  have hbound : given.repeatCount ≤ usizeMax :=
    Nat.le_trans (Nat.le_of_eq hbounded) (Nat.min_le_right _ _)
  omega

end SheaSymphony.Review

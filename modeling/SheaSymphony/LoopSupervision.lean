import SheaSymphony.LoopSupervisor

/-!
# One loop at a time

The state of the desktop app is right about its loop in every run in which a start does not
fail between taking the state and spawning the child, no stop comes in between, and neither
a line of a child, a failed signal nor a failed wait clears the state of a loop
(`loop_supervised`). Each of these does happen, and two loops can then run at once.

While the state is running, one thread is responsible for it: the call that has taken it, up
to the threads it starts, and then the one that waits for the child.
-/

namespace SheaSymphony.App.Supervisor

open Runs

variable {parse : String → Option Json}

/-! ## Lines -/

theorem withMode_running (state : LoopState) (mode : Option String) :
    (state.withMode mode).running = state.running ∧ (state.withMode mode).pid = state.pid :=
  ⟨rfl, rfl⟩

theorem applyLine_of_not_saysStopped {line : String} (h : saysStopped parse line = false)
    (state : LoopState) (atMs : Nat) :
    (applyLine parse state line atMs).running = state.running
      ∧ (applyLine parse state line atMs).pid = state.pid := by
  unfold applyLine applyAutoloopEvent
  unfold saysStopped at h
  cases hname : eventName parse line with
  | none =>
      rw [hname] at h
      dsimp only at h ⊢
      unfold applyAutoloopResult applyAutoloopStopped
      by_cases hresult : Text.startsWith line "autopilot_loop_result " = true
      · rw [if_pos hresult]
        exact withMode_running state _
      · rw [if_neg hresult]
        rw [Bool.eq_false_iff.mpr hresult, Bool.not_false, Bool.true_and] at h
        rw [if_neg (Bool.eq_false_iff.mp h)]
        exact ⟨rfl, rfl⟩
  | some name =>
      rw [hname] at h
      dsimp only at h ⊢
      rw [Bool.or_eq_false_iff] at h
      obtain ⟨hname, hrest⟩ := h
      by_cases hprogress : progressEvents.contains name = true
      · rw [if_pos hprogress]
        exact withMode_running state _
      · rw [if_neg hprogress, if_neg (beq_eq_false_iff_ne.mp hname)]
        unfold applyAutoloopResult applyAutoloopStopped
        by_cases hresult : Text.startsWith line "autopilot_loop_result " = true
        · rw [if_pos hresult]
          exact withMode_running state _
        · rw [if_neg hresult]
          rw [Bool.eq_false_iff.mpr hprogress, Bool.eq_false_iff.mpr hresult, Bool.not_false,
            Bool.true_and, Bool.true_and] at hrest
          rw [if_neg (Bool.eq_false_iff.mp hrest)]
          exact ⟨rfl, rfl⟩

theorem applyLine_not_running {state : LoopState} (h : state.running = false) (line : String)
    (atMs : Nat) : (applyLine parse state line atMs).running = false := by
  unfold applyLine applyAutoloopEvent applyAutoloopResult applyAutoloopStopped
  cases eventName parse line with
  | none =>
      dsimp only
      split
      · exact h
      · split
        · rfl
        · exact h
  | some name =>
      dsimp only
      split
      · exact h
      · split
        · rfl
        · split
          · exact h
          · split
            · rfl
            · exact h

/-! ## Responsibility -/

/-- A call that has taken the state and has yet to spawn a child or to give up. -/
def Thread.starting : Thread → Bool
  | .building _ | .previewing _ | .spawning _ | .recordingSpawnError _ => true
  | _ => false

/-- A thread that is responsible for the state being running. -/
def Thread.owns : Thread → Bool
  | .building _ | .previewing _ | .spawning _ | .recordingSpawnError _ => true
  | .recording _ _ | .attaching _ _ | .waiting _ _ => true
  | _ => false

def Idle (children : List Child) : Prop :=
  ∀ (i : Nat) (child : Child), children[i]? = some child → child.alive = false

/-- The child is the last one, and no other is alive. -/
structure Last (children : List Child) (child pid : Nat) (recorded : Bool) : Prop where
  last : child + 1 = children.length
  found : ∃ c, children[child]? = some c ∧ c.pid = pid ∧ c.recorded = recorded
  alone : ∀ (i : Nat) (c : Child), children[i]? = some c → c.alive = true → i = child

/-- What the responsible thread knows of the state and the children. -/
def Fits (statePid : Option Nat) (children : List Child) : Thread → Prop
  | .building _ | .previewing _ | .spawning _ | .recordingSpawnError _ =>
      statePid = none ∧ Idle children
  | .recording child pid => statePid = none ∧ Last children child pid false
  | .attaching child pid | .waiting child pid =>
      statePid = some pid ∧ Last children child pid true
  | _ => False

/-- The state is running exactly while a thread is responsible for it. -/
def Desk.HeldBy (desk : Desk) : Option Thread → Prop
  | none => desk.state.running = false ∧ Idle desk.children
  | some t => desk.state.running = true ∧ Fits desk.state.pid desk.children t

def Held (s : Session) : Prop :=
  ∃ owner : Option Thread, s.threads.filter Thread.owns = owner.toList ∧ s.shared.HeldBy owner

/-! ## The condition -/

/-- What the step of a thread must find for the app to stay right about its loop. -/
def Meets (parse : String → Option Json) (desk : Desk) (answer : Answer) : Thread → Prop
  | .building _ => answer.command.isOk = true
  | .previewing _ => answer.preview.isOk = true
  | .stopping => desk.state.pid = none → desk.state.running = false
  | .recordingStopError _ => desk.state.running = false
  | .reading _ _ => ∀ line, answer.line = some line → saysStopped parse line = true →
      desk.state.running = false
  | .waiting child _ => answer.wait.isOk = false → desk.children[child]?.any (·.alive) = false
  | _ => True

def Guard (parse : String → Option Json) (s : Session) : Input → Prop
  | .goOn thread answer => ∀ t, s.threads[thread]? = some t → Meets parse s.shared answer t
  | _ => True

/-! ## Steps of the responsible thread -/

variable {desk : Desk} {answer : Answer}

/-- Who is responsible after a step that only its own thread was responsible before. -/
def HandedOver (move : Move) : Prop :=
  ∃ owner : Option Thread,
    [move.next].filter Thread.owns ++ move.started.filter Thread.owns = owner.toList
      ∧ move.shared.HeldBy owner

theorem handedOver_spawn {args : List String} (h : desk.HeldBy (some (.spawning args))) :
    HandedOver (spawn desk answer args) := by
  obtain ⟨hrunning, hpid, hidle⟩ := h
  unfold spawn
  split
  · exact ⟨some _, rfl, hrunning, hpid, hidle⟩
  · next pid hspawn =>
    refine ⟨some _, rfl, hrunning, hpid, ?_⟩
    refine {
      last := by
        show desk.children.length + 1 = (desk.children ++ [_]).length
        rw [List.length_append, List.length_singleton]
      found := ⟨_, List.getElem?_concat_length, rfl, rfl⟩
      alone := fun i c hc halive => ?_ }
    rcases Nat.lt_trichotomy i desk.children.length with hlt | heq | hgt
    · rw [List.getElem?_append_left hlt] at hc
      rw [hidle i c hc] at halive
      cases halive
    · exact heq
    · rw [List.getElem?_eq_none (by rw [List.length_append, List.length_singleton]; omega)] at hc
      cases hc

theorem handedOver_record {child pid : Nat} (h : desk.HeldBy (some (.recording child pid))) :
    HandedOver (record desk child pid) := by
  obtain ⟨hrunning, -, hlast, ⟨c, hc, hpid, -⟩, halone⟩ := h
  refine ⟨some _, rfl, hrunning, rfl, ?_⟩
  refine { last := ?_, found := ?_, alone := ?_ }
  · show child + 1 = (desk.children.modify child _).length
    rw [List.length_modify, hlast]
  · refine ⟨{ c with recorded := true }, ?_, hpid, rfl⟩
    show (desk.children.modify child _)[child]? = _
    rw [List.getElem?_modify_eq, hc]
    rfl
  · intro i other hother halive
    replace hother : (desk.children.modify child fun c => { c with recorded := true })[i]?
        = some other := hother
    by_cases hi : child = i
    · exact hi.symm
    · rw [List.getElem?_modify_ne _ _ hi] at hother
      exact halone i other hother halive

theorem handedOver_wait {child pid : Nat} (h : desk.HeldBy (some (.waiting child pid)))
    (hmeets : Meets parse desk answer (.waiting child pid)) :
    HandedOver (wait desk answer child pid) := by
  obtain ⟨hrunning, hpid, hlast⟩ := h
  -- the state is cleared only when the child has ended, and no other is alive
  have hcleared : ∀ exitCode waitError, desk.children[child]?.any (·.alive) = false →
      HandedOver (clear desk answer exitCode waitError) := by
    intro exitCode waitError hdead
    refine ⟨none, rfl, rfl, fun i c hc => ?_⟩
    cases halive : c.alive with
    | false => rfl
    | true =>
        obtain rfl := hlast.alone i c hc halive
        have hany : desk.children[i]?.any (·.alive) = true := by
          rw [show desk.children[i]? = some c from hc]
          exact halive
        rw [hdead] at hany
        cases hany
  unfold wait
  split
  · next error hwait => exact hcleared none (some error) (hmeets (by rw [hwait]; rfl))
  · split
    · exact ⟨some _, rfl, hrunning, hpid, hlast⟩
    · next hdead => exact hcleared _ none (Bool.eq_false_iff.mpr hdead)

variable {t : Thread} {owner : Option Thread} {s : Session}

theorem handedOver_act (h : desk.HeldBy (some t)) (hmeets : Meets parse desk answer t) :
    HandedOver (act parse answer desk t) := by
  cases t with
  | building args =>
      show HandedOver (build desk answer args)
      unfold build
      cases hcommand : answer.command with
      | error error =>
          have hok : answer.command.isOk = true := hmeets
          rw [hcommand] at hok
          cases hok
      | ok command => exact ⟨some _, rfl, h⟩
  | previewing args =>
      show HandedOver (preview desk answer args)
      unfold preview
      cases hpreview : answer.preview with
      | error error =>
          have hok : answer.preview.isOk = true := hmeets
          rw [hpreview] at hok
          cases hok
      | ok command => exact ⟨some _, rfl, h⟩
  | spawning args => exact handedOver_spawn h
  | recordingSpawnError message => exact ⟨none, rfl, rfl, h.2.2⟩
  | recording child pid => exact handedOver_record h
  | attaching child pid => exact ⟨some (.waiting child pid), rfl, h⟩
  | waiting child pid => exact handedOver_wait h hmeets
  | _ => exact absurd h.2 id

/-! ## Steps of the others -/

/-- Another thread's step changes nothing the responsible thread knows, or takes a state that
nobody is responsible for. -/
def Undisturbed (desk : Desk) (move : Move) : Prop :=
  ([move.next].filter Thread.owns = [] ∧ move.started.filter Thread.owns = []
      ∧ ∀ owner, desk.HeldBy owner → move.shared.HeldBy owner)
    ∨ (desk.state.running = false ∧ move.started = []
      ∧ (Idle desk.children → move.shared.HeldBy (some move.next)) ∧ move.next.owns = true)

theorem HeldBy.congr {later : Desk} (h : desk.HeldBy owner)
    (hrunning : later.state.running = desk.state.running)
    (hpid : later.state.pid = desk.state.pid) (hchildren : later.children = desk.children) : later.HeldBy owner := by
  cases owner with
  | none =>
      rw [Desk.HeldBy, hrunning, hchildren]
      exact h
  | some t =>
      rw [Desk.HeldBy, hrunning, hpid, hchildren]
      exact h

theorem HeldBy.of_not_running {later : Desk} (h : desk.HeldBy owner)
    (hbefore : desk.state.running = false) (hrunning : later.state.running = false)
    (hchildren : later.children = desk.children) : later.HeldBy owner := by
  cases owner with
  | none =>
      rw [Desk.HeldBy, hchildren]
      exact ⟨hrunning, h.2⟩
  | some t =>
      have hrun := h.1
      rw [hbefore] at hrun
      cases hrun

theorem undisturbed_stay (ht : t.owns = false) :
    Undisturbed desk { shared := desk, next := t } :=
  Or.inl ⟨List.filter_eq_nil_iff.mpr fun u hu => by rw [List.mem_singleton.mp hu, ht]; simp,
    rfl, fun _ h => h⟩

theorem undisturbed_act (ht : t.owns = false) (hmeets : Meets parse desk answer t) :
    Undisturbed desk (act parse answer desk t) := by
  cases t with
  | entering mode workflowPath args =>
      show Undisturbed desk (enter desk answer mode workflowPath args)
      unfold enter
      split
      · exact undisturbed_stay rfl
      · next hidle =>
        exact Or.inr ⟨Bool.eq_false_iff.mpr hidle, rfl, fun h => ⟨rfl, rfl, h⟩, rfl⟩
  | stopping =>
      show Undisturbed desk (stop desk)
      unfold stop
      split
      · next hpid =>
        refine Or.inl ⟨rfl, rfl, fun owner h => ?_⟩
        exact HeldBy.of_not_running h (hmeets hpid) rfl rfl
      · exact Or.inl ⟨rfl, rfl, fun owner h => HeldBy.congr h rfl rfl rfl⟩
  | signalling pid =>
      show Undisturbed desk (signal desk answer)
      unfold signal
      split
      · exact undisturbed_stay rfl
      · exact undisturbed_stay rfl
  | recordingStopError message =>
      refine Or.inl ⟨rfl, rfl, fun owner h => ?_⟩
      exact HeldBy.of_not_running h hmeets rfl rfl
  | showing => exact undisturbed_stay rfl
  | returned result => exact undisturbed_stay rfl
  | reading stream child =>
      show Undisturbed desk (readLine parse desk answer stream child)
      unfold readLine
      split
      · exact undisturbed_stay rfl
      · next line hline =>
        refine Or.inl ⟨rfl, rfl, fun owner h => ?_⟩
        cases hstop : saysStopped parse line with
        | false =>
            obtain ⟨hrunning, hpid⟩ :=
              applyLine_of_not_saysStopped hstop desk.state answer.nowMs
            exact HeldBy.congr h hrunning hpid rfl
        | true =>
            have hbefore := hmeets line hline hstop
            exact HeldBy.of_not_running h hbefore
              (applyLine_not_running hbefore line answer.nowMs) rfl
  | ended => exact undisturbed_stay rfl
  | _ => cases ht

/-! ## Runs -/

theorem idle_of_not_running (h : desk.HeldBy owner) (hrunning : desk.state.running = false) :
    owner = none ∧ Idle desk.children := by
  cases owner with
  | none => exact ⟨rfl, h.2⟩
  | some t =>
      have hrun := h.1
      rw [hrunning] at hrun
      cases hrun

theorem Held.goOn (h : Held s) {i : Nat} (ht : s.threads[i]? = some t)
    (hmeets : Meets parse s.shared answer t) :
    Held (Threads.advance (act parse answer) s i) := by
  obtain ⟨owner, hfilter, hheld⟩ := h
  obtain ⟨front, back, hbefore, hafter⟩ :=
    Threads.filter_advance (act parse answer) Thread.owns ht
  have hshared : (Threads.advance (act parse answer) s i).shared
      = (act parse answer s.shared t).shared := by
    rw [Threads.advance_some ht]
  rw [hfilter] at hbefore
  rw [Held, hafter, hshared]
  cases hown : t.owns with
  | true =>
      -- the thread is the one that is responsible
      rw [List.filter_cons_of_pos hown, List.filter_nil] at hbefore
      obtain ⟨rfl, rfl, rfl⟩ : front = [] ∧ back = [] ∧ owner = some t := by
        cases owner with
        | none => cases front <;> simp at hbefore
        | some u =>
            cases front with
            | nil =>
                cases back with
                | nil => exact ⟨rfl, rfl, by simpa using hbefore⟩
                | cons b back => simp at hbefore
            | cons f front => simp at hbefore
      rw [List.nil_append, List.append_nil]
      exact handedOver_act hheld hmeets
  | false =>
      rw [List.filter_cons_of_neg (by rw [hown]; exact Bool.false_ne_true), List.filter_nil,
        List.append_nil] at hbefore
      rcases undisturbed_act hown hmeets with ⟨hnext, hstarted, hkept⟩ | ⟨hrunning, hstarted, htaken, hnext⟩
      · refine ⟨owner, ?_, hkept owner hheld⟩
        rw [hnext, hstarted, List.append_nil, List.append_nil, hbefore]
      · obtain ⟨rfl, hidle⟩ := idle_of_not_running hheld hrunning
        obtain ⟨rfl, rfl⟩ := List.append_eq_nil_iff.mp hbefore.symm
        refine ⟨some _, ?_, htaken hidle⟩
        rw [hstarted, List.filter_cons_of_pos hnext]
        rfl

/-! ### The children -/

theorem exited_alive {children : List Child} {child i : Nat} {c : Child}
    (hc : (children.modify child fun c => { c with alive := false })[i]? = some c)
    (halive : c.alive = true) : children[i]? = some c := by
  by_cases hi : child = i
  · subst hi
    rw [List.getElem?_modify_eq] at hc
    cases hfound : children[child]? with
    | none => rw [hfound] at hc; cases hc
    | some found =>
        rw [hfound] at hc
        obtain rfl := Option.some.inj hc
        cases halive
  · rwa [List.getElem?_modify_ne _ _ hi] at hc

theorem Idle.exit {children : List Child} (h : Idle children) (child : Nat) :
    Idle (children.modify child fun c => { c with alive := false }) := by
  intro i c hc
  cases halive : c.alive with
  | false => rfl
  | true =>
      rw [h i c (exited_alive hc halive)] at halive
      cases halive

theorem Last.exit {children : List Child} {child pid : Nat} {recorded : Bool}
    (h : Last children child pid recorded) (other : Nat) :
    Last (children.modify other fun c => { c with alive := false }) child pid recorded where
  last := by rw [List.length_modify, h.last]
  found := by
    obtain ⟨c, hc, hpid, hrecorded⟩ := h.found
    by_cases hother : other = child
    · subst hother
      exact ⟨{ c with alive := false }, by rw [List.getElem?_modify_eq, hc]; rfl, hpid, hrecorded⟩
    · exact ⟨c, by rw [List.getElem?_modify_ne _ _ hother, hc], hpid, hrecorded⟩
  alone i c hc halive := h.alone i c (exited_alive hc halive) halive

theorem Fits.exit {statePid : Option Nat} {children : List Child} (h : Fits statePid children t)
    (child : Nat) :
    Fits statePid (children.modify child fun c => { c with alive := false }) t := by
  cases t with
  | building args => exact ⟨h.1, h.2.exit child⟩
  | previewing args => exact ⟨h.1, h.2.exit child⟩
  | spawning args => exact ⟨h.1, h.2.exit child⟩
  | recordingSpawnError message => exact ⟨h.1, h.2.exit child⟩
  | recording own pid => exact ⟨h.1, h.2.exit child⟩
  | attaching own pid => exact ⟨h.1, h.2.exit child⟩
  | waiting own pid => exact ⟨h.1, h.2.exit child⟩
  | _ => exact h

theorem Held.step (h : Held s) {input : Input} (hguard : Guard parse s input) :
    Held (step parse s input) := by
  cases input with
  | start options =>
      obtain ⟨owner, hfilter, hheld⟩ := h
      refine ⟨owner, ?_, hheld⟩
      rw [App.Supervisor.step, Threads.filter_start, hfilter]
      exact List.append_nil _
  | stop =>
      obtain ⟨owner, hfilter, hheld⟩ := h
      refine ⟨owner, ?_, hheld⟩
      rw [App.Supervisor.step, Threads.filter_start, hfilter]
      exact List.append_nil _
  | goOn thread answer =>
      cases hthread : s.threads[thread]? with
      | none =>
          rw [App.Supervisor.step, Threads.advance_none hthread]
          exact h
      | some t => exact h.goOn hthread (hguard t hthread)
  | exit child =>
      obtain ⟨owner, hfilter, hheld⟩ := h
      refine ⟨owner, hfilter, ?_⟩
      cases owner with
      | none => exact ⟨hheld.1, hheld.2.exit child⟩
      | some t => exact ⟨hheld.1, hheld.2.exit child⟩
  | switch workspace =>
      obtain ⟨owner, hfilter, hheld⟩ := h
      exact ⟨owner, hfilter, HeldBy.congr hheld rfl rfl rfl⟩

theorem held_opened (workspace : WorkspaceProfile) : Held (opened workspace) :=
  ⟨none, rfl, rfl, fun _ _ h => by cases h⟩

theorem held_run {workspace : WorkspaceProfile} {inputs : List Input}
    (h : Allowed (step parse) (Guard parse) (opened workspace) inputs) :
    Held (run (step parse) (opened workspace) inputs) :=
  h.invariant (fun _ _ hs hguard => hs.step hguard) inputs (held_opened workspace)

/-! ## What the app says of its loop -/

/-- The app is right about its loop. -/
structure Supervised (parse : String → Option Json) (s : Session) : Prop where
  /-- No two children are alive. -/
  alone : ∀ (i j : Nat) (a b : Child), s.shared.children[i]? = some a →
    s.shared.children[j]? = some b → a.alive = true → b.alive = true → i = j
  /-- A child that is recorded and alive is the one the state tells of. -/
  running : ∀ child ∈ s.shared.children, child.alive = true → child.recorded = true →
    s.shared.state.running = true ∧ s.shared.state.pid = some child.pid
  /-- While the end of a child is to be dealt with, no other has been started. -/
  exits : ∀ child pid, .waiting child pid ∈ s.threads →
    child + 1 = s.shared.children.length ∧ ∀ t ∈ s.threads, t.starting = false
  /-- A start that gives up leaves the state not running. -/
  failed : ∀ (thread : Nat) (answer : Answer) (t : Thread) (error : String),
    s.threads[thread]? = some t → t.starting = true → Meets parse s.shared answer t →
    (act parse answer s.shared t).next = .returned (.error error) →
    (step parse s (.goOn thread answer)).shared.state.running = false

theorem owns_of_starting (h : t.starting = true) : t.owns = true := by
  cases t with
  | building args => rfl
  | previewing args => rfl
  | spawning args => rfl
  | recordingSpawnError message => rfl
  | _ => cases h

theorem Held.owner_eq (hfilter : s.threads.filter Thread.owns = owner.toList) (ht : t ∈ s.threads)
    (hown : t.owns = true) : owner = some t := by
  have hmem : t ∈ owner.toList := hfilter ▸ List.mem_filter.mpr ⟨ht, hown⟩
  exact Option.mem_toList.mp hmem

theorem Fits.children {statePid : Option Nat} {children : List Child}
    (h : Fits statePid children t) :
    Idle children ∨ ∃ child pid recorded, Last children child pid recorded
      ∧ (recorded = true → statePid = some pid) := by
  cases t with
  | building args => exact Or.inl h.2
  | previewing args => exact Or.inl h.2
  | spawning args => exact Or.inl h.2
  | recordingSpawnError message => exact Or.inl h.2
  | recording child pid => exact Or.inr ⟨child, pid, false, h.2, nofun⟩
  | attaching child pid => exact Or.inr ⟨child, pid, true, h.2, fun _ => h.1⟩
  | waiting child pid => exact Or.inr ⟨child, pid, true, h.2, fun _ => h.1⟩
  | _ => exact absurd h id

theorem Held.supervised (h : Held s) : Supervised parse s := by
  obtain ⟨owner, hfilter, hheld⟩ := h
  -- the children are all dead, or all but the last
  have hchildren : Idle s.shared.children
      ∨ s.shared.state.running = true ∧ ∃ child pid recorded,
        Last s.shared.children child pid recorded
          ∧ (recorded = true → s.shared.state.pid = some pid) := by
    cases owner with
    | none => exact Or.inl hheld.2
    | some t => exact hheld.2.children.imp id fun hlast => ⟨hheld.1, hlast⟩
  refine { alone := ?_, running := ?_, exits := ?_, failed := ?_ }
  · intro i j a b ha hb halive hblive
    rcases hchildren with hidle | ⟨-, child, pid, recorded, hlast, -⟩
    · rw [hidle i a ha] at halive
      cases halive
    · rw [hlast.alone i a ha halive, hlast.alone j b hb hblive]
  · intro child hmem halive hrecorded
    obtain ⟨i, hi⟩ := List.mem_iff_getElem?.mp hmem
    rcases hchildren with hidle | ⟨hrunning, last, pid, recorded, hlast, hpid⟩
    · rw [hidle i child hi] at halive
      cases halive
    · obtain rfl := hlast.alone i child hi halive
      obtain ⟨found, hfound, hfoundPid, hfoundRecorded⟩ := hlast.found
      obtain rfl : child = found := Option.some.inj (hi.symm.trans hfound)
      exact ⟨hrunning, hfoundPid ▸ hpid (hfoundRecorded.symm.trans hrecorded)⟩
  · intro child pid hmem
    obtain rfl := Held.owner_eq hfilter hmem rfl
    refine ⟨hheld.2.2.last, fun t ht => ?_⟩
    cases hstarting : t.starting with
    | false => rfl
    | true =>
        have hsame := Option.some.inj (Held.owner_eq hfilter ht (owns_of_starting hstarting))
        rw [← hsame] at hstarting
        cases hstarting
  · intro thread answer t error hthread hstarting hmeets hreturned
    rw [App.Supervisor.step, Threads.advance_some hthread]
    cases t with
    | building args =>
        replace hreturned : (build s.shared answer args).next = .returned (.error error) := hreturned
        unfold build at hreturned
        cases hcommand : answer.command with
        | error error =>
            have hok : answer.command.isOk = true := hmeets
            rw [hcommand] at hok
            cases hok
        | ok command =>
            rw [hcommand] at hreturned
            cases hreturned
    | previewing args =>
        replace hreturned : (preview s.shared answer args).next = .returned (.error error) :=
          hreturned
        unfold preview at hreturned
        cases hpreview : answer.preview with
        | error error =>
            have hok : answer.preview.isOk = true := hmeets
            rw [hpreview] at hok
            cases hok
        | ok command =>
            rw [hpreview] at hreturned
            cases hreturned
    | spawning args =>
        replace hreturned : (spawn s.shared answer args).next = .returned (.error error) := hreturned
        unfold spawn at hreturned
        split at hreturned
        · cases hreturned
        · cases hreturned
    | recordingSpawnError message => rfl
    | _ => cases hstarting

/-- In a run whose steps all meet the condition the app is right about its loop. -/
theorem loop_supervised {workspace : WorkspaceProfile} {inputs : List Input}
    (h : Allowed (step parse) (Guard parse) (opened workspace) inputs) :
    Supervised parse (run (step parse) (opened workspace) inputs) :=
  (held_run h).supervised

/-! ## Runs of the app -/

def desktop : WorkspaceProfile where
  engineRoot := "/app"
  targetRoot := "/work"
  workflowPath := "flow.md"
  cliPath := none
  source := "self"
  error := none

/-- Everything works, and the child with the process number has nothing to say. -/
def quiet (pid : Nat) : Answer where
  command := .ok ()
  preview := .ok ["shea"]
  spawn := .ok pid
  kill := .ok ()
  line := none
  wait := .ok (some 0)
  nowMs := 0

/-- The call at a place starts its child. -/
def starting (call pid : Nat) : List Input :=
  .start none :: List.replicate 6 (.goOn call (quiet pid))

def atDesktop (inputs : List Input) : Session := run (step fun _ => none) (opened desktop) inputs

theorem first_loop_supervised : Supervised (fun _ => none) (atDesktop (starting 0 100)) :=
  loop_supervised ⟨trivial, fun _ h => by cases h; trivial, fun _ h => by cases h; rfl,
    fun _ h => by cases h; rfl, fun _ h => by cases h; trivial, fun _ h => by cases h; trivial,
    fun _ h => by cases h; trivial, trivial⟩

/-- A child that says it has stopped, and has not, does not keep another one from being
started; and a start whose command cannot be made leaves the state running. -/
theorem second_loop_started :
    ((atDesktop (starting 0 100
        ++ .goOn 1 { quiet 100 with line := some "autopilot_loop=stopped reason=once" }
          :: starting 4 101)).shared.children.countP (·.alive)) = 2
      ∧ ∃ s : Session, s = atDesktop [.start none, .goOn 0 (quiet 0),
          .goOn 0 { quiet 0 with command := .error "no profile" }]
        ∧ s.threads.head?.any (fun t => match t with
          | .returned (.error _) => true
          | _ => false) = true
        ∧ s.shared.state.running = true :=
  ⟨by decide, ⟨_, rfl, by decide, by decide⟩⟩

end SheaSymphony.App.Supervisor

import SheaSymphony.ReviewActions

/-!
# The two phases of a review action

What the lock keeps apart (`Exclusive`), where each token comes from and how often it is
used (`SingleUse`), and what has been done before a write starts (`Traced`), in every
state the calls of the app can reach.
-/

namespace SheaSymphony.App

open Runs Codes

variable {φ : Type} {digest : ConfigurationFiles → φ} {pid : Nat}

/-! ## What the lock keeps apart -/

/-- Between the two sections of the lock of a preparation. -/
def Call.isPreparing : Call φ → Bool
  | .checking _ | .fingerprinting _ | .dryRunning _ _ | .closing _ _ => true
  | _ => false

/-- A thread of a write. -/
def Call.isWriting : Call φ → Bool
  | .launching _ _ | .writing => true
  | _ => false

/-- What is behind the lock fits the numbers of preparations and of writes under way. -/
structure Locked (inner : Inner φ) (preparations writes : Nat) : Prop where
  preparing : preparations = inner.preparing.toNat
  running : writes = inner.state.running.toNat
  exclusive : (inner.preparing && inner.state.running) = false
  idle : (inner.preparing || inner.state.running) = true → inner.prepared = none

def Exclusive (s : Session φ) : Prop :=
  Locked s.shared.inner (s.threads.countP Call.isPreparing) (s.threads.countP Call.isWriting)

theorem exclusive_opened (workspace : WorkspaceProfile) (disk : Disk) (now : Nat) :
    Exclusive (opened workspace disk now : Session φ) :=
  ⟨rfl, rfl, rfl, fun _ => rfl⟩

/-- A token that is taken is the prepared one, in time, for the selected workspace and with
its files unchanged. -/
structure Taken (digest : ConfigurationFiles → φ) (disk : Disk) (now : Nat) (inner : Inner φ)
    (workspace : WorkspaceProfile) (token : String) (prepared : PreparedAction φ) : Prop where
  notRunning : inner.state.running = false
  notPreparing : inner.preparing = false
  isPrepared : inner.prepared = some prepared
  sameToken : prepared.token = token
  inTime : now - prepared.created ≤ previewMaxAge
  sameWorkspace : prepared.workspace = workspace
  unchanged : ∃ files, configurationFiles disk workspace = .ok files
    ∧ prepared.fingerprint = digest files

theorem takePrepared_cases [DecidableEq φ] (digest : ConfigurationFiles → φ) (disk : Disk) (now : Nat) (inner : Inner φ)
    (workspace : WorkspaceProfile) (token : String) :
    (∃ prepared, Taken digest disk now inner workspace token prepared
      ∧ takePrepared digest disk now inner workspace token
        = (.ok prepared, { inner with prepared := none }))
    ∨ (∃ error, takePrepared digest disk now inner workspace token
        = (.error error, { inner with prepared := none }))
    ∨ ((inner.state.running || inner.preparing) = true
      ∧ takePrepared digest disk now inner workspace token = (.error busyText, inner)) := by
  unfold takePrepared
  split
  · next hbusy => exact Or.inr (Or.inr ⟨hbusy, rfl⟩)
  · next hidle =>
    simp only [Bool.or_eq_true, not_or, Bool.not_eq_true] at hidle
    obtain ⟨hrunning, hpreparing⟩ := hidle
    cases hprepared : inner.prepared with
    | none =>
        refine Or.inr (Or.inl ⟨"Prepare the Review operation before confirming it.", ?_⟩)
        obtain ⟨preparing, sequence, _, state⟩ := inner
        obtain rfl : _ = none := hprepared
        rfl
    | some prepared =>
        dsimp only
        split
        · exact Or.inr (Or.inl ⟨_, rfl⟩)
        · next hfits =>
          simp only [not_or, not_not, Nat.not_lt] at hfits
          cases hfingerprint : configurationFingerprint digest disk workspace with
          | error error => exact Or.inr (Or.inl ⟨error, rfl⟩)
          | ok fingerprint =>
              obtain ⟨files, hfiles, hdigest⟩ := Fallible.map_eq_ok hfingerprint
              dsimp only
              split
              · exact Or.inr (Or.inl ⟨_, rfl⟩)
              · next hequal =>
                refine Or.inl ⟨prepared, ?_, rfl⟩
                exact {
                  notRunning := hrunning
                  notPreparing := hpreparing
                  isPrepared := hprepared
                  sameToken := hfits.1
                  inTime := hfits.2.1
                  sameWorkspace := hfits.2.2
                  unchanged := ⟨files, hfiles, (not_not.mp hequal).trans hdigest.symm⟩ }

variable {workspace : WorkspaceProfile} {s : Session φ} {call : Call φ} {inner : Inner φ}
  {p w : Nat} {event : Event}

theorem Locked.idle_of_busy (h : Locked inner p w)
    (hbusy : (inner.state.running || inner.preparing) = true) : inner.prepared = none :=
  h.idle (by rw [Bool.or_comm]; exact hbusy)

/-- The counts after a step are those without its thread, with where the thread is now and
the threads it has started. -/
def Locked.After (move : Threads.Move (Desk φ) (Call φ)) (p w : Nat) : Prop :=
  Locked move.shared.inner
    (p + move.next.isPreparing.toNat + move.started.countP Call.isPreparing)
    (w + move.next.isWriting.toNat + move.started.countP Call.isWriting)

theorem Locked.enter {desk : Desk φ} {request : Request} (h : Locked desk.inner p w) :
    Locked.After (App.enter desk request) p w := by
  unfold App.enter
  split
  · exact h
  · next hidle =>
    simp only [Bool.or_eq_true, not_or, Bool.not_eq_true] at hidle
    obtain ⟨hrunning, hpreparing⟩ := hidle
    have hp : p = 0 := by rw [h.preparing, hpreparing]; rfl
    subst hp
    exact ⟨rfl, h.running, hrunning, fun _ => rfl⟩

theorem Locked.confirm [DecidableEq φ] {desk : Desk φ} {token : String}
    (h : Locked desk.inner p w) : Locked.After (App.confirm digest desk token workspace) p w := by
  have hnone : Locked ({ desk.inner with prepared := none } : Inner φ) p w :=
    ⟨h.preparing, h.running, h.exclusive, fun _ => rfl⟩
  unfold App.confirm
  rcases takePrepared_cases digest desk.disk desk.now desk.inner workspace token with
    ⟨prepared, htaken, heq⟩ | ⟨error, heq⟩ | ⟨hbusy, heq⟩
  · rw [heq]
    have hw : w = 0 := by rw [h.running, htaken.notRunning]; rfl
    subst hw
    refine ⟨h.preparing, rfl, ?_, fun _ => rfl⟩
    show (desk.inner.preparing && true) = false
    rw [htaken.notPreparing]
    rfl
  · rw [heq]
    exact hnone
  · rw [heq]
    exact h

theorem Locked.close {desk : Desk φ} {answer : Answer} {request : Request}
    {preparation : Except String (φ × CommandSummary)} (h : Locked desk.inner (p + 1) w) :
    Locked.After (App.close pid desk answer request preparation) p w := by
  have hpreparing : desk.inner.preparing = true := by
    cases hfalse : desk.inner.preparing with
    | true => rfl
    | false =>
        have hcount := h.preparing
        rw [hfalse] at hcount
        cases hcount
  have hp : p = 0 := by
    have hcount := h.preparing
    rw [hpreparing] at hcount
    exact Nat.succ.inj hcount
  have hrunning : desk.inner.state.running = false := by
    have hexclusive := h.exclusive
    rw [hpreparing] at hexclusive
    exact hexclusive
  subst hp
  unfold App.close
  cases preparation with
  | error error =>
      refine ⟨rfl, h.running, rfl, fun hbusy => ?_⟩
      exact h.idle (by rw [hpreparing]; rfl)
  | ok prepared =>
      refine ⟨rfl, h.running, rfl, fun hbusy => ?_⟩
      have hbusy : (false || desk.inner.state.running) = true := hbusy
      rw [hrunning] at hbusy
      cases hbusy

theorem Locked.finish {desk : Desk φ} {answer : Answer} (h : Locked desk.inner p (w + 1)) :
    Locked.After (App.finish desk answer) p w := by
  have hrunning : desk.inner.state.running = true := by
    cases hfalse : desk.inner.state.running with
    | true => rfl
    | false =>
        have hcount := h.running
        rw [hfalse] at hcount
        cases hcount
  have hw : w = 0 := by
    have hcount := h.running
    rw [hrunning] at hcount
    exact Nat.succ.inj hcount
  subst hw
  have hidle := h.idle (by rw [hrunning, Bool.or_true])
  exact ⟨h.preparing, rfl, Bool.and_false _, fun _ => hidle⟩

section

variable [DecidableEq φ]

theorem Locked.act {desk : Desk φ} {answer : Answer}
    (h : Locked desk.inner (p + call.isPreparing.toNat) (w + call.isWriting.toNat)) :
    Locked.After (App.act digest pid answer desk call) p w := by
  cases call with
  | entering request => exact Locked.enter h
  | checking request =>
      show Locked.After (App.check desk answer request) p w
      unfold App.check
      split
      · exact h
      · exact h
  | fingerprinting request =>
      show Locked.After (App.fingerprint digest desk request) p w
      unfold App.fingerprint
      split
      · exact h
      · exact h
  | dryRunning request fingerprint =>
      show Locked.After (App.dryRun desk answer request fingerprint) p w
      unfold App.dryRun
      split
      · exact h
      · exact h
  | closing request preparation => exact Locked.close h
  | confirming token workspace => exact Locked.confirm h
  | launching workspace prepared =>
      show Locked.After (App.launch desk answer workspace prepared) p w
      unfold App.launch
      split
      · exact h
      · exact h
  | writing => exact Locked.finish h
  | prepareReturned result => exact h
  | executeReturned result => exact h
  | ended => exact h

theorem Exclusive.step (h : Exclusive s) (input : Input) :
    Exclusive (step digest pid s input) := by
  cases input with
  | prepare issue action =>
      have hidle : (beginPrepare s issue action).isPreparing = false
          ∧ (beginPrepare s issue action).isWriting = false := by
        unfold beginPrepare
        split <;> exact ⟨rfl, rfl⟩
      show Locked _ _ _
      rw [App.step, Threads.countP_start, Threads.countP_start, hidle.1, hidle.2]
      exact h
  | execute token =>
      show Locked _ _ _
      rw [App.step, Threads.countP_start, Threads.countP_start]
      exact h
  | goOn call answer =>
      cases hcall : s.threads[call]? with
      | none =>
          rw [App.step, Threads.advance_none hcall]
          exact h
      | some t =>
          obtain ⟨p, hp, hp'⟩ := @Threads.exists_countP_advance _ _ (act digest pid answer) s call t
            Call.isPreparing hcall
          obtain ⟨w, hw, hw'⟩ := @Threads.exists_countP_advance _ _ (act digest pid answer) s call t
            Call.isWriting hcall
          rw [Exclusive, hp, hw] at h
          have hafter := @Locked.act _ digest pid _ _ _ _ _ answer h
          rw [Exclusive, App.step, hp', hw', Threads.advance_some hcall]
          exact hafter
  | switch workspace => exact h
  | edit disk => exact h
  | tick elapsed => exact h

theorem exclusive_reachable {disk : Disk} {now : Nat}
    (h : Reachable (step digest pid) (opened workspace disk now) s) :
    Exclusive s :=
  h.invariant (exclusive_opened workspace disk now) fun _ input hs => Exclusive.step hs input

end

/-! ## What has been done before a write -/

/-- The events of a preparation up to its token, in their order. -/
def dryRanLog (request : Request) (files : ConfigurationFiles) : List Event :=
  [.entered request, .ready request, .fingerprinted request files, .dryRan request]

def preparedLog (request : Request) (files : ConfigurationFiles) (token : String) (time : Nat) :
    List Event :=
  dryRanLog request files ++ [.prepared request token time]

/-- The token is presented in time, with the workspace and its files as they were before the
dry run. -/
def presentedLog (request : Request) (files : ConfigurationFiles) (token : String)
    (time presentation : Nat) : List Event :=
  preparedLog request files token time
    ++ [.presented token request.workspace (.ok files) presentation]

def Call.Traced (digest : ConfigurationFiles → φ) (log : List Event) : Call φ → Prop
  | .checking request => [Event.entered request].Sublist log
  | .fingerprinting request => [Event.entered request, .ready request].Sublist log
  | .dryRunning request fingerprint => ∃ files, fingerprint = digest files
      ∧ [Event.entered request, .ready request, .fingerprinted request files].Sublist log
  | .closing request (.ok (fingerprint, _)) => ∃ files, fingerprint = digest files
      ∧ (dryRanLog request files).Sublist log
  | .launching workspace prepared => ∃ (request : Request) (files : ConfigurationFiles)
      (time presentation : Nat),
      workspace = request.workspace ∧ prepared.issue = request.issue
        ∧ prepared.action = request.action ∧ presentation ≤ time + previewMaxAge
        ∧ (presentedLog request files prepared.token time presentation).Sublist log
  | _ => True

def PreparedAction.Traced (digest : ConfigurationFiles → φ) (log : List Event)
    (prepared : PreparedAction φ) : Prop :=
  ∃ (request : Request) (files : ConfigurationFiles),
    prepared.issue = request.issue ∧ prepared.action = request.action
    ∧ prepared.workspace = request.workspace ∧ prepared.fingerprint = digest files
    ∧ (preparedLog request files prepared.token prepared.created).Sublist log

/-- The write is the one of a preparation whose token has been presented. -/
def StartedFrom (log : List Event) (token : String) (workspace : WorkspaceProfile)
    (args : List String) : Prop :=
  ∃ (request : Request) (files : ConfigurationFiles) (time presentation : Nat), workspace = request.workspace
    ∧ args = actionArgs request.workspace request.issue request.action true
    ∧ presentation ≤ time + previewMaxAge
    ∧ (presentedLog request files token time presentation
        ++ [Event.started token workspace args]).Sublist log

structure Desk.Traced (digest : ConfigurationFiles → φ) (desk : Desk φ) : Prop where
  prepared : ∀ prepared, desk.inner.prepared = some prepared → prepared.Traced digest desk.log
  writes : ∀ token workspace args, Event.started token workspace args ∈ desk.log →
    StartedFrom desk.log token workspace args

section

variable {log later : List Event}

theorem Call.Traced.mono (h : call.Traced digest log) (hlog : log.Sublist later) :
    call.Traced digest later := by
  cases call with
  | checking request => exact List.Sublist.trans h hlog
  | fingerprinting request => exact List.Sublist.trans h hlog
  | dryRunning request fingerprint =>
      obtain ⟨files, hdigest, hdone⟩ := h
      exact ⟨files, hdigest, hdone.trans hlog⟩
  | closing request preparation =>
      cases preparation with
      | error error => trivial
      | ok prepared =>
          obtain ⟨files, hdigest, hdone⟩ := h
          exact ⟨files, hdigest, hdone.trans hlog⟩
  | launching workspace prepared =>
      obtain ⟨request, files, time, presentation, hworkspace, hissue, haction, htime, hdone⟩ := h
      exact ⟨request, files, time, presentation, hworkspace, hissue, haction, htime,
        hdone.trans hlog⟩
  | _ => trivial

theorem PreparedAction.Traced.mono {prepared : PreparedAction φ}
    (h : prepared.Traced digest log) (hlog : log.Sublist later) : prepared.Traced digest later := by
  obtain ⟨request, files, hissue, haction, hworkspace, hdigest, hdone⟩ := h
  exact ⟨request, files, hissue, haction, hworkspace, hdigest, hdone.trans hlog⟩

theorem StartedFrom.mono {token : String} {args : List String}
    (h : StartedFrom log token workspace args) (hlog : log.Sublist later) :
    StartedFrom later token workspace args := by
  obtain ⟨request, files, time, presentation, hworkspace, hargs, htime, hdone⟩ := h
  exact ⟨request, files, time, presentation, hworkspace, hargs, htime, hdone.trans hlog⟩

end

/-- A step leaves everything in order when it does so with the desk, with its own thread and
with the thread it starts. -/
structure MoveTraced (digest : ConfigurationFiles → φ) (desk : Desk φ)
    (move : Threads.Move (Desk φ) (Call φ)) : Prop where
  log : desk.log.Sublist move.shared.log
  desk : move.shared.Traced digest
  next : move.next.Traced digest move.shared.log
  started : ∀ call ∈ move.started, call.Traced digest move.shared.log

theorem Desk.Traced.note {desk : Desk φ} (h : desk.Traced digest)
    (hevent : ∀ token workspace args, event ≠ .started token workspace args)
    (hprepared : ∀ prepared, inner.prepared = some prepared →
      prepared.Traced digest (desk.log ++ [event])) :
    (({ desk with inner } : Desk φ).note event).Traced digest where
  prepared := hprepared
  writes token workspace args hmem := by
    rcases List.mem_append.mp hmem with hmem | hmem
    · exact (h.writes token workspace args hmem).mono (List.sublist_append_left _ _)
    · exact absurd (List.mem_singleton.mp hmem).symm (hevent token workspace args)

theorem MoveTraced.stay {desk : Desk φ} (h : desk.Traced digest)
    (hprepared : ∀ prepared, inner.prepared = some prepared → desk.inner.prepared = some prepared)
    (hcall : call.Traced digest desk.log) :
    MoveTraced digest desk { shared := { desk with inner }, next := call } where
  log := List.Sublist.refl _
  desk := ⟨fun prepared hsome => h.prepared prepared (hprepared prepared hsome), h.writes⟩
  next := hcall
  started _ hmem := absurd hmem List.not_mem_nil

theorem MoveTraced.note {desk : Desk φ} (h : desk.Traced digest)
    (hevent : ∀ token workspace args, event ≠ .started token workspace args)
    (hprepared : ∀ prepared, inner.prepared = some prepared →
      prepared.Traced digest (desk.log ++ [event]))
    (hcall : call.Traced digest (desk.log ++ [event])) :
    MoveTraced digest desk
      { shared := ({ desk with inner } : Desk φ).note event, next := call } where
  log := List.sublist_append_left _ _
  desk := h.note hevent hprepared
  next := hcall
  started _ hmem := absurd hmem List.not_mem_nil

theorem sublist_concat {done log : List Event} (h : done.Sublist log) (event : Event) :
    (done ++ [event]).Sublist (log ++ [event]) :=
  h.append (List.Sublist.refl [event])

section

variable {desk : Desk φ} {answer : Answer} {request : Request}

theorem MoveTraced.enter (h : desk.Traced digest) : MoveTraced digest desk (App.enter desk request) := by
  unfold App.enter
  split
  · exact MoveTraced.stay h (fun _ hsome => hsome) trivial
  · refine MoveTraced.note h (fun _ _ _ heq => by cases heq) (fun _ hsome => by cases hsome) ?_
    exact List.sublist_append_right _ _

theorem MoveTraced.check (h : desk.Traced digest)
    (hcall : (Call.checking request : Call φ).Traced digest desk.log) :
    MoveTraced digest desk (App.check desk answer request) := by
  unfold App.check
  split
  · exact MoveTraced.stay h (fun _ hsome => hsome) trivial
  · refine MoveTraced.note h (fun _ _ _ heq => by cases heq) (fun prepared hsome => ?_) ?_
    · exact (h.prepared prepared hsome).mono (List.sublist_append_left _ _)
    · exact sublist_concat hcall _

theorem MoveTraced.fingerprint (h : desk.Traced digest)
    (hcall : (Call.fingerprinting request : Call φ).Traced digest desk.log) :
    MoveTraced digest desk (App.fingerprint digest desk request) := by
  unfold App.fingerprint
  split
  · exact MoveTraced.stay h (fun _ hsome => hsome) trivial
  · next files hfiles =>
    refine MoveTraced.note h (fun _ _ _ heq => by cases heq) (fun prepared hsome => ?_) ?_
    · exact (h.prepared prepared hsome).mono (List.sublist_append_left _ _)
    · exact ⟨files, rfl, sublist_concat hcall _⟩

theorem MoveTraced.dryRun {fingerprint : φ} (h : desk.Traced digest)
    (hcall : (Call.dryRunning request fingerprint).Traced digest desk.log) :
    MoveTraced digest desk (App.dryRun desk answer request fingerprint) := by
  obtain ⟨files, hdigest, hdone⟩ := hcall
  unfold App.dryRun
  split
  · refine MoveTraced.note h (fun _ _ _ heq => by cases heq) (fun prepared hsome => ?_) ?_
    · exact (h.prepared prepared hsome).mono (List.sublist_append_left _ _)
    · exact ⟨files, hdigest, sublist_concat hdone _⟩
  · exact MoveTraced.stay h (fun _ hsome => hsome) trivial

theorem MoveTraced.close {preparation : Except String (φ × CommandSummary)}
    (h : desk.Traced digest) (hcall : (Call.closing request preparation).Traced digest desk.log) :
    MoveTraced digest desk (App.close pid desk answer request preparation) := by
  cases preparation with
  | error error => exact MoveTraced.stay h (fun _ hsome => hsome) trivial
  | ok preparation =>
      obtain ⟨files, hdigest, hdone⟩ := hcall
      refine MoveTraced.note h (fun _ _ _ heq => by cases heq) (fun prepared hsome => ?_) trivial
      obtain rfl := Option.some.inj hsome
      exact ⟨request, files, rfl, rfl, rfl, hdigest, sublist_concat hdone _⟩

theorem MoveTraced.confirm [DecidableEq φ] (hdigest : Function.Injective digest) {token : String}
    (h : desk.Traced digest) :
    MoveTraced digest desk (App.confirm digest desk token workspace) := by
  unfold App.confirm
  rcases takePrepared_cases digest desk.disk desk.now desk.inner workspace token with
    ⟨prepared, htaken, heq⟩ | ⟨error, heq⟩ | ⟨-, heq⟩
  · obtain ⟨request, files, hissue, haction, hworkspace, hfingerprint, hdone⟩ :=
      h.prepared prepared htaken.isPrepared
    obtain ⟨current, hcurrent, hequal⟩ := htaken.unchanged
    obtain rfl : files = current := hdigest (hfingerprint.symm.trans hequal)
    obtain rfl : token = prepared.token := htaken.sameToken.symm
    obtain rfl : workspace = request.workspace := htaken.sameWorkspace.symm.trans hworkspace
    rw [heq]
    dsimp only
    rw [hcurrent]
    refine {
      log := List.sublist_append_left _ _
      desk := h.note (fun _ _ _ heq => by cases heq) (fun _ hsome => by cases hsome)
      next := trivial
      started := fun call hmem => ?_ }
    obtain rfl := List.mem_singleton.mp hmem
    refine ⟨request, files, prepared.created, desk.now, rfl, hissue, haction, ?_,
      sublist_concat hdone _⟩
    have htime := htaken.inTime
    omega
  · rw [heq]
    exact MoveTraced.stay h (fun _ hsome => by cases hsome) trivial
  · rw [heq]
    exact MoveTraced.stay h (fun _ hsome => hsome) trivial

theorem MoveTraced.launch {prepared : PreparedAction φ} (h : desk.Traced digest)
    (hcall : (Call.launching workspace prepared).Traced digest desk.log) :
    MoveTraced digest desk (App.launch desk answer workspace prepared) := by
  obtain ⟨request, files, time, presentation, hworkspace, hissue, haction, htime, hdone⟩ := hcall
  unfold App.launch
  split
  · have hgrown : desk.log.Sublist (desk.note (.started prepared.token workspace
        (actionArgs workspace prepared.issue prepared.action true))).log :=
      List.sublist_append_left _ _
    refine {
      log := hgrown
      desk := ⟨fun other hsome => (h.prepared other hsome).mono hgrown, ?_⟩
      next := trivial
      started := nofun }
    intro token other args hmem
    rcases List.mem_append.mp hmem with hmem | hmem
    · exact (h.writes token other args hmem).mono hgrown
    · cases List.mem_singleton.mp hmem
      refine ⟨request, files, time, presentation, hworkspace, ?_, htime, sublist_concat hdone _⟩
      rw [hworkspace, hissue, haction]
  · exact MoveTraced.stay h (fun _ hsome => hsome) trivial

theorem MoveTraced.act [DecidableEq φ] (hdigest : Function.Injective digest)
    (h : desk.Traced digest) (hcall : call.Traced digest desk.log) :
    MoveTraced digest desk (App.act digest pid answer desk call) := by
  cases call with
  | entering request => exact MoveTraced.enter h
  | checking request => exact MoveTraced.check h hcall
  | fingerprinting request => exact MoveTraced.fingerprint h hcall
  | dryRunning request fingerprint => exact MoveTraced.dryRun h hcall
  | closing request preparation => exact MoveTraced.close h hcall
  | confirming token workspace => exact MoveTraced.confirm hdigest h
  | launching workspace prepared => exact MoveTraced.launch h hcall
  | writing => exact MoveTraced.stay h (fun _ hsome => hsome) trivial
  | prepareReturned result => exact MoveTraced.stay h (fun _ hsome => hsome) trivial
  | executeReturned result => exact MoveTraced.stay h (fun _ hsome => hsome) trivial
  | ended => exact MoveTraced.stay h (fun _ hsome => hsome) trivial

end

/-- The desk is in order, and so is each call. -/
structure Traced (digest : ConfigurationFiles → φ) (s : Session φ) : Prop where
  desk : s.shared.Traced digest
  calls : Threads.Every (fun desk call => call.Traced digest desk.log) s

theorem Traced.put {desk : Desk φ} (h : Traced digest s) (hinner : desk.inner = s.shared.inner)
    (hlog : desk.log = s.shared.log) :
    Traced digest (s.put desk) where
  desk := ⟨fun prepared hsome => hlog ▸ h.desk.prepared prepared (hinner ▸ hsome),
    fun token workspace args hmem => hlog ▸ h.desk.writes token workspace args (hlog ▸ hmem)⟩
  calls := h.calls.put fun call hcall => hlog ▸ hcall

theorem traced_beginPrepare (s : Session φ) (issue : String) (action : ReviewAction)
    (log : List Event) : (beginPrepare s issue action).Traced digest log := by
  unfold beginPrepare
  split
  · trivial
  · trivial

section

variable [DecidableEq φ]

theorem Traced.step (hdigest : Function.Injective digest) (h : Traced digest s) (input : Input) :
    Traced digest (step digest pid s input) := by
  cases input with
  | prepare issue action => exact ⟨h.desk, h.calls.start (traced_beginPrepare s issue action _)⟩
  | execute token => exact ⟨h.desk, h.calls.start trivial⟩
  | goOn call answer =>
      cases hcall : s.threads[call]? with
      | none =>
          rw [App.step, Threads.advance_none hcall]
          exact h
      | some t =>
          have hmove := @MoveTraced.act _ digest pid t s.shared answer _ hdigest h.desk
            (h.calls.of_getElem? hcall)
          refine ⟨?_, h.calls.advance hcall (fun _ hother => hother.mono hmove.log) hmove.next
            hmove.started⟩
          rw [App.step, Threads.advance_some hcall]
          exact hmove.desk
  | switch workspace => exact h.put rfl rfl
  | edit disk => exact h.put rfl rfl
  | tick elapsed => exact h.put rfl rfl

theorem traced_opened (workspace : WorkspaceProfile) (disk : Disk) (now : Nat) :
    Traced digest (opened workspace disk now) where
  desk := ⟨fun _ hsome => (by cases hsome), fun _ _ _ hmem => absurd hmem List.not_mem_nil⟩
  calls _ hmem := absurd hmem List.not_mem_nil

theorem traced_reachable (hdigest : Function.Injective digest) {disk : Disk} {now : Nat}
    (h : Reachable (step digest pid) (opened workspace disk now) s) : Traced digest s :=
  h.invariant (traced_opened workspace disk now) fun _ input hs => hs.step hdigest input

end

/-! ## How often a token is used -/

theorem toList_number (n : Nat) : (toString n).toList = Codes.decimal n := Nat.toList_repr

theorem actionToken_inj {nowMs nowMs' m n : Nat}
    (h : actionToken pid nowMs m = actionToken pid nowMs' n) : m = n := by
  have hlist := congrArg String.toList h
  simp only [actionToken, String.toList_append, toList_number, List.append_assoc] at hlist
  have hdash : ∀ n, '-' ∉ decimal n := fun _ => not_mem_decimal (by decide)
  have hcut : ∀ nowMs sequence, decimal pid ++ ("-".toList ++ (decimal nowMs
      ++ ("-".toList ++ decimal sequence)))
        = (decimal pid ++ '-' :: decimal nowMs) ++ '-' :: decimal sequence := by
    intro nowMs sequence
    rw [List.append_assoc]
    rfl
  rw [hcut, hcut] at hlist
  exact decimal_injective (terminated_inj_last (hdash m) (hdash n) hlist).2

def Call.launches (token : String) : Call φ → Bool
  | .launching _ prepared => prepared.token == token
  | _ => false

def Event.starts (token : String) : Event → Bool
  | .started other _ _ => other == token
  | _ => false

def Inner.holds (inner : Inner φ) (token : String) : Bool :=
  inner.prepared.any fun prepared => prepared.token == token

/-- The uses a token has and may yet have, when so many threads are to launch its write. -/
def Desk.uses (desk : Desk φ) (token : String) (launches : Nat) : Nat :=
  (desk.inner.holds token).toNat + launches + desk.log.countP (Event.starts token)

/-- A token has one use at most, and only after it has been given out. -/
structure Single (pid : Nat) (desk : Desk φ) (token : String) (launches : Nat) : Prop where
  once : desk.uses token launches ≤ 1
  issued : 0 < desk.uses token launches →
    ∃ nowMs sequence, sequence ≤ desk.inner.sequence ∧ token = actionToken pid nowMs sequence

def SingleUse (pid : Nat) (s : Session φ) : Prop :=
  ∀ token, Single pid s.shared token (s.threads.countP (Call.launches token))

theorem Single.of_le {desk later : Desk φ} {token : String} {launches launches' : Nat}
    (h : Single pid desk token launches)
    (huses : later.uses token launches' ≤ desk.uses token launches)
    (hsequence : desk.inner.sequence ≤ later.inner.sequence) :
    Single pid later token launches' where
  once := Nat.le_trans huses h.once
  issued hpos := by
    obtain ⟨nowMs, sequence, hle, htoken⟩ := h.issued (Nat.lt_of_lt_of_le hpos huses)
    exact ⟨nowMs, sequence, Nat.le_trans hle hsequence, htoken⟩

theorem singleUse_opened (workspace : WorkspaceProfile) (disk : Disk) (now : Nat) :
    SingleUse pid (opened workspace disk now : Session φ) :=
  fun _ => ⟨Nat.zero_le _, fun hpos => absurd hpos (Nat.lt_irrefl 0)⟩

/-- The uses after a step, with those of the other threads. -/
def Single.After (pid : Nat) (token : String) (move : Threads.Move (Desk φ) (Call φ))
    (others : Nat) : Prop :=
  Single pid move.shared token
    (others + (move.next.launches token).toNat + move.started.countP (Call.launches token))

section

variable {desk : Desk φ} {answer : Answer} {request : Request} {token : String} {others : Nat}

theorem countP_starts_concat {log : List Event} :
    (log ++ [event]).countP (Event.starts token)
      = log.countP (Event.starts token) + (event.starts token).toNat := by
  rw [List.countP_append, List.countP_singleton]
  cases event.starts token <;> rfl

theorem Single.note (h : Single pid desk token others) (hevent : event.starts token = false)
    (hsequence : inner.sequence = desk.inner.sequence)
    (hholds : (inner.holds token).toNat ≤ (desk.inner.holds token).toNat) :
    Single pid (({ desk with inner } : Desk φ).note event) token others := by
  refine h.of_le ?_ (Nat.le_of_eq hsequence.symm)
  show (inner.holds token).toNat + others + (desk.log ++ [event]).countP (Event.starts token)
    ≤ (desk.inner.holds token).toNat + others + desk.log.countP (Event.starts token)
  rw [countP_starts_concat, hevent, Bool.toNat_false]
  omega

theorem Single.leave (h : Single pid desk token others)
    (hsequence : inner.sequence = desk.inner.sequence)
    (hholds : (inner.holds token).toNat ≤ (desk.inner.holds token).toNat) :
    Single pid ({ desk with inner } : Desk φ) token others := by
  refine h.of_le ?_ (Nat.le_of_eq hsequence.symm)
  show (inner.holds token).toNat + others + desk.log.countP (Event.starts token)
    ≤ (desk.inner.holds token).toNat + others + desk.log.countP (Event.starts token)
  omega

theorem Single.enter (h : Single pid desk token others) :
    Single.After pid token (App.enter desk request) others := by
  unfold App.enter
  split
  · exact h
  · exact h.note rfl rfl (Nat.zero_le _)

theorem Single.close {preparation : Except String (φ × CommandSummary)}
    (h : Single pid desk token others) :
    Single.After pid token (App.close pid desk answer request preparation) others := by
  cases preparation with
  | error error => exact h.leave rfl (Nat.le_refl _)
  | ok preparation =>
      let given := actionToken pid answer.nowMs (desk.inner.sequence + 1)
      by_cases htoken : token = given
      · -- the number of the new token is larger than that of any token in use
        have hunused : desk.uses token others = 0 := by
          by_contra hused
          obtain ⟨nowMs, sequence, hle, hissued⟩ := h.issued (Nat.pos_of_ne_zero hused)
          have hnumber : sequence = desk.inner.sequence + 1 :=
            actionToken_inj (hissued.symm.trans htoken)
          omega
        have hnow : Desk.uses (App.close pid desk answer request (.ok preparation)).shared token
            others ≤ 1 := by
          have hholds : ((App.close pid desk answer request (.ok preparation)).shared.inner.holds
              token).toNat ≤ 1 := Bool.toNat_le _
          have hlog : (App.close pid desk answer request (.ok preparation)).shared.log.countP
              (Event.starts token) = desk.log.countP (Event.starts token) := countP_starts_concat
          unfold Desk.uses at hunused ⊢
          rw [hlog]
          omega
        exact ⟨hnow, fun _ => ⟨answer.nowMs, desk.inner.sequence + 1, Nat.le_refl _, htoken⟩⟩
      · have hother : (given == token) = false := beq_false_of_ne (Ne.symm htoken)
        refine h.of_le ?_ (Nat.le_succ _)
        show (given == token).toNat + others + (desk.log ++ [_]).countP (Event.starts token)
          ≤ (desk.inner.holds token).toNat + others + desk.log.countP (Event.starts token)
        rw [hother, countP_starts_concat]
        show 0 + others + (_ + 0) ≤ _
        omega

theorem Single.confirm [DecidableEq φ] {presented : String} (h : Single pid desk token others) :
    Single.After pid token (App.confirm digest desk presented workspace) others := by
  unfold App.confirm
  rcases takePrepared_cases digest desk.disk desk.now desk.inner workspace presented with
    ⟨prepared, htaken, heq⟩ | ⟨error, heq⟩ | ⟨-, heq⟩
  · rw [heq]
    refine h.of_le ?_ (Nat.le_refl _)
    have hholds : desk.inner.holds token = (prepared.token == token) := by
      rw [Inner.holds, htaken.isPrepared]
      rfl
    show 0 + (others + 0 + [Call.launching workspace prepared].countP (Call.launches token))
        + (desk.log ++ [_]).countP (Event.starts token)
      ≤ (desk.inner.holds token).toNat + others + desk.log.countP (Event.starts token)
    rw [hholds, List.countP_singleton, countP_starts_concat]
    show 0 + (others + 0 + if (prepared.token == token) = true then 1 else 0) + (_ + 0) ≤ _
    cases prepared.token == token with
    | true => simp only [if_true, Bool.toNat_true]; omega
    | false => simp only [Bool.false_eq_true, if_false, Bool.toNat_false]; omega
  · rw [heq]
    exact h.leave rfl (Nat.zero_le _)
  · rw [heq]
    exact h

theorem Single.launch {prepared : PreparedAction φ} (h : Single pid desk token
      (others + ((Call.launching workspace prepared).launches token).toNat)) :
    Single.After pid token (App.launch desk answer workspace prepared) others := by
  unfold App.launch
  split
  · refine h.of_le ?_ (Nat.le_refl _)
    show (desk.inner.holds token).toNat + (others + 0 + 0)
        + (desk.log ++ [_]).countP (Event.starts token)
      ≤ (desk.inner.holds token).toNat + (others + (prepared.token == token).toNat)
        + desk.log.countP (Event.starts token)
    rw [countP_starts_concat]
    show _ + (_ + (prepared.token == token).toNat) ≤ _
    omega
  · refine h.of_le ?_ (Nat.le_refl _)
    show (desk.inner.holds token).toNat + (others + 0 + 0)
        + desk.log.countP (Event.starts token)
      ≤ (desk.inner.holds token).toNat + (others + (prepared.token == token).toNat)
        + desk.log.countP (Event.starts token)
    omega

theorem Single.act [DecidableEq φ]
    (h : Single pid desk token (others + (call.launches token).toNat)) :
    Single.After pid token (App.act digest pid answer desk call) others := by
  cases call with
  | entering request => exact Single.enter h
  | checking request =>
      show Single.After pid token (App.check desk answer request) others
      unfold App.check
      split
      · exact h
      · exact h.note rfl rfl (Nat.le_refl _)
  | fingerprinting request =>
      show Single.After pid token (App.fingerprint digest desk request) others
      unfold App.fingerprint
      split
      · exact h
      · exact h.note rfl rfl (Nat.le_refl _)
  | dryRunning request fingerprint =>
      show Single.After pid token (App.dryRun desk answer request fingerprint) others
      unfold App.dryRun
      split
      · exact h.note rfl rfl (Nat.le_refl _)
      · exact h
  | closing request preparation => exact Single.close h
  | confirming presented workspace => exact Single.confirm h
  | launching workspace prepared => exact Single.launch h
  | writing => exact h.leave rfl (Nat.le_refl _)
  | prepareReturned result => exact h
  | executeReturned result => exact h
  | ended => exact h

end

theorem Single.put {desk : Desk φ} (h : SingleUse pid s) (hinner : desk.inner = s.shared.inner)
    (hlog : desk.log = s.shared.log) :
    SingleUse pid (s.put desk) := by
  intro token
  refine (h token).of_le ?_ (Nat.le_of_eq (congrArg Inner.sequence hinner.symm))
  rw [Threads.shared_put, Desk.uses, Desk.uses, hinner, hlog]
  exact Nat.le_refl _

section

variable [DecidableEq φ]

theorem SingleUse.step (h : SingleUse pid s) (input : Input) :
    SingleUse pid (step digest pid s input) := by
  cases input with
  | prepare issue action =>
      intro token
      have hidle : (beginPrepare s issue action).launches token = false := by
        unfold beginPrepare
        split
        · rfl
        · rfl
      rw [App.step, Threads.countP_start, hidle]
      exact h token
  | execute presented =>
      intro token
      rw [App.step, Threads.countP_start]
      exact h token
  | goOn call answer =>
      cases hcall : s.threads[call]? with
      | none =>
          rw [App.step, Threads.advance_none hcall]
          exact h
      | some t =>
          intro token
          obtain ⟨others, hbefore, hafter⟩ := @Threads.exists_countP_advance _ _
            (act digest pid answer) s call t (Call.launches token) hcall
          have hsingle := h token
          rw [hbefore] at hsingle
          have hmoved := @Single.act _ digest pid t _ answer token others _ hsingle
          rw [App.step, hafter, Threads.advance_some hcall]
          exact hmoved
  | switch workspace => exact Single.put h rfl rfl
  | edit disk => exact Single.put h rfl rfl
  | tick elapsed => exact Single.put h rfl rfl

theorem singleUse_reachable {disk : Disk} {now : Nat}
    (h : Reachable (step digest pid) (opened workspace disk now) s) :
    SingleUse pid s :=
  h.invariant (singleUse_opened workspace disk now) fun _ input hs => SingleUse.step hs input

end

/-! ## The protocol -/

/-- A call that has come back with an error. -/
def Call.failed : Call φ → Bool
  | .prepareReturned (.error _) | .executeReturned (.error _) => true
  | _ => false

theorem prepared_eq_none_of_failed [DecidableEq φ] {desk : Desk φ} {answer : Answer}
    (h : Locked desk.inner (p + call.isPreparing.toNat) (w + call.isWriting.toNat))
    (hopen : call.failed = false) (hfailed : (act digest pid answer desk call).next.failed = true) :
    (act digest pid answer desk call).shared.inner.prepared = none := by
  cases call with
  | entering request =>
      replace hfailed : (enter desk request).next.failed = true := hfailed
      show (enter desk request).shared.inner.prepared = none
      unfold enter at hfailed ⊢
      split at hfailed
      · next hbusy =>
        rw [if_pos hbusy]
        exact h.idle_of_busy hbusy
      · cases hfailed
  | checking request =>
      replace hfailed : (check desk answer request).next.failed = true := hfailed
      unfold check at hfailed
      split at hfailed <;> cases hfailed
  | fingerprinting request =>
      replace hfailed : (fingerprint digest desk request).next.failed = true := hfailed
      unfold fingerprint at hfailed
      split at hfailed <;> cases hfailed
  | dryRunning request fingerprint =>
      replace hfailed : (dryRun desk answer request fingerprint).next.failed = true := hfailed
      unfold dryRun at hfailed
      split at hfailed <;> cases hfailed
  | closing request preparation =>
      cases preparation with
      | error error =>
          refine h.idle ?_
          have hcount := h.preparing
          cases hpreparing : desk.inner.preparing with
          | true => rfl
          | false =>
              rw [hpreparing] at hcount
              cases hcount
      | ok preparation => cases hfailed
  | confirming token workspace =>
      replace hfailed : (confirm digest desk token workspace).next.failed = true := hfailed
      show (confirm digest desk token workspace).shared.inner.prepared = none
      unfold confirm at hfailed ⊢
      rcases takePrepared_cases digest desk.disk desk.now desk.inner workspace token with
        ⟨prepared, -, heq⟩ | ⟨error, heq⟩ | ⟨hbusy, heq⟩
      · rw [heq] at hfailed
        cases hfailed
      · rw [heq]
      · rw [heq]
        exact h.idle_of_busy hbusy
  | launching workspace prepared =>
      replace hfailed : (launch desk answer workspace prepared).next.failed = true := hfailed
      unfold launch at hfailed
      split at hfailed <;> cases hfailed
  | writing => cases hfailed
  | prepareReturned result => exact absurd (hopen.symm.trans hfailed) Bool.false_ne_true
  | executeReturned result => exact absurd (hopen.symm.trans hfailed) Bool.false_ne_true
  | ended => cases hfailed

/-- A write is the one of a preparation that has been checked and tried, whose token has
been presented in time with workspace and files unchanged; a token starts one write, writes
and preparations exclude one another, and a call under way that fails leaves nothing
prepared. -/
structure TwoPhase [DecidableEq φ] (digest : ConfigurationFiles → φ) (pid : Nat)
    (s : Session φ) : Prop where
  started : ∀ token workspace args, .started token workspace args ∈ s.shared.log →
    StartedFrom s.shared.log token workspace args
  once : ∀ token, s.shared.log.countP (Event.starts token) ≤ 1
  alone : s.threads.countP Call.isWriting + s.threads.countP Call.isPreparing ≤ 1
  nothingLeft : ∀ call answer t, s.threads[call]? = some t → t.failed = false →
    ((act digest pid answer s.shared t).next).failed = true →
    (step digest pid s (.goOn call answer)).shared.inner.prepared = none

/-- Every order of calls, switches and edits keeps to the two phases. -/
theorem review_actions_two_phase [DecidableEq φ] (hdigest : Function.Injective digest)
    {workspace : WorkspaceProfile} {disk : Disk} {now : Nat} {s : Session φ}
    (h : Reachable (step digest pid) (opened workspace disk now) s) : TwoPhase digest pid s where
  started := (traced_reachable hdigest h).desk.writes
  once token := by
    have honce := (singleUse_reachable h token).once
    unfold Desk.uses at honce
    omega
  alone := by
    obtain ⟨hpreparing, hwriting, hexclusive, -⟩ := exclusive_reachable h
    rw [hpreparing, hwriting]
    cases hp : s.shared.inner.preparing with
    | false =>
        rw [Bool.toNat_false, Nat.add_zero]
        exact Bool.toNat_le _
    | true =>
        rw [hp, Bool.true_and] at hexclusive
        rw [hexclusive]
        exact Nat.le_refl 1
  nothingLeft call answer t hcall hopen hfailed := by
    obtain ⟨p, hp, -⟩ := @Threads.exists_countP_advance _ _ (act digest pid answer) s call t
      Call.isPreparing hcall
    obtain ⟨w, hw, -⟩ := @Threads.exists_countP_advance _ _ (act digest pid answer) s call t
      Call.isWriting hcall
    have hlocked := exclusive_reachable h
    rw [Exclusive, hp, hw] at hlocked
    rw [step, Threads.advance_some hcall]
    exact prepared_eq_none_of_failed hlocked hopen hfailed

/-! ## Outside of the lock -/

def deskProfile : WorkspaceProfile where
  engineRoot := "/app"
  targetRoot := "/work"
  workflowPath := "flow.md"
  cliPath := none
  source := "self"
  error := none

/-- All files hold the same. -/
def uniformDisk (bytes : List UInt8) : Disk where
  runtimeProfilePath _ := .ok "/work/profile.toml"
  read _ := .ok bytes

def agreeable : Answer where
  readiness := .ok ()
  starts := true
  summary := { ok := true, stderr := "" }
  nowMs := 0

/-- The calls of one preparation, the first call of all. -/
def preparation : List Input :=
  .prepare "5" .once :: List.replicate 5 (.goOn 0 agreeable)

def atDesk (inputs : List Input) : Session ConfigurationFiles :=
  run (step id 1) (opened deskProfile (uniformDisk []) 0) inputs

theorem two_phase_confirmed :
    TwoPhase id 1 (atDesk (preparation
      ++ [.execute "1-0-1", .goOn 1 agreeable, .goOn 2 agreeable])) :=
  review_actions_two_phase Function.injective_id ⟨_, rfl⟩

/-- A call for something that is no issue fails and leaves what was prepared; and between the
presentation of a token and the start of its write the files may change. -/
theorem outside_of_the_lock :
    (∃ s : Session ConfigurationFiles, s = atDesk (preparation ++ [.prepare "abc" .once])
      ∧ (s.threads[1]?.any Call.failed) = true ∧ s.shared.inner.prepared.isSome = true)
    ∧ ∃ s : Session ConfigurationFiles, s = atDesk (preparation
        ++ [.execute "1-0-1", .goOn 1 agreeable, .edit (uniformDisk [1]), .goOn 2 agreeable])
      ∧ s.shared.log.countP (Event.starts "1-0-1") = 1
      ∧ (match configurationFiles s.shared.disk deskProfile,
            configurationFiles (uniformDisk []) deskProfile with
          | .ok current, .ok prepared => current != prepared
          | _, _ => false) = true :=
  ⟨⟨_, rfl, by decide, by decide⟩,
    ⟨_, rfl, by decide, by decide⟩⟩

end SheaSymphony.App

import SheaSymphony.OverviewStore

/-!
# The overview settles

A sign of activity on the page is backed by the threads whose ends take it down: the reads
of the newest generation, and the overview reads that have not come back. Every request
leaves it so. An overview read that comes back and finds background reads in flight, or
fails, need not: it may raise a sign, or leave one up, with nothing under way that would
take it down.
-/

namespace SheaSymphony.App.Overviews

open Runs Threads

/-! ## What is under way -/

/-- The surfaces the background reads of a generation have ahead of them. -/
def Task.left (generation : Nat) : Task → Nat
  | .background generation' _ _ names => if generation' = generation then names.length else 0
  | .doctor generation' _ | .doctorEnd generation' _ => if generation' = generation then 1 else 0
  | _ => 0

def Task.overviews : Task → Nat
  | .overview .. => 1
  | _ => 0

def Task.slow : Task → Nat
  | .overview includeSlowReads _ _ _ => includeSlowReads.toNat
  | _ => 0

/-- The overview reads that publish what becomes of them, or start reads that do. -/
def Task.heading : Task → Nat
  | .overview includeSlowReads publishStatus _ _ => (includeSlowReads || publishStatus).toNat
  | _ => 0

/-- Reads of local surfaces, of a generation and with or without the published status. -/
def Task.locals (publishing : Bool) (generation : Nat) : Task → Nat
  | .local generation' publishStatus _ | .localEnd generation' publishStatus _ =>
      if generation' = generation ∧ publishStatus = publishing then 1 else 0
  | _ => 0

/-- Whether something still has to come back: the end of the background reads shows
nothing. -/
def Task.outstanding : Task → Bool
  | .clearing | .done => false
  | _ => true

def Quiet (s : Session) : Prop := ∀ t ∈ s.threads, t.outstanding = false

instance (s : Session) : Decidable (Quiet s) :=
  inferInstanceAs (Decidable (∀ t ∈ s.threads, t.outstanding = false))

structure Settled (page : Page) : Prop where
  loading : page.overview.loading = false
  fullLoading : page.overview.fullLoading = false
  backgroundRefreshing : page.overview.backgroundRefreshing = false
  slowReadsRemaining : page.overview.slowReadsRemaining = 0
  localArtifactsRefresh : page.overview.localArtifactsRefresh.running = false
  refreshStatus : page.refreshStatus.running = false

/-- What the threads weigh together, for each way to weigh one. -/
abbrev Tally := (Task → Nat) → Nat

def Page.left (page : Page) (n : Tally) : Nat := n (Task.left page.readGeneration)

def Page.locals (page : Page) (publishing : Bool) (n : Tally) : Nat :=
  n (Task.locals publishing page.localArtifactsGeneration)

structure Backed (page : Page) (n : Tally) : Prop where
  slowReads : page.overview.slowReadsRemaining ≤ page.left n
  fullLoading : page.overview.fullLoading = true → 0 < page.left n + n Task.slow
  refreshing : page.overview.backgroundRefreshing = true → 0 < page.left n + n Task.overviews
  status : page.refreshStatus.running = true →
    0 < page.left n + n Task.heading + page.locals true n
  localReads : page.overview.localArtifactsRefresh.remaining
    ≤ page.locals true n + page.locals false n
  localRefresh : page.overview.localArtifactsRefresh.running = true →
    0 < page.locals true n + page.locals false n
  uniform : page.locals true n = 0 ∨ page.locals false n = 0

/-- The signs an overview read may leave up are backed without it. -/
structure Continues (page : Page) (n : Tally) (includeSlowReads publishStatus loaded : Bool) :
    Prop where
  fullLoading : includeSlowReads = true → (loaded || page.overview.fullLoading) = true →
    0 < page.left n + n Task.slow
  refreshing : page.backgroundReadsInFlight = true →
    (loaded && includeSlowReads || page.overview.backgroundRefreshing) = true →
    0 < page.left n + n Task.overviews
  status : includeSlowReads = true →
    (if publishStatus then loaded else page.refreshStatus.running) = true →
    0 < page.left n + n Task.heading + page.locals true n

/-- The background reads start anew. -/
def startsReads (page : Page) (includeSlowReads loaded : Bool) : Bool :=
  loaded && includeSlowReads && !page.backgroundReadsInFlight

/-- Nothing is left up that has lost its backing: by an overview read that comes back, and
by a request for the local surfaces that takes over from one that was published. -/
def Guard (s : Session) : Input → Prop
  | .settle i result =>
      match s.threads[i]? with
      | some (.overview includeSlowReads publishStatus _ _) =>
          startsReads s.shared includeSlowReads result.isOk = true ∨
          Continues s.shared (fun f => total f (s.threads.eraseIdx i)) includeSlowReads
            publishStatus result.isOk
      | _ => True
  | .localArtifacts _ false =>
      s.shared.refreshStatus.running = true →
        0 < s.shared.left (fun f => total f s.threads)
          + total Task.heading s.threads
  | _ => True

/-! ## Backing, page by page -/

variable {page : Page} {n m : Tally}

theorem Backed.more (h : Backed page n) (hleft : page.left n ≤ page.left m)
    (hslow : n Task.slow ≤ m Task.slow) (hoverviews : n Task.overviews ≤ m Task.overviews)
    (hheading : n Task.heading ≤ m Task.heading)
    (hlocals : ∀ publishing, page.locals publishing m = page.locals publishing n) :
    Backed page m where
  slowReads := h.slowReads.trans hleft
  fullLoading hup := by
    have := h.fullLoading hup
    omega
  refreshing hup := by
    have := h.refreshing hup
    omega
  status hup := by
    have := h.status hup
    have := hlocals true
    omega
  localReads := by
    rw [hlocals, hlocals]
    exact h.localReads
  localRefresh := by
    rw [hlocals, hlocals]
    exact h.localRefresh
  uniform := by
    rw [hlocals, hlocals]
    exact h.uniform

variable {result : Except String Surface} {names : List String} {text : String} {s : Session}

/-- A surface of the newest generation has been read or skipped: the signs stay up as long
as surfaces remain. -/
theorem Backed.finish {generation : Nat} {publishStatus : Bool} {source : Option String}
    (h : Backed page n) (hcurrent : generation = page.readGeneration)
    (hleft : page.left n ≤ page.left m + 1)
    (hlocals : ∀ publishing, page.locals publishing m = page.locals publishing n) :
    Backed (finishBackgroundSurface page generation publishStatus source text) m := by
  have hreads := h.slowReads
  have hremain : page.overview.slowReadsRemaining - 1 ≤ page.left m := by omega
  have hup : decide (0 < page.overview.slowReadsRemaining - 1) = true → 0 < page.left m := by
    intro hpos
    exact (of_decide_eq_true hpos).trans_le hremain
  have hlocalReads := h.localReads
  have hlocalRefresh := h.localRefresh
  have huniform := h.uniform
  rw [← hlocals, ← hlocals] at hlocalReads hlocalRefresh huniform
  unfold finishBackgroundSurface
  rw [if_neg (not_not.mpr hcurrent)]
  dsimp only
  split
  · exact {
      slowReads := hremain
      fullLoading := fun hpos => Nat.add_pos_left (hup hpos) _
      refreshing := fun hpos => Nat.add_pos_left (hup hpos) _
      status := fun hpos => Nat.add_pos_left (Nat.add_pos_left (hup hpos) _) _
      localReads := hlocalReads
      localRefresh := hlocalRefresh
      uniform := huniform }
  · next hsilent =>
    simp only [Bool.or_eq_true, not_or, Bool.not_eq_true] at hsilent
    exact {
      slowReads := hremain
      fullLoading := fun hpos => Nat.add_pos_left (hup hpos) _
      refreshing := fun hpos => Nat.add_pos_left (hup hpos) _
      status := fun hpos => absurd (hsilent.2.symm.trans hpos) Bool.false_ne_true
      localReads := hlocalReads
      localRefresh := hlocalRefresh
      uniform := huniform }

theorem finishBackgroundSurface_stale {generation : Nat} {publishStatus : Bool}
    {source : Option String} (h : generation ≠ page.readGeneration) :
    finishBackgroundSurface page generation publishStatus source text = page := by
  rw [finishBackgroundSurface, if_pos h]

theorem finishBackgroundSurface_generation {generation : Nat} {publishStatus : Bool}
    {source : Option String} :
    (finishBackgroundSurface page generation publishStatus source text).readGeneration
      = page.readGeneration := by
  unfold finishBackgroundSurface
  dsimp only
  split
  · rfl
  · split <;> rfl

theorem Backed.absorb {generation : Nat} (h : Backed page n) :
    Backed (Overviews.absorb page generation result) n := by
  unfold Overviews.absorb
  split
  · exact h
  · cases result with
    | error message => exact ⟨h.1, h.2, h.3, h.4, h.5, h.6, h.7⟩
    | ok surface => exact ⟨h.1, h.2, h.3, h.4, h.5, h.6, h.7⟩

/-! ## The background reads -/

section Background

variable {generation : Nat} {publishStatus : Bool} {source : String}

@[simp] theorem backgroundTask_left (names : List String) :
    (backgroundTask generation publishStatus source names).left generation = names.length := by
  cases names with
  | nil => rfl
  | cons name names => exact if_pos rfl

@[simp] theorem backgroundTask_locals (publishing : Bool) (generation' : Nat)
    (names : List String) :
    (backgroundTask generation publishStatus source names).locals publishing generation' = 0 := by
  cases names <;> rfl

theorem Backed.run (hcurrent : generation = page.readGeneration)
    (h : Backed page (fun f => n f + f (.background generation publishStatus source names))) :
    Backed (runBackgroundReads generation publishStatus source page names).1
      (fun f => n f + f (backgroundTask generation publishStatus source
        (runBackgroundReads generation publishStatus source page names).2)) := by
  induction names generalizing page with
  | nil =>
      refine h.more ?_ le_rfl le_rfl le_rfl fun _ => rfl
      exact Nat.add_le_add_left (le_of_eq (if_pos hcurrent)) _
  | cons name names ih =>
      unfold runBackgroundReads
      rw [if_neg (not_not.mpr hcurrent)]
      split
      · have hnext : (finishSkippedBackgroundSurface page generation source publishStatus).readGeneration
            = page.readGeneration := finishBackgroundSurface_generation
        refine ih (hcurrent.trans hnext.symm) (h.finish hcurrent ?_ fun _ => rfl)
        show n _ + ite _ (names.length + 1) _ ≤ n _ + ite _ names.length _ + 1
        rw [if_pos hcurrent, if_pos hcurrent]
        exact le_rfl
      · exact h

theorem backgroundRead_stale (hstale : generation ≠ page.readGeneration) :
    backgroundRead page generation publishStatus source names result
      = { shared := page, next := .clearing } := by
  unfold backgroundRead absorb finishLoadedBackgroundSurface
  rw [if_pos hstale, finishBackgroundSurface_stale hstale, decide_eq_true hstale]
  rfl

theorem absorb_generation :
    (absorb page generation result).readGeneration = page.readGeneration := by
  unfold absorb
  split
  · rfl
  · cases result <;> rfl

theorem Backed.backgroundRead
    (h : Backed page (fun f => n f + f (.background generation publishStatus source names))) :
    Backed (Overviews.backgroundRead page generation publishStatus source names result).shared
      (fun f => n f
        + f (Overviews.backgroundRead page generation publishStatus source names result).next) := by
  by_cases hnewest : generation = page.readGeneration
  · have habsorbed : Backed (Overviews.absorb page generation result) _ := h.absorb
    have hcurrent : generation = (Overviews.absorb page generation result).readGeneration :=
      hnewest.trans absorb_generation.symm
    have hfinished :
        Backed (finishLoadedBackgroundSurface (Overviews.absorb page generation result) generation
            publishStatus)
          (fun f => n f + f (.background generation publishStatus source names.tail)) := by
      refine habsorbed.finish hcurrent ?_ fun _ => rfl
      show n _ + ite _ names.length _ ≤ n _ + ite _ names.tail.length _ + 1
      rw [if_pos hcurrent, if_pos hcurrent, List.length_tail]
      omega
    have hnext := hfinished.run (hcurrent.trans finishBackgroundSurface_generation.symm)
    unfold Overviews.backgroundRead
    rw [decide_eq_false (not_not.mpr hnewest)]
    exact hnext
  · rw [backgroundRead_stale hnewest]
    refine h.more ?_ le_rfl le_rfl le_rfl fun _ => rfl
    exact Nat.add_le_add_left (le_of_eq (if_neg hnewest)) _

end Background

/-! ## The reads of the doctor and of the local surfaces -/

section Surfaces

variable {generation : Nat} {publishStatus : Bool} {source : String}

theorem Backed.doctorEnd (h : Backed page (fun f => n f + f (.doctorEnd generation publishStatus))) :
    Backed (finishLoadedBackgroundSurface page generation publishStatus)
      (fun f => n f + f .done) := by
  by_cases hnewest : generation = page.readGeneration
  · refine h.finish hnewest ?_ fun _ => rfl
    show n _ + ite _ 1 0 ≤ n _ + 0 + 1
    rw [if_pos hnewest]
  · rw [finishLoadedBackgroundSurface, finishBackgroundSurface_stale hnewest]
    refine h.more ?_ le_rfl le_rfl le_rfl fun _ => rfl
    exact Nat.add_le_add_left (le_of_eq (if_neg hnewest)) _

theorem Backed.localRead
    (h : Backed page (fun f => n f + f (.local generation publishStatus source))) :
    Backed (Overviews.localRead page generation source result)
      (fun f => n f + f (.localEnd generation publishStatus source)) := by
  have hsame : Backed page (fun f => n f + f (.localEnd generation publishStatus source)) :=
    h.more le_rfl le_rfl le_rfl le_rfl fun _ => rfl
  unfold Overviews.localRead
  split
  · exact hsame
  · cases result with
    | ok surface => exact ⟨hsame.1, hsame.2, hsame.3, hsame.4, hsame.5, hsame.6, hsame.7⟩
    | error message =>
        exact ⟨hsame.1, hsame.2, hsame.3, hsame.4, hsame.5,
          nofun, hsame.7⟩

theorem Backed.localEnd
    (h : Backed page (fun f => n f + f (.localEnd generation publishStatus source))) :
    Backed (Overviews.localEnd page generation publishStatus source) (fun f => n f + f .done) := by
  unfold Overviews.localEnd
  by_cases hnewest : generation = page.localArtifactsGeneration
  · rw [if_neg (not_not.mpr hnewest)]
    have hown : ∀ publishing, page.locals publishing
        (fun f => n f + f (.localEnd generation publishStatus source))
          = page.locals publishing n + if publishStatus = publishing then 1 else 0 := by
      intro publishing
      simp only [Page.locals, Task.locals, hnewest, true_and]
    have hreads := h.localReads
    have huniform := h.uniform
    have hstatus := h.status
    rw [hown, hown] at hreads huniform
    rw [hown] at hstatus
    cases publishStatus with
    | true =>
        simp only [if_true, Bool.true_eq_false, if_false] at hreads huniform
        have hsilent : page.locals false n = 0 := by omega
        have hremain : page.overview.localArtifactsRefresh.remaining - 1 ≤ page.locals true n := by
          omega
        exact {
          slowReads := h.slowReads
          fullLoading := h.fullLoading
          refreshing := h.refreshing
          status := fun hup =>
            Nat.add_pos_right _ ((of_decide_eq_true hup).trans_le hremain)
          localReads := hremain.trans (Nat.le_add_right _ _)
          localRefresh := fun hup =>
            Nat.add_pos_left ((of_decide_eq_true hup).trans_le hremain) _
          uniform := Or.inr hsilent }
    | false =>
        simp only [if_true, Bool.false_eq_true, if_false] at hreads huniform hstatus
        have hloud : page.locals true n = 0 := by omega
        have hremain : page.overview.localArtifactsRefresh.remaining - 1 ≤ page.locals false n := by
          omega
        exact {
          slowReads := h.slowReads
          fullLoading := h.fullLoading
          refreshing := h.refreshing
          status := hstatus
          localReads := hremain.trans (Nat.le_add_left _ _)
          localRefresh := fun hup =>
            Nat.add_pos_right _ ((of_decide_eq_true hup).trans_le hremain)
          uniform := Or.inl hloud }
  · rw [if_pos hnewest]
    refine h.more le_rfl le_rfl le_rfl le_rfl fun publishing => ?_
    have hother : (Task.localEnd generation publishStatus source).locals publishing
        page.localArtifactsGeneration = 0 := if_neg fun hand => hnewest hand.1
    show n _ + 0 = n _ + _
    rw [hother]

end Surfaces

/-! ## The overview reads -/

section OverviewReads

variable {includeSlowReads publishStatus : Bool} {source : String} {wasRenderable : Bool}

theorem Backed.started (h : Backed page m) (hflight : page.backgroundReadsInFlight = false)
    (hlocals : ∀ publishing, page.locals publishing n = page.locals publishing m) :
    (startOperatorBackgroundReads page source publishStatus).2.isEmpty = false ∧
    Backed (startOperatorBackgroundReads page source publishStatus).1
      (fun f => n f + total f (startOperatorBackgroundReads page source publishStatus).2) := by
  unfold startOperatorBackgroundReads
  rw [hflight]
  refine ⟨rfl, ?_⟩
  rw [if_neg Bool.false_ne_true]
  refine Backed.run (n := n) rfl ?_
  have hall : slowSurfaces.length ≤ n (Task.left (page.readGeneration + 1))
      + (Task.background (page.readGeneration + 1) publishStatus source slowSurfaces).left
        (page.readGeneration + 1) := by
    rw [Task.left, if_pos rfl]
    exact Nat.le_add_left _ _
  have hleft := Nat.lt_of_lt_of_le (by decide : 0 < slowSurfaces.length) hall
  have hlocalReads := h.localReads
  have hlocalRefresh := h.localRefresh
  have huniform := h.uniform
  rw [← hlocals, ← hlocals] at hlocalReads hlocalRefresh huniform
  exact {
    slowReads := hall
    fullLoading := fun _ => Nat.add_pos_left hleft _
    refreshing := fun _ => Nat.add_pos_left hleft _
    status := fun _ => Nat.add_pos_left (Nat.add_pos_left hleft _) _
    localReads := hlocalReads
    localRefresh := hlocalRefresh
    uniform := huniform }

theorem startOperatorBackgroundReads_inFlight (hflight : page.backgroundReadsInFlight = true) :
    startOperatorBackgroundReads page source publishStatus =
      ({ page with
          overview := { page.overview with backgroundRefreshing := true, fullLoading := true }
          refreshStatus :=
            if publishStatus then
              { running := true
                remaining := page.overview.slowReadsRemaining
                startedAt := some page.nowMs
                finishedAt := none
                source
                detail := "Background refresh already in progress" }
            else page.refreshStatus }, []) := by
  rw [startOperatorBackgroundReads, if_pos hflight]
  cases publishStatus <;> rfl

theorem ite_false_eq_true {a b : Bool} :
    (if a = true then b else false) = true ↔ a = true ∧ b = true := by
  cases a <;> simp

/-- What an overview read that has come back may leave up. -/
structure CameBack (page page' : Page) (includeSlowReads publishStatus loaded : Bool) :
    Prop where
  readGeneration : page'.readGeneration = page.readGeneration
  localArtifactsGeneration : page'.localArtifactsGeneration = page.localArtifactsGeneration
  slowReads : page'.overview.slowReadsRemaining = page.overview.slowReadsRemaining
  localRefresh :
    page'.overview.localArtifactsRefresh = page.overview.localArtifactsRefresh
  fullLoading : page'.overview.fullLoading = true →
    (includeSlowReads && loaded || page.overview.fullLoading) = true
  refreshing : page'.overview.backgroundRefreshing = true →
    page.backgroundReadsInFlight = true
      ∧ (loaded && includeSlowReads || page.overview.backgroundRefreshing) = true
  status : page'.refreshStatus.running = true →
    (if publishStatus then includeSlowReads && loaded else page.refreshStatus.running) = true

theorem Backed.cameBack {page' : Page} {loaded : Bool}
    (h : Backed page
      (fun f => n f + f (.overview includeSlowReads publishStatus source wasRenderable)))
    (hcontinues : Continues page n includeSlowReads publishStatus loaded)
    (hback : CameBack page page' includeSlowReads publishStatus loaded) : Backed page' n := by
  have hleft : page'.left n = page.left n := by
    rw [Page.left, Page.left, hback.readGeneration]
  have hlocals : ∀ publishing, page'.locals publishing n = page.locals publishing n := by
    intro publishing
    rw [Page.locals, Page.locals, hback.localArtifactsGeneration]
  refine ⟨?_, fun hup => ?_, fun hup => ?_, fun hup => ?_, ?_, ?_, ?_⟩
  · rw [hback.slowReads, hleft]
    exact h.slowReads
  · rw [hleft]
    have hfull := hback.fullLoading hup
    cases includeSlowReads with
    | true => exact hcontinues.fullLoading rfl hfull
    | false => exact h.fullLoading hfull
  · rw [hleft]
    obtain ⟨hflight, hrefreshing⟩ := hback.refreshing hup
    exact hcontinues.refreshing hflight hrefreshing
  · rw [hleft, hlocals]
    have hstatus := hback.status hup
    cases includeSlowReads with
    | true => exact hcontinues.status rfl hstatus
    | false =>
        cases publishStatus with
        | true => exact absurd hstatus Bool.false_ne_true
        | false => exact h.status hstatus
  · rw [hback.localRefresh, hlocals, hlocals]
    exact h.localReads
  · rw [hback.localRefresh, hlocals, hlocals]
    exact h.localRefresh
  · rw [hlocals, hlocals]
    exact h.uniform

theorem Backed.overviewRead (h : Backed page
      (fun f => n f + f (.overview includeSlowReads publishStatus source wasRenderable)))
    (hguard : startsReads page includeSlowReads result.isOk = true ∨
      Continues page n includeSlowReads publishStatus result.isOk) :
    Backed (Overviews.overviewRead page includeSlowReads publishStatus source wasRenderable
        result).shared
      (fun f => n f + f (Overviews.overviewRead page includeSlowReads publishStatus source
          wasRenderable result).next
        + total f (Overviews.overviewRead page includeSlowReads publishStatus source wasRenderable
          result).started) := by
  cases result with
  | error message =>
      have hcontinues := hguard.resolve_left Bool.false_ne_true
      have hback : CameBack page (Overviews.overviewRead page includeSlowReads publishStatus source
          wasRenderable (.error message)).shared includeSlowReads publishStatus false := by
        cases includeSlowReads <;> cases publishStatus <;>
          exact ⟨rfl, rfl, rfl, rfl, fun hup => hup, ite_false_eq_true.mp, fun hup => hup⟩
      exact (h.cameBack hcontinues hback).more le_rfl le_rfl le_rfl le_rfl fun _ => rfl
  | ok surface =>
      cases includeSlowReads with
      | false =>
          have hcontinues := hguard.resolve_left Bool.false_ne_true
          have hback : CameBack page (Overviews.overviewRead page false publishStatus source
              wasRenderable (.ok surface)).shared false publishStatus true := by
            cases publishStatus <;>
              exact ⟨rfl, rfl, rfl, rfl, fun hup => hup, ite_false_eq_true.mp, fun hup => hup⟩
          exact (h.cameBack hcontinues hback).more le_rfl le_rfl le_rfl le_rfl fun _ => rfl
      | true =>
          cases hflight : page.backgroundReadsInFlight with
          | true =>
              have hcontinues := hguard.resolve_left (by simp [startsReads, hflight])
              unfold Overviews.overviewRead
              dsimp only
              rw [if_pos rfl, startOperatorBackgroundReads_inFlight (by exact hflight)]
              refine (h.cameBack hcontinues ?_).more le_rfl le_rfl le_rfl le_rfl fun _ => rfl
              cases publishStatus <;>
                exact ⟨rfl, rfl, rfl, rfl, fun _ => rfl, fun hup =>
                  ⟨(ite_false_eq_true.mp hup).1, rfl⟩, fun hup => hup⟩
          | false =>
              have hread : Backed ((page.read surface).withOverview
                  { (page.read surface).overview with loading := false })
                  (fun f => n f + f (.overview true publishStatus source wasRenderable)) :=
                ⟨h.1, h.2, h.3, h.4, h.5, h.6, h.7⟩
              obtain ⟨hsome, hstarted⟩ :=
                @Backed.started _ n _ publishStatus source hread hflight fun _ => rfl
              unfold Overviews.overviewRead
              dsimp only
              rw [if_pos rfl]
              dsimp only
              rw [hsome]
              exact ⟨hstarted.1, hstarted.2, hstarted.3, hstarted.4, hstarted.5, hstarted.6,
                hstarted.7⟩

end OverviewReads

/-! ## Requests -/

/-- The local reads of a thread are of generations that have been. -/
def Past (page : Page) (t : Task) : Prop :=
  ∀ publishing generation, page.localArtifactsGeneration < generation →
    t.locals publishing generation = 0

structure Held (s : Session) : Prop where
  backed : Backed s.shared (fun f => total f s.threads)
  past : Every Past s

theorem held_opened (nowMs : Nat) : Held (opened nowMs) where
  backed := {
    slowReads := le_rfl
    fullLoading := nofun
    refreshing := nofun
    status := nofun
    localReads := le_rfl
    localRefresh := nofun
    uniform := Or.inl rfl }
  past := nofun

theorem Backed.requestOverview {includeSlowReads publishStatus : Bool} {source : String}
    (h : Backed page n) :
    Backed (requestOperatorOverviewRefresh page includeSlowReads source publishStatus).1
      (fun f => n f
        + total f (requestOperatorOverviewRefresh page includeSlowReads source publishStatus).2) := by
  have hfull : includeSlowReads = true → 0 < page.left n + (n Task.slow
      + total Task.slow [.overview includeSlowReads publishStatus source
        page.overview.renderable]) := by
    rintro rfl
    exact Nat.add_pos_right _ (Nat.succ_pos _)
  cases publishStatus with
  | true =>
      exact {
        slowReads := Nat.zero_le _
        fullLoading := hfull
        refreshing := fun _ => Nat.add_pos_right _ (Nat.succ_pos _)
        status := fun _ => by
          cases includeSlowReads <;> exact Nat.add_pos_left (Nat.succ_pos _) _
        localReads := h.localReads
        localRefresh := h.localRefresh
        uniform := h.uniform }
  | false =>
      exact {
        slowReads := Nat.zero_le _
        fullLoading := hfull
        refreshing := fun _ => Nat.add_pos_right _ (Nat.succ_pos _)
        status := fun hup => by
          refine Nat.lt_of_lt_of_le (h.status hup) ?_
          exact Nat.add_le_add_right (Nat.add_le_add_left (Nat.le_add_right _ _) _) _
        localReads := h.localReads
        localRefresh := h.localRefresh
        uniform := h.uniform }

theorem Backed.requestDoctor {publishStatus : Bool} {source : String} (h : Backed page n) :
    Backed (requestOperatorDoctorRefresh page source publishStatus).1
      (fun f => n f + total f (requestOperatorDoctorRefresh page source publishStatus).2) := by
  have hbegun : ∀ begun : Page, begun.readGeneration = page.readGeneration + 1 →
      begun.localArtifactsGeneration = page.localArtifactsGeneration →
      begun.overview.slowReadsRemaining = 1 →
      begun.overview.localArtifactsRefresh = page.overview.localArtifactsRefresh →
      Backed begun (fun f => n f + f (.doctor (page.readGeneration + 1) publishStatus)) := by
    intro begun hgeneration hlocalGeneration hremaining hlocalRefresh
    have hleft : 0 < begun.left
        (fun f => n f + f (.doctor (page.readGeneration + 1) publishStatus)) := by
      rw [Page.left, hgeneration]
      exact Nat.add_pos_right _ (lt_of_lt_of_eq Nat.one_pos (if_pos rfl).symm)
    have hlocals : ∀ publishing, begun.locals publishing
        (fun f => n f + f (.doctor (page.readGeneration + 1) publishStatus))
          = page.locals publishing n := by
      intro publishing
      rw [Page.locals, hlocalGeneration]
      rfl
    refine ⟨?_, fun _ => Nat.add_pos_left hleft _, fun _ => Nat.add_pos_left hleft _,
      fun _ => Nat.add_pos_left (Nat.add_pos_left hleft _) _, ?_, ?_, ?_⟩
    · rw [hremaining]
      exact hleft
    · rw [hlocalRefresh, hlocals, hlocals]
      exact h.localReads
    · rw [hlocalRefresh, hlocals, hlocals]
      exact h.localRefresh
    · rw [hlocals, hlocals]
      exact h.uniform
  show Backed (Prod.fst (ite (page.projectReadCooldownActive = true) _ _))
    (fun f => n f + total f (Prod.snd (ite (page.projectReadCooldownActive = true) _ _)))
  by_cases hpaused : page.projectReadCooldownActive = true
  · rw [if_pos hpaused]
    unfold finishSkippedBackgroundSurface
    refine Backed.finish (hbegun _ ?_ ?_ ?_ ?_) rfl ?_ fun _ => rfl
    · rfl
    · rfl
    · rfl
    · rfl
    · exact Nat.add_le_add_left (le_of_eq (if_pos rfl)) _
  · rw [if_neg hpaused]
    refine hbegun _ ?_ ?_ ?_ ?_ <;> rfl

/-- The local reads under way before are of the past; what was published of them is backed
by something else, or published anew. -/
theorem Backed.requestLocal {publishStatus : Bool} {source : String} (h : Backed page n)
    (hpast : ∀ publishing, n (Task.locals publishing (page.localArtifactsGeneration + 1)) = 0)
    (hguard : publishStatus = false → page.refreshStatus.running = true →
      0 < page.left n + n Task.heading) :
    Backed (requestOperatorLocalArtifactsRefresh page source publishStatus).1
      (fun f => n f
        + total f (requestOperatorLocalArtifactsRefresh page source publishStatus).2) := by
  have hown : ∀ publishing, n (Task.locals publishing (page.localArtifactsGeneration + 1))
      + total (Task.locals publishing (page.localArtifactsGeneration + 1))
        (requestOperatorLocalArtifactsRefresh page source publishStatus).2
        = if publishStatus = publishing then 2 else 0 := by
    intro publishing
    rw [hpast]
    show 0 + (ite _ 1 0 + (ite _ 1 0 + 0)) = _
    by_cases hsame : publishStatus = publishing
    · rw [if_pos ⟨rfl, hsame⟩, if_pos hsame]
      rfl
    · rw [if_neg fun hand => hsame hand.2, if_neg hsame]
      rfl
  cases publishStatus with
  | true =>
      have hloud := (hown true).trans (if_pos rfl)
      have hsilent := (hown false).trans (if_neg Bool.true_eq_false.mp)
      exact {
        slowReads := h.slowReads
        fullLoading := h.fullLoading
        refreshing := h.refreshing
        status := fun _ => Nat.add_pos_right _ (lt_of_lt_of_eq Nat.two_pos hloud.symm)
        localReads := Nat.le_add_right_of_le (le_of_eq hloud.symm)
        localRefresh := fun _ => Nat.add_pos_left (lt_of_lt_of_eq Nat.two_pos hloud.symm) _
        uniform := Or.inr hsilent }
  | false =>
      have hloud := (hown true).trans (if_neg Bool.false_ne_true)
      have hsilent := (hown false).trans (if_pos rfl)
      exact {
        slowReads := h.slowReads
        fullLoading := h.fullLoading
        refreshing := h.refreshing
        status := fun hup => Nat.add_pos_left (hguard rfl hup) _
        localReads := Nat.le_add_left_of_le (le_of_eq hsilent.symm)
        localRefresh := fun _ => Nat.add_pos_right _ (lt_of_lt_of_eq Nat.two_pos hsilent.symm)
        uniform := Or.inl hloud }

/-! ## What reads leave alone -/

/-- What the end of a read that is not one of the overview leaves alone. -/
structure Untouched (page page' : Page) : Prop where
  localArtifactsGeneration : page'.localArtifactsGeneration = page.localArtifactsGeneration
  loading : page'.overview.loading = page.overview.loading

theorem Untouched.refl (page : Page) : Untouched page page := ⟨rfl, rfl⟩

theorem Untouched.trans {page page' page'' : Page} (h : Untouched page page')
    (h' : Untouched page' page'') : Untouched page page'' :=
  ⟨h'.1.trans h.1, h'.2.trans h.2⟩

section Untouched

variable {generation : Nat} {publishStatus : Bool} {source : String}

theorem untouched_finish {skipped : Option String} :
    Untouched page (finishBackgroundSurface page generation publishStatus skipped text) := by
  unfold finishBackgroundSurface
  dsimp only
  split
  · exact ⟨rfl, rfl⟩
  · split <;> exact ⟨rfl, rfl⟩

theorem untouched_run (names : List String) :
    Untouched page (runBackgroundReads generation publishStatus source page names).1 := by
  induction names generalizing page with
  | nil => exact .refl page
  | cons name names ih =>
      unfold runBackgroundReads
      split
      · exact .refl page
      · split
        · exact untouched_finish.trans ih
        · exact .refl page

theorem untouched_absorb :
    Untouched page (absorb page generation result) := by
  unfold absorb
  split
  · exact .refl page
  · cases result <;> exact ⟨rfl, rfl⟩

theorem untouched_backgroundRead :
    Untouched page
      (backgroundRead page generation publishStatus source names result).shared := by
  have hfinished := @untouched_absorb page result generation |>.trans
    (@untouched_finish _ "Loading " generation publishStatus none)
  unfold backgroundRead
  dsimp only
  split
  · exact hfinished
  · exact hfinished.trans (untouched_run names.tail)

theorem backgroundRead_started :
    (backgroundRead page generation publishStatus source names result).started = [] := by
  unfold backgroundRead
  dsimp only
  split <;> rfl

theorem backgroundRead_locals {publishing : Bool} {generation' : Nat} :
    (backgroundRead page generation publishStatus source names result).next.locals publishing
      generation' = 0 := by
  unfold backgroundRead
  dsimp only
  split
  · rfl
  · exact backgroundTask_locals _ _ _

theorem untouched_localRead :
    Untouched page (localRead page generation source result) := by
  unfold localRead
  split
  · exact .refl page
  · cases result <;> exact ⟨rfl, rfl⟩

theorem untouched_localEnd : Untouched page (localEnd page generation publishStatus source) := by
  unfold localEnd
  split
  · exact .refl page
  · cases publishStatus <;> exact ⟨rfl, rfl⟩

end Untouched

/-- What a step does to the local reads, and to the sign that the page is loading. -/
structure Kept (page : Page) (t : Task) (move : Move) : Prop where
  localArtifactsGeneration :
    move.shared.localArtifactsGeneration = page.localArtifactsGeneration
  loading : move.shared.overview.loading = true →
    page.overview.loading = true ∧ t.overviews = 0
  next : ∀ publishing generation,
    move.next.locals publishing generation ≤ t.locals publishing generation
  started : ∀ u ∈ move.started, ∀ publishing generation, u.locals publishing generation = 0

theorem Kept.of_untouched {t : Task} {move : Move} (h : Untouched page move.shared)
    (ht : t.overviews = 0)
    (hnext : ∀ publishing generation,
      move.next.locals publishing generation ≤ t.locals publishing generation)
    (hstarted : move.started = []) : Kept page t move where
  localArtifactsGeneration := h.localArtifactsGeneration
  loading hup := ⟨h.loading.symm.trans hup, ht⟩
  next := hnext
  started u hu := by
    rw [hstarted] at hu
    exact absurd hu List.not_mem_nil

theorem untouched_started {publishStatus : Bool} {source : String} :
    Untouched page (startOperatorBackgroundReads page source publishStatus).1 := by
  unfold startOperatorBackgroundReads
  split
  · cases publishStatus <;> exact ⟨rfl, rfl⟩
  · dsimp only
    refine Untouched.trans ?_ (untouched_run slowSurfaces)
    exact ⟨rfl, rfl⟩

theorem untouched_requestDoctor {publishStatus : Bool} {source : String} :
    Untouched page (requestOperatorDoctorRefresh page source publishStatus).1 := by
  show Untouched page (Prod.fst (ite (page.projectReadCooldownActive = true) _ _))
  by_cases hpaused : page.projectReadCooldownActive = true
  · rw [if_pos hpaused]
    refine Untouched.trans ?_ untouched_finish
    exact ⟨rfl, rfl⟩
  · rw [if_neg hpaused]
    exact ⟨rfl, rfl⟩

theorem requestDoctor_locals {publishStatus : Bool} {source : String} :
    ∀ u ∈ (requestOperatorDoctorRefresh page source publishStatus).2,
      ∀ publishing generation, u.locals publishing generation = 0 := by
  show ∀ u ∈ Prod.snd (ite (page.projectReadCooldownActive = true) _ _), _
  intro u hu publishing generation
  by_cases hpaused : page.projectReadCooldownActive = true
  · rw [if_pos hpaused] at hu
    exact absurd hu List.not_mem_nil
  · rw [if_neg hpaused] at hu
    rw [List.mem_singleton.mp hu]
    rfl

theorem started_locals {publishStatus : Bool} {source : String} :
    ∀ u ∈ (startOperatorBackgroundReads page source publishStatus).2,
      ∀ publishing generation, u.locals publishing generation = 0 := by
  intro u hu publishing generation
  unfold startOperatorBackgroundReads at hu
  split at hu
  · cases publishStatus <;> exact absurd hu List.not_mem_nil
  · rw [List.mem_singleton.mp hu]
    exact backgroundTask_locals _ _ _

theorem endOverviewRefresh_localGeneration {includeSlowReads publishStatus started : Bool}
    {source : String} :
    (endOverviewRefresh page includeSlowReads publishStatus source
      started).localArtifactsGeneration = page.localArtifactsGeneration := by
  cases includeSlowReads <;> cases publishStatus <;> rfl

theorem endOverviewRefresh_loading {includeSlowReads publishStatus started : Bool}
    {source : String} :
    (endOverviewRefresh page includeSlowReads publishStatus source started).overview.loading
      = false := by
  cases includeSlowReads <;> cases publishStatus <;> rfl

theorem kept_overviewRead {includeSlowReads publishStatus wasRenderable : Bool} {source : String} :
    Kept page (.overview includeSlowReads publishStatus source wasRenderable)
      (overviewRead page includeSlowReads publishStatus source wasRenderable result) := by
  have hend : ∀ {page' : Page} {started : Bool} {tasks : List Task},
      page'.localArtifactsGeneration = page.localArtifactsGeneration →
      (∀ u ∈ tasks, ∀ publishing generation, u.locals publishing generation = 0) →
      Kept page (.overview includeSlowReads publishStatus source wasRenderable)
        { shared := endOverviewRefresh page' includeSlowReads publishStatus source started
          next := .done, started := tasks } := by
    intro page' started tasks hgeneration htasks
    exact {
      localArtifactsGeneration := endOverviewRefresh_localGeneration.trans hgeneration
      loading := fun hup =>
        absurd (endOverviewRefresh_loading.symm.trans hup) Bool.false_ne_true
      next := fun _ _ => le_rfl
      started := htasks }
  unfold overviewRead
  cases result with
  | error message =>
      refine hend ?_ nofun
      cases publishStatus <;> rfl
  | ok surface =>
      dsimp only
      split
      · exact hend untouched_started.localArtifactsGeneration started_locals
      · exact hend rfl nofun

theorem kept_act (t : Task) :
    Kept page t (act result page t) := by
  cases t with
  | overview includeSlowReads publishStatus source wasRenderable => exact kept_overviewRead
  | background generation publishStatus source names =>
      exact .of_untouched untouched_backgroundRead rfl
        (fun _ _ => le_of_eq backgroundRead_locals) backgroundRead_started
  | clearing => exact .of_untouched ⟨rfl, rfl⟩ rfl (fun _ _ => le_rfl) rfl
  | doctor generation publishStatus =>
      exact .of_untouched untouched_absorb rfl (fun _ _ => le_rfl) rfl
  | doctorEnd generation publishStatus =>
      exact .of_untouched untouched_finish rfl (fun _ _ => le_rfl) rfl
  | «local» generation publishStatus source =>
      exact .of_untouched untouched_localRead rfl (fun _ _ => le_rfl) rfl
  | localEnd generation publishStatus source =>
      exact .of_untouched untouched_localEnd rfl (fun _ _ => Nat.zero_le _) rfl
  | done => exact .of_untouched (.refl page) rfl (fun _ _ => le_rfl) rfl

/-! ## Steps -/

theorem Backed.act {t : Task} (h : Backed page (fun f => n f + f t))
    (hguard : ∀ includeSlowReads publishStatus source wasRenderable,
      t = .overview includeSlowReads publishStatus source wasRenderable →
      startsReads page includeSlowReads result.isOk = true ∨
        Continues page n includeSlowReads publishStatus result.isOk) :
    Backed (Overviews.act result page t).shared
      (fun f => n f + f (Overviews.act result page t).next
        + total f (Overviews.act result page t).started) := by
  cases t with
  | overview includeSlowReads publishStatus source wasRenderable =>
      exact h.overviewRead (hguard _ _ _ _ rfl)
  | background generation publishStatus source names =>
      unfold Overviews.act
      rw [backgroundRead_started]
      exact h.backgroundRead
  | clearing => exact ⟨h.1, h.2, h.3, h.4, h.5, h.6, h.7⟩
  | doctor generation publishStatus =>
      exact Backed.more h.absorb le_rfl le_rfl le_rfl le_rfl fun _ => rfl
  | doctorEnd generation publishStatus => exact h.doctorEnd
  | «local» generation publishStatus source => exact h.localRead
  | localEnd generation publishStatus source => exact h.localEnd
  | done => exact h

theorem Held.request {requested : Page × List Task} (h : Held s)
    (hbacked : Backed requested.1 (fun f => total f s.threads + total f requested.2))
    (hgeneration : s.shared.localArtifactsGeneration ≤ requested.1.localArtifactsGeneration)
    (hpast : ∀ t ∈ requested.2, Past requested.1 t) : Held (Overviews.request s requested) where
  backed := by
    have hsum : (fun f => total f (Overviews.request s requested).threads)
        = fun f => total f s.threads + total f requested.2 :=
      funext fun f => total_append f s.threads requested.2
    rw [hsum]
    exact hbacked
  past t ht := by
    rcases List.mem_append.mp ht with hold | hnew
    · exact fun publishing generation hlater =>
        h.past t hold publishing generation (hgeneration.trans_lt hlater)
    · exact hpast t hnew

theorem held_step (s : Session) (input : Input) (h : Held s) (hguard : Guard s input) :
    Held (step s input) := by
  cases input with
  | overview includeSlowReads source publishStatus =>
      refine h.request h.backed.requestOverview ?_ ?_
      · cases publishStatus <;> exact le_rfl
      · intro t ht publishing generation _
        rw [List.mem_singleton.mp ht]
        rfl
  | doctor source publishStatus =>
      refine h.request h.backed.requestDoctor ?_ ?_
      · exact le_of_eq untouched_requestDoctor.localArtifactsGeneration.symm
      · exact fun t ht publishing generation _ =>
          requestDoctor_locals t ht publishing generation
  | localArtifacts source publishStatus =>
      refine h.request (h.backed.requestLocal ?_ ?_) (Nat.le_succ _) ?_
      · exact fun publishing =>
          total_eq_zero fun t ht => h.past t ht publishing _ (Nat.lt_succ_self _)
      · rintro rfl
        exact hguard
      · intro t ht publishing generation hlater
        obtain ⟨_, _, rfl⟩ := List.mem_map.mp ht
        exact if_neg fun hand => (Nat.ne_of_lt hlater) hand.1
  | settle i result =>
      cases hthread : s.threads[i]? with
      | none => rwa [step, advance_none hthread]
      | some t =>
          have hkept := @kept_act s.shared result t
          refine ⟨?_, h.past.advance hthread ?_ ?_ ?_⟩
          · have hbefore : (fun f => total f s.threads)
                = fun f => total f (s.threads.eraseIdx i) + f t :=
              funext fun f => total_eraseIdx f hthread
            have hafter : (fun f => total f (step s (.settle i result)).threads) = _ :=
              funext fun f => total_advance (act result) f hthread
            have hbacked := h.backed
            rw [hbefore] at hbacked
            rw [hafter, step, advance_some hthread]
            refine hbacked.act ?_
            rintro includeSlowReads publishStatus source wasRenderable rfl
            simp only [Guard, hthread] at hguard
            exact hguard
          · exact fun u hu publishing generation hlater =>
              hu publishing generation (hkept.localArtifactsGeneration.symm.trans_lt hlater)
          · intro publishing generation hlater
            have hpast := h.past.of_getElem? hthread publishing generation
              (hkept.localArtifactsGeneration.symm.trans_lt hlater)
            exact Nat.le_zero.mp ((hkept.next publishing generation).trans (le_of_eq hpast))
          · exact fun u hu publishing generation _ => hkept.started u hu publishing generation
  | tick elapsed =>
      exact ⟨⟨h.backed.1, h.backed.2, h.backed.3, h.backed.4, h.backed.5, h.backed.6,
        h.backed.7⟩, h.past⟩

/-- An overview read is under way while the page is loading. -/
def LoadingHeld (s : Session) : Prop :=
  s.shared.overview.loading = true → 0 < total Task.overviews s.threads

theorem LoadingHeld.request {requested : Page × List Task} (h : LoadingHeld s)
    (hloading : requested.1.overview.loading = s.shared.overview.loading) :
    LoadingHeld (Overviews.request s requested) := by
  intro hup
  show 0 < total Task.overviews (s.threads ++ requested.2)
  rw [total_append]
  exact Nat.add_pos_left (h (hloading.symm.trans hup)) _

theorem loadingHeld_overview (s : Session) (includeSlowReads : Bool) (source : String)
    (publishStatus : Bool) :
    LoadingHeld (step s (.overview includeSlowReads source publishStatus)) := by
  intro _
  show 0 < total Task.overviews (s.threads ++ [_])
  rw [total_append]
  exact Nat.add_pos_right _ (Nat.succ_pos _)

theorem loadingHeld_step (s : Session) (input : Input) (h : LoadingHeld s) :
    LoadingHeld (step s input) := by
  cases input with
  | overview includeSlowReads source publishStatus => exact loadingHeld_overview s _ _ _
  | doctor source publishStatus => exact h.request untouched_requestDoctor.loading
  | localArtifacts source publishStatus => exact h.request rfl
  | settle i result =>
      cases hthread : s.threads[i]? with
      | none => rwa [step, advance_none hthread]
      | some t =>
          intro hup
          rw [step, advance_some hthread] at hup
          obtain ⟨hloading, hother⟩ := (@kept_act s.shared result t).loading hup
          have hbefore := h hloading
          rw [total_eraseIdx Task.overviews hthread, hother] at hbefore
          rw [step, total_advance (act result) Task.overviews hthread]
          omega
  | tick elapsed => exact h

/-! ## Settled runs -/

theorem Quiet.total_eq_zero (h : Quiet s) {f : Task → Nat}
    (hf : ∀ t : Task, t.outstanding = false → f t = 0) : total f s.threads = 0 :=
  Threads.total_eq_zero fun t ht => hf t (h t ht)

theorem settled_of_quiet (h : Held s) (hloading : LoadingHeld s) (hquiet : Quiet s) :
    Settled s.shared := by
  have hleft : s.shared.left (fun f => total f s.threads) = 0 :=
    hquiet.total_eq_zero fun t ht => by cases t <;> first | rfl | cases ht
  have hslow : total Task.slow s.threads = 0 :=
    hquiet.total_eq_zero fun t ht => by cases t <;> first | rfl | cases ht
  have hoverviews : total Task.overviews s.threads = 0 :=
    hquiet.total_eq_zero fun t ht => by cases t <;> first | rfl | cases ht
  have hheading : total Task.heading s.threads = 0 :=
    hquiet.total_eq_zero fun t ht => by cases t <;> first | rfl | cases ht
  have hlocals : ∀ publishing, s.shared.locals publishing (fun f => total f s.threads) = 0 :=
    fun publishing => hquiet.total_eq_zero fun t ht => by cases t <;> first | rfl | cases ht
  have hdown : ∀ {up : Bool}, ¬ up = true → up = false := Bool.eq_false_iff.mpr
  constructor
  · exact hdown fun hup => by have := hloading hup; omega
  · exact hdown fun hup => by have := h.backed.fullLoading hup; omega
  · exact hdown fun hup => by have := h.backed.refreshing hup; omega
  · have := h.backed.slowReads
    omega
  · exact hdown fun hup => by
      have := h.backed.localRefresh hup
      rw [hlocals, hlocals] at this
      omega
  · exact hdown fun hup => by
      have := h.backed.status hup
      rw [hleft, hlocals] at this
      omega

/-- Once everything has come back, the page shows that it is at rest. -/
theorem overview_settles (nowMs : Nat) (inputs : List Input)
    (hrequested : ∃ includeSlowReads source publishStatus,
      Input.overview includeSlowReads source publishStatus ∈ inputs)
    (hguard : Allowed step Guard (opened nowMs) inputs)
    (hquiet : Quiet (run step (opened nowMs) inputs)) :
    Settled (run step (opened nowMs) inputs).shared := by
  have hheld := Allowed.invariant held_step inputs (held_opened nowMs) hguard
  obtain ⟨includeSlowReads, source, publishStatus, hmem⟩ := hrequested
  obtain ⟨front, back, rfl⟩ := List.append_of_mem hmem
  have hloading : LoadingHeld (run step (opened nowMs)
      (front ++ .overview includeSlowReads source publishStatus :: back)) := by
    rw [run_append, run_cons]
    exact invariant_run loadingHeld_step back (loadingHeld_overview _ _ _ _)
  exact settled_of_quiet hheld hloading hquiet

/-- A refresh that reads everything it set out to read. -/
def refreshed : List Input :=
  [.overview true "manual" true, .settle 0 (.ok ⟨true, none⟩), .settle 1 (.ok ⟨true, none⟩),
    .settle 1 (.ok ⟨true, none⟩), .settle 1 (.error "timeout"), .settle 1 (.error "")]

theorem overview_settles_refreshed : Settled (run step (opened 0) refreshed).shared :=
  overview_settles 0 refreshed ⟨true, "manual", true, List.mem_cons_self⟩
    ⟨trivial, Or.inl rfl, trivial, trivial, trivial, trivial, trivial⟩
    (by decide)

/-- An overview read that fails leaves the page loading. -/
theorem failed_overview_keeps_loading :
    ¬ ∀ (nowMs : Nat) (inputs : List Input),
      (∃ includeSlowReads source publishStatus,
        Input.overview includeSlowReads source publishStatus ∈ inputs) →
      Quiet (run step (opened nowMs) inputs) → Settled (run step (opened nowMs) inputs).shared := by
  intro h
  have hsettled := h 0 [.overview true "manual" true, .settle 0 (.error "offline")]
    ⟨true, "manual", true, List.mem_cons_self⟩ (by decide)
  exact absurd hsettled.fullLoading (by decide)

end SheaSymphony.App.Overviews

import Mathlib.Data.List.Forall2
import Mathlib.Data.List.Induction

/-!
# Traces

A trace lists what has happened, the latest last. `Everywhere P trace` says `P`
of every event and of what came before it; a trace grows at its end, and there
alone `P` has to be shown again.
-/

namespace Traces

variable {α : Type*}

def Everywhere (P : List α → α → Prop) (trace : List α) : Prop :=
  ∀ earlier event later, trace = earlier ++ event :: later → P earlier event

variable {P : List α → α → Prop}

theorem everywhere_nil : Everywhere P [] := by
  intro earlier event later h
  simp at h

theorem everywhere_concat {trace : List α} {event : α} :
    Everywhere P (trace ++ [event]) ↔ Everywhere P trace ∧ P trace event := by
  constructor
  · intro h
    refine ⟨fun earlier other later heq => h earlier other (later ++ [event]) ?_, h trace event [] rfl⟩
    rw [heq, List.append_assoc, List.cons_append]
  · rintro ⟨htrace, hevent⟩ earlier other later heq
    cases later using List.reverseRecOn with
    | nil =>
        obtain ⟨rfl, hlast⟩ := List.append_inj' heq rfl
        obtain rfl := (List.cons.inj hlast).1
        exact hevent
    | append_singleton later last =>
        have hassoc : trace ++ [event] = (earlier ++ other :: later) ++ [last] := by
          rw [heq, List.append_assoc, List.cons_append]
        exact htrace earlier other later (List.append_inj' hassoc rfl).1

theorem Everywhere.append_of {trace more : List α} (h : Everywhere P trace)
    (hmore : ∀ first event rest, more = first ++ event :: rest → P (trace ++ first) event) :
    Everywhere P (trace ++ more) := by
  induction more using List.reverseRecOn with
  | nil => rwa [List.append_nil]
  | append_singleton more event ih =>
      rw [← List.append_assoc, everywhere_concat]
      refine ⟨ih fun first other rest heq => hmore first other (rest ++ [event]) ?_, ?_⟩
      · rw [heq, List.append_assoc, List.cons_append]
      · exact hmore more event [] rfl

theorem Everywhere.append {trace more : List α} (h : Everywhere P trace)
    (hmore : ∀ event ∈ more, ∀ earlier, P earlier event) : Everywhere P (trace ++ more) :=
  h.append_of fun first event _ heq => hmore event
    (heq ▸ List.mem_append_right first List.mem_cons_self) _

/-! ## Stages

What a trace has passed: for each stage an event of it, in the order of the stages. -/

def Passed (stages : List (α → Prop)) (trace : List α) : Prop :=
  ∃ events, events.Sublist trace ∧ List.Forall₂ (fun stage event => stage event) stages events

namespace Passed

variable {stages later : List (α → Prop)} {trace more : List α}

theorem nil : Passed [] trace := ⟨[], List.nil_sublist _, .nil⟩

theorem append (h : Passed stages trace) (hlater : Passed later more) :
    Passed (stages ++ later) (trace ++ more) := by
  obtain ⟨events, hevents, hstages⟩ := h
  obtain ⟨others, hothers, hothersLater⟩ := hlater
  exact ⟨events ++ others, hevents.append hothers, List.rel_append hstages hothersLater⟩

theorem single {stage : α → Prop} {event : α} (hevent : event ∈ trace) (h : stage event) :
    Passed [stage] trace :=
  ⟨[event], List.singleton_sublist.mpr hevent, .cons h .nil⟩

theorem grow (h : Passed stages trace) : Passed stages (trace ++ more) := by
  have hgrown := h.append (nil : Passed [] more)
  rwa [List.append_nil] at hgrown

theorem prepend (h : Passed stages more) : Passed stages (trace ++ more) :=
  nil.append h

end Passed

/-! ## Scripts

A script lists steps. A trace plays it from its first step on, one event for each, and goes
on behind an event only where its step is passed. -/

structure Step (α : Type*) where
  is : α → Prop
  passes : α → Prop

inductive Plays : List (Step α) → List α → Prop
  | ended {steps : List (Step α)} : Plays steps []
  | last {step : Step α} {rest : List (Step α)} {event : α} (his : step.is event) :
      Plays (step :: rest) [event]
  | passed {step : Step α} {rest : List (Step α)} {event : α} {trace : List α}
      (his : step.is event) (hpasses : step.passes event) (hrest : Plays rest trace) :
      Plays (step :: rest) (event :: trace)

/-- Every step has been passed. -/
def Complete (steps : List (Step α)) (trace : List α) : Prop :=
  List.Forall₂ (fun step event => step.is event ∧ step.passes event) steps trace

section
variable {steps later : List (Step α)} {trace more front back : List α} {event : α}

theorem Complete.append_plays (h : Complete steps trace) (hlater : Plays later more) :
    Plays (steps ++ later) (trace ++ more) := by
  induction h with
  | nil => exact hlater
  | cons hstep _ ih => exact .passed hstep.1 hstep.2 ih

theorem Complete.append (h : Complete steps trace) (hlater : Complete later more) :
    Complete (steps ++ later) (trace ++ more) :=
  List.rel_append h hlater

theorem Plays.append (h : Plays steps trace) (later : List (Step α)) :
    Plays (steps ++ later) trace := by
  induction h with
  | ended => exact .ended
  | last his => exact .last his
  | passed his hpasses _ ih => exact .passed his hpasses ih

theorem Complete.staged (h : Complete steps trace) (hevent : event ∈ trace) :
    ∃ step ∈ steps, step.is event ∧ step.passes event := by
  induction h with
  | nil => cases hevent
  | cons hstep _ ih =>
      rcases List.mem_cons.mp hevent with rfl | hevent
      · exact ⟨_, List.mem_cons_self, hstep⟩
      · obtain ⟨step, hmem, hevent⟩ := ih hevent
        exact ⟨step, List.mem_cons_of_mem _ hmem, hevent⟩

theorem Complete.exists_passed (h : Complete steps trace) {step : Step α} (hstep : step ∈ steps) :
    ∃ event ∈ trace, step.is event ∧ step.passes event := by
  induction h with
  | nil => cases hstep
  | cons hfirst _ ih =>
      rcases List.mem_cons.mp hstep with rfl | hstep
      · exact ⟨_, List.mem_cons_self, hfirst⟩
      · obtain ⟨event, hmem, hevent⟩ := ih hstep
        exact ⟨event, List.mem_cons_of_mem _ hmem, hevent⟩

theorem Plays.at (h : Plays steps (front ++ event :: back)) :
    ∃ before step after, steps = before ++ step :: after ∧ Complete before front
      ∧ step.is event ∧ (back ≠ [] → step.passes event) := by
  induction front generalizing steps with
  | nil =>
      cases h with
      | last his => exact ⟨[], _, _, rfl, .nil, his, fun hne => absurd rfl hne⟩
      | passed his hpasses _ => exact ⟨[], _, _, rfl, .nil, his, fun _ => hpasses⟩
  | cons first front ih =>
      rw [List.cons_append] at h
      generalize hrest : front ++ event :: back = rest at h ih
      cases h with
      | last => simp at hrest
      | passed his hpasses hplays =>
          obtain ⟨before, step, after, rfl, hcomplete, hevent⟩ := ih hplays
          exact ⟨_ :: before, step, after, rfl, .cons ⟨his, hpasses⟩ hcomplete, hevent⟩

theorem Plays.at_later (h : Plays (steps ++ later) (front ++ event :: back))
    (hnone : ∀ step ∈ steps, ¬ step.is event) :
    ∃ before step after, later = before ++ step :: after ∧ Complete (steps ++ before) front
      ∧ step.is event ∧ (back ≠ [] → step.passes event) := by
  obtain ⟨before, step, after, hsteps, hcomplete, hevent⟩ := h.at
  rcases List.append_eq_append_iff.mp hsteps with ⟨between, rfl, hlater⟩ | ⟨between, rfl, hlater⟩
  · exact ⟨between, step, after, hlater, hcomplete, hevent⟩
  · cases between with
    | nil =>
        rw [List.append_nil] at hnone
        exact ⟨[], step, after, hlater.symm, by simpa using hcomplete, hevent⟩
    | cons first between =>
        obtain ⟨rfl, -⟩ := List.cons.inj hlater
        exact absurd hevent.1 (hnone step (List.mem_append_right _ List.mem_cons_self))

end

end Traces

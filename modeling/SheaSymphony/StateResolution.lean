import Mathlib.Data.List.Nodup
import SheaSymphony.Config

/-!
# Resolving a resolved state

Keys and display values of the configured states share one namespace, and nothing keeps a
map free of collisions. A collision is rejected where it is met: resolving the key or the
display value of a resolved state gives the state again or names it in an ambiguity, and
gives it exactly when no other configured state answers to that text
(`resolution_stable`).
-/

namespace SheaSymphony.Tracker

open Text (UnicodeCase)

theorem filter_eq_singleton_iff {α : Type} {l : List α} (h : l.Nodup) {p : α → Bool} {a : α} :
    l.filter p = [a] ↔ a ∈ l ∧ p a = true ∧ ∀ b ∈ l, b ≠ a → p b = false := by
  constructor
  · intro heq
    have hmem : a ∈ l.filter p := heq ▸ List.mem_singleton_self a
    obtain ⟨hl, hp⟩ := List.mem_filter.mp hmem
    refine ⟨hl, hp, fun b hb hne => ?_⟩
    by_contra hpb
    have hb' : b ∈ l.filter p := List.mem_filter.mpr ⟨hb, Bool.not_eq_false _ ▸ hpb⟩
    rw [heq, List.mem_singleton] at hb'
    exact hne hb'
  · rintro ⟨hl, hp, hother⟩
    refine List.perm_singleton.mp ((List.perm_ext_iff_of_nodup (h.filter p)
      (List.nodup_singleton a)).mpr fun b => ?_)
    rw [List.mem_filter, List.mem_singleton]
    constructor
    · rintro ⟨hb, hpb⟩
      by_contra hne
      rw [hother b hb hne] at hpb
      cases hpb
    · rintro rfl
      exact ⟨hl, hp⟩

/-! ## The configured states -/

theorem map_fst_configuredStates (stateMap : StateMap) :
    (configuredStates stateMap).map Prod.fst = configuredStateKeys := rfl

theorem nodup_configuredStates (stateMap : StateMap) : (configuredStates stateMap).Nodup := by
  refine List.Nodup.of_map Prod.fst ?_
  rw [map_fst_configuredStates]
  decide

theorem configuredState_ext {stateMap : StateMap} {a b : String × String}
    (ha : a ∈ configuredStates stateMap) (hb : b ∈ configuredStates stateMap)
    (h : a.1 = b.1) : a = b := by
  have hnodup : ((configuredStates stateMap).map Prod.fst).Nodup := by
    rw [map_fst_configuredStates]
    decide
  exact List.inj_on_of_nodup_map hnodup ha hb h

def ResolvedTrackerState.entry (state : ResolvedTrackerState) : String × String :=
  (state.canonicalKey, state.displayValue)

/-- No configured state but `state` answers to the text. -/
def NamesOnly (case : UnicodeCase) (stateMap : StateMap) (text : String)
    (state : ResolvedTrackerState) : Prop :=
  ∀ other ∈ configuredStates stateMap, other.1 ≠ state.canonicalKey →
    namesState case text other = false

section Resolve

variable {case : UnicodeCase} {stateMap : StateMap}

theorem resolve_eq_ok_iff_filter {input : String} {state : ResolvedTrackerState} :
    resolveConfiguredTrackerState case stateMap input = .ok state
      ↔ (configuredStates stateMap).filter (namesState case input) = [state.entry] := by
  unfold resolveConfiguredTrackerState
  split
  · next h => simp [h]
  · next canonicalKey displayValue h =>
    rw [h, Except.ok.injEq, List.cons.injEq]
    constructor
    · rintro rfl
      exact ⟨rfl, rfl⟩
    · rintro ⟨hentry, -⟩
      cases state
      obtain ⟨rfl, rfl⟩ := Prod.mk.inj hentry
      rfl
  · next hne hone =>
    refine ⟨nofun, fun h => ?_⟩
    exact absurd h (hone _ _)

theorem resolve_eq_ok_iff {input : String} {state : ResolvedTrackerState} :
    resolveConfiguredTrackerState case stateMap input = .ok state
      ↔ state.entry ∈ configuredStates stateMap ∧ namesState case input state.entry = true
        ∧ NamesOnly case stateMap input state := by
  rw [resolve_eq_ok_iff_filter, filter_eq_singleton_iff (nodup_configuredStates stateMap)]
  refine and_congr_right fun hmem => and_congr_right fun _ => ?_
  constructor
  · intro h other hother hkey
    exact h other hother fun heq => hkey (congrArg Prod.fst heq)
  · intro h other hother hne
    exact h other hother fun hkey => hne (configuredState_ext hother hmem hkey)

theorem resolve_of_names {input : String} {state : ResolvedTrackerState}
    (hmem : state.entry ∈ configuredStates stateMap)
    (hnames : namesState case input state.entry = true) :
    resolveConfiguredTrackerState case stateMap input = .ok state
      ∨ ∃ keys, state.canonicalKey ∈ keys
        ∧ resolveConfiguredTrackerState case stateMap input
          = .error (.ambiguousConfiguration input keys) := by
  have hfilter : state.entry ∈ (configuredStates stateMap).filter (namesState case input) :=
    List.mem_filter.mpr ⟨hmem, hnames⟩
  unfold resolveConfiguredTrackerState
  split
  · next h =>
    rw [h] at hfilter
    cases hfilter
  · next canonicalKey displayValue h =>
    rw [h, List.mem_singleton] at hfilter
    cases state
    obtain ⟨rfl, rfl⟩ := Prod.mk.inj hfilter
    exact .inl rfl
  · refine .inr ⟨_, ?_, rfl⟩
    rw [List.mem_mergeSort, List.mem_dedup]
    exact List.mem_map_of_mem hfilter

theorem namesState_key (entry : String × String) : namesState case entry.1 entry = true := by
  simp [namesState]

theorem namesState_display (entry : String × String) : namesState case entry.2 entry = true := by
  simp [namesState]

/-- The key and the display value of a resolved state each resolve to it again exactly when
they name no other configured state, and are otherwise rejected as ambiguous about it. -/
theorem resolution_stable {input : String} {state : ResolvedTrackerState}
    (h : resolveConfiguredTrackerState case stateMap input = .ok state) :
    ∀ text ∈ [state.canonicalKey, state.displayValue],
      (resolveConfiguredTrackerState case stateMap text = .ok state
          ↔ NamesOnly case stateMap text state)
        ∧ (resolveConfiguredTrackerState case stateMap text ≠ .ok state →
          ∃ keys, state.canonicalKey ∈ keys
            ∧ resolveConfiguredTrackerState case stateMap text
              = .error (.ambiguousConfiguration text keys)) := by
  intro text htext
  obtain ⟨hmem, -, -⟩ := resolve_eq_ok_iff.mp h
  have hnames : namesState case text state.entry = true := by
    rw [List.mem_pair] at htext
    obtain rfl | rfl := htext
    · exact namesState_key state.entry
    · exact namesState_display state.entry
  refine ⟨?_, fun hne => (resolve_of_names hmem hnames).resolve_left hne⟩
  rw [resolve_eq_ok_iff]
  exact ⟨fun hall => hall.2.2, fun honly => ⟨hmem, hnames, honly⟩⟩

end Resolve

/-! ## One map without and one with a collision -/

/-- The map of a document that names no state. -/
def defaultStateMap : StateMap := Config.parseStateMap none

/-- The rework lane displayed under a name of its own, and its default name given to
agent review. -/
def collidingStateMap : StateMap :=
  Config.parseStateMap (some (.obj [("agent_review", .str "Rework"), ("rework", .str "Doing")]))

theorem resolve_default_rework :
    resolveConfiguredTrackerState .ascii defaultStateMap " rework" = .ok ⟨"rework", "Rework"⟩ := by
  decide +kernel

theorem resolution_stable_default :
    ∃ state, resolveConfiguredTrackerState .ascii defaultStateMap " rework" = .ok state
      ∧ (resolveConfiguredTrackerState .ascii defaultStateMap state.displayValue = .ok state
        ↔ NamesOnly .ascii defaultStateMap state.displayValue state) :=
  ⟨_, resolve_default_rework, (resolution_stable resolve_default_rework _
    (List.mem_cons_of_mem _ (List.mem_singleton_self _))).1⟩

/-- Agent review resolves from its key, and its display value is ambiguous. -/
theorem display_of_resolved_ambiguous :
    resolveConfiguredTrackerState .ascii collidingStateMap "agent_review"
        = .ok ⟨"agent_review", "Rework"⟩
      ∧ ∃ keys, resolveConfiguredTrackerState .ascii collidingStateMap "Rework"
        = .error (.ambiguousConfiguration "Rework" keys) := by
  have hkey : resolveConfiguredTrackerState .ascii collidingStateMap "agent_review"
      = .ok ⟨"agent_review", "Rework"⟩ := by decide
  have hrework : namesState .ascii "Rework" ("rework", "Doing") = true := by decide
  refine ⟨hkey, ?_⟩
  obtain ⟨hmem, -, -⟩ := resolve_eq_ok_iff.mp hkey
  obtain hok | ⟨keys, -, hambiguous⟩ := resolve_of_names hmem (namesState_display _)
  · obtain ⟨-, -, honly⟩ := resolve_eq_ok_iff.mp hok
    have hmiss := honly ("rework", "Doing") (by decide) (by decide)
    exact absurd (hrework.symm.trans hmiss) (by decide)
  · exact ⟨keys, hambiguous⟩

end SheaSymphony.Tracker

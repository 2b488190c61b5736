import SheaSymphony.ResourceManifest

/-!
# The closure of the requested groups

Resolving a group extends the selection by what the group reaches and has not been
selected, in an order of dependencies, or fails with an error that blames one of the
groups it reaches. While a group is being visited it leads to every group that is
resolved below it, so a group that is visited twice is on a cycle; and each visit takes
one of the declared groups, so the depth is bounded by their number.
-/

namespace SheaSymphony.Resources

open Dependencies Relation

/-! ## Dependencies -/

namespace ResourceManifest

variable (manifest : ResourceManifest)

def DependsOn (group dependency : String) : Prop :=
  ∃ declared, manifest.groups.lookup group = some declared ∧ dependency ∈ declared.dependsOn

/-- The group is declared and available. -/
def Available (group : String) : Prop :=
  ∃ declared, manifest.groups.lookup group = some declared ∧ declared.available = true

def Reaches (group reached : String) : Prop := ReflTransGen manifest.DependsOn group reached

/-- Every group that is reached is declared and available, and none depends on itself. -/
def Resolvable (group : String) : Prop := Grounded manifest.DependsOn manifest.Available group

def declaredGroups : Finset String := (manifest.groups.map Prod.fst).toFinset

end ResourceManifest

variable {manifest : ResourceManifest}

theorem mem_declaredGroups {group : String} {declared : ResourceGroup}
    (h : manifest.groups.lookup group = some declared) : group ∈ manifest.declaredGroups := by
  obtain ⟨front, back, hsplit, -⟩ := List.lookup_eq_some_iff.mp h
  rw [ResourceManifest.declaredGroups, List.mem_toFinset, hsplit]
  simp

/-- The group an error names is reached, and it is what the error says. -/
def ResourceManifestError.Blames (manifest : ResourceManifest) (group : String) :
    ResourceManifestError → Prop
  | unknownGroup blamed => manifest.Reaches group blamed ∧ manifest.groups.lookup blamed = none
  | unavailableGroup blamed =>
      manifest.Reaches group blamed
        ∧ ∃ declared, manifest.groups.lookup blamed = some declared ∧ declared.available = false
  | dependencyCycle blamed =>
      manifest.Reaches group blamed ∧ TransGen manifest.DependsOn blamed blamed
  | invalidWorkflowConfig | unsupportedSchema _ _ | invalidCoreGroup _ => False

theorem ResourceManifestError.Blames.not_resolvable {error : ResourceManifestError} {group : String}
    (h : error.Blames manifest group) : ¬ manifest.Resolvable group := by
  intro hresolvable
  cases error with
  | unknownGroup blamed =>
      obtain ⟨declared, hdeclared, -⟩ := hresolvable.sound blamed h.1
      rw [h.2] at hdeclared
      cases hdeclared
  | unavailableGroup blamed =>
      obtain ⟨declared, hdeclared, havailable⟩ := hresolvable.sound blamed h.1
      obtain ⟨found, hfound, hunavailable⟩ := h.2
      rw [hfound] at hdeclared
      rw [← Option.some.inj hdeclared, hunavailable] at havailable
      cases havailable
  | dependencyCycle blamed => exact hresolvable.acyclic blamed h.1 h.2
  | invalidWorkflowConfig | unsupportedSchema | invalidCoreGroup => exact h

theorem ResourceManifestError.Blames.of_dependency {error : ResourceManifestError}
    {group dependency : String} (h : error.Blames manifest dependency)
    (hdepends : manifest.DependsOn group dependency) : error.Blames manifest group := by
  cases error with
  | unknownGroup | unavailableGroup | dependencyCycle =>
      exact ⟨ReflTransGen.head hdepends h.1, h.2⟩
  | invalidWorkflowConfig | unsupportedSchema | invalidCoreGroup => exact h

/-! ## One group -/

/-- What the accumulators hold between two groups. -/
structure Selection.Sound (manifest : ResourceManifest) (selection : Selection) : Prop where
  resolved : ∀ group, group ∈ selection.resolved ↔ group ∈ selection.selected
  nodup : selection.selected.Nodup
  ordered : Ordered manifest.DependsOn selection.selected
  available : ∀ group ∈ selection.selected, manifest.Available group
  apart : ∀ group ∈ selection.visiting, group ∉ selection.selected

/-- The selection has been extended by what some groups reach. -/
structure Selection.Extends (manifest : ResourceManifest) (before after : Selection)
    (groups : List String) : Prop where
  sound : after.Sound manifest
  visiting : after.visiting = before.visiting
  keeps : ∀ group ∈ before.selected, group ∈ after.selected
  selects : ∀ group ∈ groups, group ∈ after.selected
  reached : ∀ group ∈ after.selected,
    group ∈ before.selected ∨ ∃ root ∈ groups, manifest.Reaches root group

/-- What resolving some groups may come to, down to a depth. -/
def Outcome (manifest : ResourceManifest) (depth : Nat) (before : Selection) (groups : List String) :
    Except Halt Selection → Prop
  | .ok after => before.Extends manifest after groups
  | .error (.failed error) => ∃ group ∈ groups, error.Blames manifest group
  | .error .tooDeep => depth ≤ (manifest.declaredGroups \ before.visiting).card

/-- The groups that are being visited lead to the group. -/
def LeadTo (manifest : ResourceManifest) (selection : Selection) (group : String) : Prop :=
  ∀ visited ∈ selection.visiting, TransGen manifest.DependsOn visited group

variable {before middle after : Selection} {group : String} {groups : List String} {depth : Nat}

theorem Selection.Extends.refl (h : before.Sound manifest)
    (hgroups : ∀ group ∈ groups, group ∈ before.selected) :
    before.Extends manifest before groups where
  sound := h
  visiting := rfl
  keeps _ hgroup := hgroup
  selects := hgroups
  reached _ hgroup := Or.inl hgroup

theorem Selection.Extends.cons (hfirst : before.Extends manifest middle [group])
    (hrest : middle.Extends manifest after groups) :
    before.Extends manifest after (group :: groups) where
  sound := hrest.sound
  visiting := hrest.visiting.trans hfirst.visiting
  keeps root hroot := hrest.keeps root (hfirst.keeps root hroot)
  selects root hroot := by
    rcases List.mem_cons.mp hroot with rfl | hroot
    · exact hrest.keeps root (hfirst.selects root List.mem_cons_self)
    · exact hrest.selects root hroot
  reached selected hselected := by
    rcases hrest.reached selected hselected with hmiddle | ⟨root, hroot, hreaches⟩
    · rcases hfirst.reached selected hmiddle with hbefore | ⟨root, hroot, hreaches⟩
      · exact Or.inl hbefore
      · obtain rfl := List.mem_singleton.mp hroot
        exact Or.inr ⟨root, List.mem_cons_self, hreaches⟩
    · exact Or.inr ⟨root, List.mem_cons_of_mem _ hroot, hreaches⟩

theorem outcome_foldlM
    (hgroup : ∀ selection group, selection.Sound manifest → LeadTo manifest selection group →
      Outcome manifest depth selection [group] (resolveGroup manifest depth selection group)) :
    ∀ (groups : List String) {before : Selection}, before.Sound manifest →
      (∀ group ∈ groups, LeadTo manifest before group) →
      Outcome manifest depth before groups (groups.foldlM (resolveGroup manifest depth) before)
  | [], before, hsound, _ => Selection.Extends.refl hsound nofun
  | group :: groups, before, hsound, hlead => by
      have hfirst := hgroup before group hsound (hlead group List.mem_cons_self)
      rw [List.foldlM_cons]
      cases hresult : resolveGroup manifest depth before group with
      | error halt =>
          rw [hresult] at hfirst
          cases halt with
          | tooDeep => exact hfirst
          | failed error =>
              obtain ⟨blamed, hblamed, hblames⟩ := hfirst
              obtain rfl := List.mem_singleton.mp hblamed
              exact ⟨blamed, List.mem_cons_self, hblames⟩
      | ok middle =>
          rw [hresult] at hfirst
          have hextends : before.Extends manifest middle [group] := hfirst
          have hrest := outcome_foldlM hgroup groups hextends.sound fun next hnext => by
            rw [LeadTo, hextends.visiting]
            exact hlead next (List.mem_cons_of_mem _ hnext)
          rw [Fallible.ok_bind]
          cases hafter : groups.foldlM (resolveGroup manifest depth) middle with
          | ok after =>
              rw [hafter] at hrest
              exact hextends.cons hrest
          | error halt =>
              rw [hafter] at hrest
              cases halt with
              | tooDeep =>
                  rw [Outcome, hextends.visiting] at hrest
                  exact hrest
              | failed error =>
                  obtain ⟨blamed, hblamed, hblames⟩ := hrest
                  exact ⟨blamed, List.mem_cons_of_mem _ hblamed, hblames⟩

theorem Selection.Sound.visit (h : before.Sound manifest) (hnew : group ∉ before.resolved) :
    ({ before with visiting := insert group before.visiting } : Selection).Sound manifest where
  resolved := h.resolved
  nodup := h.nodup
  ordered := h.ordered
  available := h.available
  apart visited hvisited := by
    rcases Finset.mem_insert.mp hvisited with rfl | hvisited
    · exact fun hselected => hnew ((h.resolved visited).mpr hselected)
    · exact h.apart visited hvisited

theorem Selection.Extends.select {declared : ResourceGroup} (hnew : group ∉ before.visiting)
    (hdeclared : manifest.groups.lookup group = some declared) (havailable : declared.available = true)
    (h : ({ before with visiting := insert group before.visiting } : Selection).Extends manifest after
      declared.dependsOn) :
    before.Extends manifest
      { visiting := after.visiting.erase group
        resolved := insert group after.resolved
        selected := after.selected ++ [group] } [group] := by
  have hvisiting : after.visiting.erase group = before.visiting := by
    rw [h.visiting, Finset.erase_insert hnew]
  have hfresh : group ∉ after.selected :=
    h.sound.apart group (by rw [h.visiting]; exact Finset.mem_insert_self _ _)
  constructor
  case visiting => exact hvisiting
  case keeps => exact fun root hroot => List.mem_append_left _ (h.keeps root hroot)
  case selects =>
    intro root hroot
    exact List.mem_append_right _ hroot
  case reached =>
    intro selected hselected
    rcases List.mem_append.mp hselected with hselected | hselected
    · rcases h.reached selected hselected with hbefore | ⟨root, hroot, hreaches⟩
      · exact Or.inl hbefore
      · exact Or.inr ⟨group, List.mem_cons_self, hreaches.head ⟨declared, hdeclared, hroot⟩⟩
    · exact Or.inr ⟨group, List.mem_cons_self, by rw [List.mem_singleton.mp hselected]; exact .refl⟩
  case sound =>
    constructor
    case resolved =>
      intro root
      rw [Finset.mem_insert, List.mem_append, List.mem_singleton, h.sound.resolved, or_comm]
    case nodup =>
      rw [List.nodup_append]
      refine ⟨h.sound.nodup, List.nodup_singleton group, fun root hroot last hlast => ?_⟩
      obtain rfl := List.mem_singleton.mp hlast
      rintro rfl
      exact hfresh hroot
    case ordered =>
      refine h.sound.ordered.concat fun dependency hdepends => ?_
      obtain ⟨found, hfound, hdependency⟩ := hdepends
      obtain rfl := Option.some.inj (hdeclared.symm.trans hfound)
      exact h.selects dependency hdependency
    case available =>
      intro root hroot
      rcases List.mem_append.mp hroot with hroot | hroot
      · exact h.sound.available root hroot
      · rw [List.mem_singleton.mp hroot]
        exact ⟨declared, hdeclared, havailable⟩
    case apart =>
      intro visited hvisited hselected
      rw [hvisiting] at hvisited
      rcases List.mem_append.mp hselected with hselected | hselected
      · refine h.sound.apart visited ?_ hselected
        rw [h.visiting]
        exact Finset.mem_insert_of_mem hvisited
      · exact hnew (List.mem_singleton.mp hselected ▸ hvisited)

theorem card_lt_of_visit {visiting : Finset String} (hgroup : group ∈ manifest.declaredGroups)
    (hnew : group ∉ visiting) :
    (manifest.declaredGroups \ insert group visiting).card < (manifest.declaredGroups \ visiting).card := by
  refine Finset.card_lt_card ((Finset.ssubset_iff_of_subset ?_).mpr ⟨group, ?_, ?_⟩)
  · exact Finset.sdiff_subset_sdiff (Finset.Subset.refl _) (Finset.subset_insert _ _)
  · exact Finset.mem_sdiff.mpr ⟨hgroup, hnew⟩
  · exact fun h => (Finset.mem_sdiff.mp h).2 (Finset.mem_insert_self _ _)

theorem resolveGroup_outcome : ∀ (depth : Nat) (before : Selection) (group : String),
    before.Sound manifest → LeadTo manifest before group →
      Outcome manifest depth before [group] (resolveGroup manifest depth before group)
  | 0, _, _, _, _ => Nat.zero_le _
  | depth + 1, before, group, hsound, hlead => by
      rw [resolveGroup]
      by_cases hresolved : group ∈ before.resolved
      · rw [if_pos hresolved]
        refine Selection.Extends.refl hsound fun root hroot => ?_
        rw [List.mem_singleton.mp hroot]
        exact (hsound.resolved group).mp hresolved
      · rw [if_neg hresolved]
        by_cases hvisiting : group ∈ before.visiting
        · rw [if_pos hvisiting]
          exact ⟨group, List.mem_cons_self, .refl, hlead group hvisiting⟩
        · rw [if_neg hvisiting]
          dsimp only
          cases hdeclared : manifest.groups.lookup group with
          | none => exact ⟨group, List.mem_cons_self, .refl, hdeclared⟩
          | some declared =>
              rw [Fallible.okOr, Fallible.ok_bind]
              cases havailable : declared.available with
              | false => exact ⟨group, List.mem_cons_self, .refl, declared, hdeclared, havailable⟩
              | true =>
                  rw [Fallible.require_true, Fallible.ok_bind]
                  have hlead' : ∀ dependency ∈ declared.dependsOn, LeadTo manifest
                      { before with visiting := insert group before.visiting } dependency := by
                    intro dependency hdependency visited hvisited
                    have hdepends : manifest.DependsOn group dependency :=
                      ⟨declared, hdeclared, hdependency⟩
                    rcases Finset.mem_insert.mp hvisited with rfl | hvisited
                    · exact .single hdepends
                    · exact (hlead visited hvisited).tail hdepends
                  have hrest := outcome_foldlM (resolveGroup_outcome depth) declared.dependsOn
                    (hsound.visit hresolved) hlead'
                  cases hafter : declared.dependsOn.foldlM (resolveGroup manifest depth)
                      { before with visiting := insert group before.visiting } with
                  | ok after =>
                      rw [hafter] at hrest
                      exact hrest.select hvisiting hdeclared havailable
                  | error halt =>
                      rw [hafter] at hrest
                      cases halt with
                      | tooDeep =>
                          have hcard := card_lt_of_visit (mem_declaredGroups hdeclared) hvisiting
                          exact Nat.succ_le_of_lt (Nat.lt_of_le_of_lt hrest hcard)
                      | failed error =>
                          obtain ⟨dependency, hdependency, hblames⟩ := hrest
                          exact ⟨group, List.mem_cons_self,
                            hblames.of_dependency ⟨declared, hdeclared, hdependency⟩⟩

/-! ## Deeper recursion -/

theorem resolveGroup_deeper (manifest : ResourceManifest) :
    ∀ (depth : Nat) (selection : Selection) (group : String),
      resolveGroup manifest depth selection group ≠ .error .tooDeep →
        resolveGroup manifest (depth + 1) selection group = resolveGroup manifest depth selection group
  | 0, _, _, hends => absurd rfl hends
  | depth + 1, selection, group, hends => by
      rw [resolveGroup, resolveGroup]
      rw [resolveGroup] at hends
      by_cases hresolved : group ∈ selection.resolved
      · rw [if_pos hresolved, if_pos hresolved]
      · rw [if_neg hresolved] at hends
        rw [if_neg hresolved, if_neg hresolved]
        by_cases hvisiting : group ∈ selection.visiting
        · rw [if_pos hvisiting, if_pos hvisiting]
        · rw [if_neg hvisiting] at hends
          rw [if_neg hvisiting, if_neg hvisiting]
          dsimp only at hends ⊢
          cases hdeclared : manifest.groups.lookup group with
          | none => rfl
          | some declared =>
              cases havailable : declared.available with
              | false => rw [Fallible.okOr, Fallible.ok_bind, Fallible.ok_bind, havailable]; rfl
              | true =>
                  rw [hdeclared, Fallible.okOr, Fallible.ok_bind, havailable, Fallible.require_true,
                    Fallible.ok_bind] at hends
                  rw [Fallible.okOr, Fallible.ok_bind, Fallible.ok_bind, havailable,
                    Fallible.require_true, Fallible.ok_bind, Fallible.ok_bind]
                  rw [Fallible.foldlM_deeper (resolveGroup_deeper manifest depth)]
                  intro hdeep
                  rw [hdeep] at hends
                  exact hends rfl

/-! ## The requested groups -/

/-- What the requested groups reach, each once and behind what it depends on. -/
structure Closure (manifest : ResourceManifest) (requested selected : List String) : Prop where
  mem_iff : ∀ group, group ∈ selected ↔ ∃ root ∈ requested, manifest.Reaches root group
  nodup : selected.Nodup
  ordered : Ordered manifest.DependsOn selected

theorem Selection.sound_start (manifest : ResourceManifest) : Selection.start.Sound manifest where
  resolved group := by simp [start]
  nodup := List.nodup_nil
  ordered := .nil
  available := nofun
  apart group hgroup := absurd hgroup (Finset.notMem_empty group)

theorem Selection.Extends.closure {requested : List String}
    (h : Selection.start.Extends manifest after requested) :
    Closure manifest requested after.selected where
  nodup := h.sound.nodup
  ordered := h.sound.ordered
  mem_iff group := by
    constructor
    · intro hgroup
      exact (h.reached group hgroup).resolve_left nofun
    · rintro ⟨root, hroot, hreaches⟩
      exact h.sound.ordered.reached (h.selects root hroot) hreaches

theorem Selection.Extends.resolvable {requested : List String}
    (h : Selection.start.Extends manifest after requested) {root : String} (hroot : root ∈ requested) :
    manifest.Resolvable root :=
  h.sound.ordered.grounded h.sound.nodup h.sound.available (h.selects root hroot)

theorem card_declaredGroups_le (manifest : ResourceManifest) :
    manifest.declaredGroups.card ≤ manifest.groups.length := by
  rw [ResourceManifest.declaredGroups, ← List.length_map (f := Prod.fst)]
  exact List.toFinset_card_le _

theorem resolveGroups_outcome (manifest : ResourceManifest) (requested : List String) :
    (∃ selected, Closure manifest requested selected
        ∧ (∀ root ∈ requested, manifest.Resolvable root)
        ∧ ∀ depth, manifest.groups.length < depth →
          resolveGroups manifest depth requested = .ok selected)
      ∨ ∃ error : ResourceManifestError, (∃ root ∈ requested, error.Blames manifest root)
        ∧ ∀ depth, manifest.groups.length < depth →
          resolveGroups manifest depth requested = .error (.failed error) := by
  have houtcome := outcome_foldlM (resolveGroup_outcome (manifest.groups.length + 1)) requested
    (Selection.sound_start manifest)
    fun group _ visited hvisited => absurd hvisited (Finset.notMem_empty visited)
  have hdeep : requested.foldlM (resolveGroup manifest (manifest.groups.length + 1)) Selection.start
        ≠ .error .tooDeep →
      ∀ depth, manifest.groups.length < depth →
        requested.foldlM (resolveGroup manifest depth) Selection.start
          = requested.foldlM (resolveGroup manifest (manifest.groups.length + 1)) Selection.start := by
    intro hends depth hdepth
    induction depth, Nat.succ_le_of_lt hdepth using Nat.le_induction with
    | base => rfl
    | succ depth hle ih =>
        have hsame := ih (Nat.lt_of_succ_le hle)
        rw [← hsame] at hends ⊢
        exact Fallible.foldlM_deeper (resolveGroup_deeper manifest depth) requested Selection.start hends
  cases hresult : requested.foldlM (resolveGroup manifest (manifest.groups.length + 1))
      Selection.start with
  | ok after =>
      rw [hresult] at houtcome hdeep
      have hextends : Selection.start.Extends manifest after requested := houtcome
      refine Or.inl ⟨after.selected, hextends.closure, fun root hroot => hextends.resolvable hroot, ?_⟩
      intro depth hdepth
      rw [resolveGroups, hdeep nofun depth hdepth]
      rfl
  | error halt =>
      rw [hresult] at houtcome hdeep
      cases halt with
      | tooDeep =>
          have hcard : manifest.groups.length + 1 ≤ (manifest.declaredGroups \ ∅).card := houtcome
          rw [Finset.sdiff_empty] at hcard
          have hle := card_declaredGroups_le manifest
          omega
      | failed error =>
          refine Or.inr ⟨error, houtcome, fun depth hdepth => ?_⟩
          rw [resolveGroups, hdeep (by nofun) depth hdepth]
          rfl

/-- Resolving the core group and the enabled ones ends, whatever the manifest: with their
closure, exactly if all they reach is declared and available and nothing of it depends on
itself. -/
theorem resource_groups_closure (manifest : ResourceManifest) (enabled : List String) :
    ∃ result : Except ResourceManifestError (List String),
      (∀ depth, manifest.groups.length < depth →
        resolveGroups manifest depth (manifest.coreGroup :: enabled) = result.mapError .failed)
      ∧ ((∃ selected, result = .ok selected) ↔
        ∀ root ∈ manifest.coreGroup :: enabled, manifest.Resolvable root)
      ∧ ∀ selected, result = .ok selected →
        Closure manifest (manifest.coreGroup :: enabled) selected := by
  rcases resolveGroups_outcome manifest (manifest.coreGroup :: enabled) with
    ⟨selected, hclosure, hresolvable, hresult⟩ | ⟨error, ⟨root, hroot, hblames⟩, hresult⟩
  · refine ⟨.ok selected, hresult, ⟨fun _ => hresolvable, fun _ => ⟨selected, rfl⟩⟩, ?_⟩
    intro other hother
    rwa [← Except.ok.inj hother]
  · refine ⟨.error error, hresult, ⟨nofun, fun hresolvable => ?_⟩, nofun⟩
    exact absurd (hresolvable root hroot) hblames.not_resolvable

end SheaSymphony.Resources

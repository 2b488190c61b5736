import SheaSymphony.Naming
import SheaSymphony.WorkspaceNames

/-!
# Execution profiles

`discover_execution_profiles`: the instances of the cockpit where there are any, and the
entries of the workflow otherwise (`profiles.rs`). A profile of the cockpit is named by
its instance, and by its instance and id where that name is in use (`Naming`); one of the
workflow by its id.
-/

namespace SheaSymphony.Profiles

open Workspace (safeIdentifier safeIdentifier_idem)

structure ExecutionProfile where
  profileId : String
  instanceName : String
  source : String
  backend : Option String
  workspaceNamespace : String
  userDataDir : Option String
  workingDir : Option String
  extraArgs : Option String
  env : List (String × String)
deriving DecidableEq

inductive ProfileError where
  | io (path error : String)
  | parse (path error : String)
  | missingDefault (default : String)
deriving DecidableEq

structure CockpitCodexInstance where
  id : String
  name : String
  userDataDir : String
  workingDir : Option String
  extraArgs : String
deriving DecidableEq

structure ExecutionProfileConfig where
  id : String
  instanceName : Option String
  backend : Option String
  workspaceNamespace : Option String
  userDataDir : Option String
  workingDir : Option String
  extraArgs : Option String
  env : List (String × String)
deriving DecidableEq

structure ProfilesConfig where
  default : Option String
  codexInstancesPath : Option String
  entries : List ExecutionProfileConfig

/-- The store of instances at a path, where there is one. -/
abbrev InstanceStore := String → Option (Except ProfileError (List CockpitCodexInstance))

def nonemptyString (value : String) : Option String :=
  if Text.trim value = "" then none else some (Text.trim value)

def nonemptyPath : String → Option String := nonemptyString

/-! ## The profiles -/

namespace CockpitCodexInstance

def baseNamespace (codex : CockpitCodexInstance) : String := safeIdentifier (Text.trim codex.name)

def longNamespace (codex : CockpitCodexInstance) : String :=
  safeIdentifier (Text.trim codex.name ++ "-" ++ codex.id)

def profile (codex : CockpitCodexInstance) (workspaceNamespace : String) : ExecutionProfile where
  profileId := workspaceNamespace
  instanceName := Text.trim codex.name
  source := "cockpit-tools:codex_instances"
  backend := some "codex"
  workspaceNamespace := workspaceNamespace
  userDataDir := nonemptyPath codex.userDataDir
  workingDir := codex.workingDir.bind nonemptyPath
  extraArgs := nonemptyString codex.extraArgs
  env := []

end CockpitCodexInstance

def cockpitInstancesFrom (used : List String) : List CockpitCodexInstance → List ExecutionProfile
  | [] => []
  | codex :: rest =>
      if Text.trim codex.name = "" then cockpitInstancesFrom used rest
      else
        let workspaceNamespace :=
          if codex.baseNamespace ∈ used then codex.longNamespace else codex.baseNamespace
        codex.profile workspaceNamespace :: cockpitInstancesFrom (workspaceNamespace :: used) rest

def cockpitInstancesToProfiles (instances : List CockpitCodexInstance) : List ExecutionProfile :=
  cockpitInstancesFrom [] instances

namespace ExecutionProfileConfig

def safeId (entry : ExecutionProfileConfig) : String := safeIdentifier (Text.trim entry.id)

def label (entry : ExecutionProfileConfig) : String := entry.instanceName.getD (Text.trim entry.id)

def safeNamespace (entry : ExecutionProfileConfig) : String :=
  (entry.workspaceNamespace.map safeIdentifier).getD entry.safeId

def profile (entry : ExecutionProfileConfig) : ExecutionProfile where
  profileId := entry.safeId
  instanceName := entry.label
  source := "workflow:profiles.entries"
  backend := entry.backend
  workspaceNamespace := entry.safeNamespace
  userDataDir := entry.userDataDir
  workingDir := entry.workingDir
  extraArgs := entry.extraArgs.bind nonemptyString
  env := entry.env

end ExecutionProfileConfig

def explicitProfiles (entries : List ExecutionProfileConfig) : List ExecutionProfile :=
  entries.filterMap fun entry => if Text.trim entry.id = "" then none else some entry.profile

def loadedInstances (store : InstanceStore) (config : ProfilesConfig) :
    Except ProfileError (List CockpitCodexInstance) :=
  (config.codexInstancesPath.bind store).getD (.ok [])

def discoverExecutionProfiles (store : InstanceStore) (config : ProfilesConfig) :
    Except ProfileError (List ExecutionProfile) := do
  let profiles := cockpitInstancesToProfiles (← loadedInstances store config)
  return if profiles.isEmpty then explicitProfiles config.entries else profiles

def namedBy (default : String) (profile : ExecutionProfile) : Bool :=
  profile.profileId == default || profile.instanceName == default
    || profile.workspaceNamespace == safeIdentifier default

def selectedExecutionProfile (store : InstanceStore) (config : ProfilesConfig) :
    Except ProfileError (Option ExecutionProfile) := do
  let profiles ← discoverExecutionProfiles store config
  if profiles.isEmpty then return none
  else
    match config.default with
    | some default =>
        match profiles.find? (namedBy default) with
        | some profile => return some profile
        | none => .error (.missingDefault default)
    | none => return profiles.head?

/-! ## Names of their own -/

structure DistinctNamespaces (profiles : List ExecutionProfile) : Prop where
  ids : (profiles.map ExecutionProfile.profileId).Nodup
  namespaces : (profiles.map ExecutionProfile.workspaceNamespace).Nodup

/-- No configured default names two of the profiles. -/
def DefaultNamesOne (profiles : List ExecutionProfile) : Prop :=
  ∀ default, (profiles.filter (namedBy default)).length ≤ 1

/-- Some default names both. -/
def Confused (first second : ExecutionProfile) : Prop :=
  ∃ default, namedBy default first = true ∧ namedBy default second = true

theorem filter_length_le_one_iff {α ι : Type*} {p : ι → α → Bool} {items : List α} :
    (∀ i, (items.filter (p i)).length ≤ 1)
      ↔ items.Pairwise fun a b => ¬ ∃ i, p i a = true ∧ p i b = true := by
  induction items with
  | nil => exact iff_of_true (fun _ => Nat.zero_le 1) List.Pairwise.nil
  | cons a rest ih =>
      rw [List.pairwise_cons, ← ih]
      constructor
      · intro h
        refine ⟨?_, fun i => ?_⟩
        · rintro b hb ⟨i, ha, hbi⟩
          have hle := h i
          rw [List.filter_cons_of_pos ha, List.length_cons] at hle
          have hpos := List.length_pos_of_mem (List.mem_filter.mpr ⟨hb, hbi⟩)
          omega
        · exact (((List.sublist_cons_self a rest).filter (p i)).length_le).trans (h i)
      · rintro ⟨hapart, hrest⟩ i
        cases ha : p i a with
        | false =>
            rw [List.filter_cons_of_neg (by rw [ha]; exact Bool.false_ne_true)]
            exact hrest i
        | true =>
            have hnone : rest.filter (p i) = [] :=
              List.filter_eq_nil_iff.mpr fun b hb hbi => hapart b hb ⟨i, ha, hbi⟩
            rw [List.filter_cons_of_pos ha, hnone]
            exact Nat.le_refl 1

variable {profiles : List ExecutionProfile} {profile : ExecutionProfile} {used : List String}

theorem defaultNamesOne_iff :
    DefaultNamesOne profiles ↔ profiles.Pairwise fun first second => ¬ Confused first second :=
  filter_length_le_one_iff

/-- The names a default may be one of. -/
structure ProfileNames where
  id : String
  label : String
  workspace : String

def ExecutionProfile.names (profile : ExecutionProfile) : ProfileNames where
  id := profile.profileId
  label := profile.instanceName
  workspace := profile.workspaceNamespace

def ExecutionProfileConfig.names (entry : ExecutionProfileConfig) : ProfileNames where
  id := entry.safeId
  label := entry.label
  workspace := entry.safeNamespace

/-- The id and the namespace are safe. -/
structure ProfileNames.Safe (names : ProfileNames) : Prop where
  id : safeIdentifier names.id = names.id
  workspace : safeIdentifier names.workspace = names.workspace

/-- No default is among both. -/
structure ProfileNames.Apart (first second : ProfileNames) : Prop where
  ids : first.id ≠ second.id
  workspaces : first.workspace ≠ second.workspace
  labels : first.label ≠ second.label
  idLabel : first.id ≠ second.label
  labelId : first.label ≠ second.id
  idWorkspace : first.id ≠ second.workspace
  workspaceId : first.workspace ≠ second.id
  labelWorkspace : safeIdentifier first.label ≠ second.workspace
  workspaceLabel : first.workspace ≠ safeIdentifier second.label

theorem namedBy_iff {default : String} :
    namedBy default profile = true ↔ profile.names.id = default ∨ profile.names.label = default
      ∨ profile.names.workspace = safeIdentifier default := by
  simp only [namedBy, Bool.or_eq_true, beq_iff_eq, or_assoc, ExecutionProfile.names]

theorem not_confused_iff {first second : ExecutionProfile} (hfirst : first.names.Safe)
    (hsecond : second.names.Safe) :
    ¬ Confused first second ↔ first.names.Apart second.names := by
  constructor
  · intro h
    have hboth : ∀ default, namedBy default first = true → namedBy default second = true → False :=
      fun default hone htwo => h ⟨default, hone, htwo⟩
    simp only [namedBy_iff] at hboth
    exact {
      ids := fun heq => hboth _ (Or.inl rfl) (Or.inl heq.symm)
      workspaces := fun heq => hboth first.names.workspace
        (Or.inr (Or.inr hfirst.workspace.symm)) (Or.inr (Or.inr (heq ▸ hfirst.workspace.symm)))
      labels := fun heq => hboth _ (Or.inr (Or.inl rfl)) (Or.inr (Or.inl heq.symm))
      idLabel := fun heq => hboth _ (Or.inl rfl) (Or.inr (Or.inl heq.symm))
      labelId := fun heq => hboth _ (Or.inr (Or.inl rfl)) (Or.inl heq.symm)
      idWorkspace := fun heq => hboth _ (Or.inl rfl) (Or.inr (Or.inr (by rw [← heq, hfirst.id])))
      workspaceId := fun heq => hboth second.names.id
        (Or.inr (Or.inr (by rw [heq, hsecond.id]))) (Or.inl rfl)
      labelWorkspace := fun heq => hboth _ (Or.inr (Or.inl rfl)) (Or.inr (Or.inr heq.symm))
      workspaceLabel := fun heq => hboth _ (Or.inr (Or.inr heq)) (Or.inr (Or.inl rfl)) }
  · rintro h ⟨default, hone, htwo⟩
    rcases namedBy_iff.mp hone with rfl | rfl | hone <;>
      rcases namedBy_iff.mp htwo with heq | heq | heq
    · exact h.ids heq.symm
    · exact h.idLabel heq.symm
    · exact h.idWorkspace (heq.trans hfirst.id).symm
    · exact h.labelId heq.symm
    · exact h.labels heq.symm
    · exact h.labelWorkspace heq.symm
    · exact h.workspaceId (hone.trans (heq ▸ hsecond.id))
    · exact h.workspaceLabel (heq ▸ hone)
    · exact h.workspaces (hone.trans heq.symm)

theorem distinctNamespaces_iff :
    DistinctNamespaces profiles ↔ profiles.Pairwise fun first second =>
      first.names.id ≠ second.names.id ∧ first.names.workspace ≠ second.names.workspace := by
  rw [List.pairwise_and_iff]
  constructor
  · rintro ⟨hids, hworkspaces⟩
    exact ⟨List.pairwise_map.mp hids, List.pairwise_map.mp hworkspaces⟩
  · rintro ⟨hids, hworkspaces⟩
    exact ⟨List.pairwise_map.mpr hids, List.pairwise_map.mpr hworkspaces⟩

/-- Profiles with safe names are distinct, and told apart by every default, exactly when
they are apart two by two. -/
theorem distinct_and_named_iff (hsafe : ∀ profile ∈ profiles, profile.names.Safe) :
    DistinctNamespaces profiles ∧ DefaultNamesOne profiles
      ↔ profiles.Pairwise fun first second => first.names.Apart second.names := by
  have happart : DefaultNamesOne profiles
      ↔ profiles.Pairwise fun first second => first.names.Apart second.names := by
    rw [defaultNamesOne_iff]
    refine List.Pairwise.iff_of_mem fun {first second} hfirst hsecond => ?_
    exact not_confused_iff (hsafe first hfirst) (hsafe second hsecond)
  rw [happart]
  refine and_iff_right_of_imp fun h => ?_
  exact distinctNamespaces_iff.mpr (h.imp fun {first second} hapart => ⟨hapart.ids, hapart.workspaces⟩)

/-! ## Entries of the workflow -/

def namedEntries (entries : List ExecutionProfileConfig) : List ExecutionProfileConfig :=
  entries.filter fun entry => Text.trim entry.id != ""

theorem explicitProfiles_eq (entries : List ExecutionProfileConfig) :
    explicitProfiles entries = (namedEntries entries).map ExecutionProfileConfig.profile := by
  unfold explicitProfiles namedEntries
  induction entries with
  | nil => rfl
  | cons entry rest ih =>
      by_cases hblank : Text.trim entry.id = ""
      · rw [List.filterMap_cons, if_pos hblank, List.filter_cons_of_neg (by simp [hblank])]
        exact ih
      · rw [List.filterMap_cons, if_neg hblank, List.filter_cons_of_pos (by simp [hblank]),
          List.map_cons]
        exact congrArg _ ih

theorem ExecutionProfileConfig.safe_names (entry : ExecutionProfileConfig) : entry.profile.names.Safe where
  id := safeIdentifier_idem _
  workspace := by
    show safeIdentifier entry.safeNamespace = entry.safeNamespace
    unfold safeNamespace
    cases entry.workspaceNamespace with
    | none => exact safeIdentifier_idem _
    | some name => exact safeIdentifier_idem _

theorem explicit_distinct_iff (entries : List ExecutionProfileConfig) :
    DistinctNamespaces (explicitProfiles entries)
      ↔ ((namedEntries entries).map ExecutionProfileConfig.safeId).Nodup
        ∧ ((namedEntries entries).map ExecutionProfileConfig.safeNamespace).Nodup := by
  rw [explicitProfiles_eq]
  constructor
  · rintro ⟨hids, hworkspaces⟩
    rw [List.map_map] at hids hworkspaces
    exact ⟨hids, hworkspaces⟩
  · rintro ⟨hids, hworkspaces⟩
    exact ⟨by rw [List.map_map]; exact hids, by rw [List.map_map]; exact hworkspaces⟩

theorem explicit_named_iff (entries : List ExecutionProfileConfig) :
    DistinctNamespaces (explicitProfiles entries) ∧ DefaultNamesOne (explicitProfiles entries)
      ↔ (namedEntries entries).Pairwise fun first second => first.names.Apart second.names := by
  rw [explicitProfiles_eq, distinct_and_named_iff, List.pairwise_map]
  · rfl
  · intro profile hprofile
    obtain ⟨entry, -, rfl⟩ := List.mem_map.mp hprofile
    exact entry.safe_names

/-! ## Instances of the cockpit -/

def namedInstances (instances : List CockpitCodexInstance) : List CockpitCodexInstance :=
  instances.filter fun codex => Text.trim codex.name != ""

theorem cockpitInstancesFrom_eq (instances : List CockpitCodexInstance) : ∀ used : List String,
    cockpitInstancesFrom used instances
      = List.zipWith CockpitCodexInstance.profile (namedInstances instances)
        (Naming.assign CockpitCodexInstance.baseNamespace CockpitCodexInstance.longNamespace used
          (namedInstances instances)) := by
  induction instances with
  | nil => exact fun _ => rfl
  | cons codex rest ih =>
      intro used
      unfold namedInstances at ih ⊢
      by_cases hblank : Text.trim codex.name = ""
      · rw [cockpitInstancesFrom, if_pos hblank, List.filter_cons_of_neg (by simp [hblank])]
        exact ih used
      · rw [cockpitInstancesFrom, if_neg hblank, List.filter_cons_of_pos (by simp [hblank]),
          Naming.assign, List.zipWith_cons_cons, ← ih]
        rfl

/-- The profiles of instances that have names, with those in use. -/
def cockpitNamed (used : List String) (items : List CockpitCodexInstance) : List ExecutionProfile :=
  List.zipWith CockpitCodexInstance.profile items
    (Naming.assign CockpitCodexInstance.baseNamespace CockpitCodexInstance.longNamespace used items)

section
variable {items : List CockpitCodexInstance}

theorem cockpitNamed_cons (used : List String) (codex : CockpitCodexInstance)
    (rest : List CockpitCodexInstance) :
    cockpitNamed used (codex :: rest)
      = codex.profile (Naming.pick CockpitCodexInstance.baseNamespace
          CockpitCodexInstance.longNamespace used codex)
        :: cockpitNamed (Naming.pick CockpitCodexInstance.baseNamespace
          CockpitCodexInstance.longNamespace used codex :: used) rest := rfl

theorem map_namespace_cockpitNamed : ∀ used : List String,
    (cockpitNamed used items).map ExecutionProfile.workspaceNamespace
      = Naming.assign CockpitCodexInstance.baseNamespace CockpitCodexInstance.longNamespace used
        items := by
  induction items with
  | nil => exact fun _ => rfl
  | cons codex rest ih =>
      intro used
      rw [cockpitNamed_cons, List.map_cons, ih, Naming.assign]
      rfl

theorem mem_cockpitNamed (h : profile ∈ cockpitNamed used items) :
    ∃ codex ∈ items, ∃ name, profile = codex.profile name
      ∧ (name = codex.baseNamespace ∨ name = codex.longNamespace) := by
  induction items generalizing used with
  | nil => cases h
  | cons codex rest ih =>
      rw [cockpitNamed_cons] at h
      rcases List.mem_cons.mp h with rfl | hrest
      · refine ⟨codex, List.mem_cons_self, _, rfl, ?_⟩
        unfold Naming.pick
        split
        · exact Or.inr rfl
        · exact Or.inl rfl
      · obtain ⟨other, hmem, hprofile⟩ := ih hrest
        exact ⟨other, List.mem_cons_of_mem codex hmem, hprofile⟩

theorem exists_of_mem_items (used : List String) {codex : CockpitCodexInstance} (h : codex ∈ items) :
    ∃ name, codex.profile name ∈ cockpitNamed used items := by
  induction items generalizing used with
  | nil => cases h
  | cons other rest ih =>
      rw [cockpitNamed_cons]
      rcases List.mem_cons.mp h with rfl | hrest
      · exact ⟨_, List.mem_cons_self⟩
      · obtain ⟨name, hmem⟩ := ih _ hrest
        exact ⟨name, List.mem_cons_of_mem _ hmem⟩

theorem nodup_of_apart
    (h : (cockpitNamed used items).Pairwise fun first second => first.names.Apart second.names)
    (hfree : ∀ codex ∈ items, codex.baseNamespace ∉ used) :
    (items.map CockpitCodexInstance.baseNamespace).Nodup := by
  induction items generalizing used with
  | nil => exact List.nodup_nil
  | cons codex rest ih =>
      have hpick : Naming.pick CockpitCodexInstance.baseNamespace
          CockpitCodexInstance.longNamespace used codex = codex.baseNamespace :=
        if_neg (hfree codex List.mem_cons_self)
      rw [cockpitNamed_cons, hpick, List.pairwise_cons] at h
      have hlater : ∀ other ∈ rest, codex.baseNamespace ≠ other.baseNamespace := by
        intro other hother
        obtain ⟨name, hmem⟩ := exists_of_mem_items (codex.baseNamespace :: used) hother
        exact (h.1 _ hmem).workspaceLabel
      rw [List.map_cons, List.nodup_cons]
      refine ⟨fun hmem => ?_, ih h.2 fun other hother => ?_⟩
      · obtain ⟨other, hother, heq⟩ := List.mem_map.mp hmem
        exact hlater other hother heq.symm
      · exact List.not_mem_cons_of_ne_of_not_mem (hlater other hother).symm
          (hfree other (List.mem_cons_of_mem codex hother))

theorem cockpit_apart_of_ne {first second : CockpitCodexInstance}
    (h : first.baseNamespace ≠ second.baseNamespace) :
    (first.profile first.baseNamespace).names.Apart
      (second.profile second.baseNamespace).names where
  ids := h
  workspaces := h
  labels heq := h (congrArg safeIdentifier heq)
  idLabel heq := h ((safeIdentifier_idem _).symm.trans (congrArg safeIdentifier heq))
  labelId heq := h ((congrArg safeIdentifier heq).trans (safeIdentifier_idem _))
  idWorkspace := h
  workspaceId := h
  labelWorkspace := h
  workspaceLabel := h

theorem cockpit_safe (h : profile ∈ cockpitNamed used items) : profile.names.Safe := by
  obtain ⟨codex, -, name, rfl, hname⟩ := mem_cockpitNamed h
  have hsafe : safeIdentifier name = name := by
    rcases hname with rfl | rfl <;> exact safeIdentifier_idem _
  exact ⟨hsafe, hsafe⟩

theorem cockpit_apart_iff :
    (cockpitNamed [] items).Pairwise (fun first second => first.names.Apart second.names)
      ↔ (items.map CockpitCodexInstance.baseNamespace).Nodup := by
  refine ⟨fun h => nodup_of_apart h fun _ _ => List.not_mem_nil, fun h => ?_⟩
  have hprofiles : cockpitNamed [] items = items.map fun codex => codex.profile codex.baseNamespace := by
    rw [cockpitNamed, Naming.assign_eq_map h fun _ _ => List.not_mem_nil, List.zipWith_map_right,
      List.zipWith_self]
  rw [hprofiles, List.pairwise_map]
  exact (List.pairwise_map.mp h).imp cockpit_apart_of_ne

theorem cockpit_distinct_iff :
    DistinctNamespaces (cockpitNamed [] items)
      ↔ ∀ before codex, before ++ [codex] <+: items →
        Naming.Taken CockpitCodexInstance.baseNamespace CockpitCodexInstance.longNamespace before
            codex.baseNamespace →
          ¬ Naming.Taken CockpitCodexInstance.baseNamespace CockpitCodexInstance.longNamespace
            before codex.longNamespace := by
  have hids : (cockpitNamed [] items).map ExecutionProfile.profileId
      = (cockpitNamed [] items).map ExecutionProfile.workspaceNamespace := by
    refine List.map_congr_left fun profile hprofile => ?_
    obtain ⟨codex, -, name, rfl, -⟩ := mem_cockpitNamed hprofile
    rfl
  rw [← Naming.nodup_assign_iff, ← map_namespace_cockpitNamed]
  exact ⟨DistinctNamespaces.namespaces, fun h => ⟨hids ▸ h, h⟩⟩

end

/-! ## The discovered profiles -/

theorem cockpitInstancesToProfiles_eq (instances : List CockpitCodexInstance) :
    cockpitInstancesToProfiles instances = cockpitNamed [] (namedInstances instances) :=
  cockpitInstancesFrom_eq instances []

theorem cockpit_isEmpty_iff (instances : List CockpitCodexInstance) :
    (cockpitInstancesToProfiles instances).isEmpty = true ↔ namedInstances instances = [] := by
  rw [cockpitInstancesToProfiles_eq, List.isEmpty_iff]
  cases namedInstances instances with
  | nil => exact iff_of_true rfl rfl
  | cons codex rest => exact iff_of_false nofun nofun

/-- The instances that have a name come to namespaces of their own: none that finds its
name taken before it finds the name with its id taken as well. Without any, the entries have
safe ids and namespaces of their own. -/
def NamespacesApart (instances : List CockpitCodexInstance)
    (entries : List ExecutionProfileConfig) : Prop :=
  if namedInstances instances = [] then
    ((namedEntries entries).map ExecutionProfileConfig.safeId).Nodup
      ∧ ((namedEntries entries).map ExecutionProfileConfig.safeNamespace).Nodup
  else
    ∀ before codex, before ++ [codex] <+: namedInstances instances →
      Naming.Taken CockpitCodexInstance.baseNamespace CockpitCodexInstance.longNamespace before
          codex.baseNamespace →
        ¬ Naming.Taken CockpitCodexInstance.baseNamespace CockpitCodexInstance.longNamespace before
          codex.longNamespace

/-- The instances have safe names of their own. Without any, no default is among the
names of two entries. -/
def DefaultsApart (instances : List CockpitCodexInstance)
    (entries : List ExecutionProfileConfig) : Prop :=
  if namedInstances instances = [] then
    (namedEntries entries).Pairwise fun first second => first.names.Apart second.names
  else ((namedInstances instances).map CockpitCodexInstance.baseNamespace).Nodup

/-- **When execution profiles have names of their own**: their ids and namespaces are
distinct exactly when the namespaces of their sources are apart, and a default names one
of them at most exactly when the defaults are. -/
theorem execution_profiles_distinct_iff (store : InstanceStore) (config : ProfilesConfig)
    (instances : List CockpitCodexInstance) (profiles : List ExecutionProfile)
    (hloaded : loadedInstances store config = .ok instances)
    (hdiscovered : discoverExecutionProfiles store config = .ok profiles) :
    (DistinctNamespaces profiles ↔ NamespacesApart instances config.entries)
      ∧ (DistinctNamespaces profiles ∧ DefaultNamesOne profiles
        ↔ DefaultsApart instances config.entries) := by
  have hprofiles : profiles = if (cockpitInstancesToProfiles instances).isEmpty then
      explicitProfiles config.entries else cockpitInstancesToProfiles instances := by
    rw [discoverExecutionProfiles, hloaded] at hdiscovered
    exact (Except.ok.inj hdiscovered).symm
  unfold NamespacesApart DefaultsApart
  by_cases hnone : namedInstances instances = []
  · rw [if_pos hnone, if_pos hnone, hprofiles, if_pos ((cockpit_isEmpty_iff instances).mpr hnone)]
    exact ⟨explicit_distinct_iff _, explicit_named_iff _⟩
  · rw [if_neg hnone, if_neg hnone, hprofiles, if_neg fun h => hnone ((cockpit_isEmpty_iff _).mp h),
      cockpitInstancesToProfiles_eq]
    exact ⟨cockpit_distinct_iff,
      (distinct_and_named_iff fun _ hprofile => cockpit_safe hprofile).trans cockpit_apart_iff⟩

/-! ## Profiles that share a namespace -/

def sampleInstance (id name : String) : CockpitCodexInstance where
  id := id
  name := name
  userDataDir := "/cockpit"
  workingDir := none
  extraArgs := ""

def sampleEntry (id : String) : ExecutionProfileConfig where
  id := id
  instanceName := none
  backend := none
  workspaceNamespace := none
  userDataDir := none
  workingDir := none
  extraArgs := none
  env := []

/-- The second `a` falls back to the name of the first instance. -/
def sharedInstances : List CockpitCodexInstance :=
  [sampleInstance "3" "a-2", sampleInstance "1" "a", sampleInstance "2" "a"]

def cockpitConfig : ProfilesConfig where
  default := none
  codexInstancesPath := some "/cockpit/instances.json"
  entries := []

def entriesConfig : ProfilesConfig where
  default := none
  codexInstancesPath := none
  entries := [sampleEntry "a b", sampleEntry "a_b"]

theorem execution_profiles_distinct_shared :
    DistinctNamespaces (cockpitInstancesToProfiles sharedInstances)
        ↔ NamespacesApart sharedInstances cockpitConfig.entries :=
  (execution_profiles_distinct_iff (fun _ => some (.ok sharedInstances)) cockpitConfig sharedInstances
    (cockpitInstancesToProfiles sharedInstances) rfl rfl).1

/-- Two instances share a namespace, and so do two entries with distinct ids. -/
theorem profiles_share_namespace :
    (∃ profiles, discoverExecutionProfiles (fun _ => some (.ok sharedInstances)) cockpitConfig
        = .ok profiles ∧ ¬ DistinctNamespaces profiles)
      ∧ (entriesConfig.entries.map ExecutionProfileConfig.id).Nodup
      ∧ ∃ profiles, discoverExecutionProfiles (fun _ => none) entriesConfig = .ok profiles
        ∧ ¬ DistinctNamespaces profiles := by
  refine ⟨⟨_, rfl, fun h => ?_⟩, by decide, ⟨_, rfl, fun h => ?_⟩⟩
  · exact absurd h.ids (by decide)
  · exact absurd h.ids (by decide)

end SheaSymphony.Profiles

import SheaSymphony.Readiness
import SheaSymphony.RuntimeProfile

/-!
# What a ready runtime profile tells

A profile that is reported ready names the tracker's repository, and its sources have the
recorded blobs. That a tool prints the recorded version is a search in its output, and the
names in the evidence are not all checked: the report is sound unless a version stands in
the output inside of a longer one only, or a name has a control character
(`ready_sound_iff`).
-/

namespace SheaSymphony.RuntimeProfiles

open Fallible

/-- No control character, so no line end either. -/
def Clean (text : String) : Prop := ∀ c ∈ text.toList, Text.isControl c = false

instance (text : String) : Decidable (Clean text) := List.decidableBAll _ _

/-- The version stands somewhere in the text with no character of a version before or
behind it. -/
def StandsWhole (inVersion : Char → Bool) (version text : String) : Prop :=
  ∃ front back, text.toList = front ++ version.toList ++ back
    ∧ (∀ c ∈ front.getLast?, inVersion c = false) ∧ (∀ c ∈ back.head?, inVersion c = false)

section

variable (inVersion : Char → Bool) (machine : Machine) (config : RuntimeProfileConfig)
  (tracker : TrackerRepository) (workspace : String)

/-- The blob `git` answers for a source. -/
def HasBlob (profile : RuntimeProfile) (source : RuntimeRequirementSource) : Prop :=
  ∃ output, machine.hashObject profile.environment workspace source.path = .ok output
    ∧ output.success = true ∧ Text.toAsciiLowercase (Text.trim output.stdout) = source.gitBlob

/-- The probe of a tool has succeeded with this output. -/
def Prints (profile : RuntimeProfile) (tool : RuntimeTool) (output : CommandOutput) : Prop :=
  machine.probe tool profile.environment workspace (max config.timeoutMs 1) = .exited output
    ∧ output.success = true

/-- What a report of readiness promises. -/
structure Sound (profile : RuntimeProfile) (report : RuntimeReadinessReport) : Prop where
  repository : ∀ owner repo, tracker.owner = some owner → tracker.repo = some repo →
    profile.repository.id = owner ++ "/" ++ repo
  sources : ∀ source ∈ profile.requirementSources, HasBlob machine workspace profile source
  versions : ∀ tool ∈ profile.tools, ∃ output, Prints machine config workspace profile tool output
    ∧ StandsWhole inVersion (Text.trim tool.observedVersion) output.combined
  evidence : ∀ line ∈ report.evidence, Clean line

/-- The checks a profile has to pass, as the code makes them. -/
structure Accepted (profile : RuntimeProfile) : Prop where
  present : machine.isFile config.path = true
  read : ∃ content, machine.readToString config.path = .ok content
    ∧ machine.decode content = .ok profile
  valid : validateRuntimeProfile profile = .ok ()
  repository : ∀ owner repo, tracker.owner = some owner → tracker.repo = some repo →
    profile.repository.id = owner ++ "/" ++ repo
  sources : ∀ source ∈ profile.requirementSources,
    machine.isFile (MainHandoff.joinPath workspace source.path) = true
      ∧ HasBlob machine workspace profile source
  tools : ∀ tool ∈ profile.tools, machine.isFile tool.executable = true
    ∧ ∃ output, Prints machine config workspace profile tool output
      ∧ Text.contains output.combined (Text.trim tool.observedVersion) = true

/-- What the checks leave open. -/
structure Legible (profile : RuntimeProfile) : Prop where
  /-- No version stands in the output of its tool inside of longer ones only. -/
  versions : ∀ tool ∈ profile.tools, ∀ output, Prints machine config workspace profile tool output →
    Text.contains output.combined (Text.trim tool.observedVersion) = true →
    StandsWhole inVersion (Text.trim tool.observedVersion) output.combined
  profileId : Clean profile.profileId
  repositoryId : Clean profile.repository.id
  sources : ∀ source ∈ profile.requirementSources, Clean source.path
  tools : ∀ tool ∈ profile.tools, Clean tool.id ∧ Clean tool.executable

end

/-! ## The form of a valid profile -/

section

variable {profile : RuntimeProfile}

theorem clean_of_hasControl {text : String} (h : hasControl text = false) : Clean text :=
  fun c hc => by simpa using List.any_eq_false.mp h c hc

theorem isControl_of_isBlobDigit {c : Char} (h : isBlobDigit c = true) : Text.isControl c = false := by
  rw [isBlobDigit, Bool.or_eq_true] at h
  rcases h with hdigit | hletter
  · simp only [Char.isDigit, Bool.and_eq_true, decide_eq_true_eq, UInt32.le_iff_toNat_le] at hdigit
    change 48 ≤ c.toNat ∧ c.toNat ≤ 57 at hdigit
    simp only [Text.isControl, Bool.or_eq_false_iff, Bool.and_eq_false_iff, decide_eq_false_iff_not]
    omega
  · simp only [List.contains_eq_mem, List.mem_cons, List.not_mem_nil, or_false,
      decide_eq_true_eq] at hletter
    rcases hletter with rfl | rfl | rfl | rfl | rfl | rfl <;> decide

theorem validateSources_ok {seen : List Paths.Path} {sources : List RuntimeRequirementSource}
    (h : validateSources seen sources = .ok ()) : ∀ source ∈ sources, Clean source.gitBlob := by
  induction sources generalizing seen with
  | nil => exact fun source hsource => absurd hsource List.not_mem_nil
  | cons source sources ih =>
      rw [validateSources] at h
      obtain ⟨-, -, h⟩ := bind_eq_ok h
      obtain ⟨-, -, h⟩ := bind_eq_ok h
      obtain ⟨⟨⟩, hblob, hrest⟩ := bind_eq_ok h
      rw [validateSource, require_eq_ok, Bool.and_eq_true, List.all_eq_true] at hblob
      exact List.forall_mem_cons.mpr
        ⟨fun c hc => isControl_of_isBlobDigit (hblob.2 c hc), ih hrest⟩

theorem validateTools_ok {seen : List String} {tools : List RuntimeTool}
    (h : validateTools seen tools = .ok ()) : ∀ tool ∈ tools, Clean tool.observedVersion := by
  induction tools generalizing seen with
  | nil => exact fun tool htool => absurd htool List.not_mem_nil
  | cons tool tools ih =>
      rw [validateTools] at h
      obtain ⟨-, -, h⟩ := bind_eq_ok h
      obtain ⟨-, -, h⟩ := bind_eq_ok h
      obtain ⟨⟨⟩, htool, hrest⟩ := bind_eq_ok h
      rw [validateTool] at htool
      obtain ⟨-, -, htool⟩ := bind_eq_ok htool
      obtain ⟨hversion, -⟩ := require_bind_eq_ok.mp htool
      rw [Bool.not_eq_true', Bool.or_eq_false_iff] at hversion
      exact List.forall_mem_cons.mpr ⟨clean_of_hasControl hversion.2, ih hrest⟩

theorem clean_of_valid (h : validateRuntimeProfile profile = .ok ()) :
    (∀ source ∈ profile.requirementSources, Clean source.gitBlob)
      ∧ ∀ tool ∈ profile.tools, Clean tool.observedVersion := by
  rw [validateRuntimeProfile] at h
  obtain ⟨-, h⟩ := require_bind_eq_ok.mp h
  obtain ⟨-, -, h⟩ := bind_eq_ok h
  obtain ⟨-, -, h⟩ := bind_eq_ok h
  obtain ⟨-, h⟩ := require_bind_eq_ok.mp h
  obtain ⟨-, h⟩ := require_bind_eq_ok.mp h
  obtain ⟨-, h⟩ := require_bind_eq_ok.mp h
  obtain ⟨-, h⟩ := require_bind_eq_ok.mp h
  obtain ⟨⟨⟩, hsources, h⟩ := bind_eq_ok h
  obtain ⟨⟨⟩, htools, -⟩ := bind_eq_ok h
  exact ⟨validateSources_ok hsources, validateTools_ok htools⟩

end

/-! ## The evidence -/

theorem clean_append {front back : String} : Clean (front ++ back) ↔ Clean front ∧ Clean back := by
  simp only [Clean, String.toList_append, List.mem_append, or_imp, forall_and]

theorem clean_toString (n : Nat) : Clean (toString n) := by
  intro c hc
  have hdigit : c.isDigit = true := Codes.isDigit_of_mem_decimal (n := n) <| by
    rwa [show (toString n).toList = Codes.decimal n from Nat.toList_repr] at hc
  exact isControl_of_isBlobDigit (by rw [isBlobDigit, hdigit, Bool.true_or])

theorem clean_join {separator : String} (h : Clean separator) {parts : List String}
    (hparts : ∀ part ∈ parts, Clean part) : Clean (Text.join separator parts) := by
  induction parts with
  | nil => exact fun c hc => absurd hc List.not_mem_nil
  | cons part parts ih =>
      obtain ⟨hpart, hrest⟩ := List.forall_mem_cons.mp hparts
      cases parts with
      | nil => rwa [Text.join_singleton]
      | cons next parts =>
          rw [Text.join_cons _ (List.cons_ne_nil next parts)]
          exact clean_append.mpr ⟨clean_append.mpr ⟨hpart, h⟩, ih hrest⟩

theorem clean_collapse {text : String} (h : Clean text) : Clean (Text.collapseWhitespace text) := by
  refine clean_join (by decide) fun word hword => ?_
  obtain ⟨run, hrun, rfl⟩ := List.mem_map.mp hword
  intro c hc
  rw [String.toList_ofList] at hc
  exact h c (Text.mem_of_mem_splitOnP (List.mem_of_mem_filter hrun) hc).1

theorem clean_compact {text : String} (h : Clean text) : Clean (compact text) := by
  intro c hc
  rw [compact, String.toList_ofList] at hc
  exact clean_collapse h c (List.mem_of_mem_take hc)

section

variable {profile : RuntimeProfile}

theorem clean_runtimeEvidence :
    Clean (runtimeEvidence profile) ↔ Clean profile.profileId ∧ Clean profile.repository.id := by
  have hschema := clean_toString profile.schemaVersion.toNat
  have hliterals : Clean "runtime_profile=" ∧ Clean " schema=" ∧ Clean " repository=" := by decide
  obtain ⟨hfirst, hsecond, hthird⟩ := hliterals
  unfold runtimeEvidence
  simp only [clean_append, hfirst, hsecond, hthird, hschema, true_and, and_true]

theorem clean_sourceEvidence {source : RuntimeRequirementSource} (h : Clean source.gitBlob) :
    Clean (sourceEvidence source) ↔ Clean source.path := by
  have hliterals : Clean "source=" ∧ Clean " git_blob=" ∧ Clean " status=matched" := by decide
  obtain ⟨hfirst, hsecond, hthird⟩ := hliterals
  unfold sourceEvidence
  simp only [clean_append, hfirst, hsecond, hthird, h, true_and, and_true]

theorem clean_toolEvidence {tool : RuntimeTool} (h : Clean tool.observedVersion) :
    Clean (toolEvidence tool) ↔ Clean tool.id ∧ Clean tool.executable := by
  have hliterals : Clean "tool=" ∧ Clean " executable=" ∧ Clean " version="
      ∧ Clean " status=matched" := by decide
  obtain ⟨hfirst, hsecond, hthird, hfourth⟩ := hliterals
  unfold toolEvidence
  simp only [clean_append, hfirst, hsecond, hthird, hfourth, clean_compact h, true_and, and_true]

def evidence (profile : RuntimeProfile) : List String :=
  runtimeEvidence profile
    :: (profile.requirementSources.map sourceEvidence ++ profile.tools.map toolEvidence)

theorem clean_evidence (h : validateRuntimeProfile profile = .ok ()) :
    (∀ line ∈ evidence profile, Clean line) ↔
      (Clean profile.profileId ∧ Clean profile.repository.id)
        ∧ (∀ source ∈ profile.requirementSources, Clean source.path)
        ∧ ∀ tool ∈ profile.tools, Clean tool.id ∧ Clean tool.executable := by
  obtain ⟨hblobs, hversions⟩ := clean_of_valid h
  rw [evidence, List.forall_mem_cons, List.forall_mem_append, clean_runtimeEvidence,
    List.forall_mem_map, List.forall_mem_map]
  have hsources : (∀ source ∈ profile.requirementSources, Clean (sourceEvidence source))
      ↔ ∀ source ∈ profile.requirementSources, Clean source.path :=
    forall₂_congr fun source hsource => clean_sourceEvidence (hblobs source hsource)
  have htools : (∀ tool ∈ profile.tools, Clean (toolEvidence tool))
      ↔ ∀ tool ∈ profile.tools, Clean tool.id ∧ Clean tool.executable :=
    forall₂_congr fun tool htool => clean_toolEvidence (hversions tool htool)
  rw [hsources, htools]

end

/-! ## The checks -/

section

variable {machine : Machine} {config : RuntimeProfileConfig} {tracker : TrackerRepository}
  {workspace : String} {profile : RuntimeProfile}

theorem loadRuntimeProfile_eq_some :
    loadRuntimeProfile machine config = .ok (some profile) ↔
      machine.isFile config.path = true
        ∧ (∃ content, machine.readToString config.path = .ok content
          ∧ machine.decode content = .ok profile)
        ∧ validateRuntimeProfile profile = .ok () := by
  rw [loadRuntimeProfile]
  cases hfile : machine.isFile config.path with
  | false =>
      cases hrequired : config.required <;> simp
  | true =>
      simp only [Bool.not_true, Bool.false_eq_true, if_false, true_and]
      constructor
      · intro h
        obtain ⟨content, hread, h⟩ := bind_eq_ok h
        obtain ⟨found, hdecode, h⟩ := bind_eq_ok h
        obtain ⟨⟨⟩, hvalid, h⟩ := bind_eq_ok h
        cases h
        exact ⟨⟨content, mapError_eq_ok.mp hread, mapError_eq_ok.mp hdecode⟩,
          mapError_eq_ok.mp hvalid⟩
      · rintro ⟨⟨content, hread, hdecode⟩, hvalid⟩
        have hread' := mapError_eq_ok (f := RuntimeProfileError.io config.path)
          |>.mpr hread
        have hdecode' := mapError_eq_ok (f := RuntimeProfileError.parse config.path)
          |>.mpr hdecode
        have hvalid' := mapError_eq_ok (f := RuntimeProfileError.invalid config.path)
          |>.mpr hvalid
        rw [hread', ok_bind, hdecode', ok_bind, hvalid', ok_bind]

theorem checkRepository_eq_ok :
    checkRepository tracker profile = .ok () ↔
      ∀ owner repo, tracker.owner = some owner → tracker.repo = some repo →
        profile.repository.id = owner ++ "/" ++ repo := by
  rw [checkRepository]
  cases tracker.owner with
  | none => simp
  | some owner =>
      cases tracker.repo with
      | none => simp
      | some repo => simp

theorem gitBlob_eq_ok {source blob : String} {environment : List (String × String)} :
    gitBlobFingerprintInEnvironment machine workspace source environment = .ok blob ↔
      ∃ output, machine.hashObject environment workspace source = .ok output
        ∧ output.success = true ∧ Text.toAsciiLowercase (Text.trim output.stdout) = blob := by
  rw [gitBlobFingerprintInEnvironment]
  cases machine.hashObject environment workspace source with
  | error message => simp
  | ok output => cases hsuccess : output.success <;> simp [hsuccess]

theorem checkSource_eq_ok {source : RuntimeRequirementSource} {line : String} :
    checkSource machine profile workspace source = .ok line ↔
      (machine.isFile (MainHandoff.joinPath workspace source.path) = true
        ∧ HasBlob machine workspace profile source) ∧ sourceEvidence source = line := by
  rw [checkSource, HasBlob, ← gitBlob_eq_ok]
  cases machine.isFile (MainHandoff.joinPath workspace source.path) with
  | false => simp
  | true =>
      cases gitBlobFingerprintInEnvironment machine workspace source.path profile.environment with
      | error error => simp
      | ok actual => by_cases hblob : actual = source.gitBlob <;> simp [hblob]

theorem runToolProbe_eq_ok {tool : RuntimeTool} {text : String} :
    runToolProbe machine tool profile.environment workspace config.timeoutMs = .ok text ↔
      machine.isFile tool.executable = true
        ∧ ∃ output, Prints machine config workspace profile tool output
          ∧ output.combined = text := by
  simp only [runToolProbe, Prints]
  cases machine.isFile tool.executable with
  | false => simp
  | true =>
      cases machine.probe tool profile.environment workspace (max config.timeoutMs 1) with
      | failed message => simp
      | timedOut => simp
      | exited output => cases hsuccess : output.success <;> simp [hsuccess]

theorem checkTool_eq_ok {tool : RuntimeTool} {line : String} :
    checkTool machine profile workspace config.timeoutMs tool = .ok line ↔
      (machine.isFile tool.executable = true
        ∧ ∃ output, Prints machine config workspace profile tool output
          ∧ Text.contains output.combined (Text.trim tool.observedVersion) = true)
        ∧ toolEvidence tool = line := by
  rw [checkTool]
  constructor
  · intro h
    obtain ⟨text, htext, h⟩ := bind_eq_ok h
    obtain ⟨hfile, output, hprints, rfl⟩ := runToolProbe_eq_ok.mp htext
    cases hcontains : Text.contains output.combined (Text.trim tool.observedVersion) with
    | false =>
        rw [hcontains] at h
        cases h
    | true =>
        rw [hcontains] at h
        exact ⟨⟨hfile, output, hprints, hcontains⟩, Except.ok.inj h⟩
  · rintro ⟨⟨hfile, output, hprints, hcontains⟩, rfl⟩
    rw [runToolProbe_eq_ok.mpr ⟨hfile, output, hprints, rfl⟩, ok_bind, hcontains]
    rfl

/-! ## Readiness -/

def readyWith (config : RuntimeProfileConfig) (workspace : String) (profile : RuntimeProfile) :
    ResolvedRuntimeProfile where
  profile := some profile
  report :=
    { ready := true
      status := "ready"
      profileId := some profile.profileId
      profilePath := config.path
      workspace
      evidence := evidence profile }

theorem forall₂_checks {α : Type} {check : α → Except RuntimeProfileError String}
    {passes : α → Prop} {line : α → String}
    (h : ∀ item text, check item = .ok text ↔ passes item ∧ line item = text) {items : List α}
    {out : List String} :
    items.mapM check = .ok out ↔ (∀ item ∈ items, passes item) ∧ items.map line = out := by
  rw [mapM_eq_ok]
  induction items generalizing out with
  | nil => simp [List.forall₂_nil_left_iff, eq_comm]
  | cons item items ih =>
      rw [List.forall_mem_cons, List.map_cons, List.forall₂_cons_left_iff]
      constructor
      · rintro ⟨text, rest, hitem, hitems, rfl⟩
        obtain ⟨hpasses, rfl⟩ := (h _ _).mp hitem
        obtain ⟨hall, rfl⟩ := ih.mp hitems
        exact ⟨⟨hpasses, hall⟩, rfl⟩
      · rintro ⟨⟨hpasses, hall⟩, rfl⟩
        exact ⟨line item, items.map line, (h _ _).mpr ⟨hpasses, rfl⟩, ih.mpr ⟨hall, rfl⟩, rfl⟩

theorem resolveRuntimeReadiness_eq_ok {resolved : ResolvedRuntimeProfile} :
    (resolveRuntimeReadiness machine config tracker workspace = .ok resolved
        ∧ resolved.profile = some profile)
      ↔ Accepted machine config tracker workspace profile
        ∧ resolved = readyWith config workspace profile := by
  rw [resolveRuntimeReadiness]
  constructor
  · rintro ⟨h, hprofile⟩
    obtain ⟨loaded, hloaded, h⟩ := bind_eq_ok h
    cases loaded with
    | none =>
        cases h
        cases hprofile
    | some found =>
        obtain ⟨⟨⟩, hrepository, h⟩ := bind_eq_ok h
        obtain ⟨sources, hsources, h⟩ := bind_eq_ok h
        obtain ⟨tools, htools, h⟩ := bind_eq_ok h
        cases h
        cases hprofile
        obtain ⟨hpresent, hread, hvalid⟩ := loadRuntimeProfile_eq_some.mp hloaded
        obtain ⟨hblobs, rfl⟩ := (forall₂_checks fun _ _ => checkSource_eq_ok).mp hsources
        obtain ⟨hversions, rfl⟩ := (forall₂_checks fun _ _ => checkTool_eq_ok).mp htools
        exact ⟨⟨hpresent, hread, hvalid, checkRepository_eq_ok.mp hrepository, hblobs, hversions⟩,
          rfl⟩
  · rintro ⟨⟨hpresent, hread, hvalid, hrepository, hblobs, hversions⟩, rfl⟩
    have hsources := (forall₂_checks fun source line =>
      @checkSource_eq_ok machine workspace profile source line).mpr ⟨hblobs, rfl⟩
    have htools := (forall₂_checks fun tool line =>
      @checkTool_eq_ok machine config workspace profile tool line).mpr ⟨hversions, rfl⟩
    rw [loadRuntimeProfile_eq_some.mpr ⟨hpresent, hread, hvalid⟩, ok_bind]
    dsimp only
    rw [checkRepository_eq_ok.mpr hrepository, ok_bind, hsources, ok_bind, htools]
    exact ⟨rfl, rfl⟩

/-- **When readiness is sound.** -/
theorem ready_sound_iff (inVersion : Char → Bool) (machine : Machine)
    (config : RuntimeProfileConfig) (tracker : TrackerRepository) (workspace : String) :
    (∀ resolved profile,
        resolveRuntimeReadiness machine config tracker workspace = .ok resolved →
        resolved.report.ready = true → resolved.profile = some profile →
        Sound inVersion machine config tracker workspace profile resolved.report)
      ↔ ∀ profile, Accepted machine config tracker workspace profile →
        Legible inVersion machine config workspace profile := by
  constructor
  · intro h profile haccepted
    obtain ⟨hresolved, hprofile⟩ := resolveRuntimeReadiness_eq_ok.mpr ⟨haccepted, rfl⟩
    have hsound := h _ profile hresolved rfl hprofile
    obtain ⟨⟨hid, hrepository⟩, hsources, htools⟩ :=
      (clean_evidence haccepted.valid).mp hsound.evidence
    exact
      { versions := fun tool htool output hprints _ => by
          obtain ⟨output', hprints', hwhole⟩ := hsound.versions tool htool
          have hsame := hprints.1.symm.trans hprints'.1
          cases hsame
          exact hwhole
        profileId := hid
        repositoryId := hrepository
        sources := hsources
        tools := htools }
  · intro h resolved profile hresolved _ hprofile
    obtain ⟨haccepted, rfl⟩ := resolveRuntimeReadiness_eq_ok.mp ⟨hresolved, hprofile⟩
    have hlegible := h profile haccepted
    exact
      { repository := haccepted.repository
        sources := fun source hsource => (haccepted.sources source hsource).2
        versions := fun tool htool => by
          obtain ⟨-, output, hprints, hcontains⟩ := haccepted.tools tool htool
          exact ⟨output, hprints, hlegible.versions tool htool output hprints hcontains⟩
        evidence := (clean_evidence haccepted.valid).mpr
          ⟨⟨hlegible.profileId, hlegible.repositoryId⟩, hlegible.sources, hlegible.tools⟩ }

end

/-! ## A version inside of another -/

def sampleBlob : String := "e69de29bb2d1d6434b8b29ae775ad8c2e48c5391"

def sampleTool : RuntimeTool where
  id := "node"
  executable := "/usr/bin/node"
  observedVersion := "1.2"
  versionArgs := ["--version"]

def sampleProfile : RuntimeProfile where
  schemaVersion := 1
  profileId := "local"
  generatedAt := "2026-01-01"
  repository := { id := "acme/app" }
  requirementSources := [{ path := "package.json", gitBlob := sampleBlob }]
  tools := [sampleTool]
  environment := []

/-- The machine the profile was made for, with a newer tool. -/
def sampleMachine (printed : String) : Machine where
  isFile _ := true
  readToString _ := .ok "profile"
  decode _ := .ok sampleProfile
  hashObject _ _ _ := .ok { success := true, code := some 0, stdout := sampleBlob ++ "\n", stderr := "" }
  probe _ _ _ _ := .exited { success := true, code := some 0, stdout := printed, stderr := "" }

def sampleConfig : RuntimeProfileConfig where
  path := "/w/.shea/runtime-profile.json"
  required := true
  timeoutMs := 2000

def sampleTracker : TrackerRepository where
  owner := some "acme"
  repo := some "app"

def isVersionChar (c : Char) : Bool := c.isAlphanum || c == '.'

theorem sampleProfile_valid : validateRuntimeProfile sampleProfile = .ok () := by decide

theorem sample_accepted :
    Accepted (sampleMachine "11.25\n") sampleConfig sampleTracker "/w" sampleProfile where
  present := rfl
  read := ⟨"profile", rfl, rfl⟩
  valid := sampleProfile_valid
  repository := by
    rintro owner repo ⟨⟩ ⟨⟩
    decide
  sources := by
    intro source hsource
    rw [List.mem_singleton.mp hsource]
    exact ⟨rfl, _, rfl, rfl, by decide⟩
  tools := by
    intro tool htool
    rw [List.mem_singleton.mp htool]
    exact ⟨rfl, _, ⟨rfl, rfl⟩, by decide⟩

theorem not_standsWhole : ¬ StandsWhole isVersionChar "1.2" "11.25" := by
  rintro ⟨front, back, htext, hfront, -⟩
  match front with
  | [] => cases htext
  | [c] =>
      obtain ⟨hc, -⟩ := List.cons.inj htext
      rw [← hc] at hfront
      exact absurd (hfront '1' rfl) (by decide)
  | [_, _] => cases htext
  | _ :: _ :: _ :: rest =>
      have hlength := congrArg List.length htext
      have htextLength : "11.25".toList.length = 5 := rfl
      have hversionLength : "1.2".toList.length = 3 := rfl
      simp only [List.length_append, List.length_cons, htextLength, hversionLength] at hlength
      omega

/-- A tool that prints 11.25 is certified as the recorded 1.2. -/
theorem newer_tool_certified :
    ∃ resolved, resolveRuntimeReadiness (sampleMachine "11.25\n") sampleConfig sampleTracker "/w"
        = .ok resolved
      ∧ resolved.report.ready = true ∧ resolved.profile = some sampleProfile
      ∧ ¬ Sound isVersionChar (sampleMachine "11.25\n") sampleConfig sampleTracker "/w"
          sampleProfile resolved.report := by
  obtain ⟨hresolved, hprofile⟩ := resolveRuntimeReadiness_eq_ok.mpr ⟨sample_accepted, rfl⟩
  refine ⟨_, hresolved, rfl, hprofile, fun hsound => ?_⟩
  obtain ⟨output, ⟨hprobe, -⟩, hwhole⟩ := hsound.versions sampleTool List.mem_cons_self
  cases hprobe
  have hversion : Text.trim sampleTool.observedVersion = "1.2" := by decide
  have hprinted : CommandOutput.combined
      { success := true, code := some 0, stdout := "11.25\n", stderr := "" } = "11.25" := by
    decide
  rw [hversion, hprinted] at hwhole
  exact not_standsWhole hwhole

end SheaSymphony.RuntimeProfiles

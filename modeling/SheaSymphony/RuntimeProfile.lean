import SheaSymphony.HandoffPlan
import SheaSymphony.Paths

/-!
# The runtime profile of a repository

`runtime_profile.rs` reads a profile of the machine for one repository, checks its form, and
then checks it against the worktree: the repository's name, the git blobs of the recorded
sources, and the version each recorded tool prints. The files, `git` and the tools answer
through `Machine`; a probe is one answer, however often the code has asked for it.
-/

namespace SheaSymphony.RuntimeProfiles

/-! ## The profile -/

structure RuntimeRepositoryIdentity where
  id : String
deriving DecidableEq

structure RuntimeRequirementSource where
  path : String
  gitBlob : String
deriving DecidableEq

structure RuntimeTool where
  id : String
  executable : String
  observedVersion : String
  versionArgs : List String
deriving DecidableEq

structure RuntimeProfile where
  schemaVersion : UInt32
  profileId : String
  generatedAt : String
  repository : RuntimeRepositoryIdentity
  requirementSources : List RuntimeRequirementSource
  tools : List RuntimeTool
  environment : List (String × String)
deriving DecidableEq

structure RuntimeProfileConfig where
  path : String
  required : Bool
  timeoutMs : UInt64
deriving DecidableEq

/-- The part of the tracker's configuration that names the repository. -/
structure TrackerRepository where
  owner : Option String
  repo : Option String
deriving DecidableEq

structure RuntimeReadinessReport where
  ready : Bool
  status : String
  profileId : Option String
  profilePath : String
  workspace : String
  evidence : List String
deriving DecidableEq

structure ResolvedRuntimeProfile where
  profile : Option RuntimeProfile
  report : RuntimeReadinessReport
deriving DecidableEq

inductive RuntimeProfileError where
  | missing (path : String)
  | io (path source : String)
  | parse (path source : String)
  | invalid (path message : String)
  | repositoryMismatch (expected actual : String)
  | drift (path expected actual : String)
  | missingSource (path : String)
  | missingTool (tool path : String)
  | probeFailed (tool message : String)
  | probeTimedOut (tool : String) (timeoutMs : UInt64)
deriving DecidableEq

def RuntimeProfileError.text : RuntimeProfileError → String
  | missing path =>
      "required runtime profile is missing at " ++ path
        ++ "; run the repository onboarding skill and confirm the proposed profile"
  | io path source => "runtime profile io error at " ++ path ++ ": " ++ source
  | parse path source => "runtime profile parse error at " ++ path ++ ": " ++ source
  | invalid path message => "invalid runtime profile at " ++ path ++ ": " ++ message
  | repositoryMismatch expected actual =>
      "runtime profile repository mismatch: expected " ++ expected ++ ", found " ++ actual
        ++ "; rerun repository onboarding"
  | drift path expected actual =>
      "runtime profile drift for " ++ path ++ ": expected git blob " ++ expected ++ ", found "
        ++ actual ++ "; rerun repository onboarding"
  | missingSource path =>
      "runtime profile source is unavailable at " ++ path ++ "; rerun repository onboarding"
  | missingTool tool path =>
      "runtime profile tool " ++ tool ++ " is unavailable at " ++ path
        ++ "; select an installed compatible environment and rerun onboarding"
  | probeFailed tool message =>
      "runtime profile tool probe failed for " ++ tool ++ ": " ++ message
        ++ "; rerun repository onboarding"
  | probeTimedOut tool timeoutMs =>
      "runtime profile tool probe timed out for " ++ tool ++ " after "
        ++ toString timeoutMs.toNat ++ "ms"

/-! ## Its form -/

def hasControl (value : String) : Bool := value.toList.any Text.isControl

def validateIdentifier (label value : String) : Except String Unit := do
  let trimmed := Text.trim value
  Fallible.require (!(trimmed.toList.isEmpty || 128 < Text.byteLength trimmed))
    (label ++ " must be 1..=128 characters")
  Fallible.require (!hasControl trimmed) (label ++ " must not contain control characters")

def validateRelativeSourcePath (path : String) : Except String Unit := do
  Fallible.require (!(path.toList.isEmpty || Paths.isAbsolute path))
    "requirement source paths must be non-empty and repository-relative"
  Fallible.require ((Paths.ofText path).all fun part => part != .parent && part != .root)
    ("requirement source path " ++ path ++ " escapes the repository")

def credentialMarkers : List String :=
  ["token=", "password=", "secret=", "cookie=", "authorization="]

def validateNonSecretValue (label value : String) (maximum : Nat) : Except String Unit := do
  Fallible.require (!(maximum < Text.byteLength value || hasControl value))
    (label ++ " is too long or contains control characters")
  Fallible.require (!credentialMarkers.any (Text.contains (Text.toAsciiLowercase value)))
    (label ++ " appears to contain credential-bearing data")

def validEnvironmentKey (key : String) : Bool :=
  match key.toList with
  | [] => false
  | first :: rest =>
      Text.byteLength key ≤ 64 && (first.isAlpha || first == '_')
        && rest.all fun c => c.isAlphanum || c == '_'

def sensitiveMarkers : List String :=
  ["TOKEN", "SECRET", "PASSWORD", "PASSWD", "COOKIE", "CREDENTIAL", "AUTHORIZATION", "API_KEY",
    "PRIVATE_KEY"]

def isSensitiveName (key : String) : Bool :=
  sensitiveMarkers.any (Text.contains (Text.toAsciiUppercase key))

def injectionNames : List String :=
  ["BASH_ENV", "ENV", "SHELLOPTS", "PROMPT_COMMAND", "PYTHONSTARTUP", "NODE_OPTIONS", "RUBYOPT",
    "PERL5OPT", "JAVA_TOOL_OPTIONS"]

def isProcessInjectionName (key : String) : Bool :=
  let upper := Text.toAsciiUppercase key
  ["LD_", "DYLD_", "GIT_CONFIG"].any (Text.startsWith upper) || injectionNames.contains upper

def safeVersionProbeArgs (arguments : List String) : Bool :=
  match arguments with
  | [argument] => ["--version", "-V", "-v", "version", "-version"].contains argument
  | _ => false

def isBlobDigit (c : Char) : Bool := c.isDigit || ['a', 'b', 'c', 'd', 'e', 'f'].contains c

def validateSource (source : RuntimeRequirementSource) : Except String Unit :=
  Fallible.require (Text.byteLength source.gitBlob == 40 && source.gitBlob.toList.all isBlobDigit)
    ("requirement source " ++ source.path ++ " must contain a 40-character Git blob digest")

/-- `seen` are the paths of the sources before. -/
def validateSources (seen : List Paths.Path) : List RuntimeRequirementSource → Except String Unit
  | [] => .ok ()
  | source :: sources => do
      validateRelativeSourcePath source.path
      Fallible.require (!seen.contains (Paths.ofText source.path))
        ("duplicate requirement source " ++ source.path)
      validateSource source
      validateSources (Paths.ofText source.path :: seen) sources

def validateTool (tool : RuntimeTool) : Except String Unit := do
  Fallible.require (Paths.isAbsolute tool.executable)
    ("tool " ++ tool.id ++ " executable must be an absolute path")
  Fallible.require
    (!(Text.isBlank tool.observedVersion || 256 < Text.byteLength tool.observedVersion
      || hasControl tool.observedVersion))
    ("tool " ++ tool.id ++ " observed_version must be short and non-empty")
  validateNonSecretValue "tool observed_version" tool.observedVersion 256
  Fallible.require (tool.versionArgs.length ≤ 16)
    ("tool " ++ tool.id ++ " version_args may contain at most 16 entries")
  Fallible.require (safeVersionProbeArgs tool.versionArgs)
    ("tool " ++ tool.id ++ " version_args must be one recognized non-destructive version probe")
  tool.versionArgs.forM fun argument => validateNonSecretValue "tool probe argument" argument 512

def validateTools (seen : List String) : List RuntimeTool → Except String Unit
  | [] => .ok ()
  | tool :: tools => do
      validateIdentifier "tool.id" tool.id
      Fallible.require (!seen.contains tool.id) ("duplicate tool id " ++ tool.id)
      validateTool tool
      validateTools (tool.id :: seen) tools

def validateEnvironmentEntry (entry : String × String) : Except String Unit := do
  Fallible.require (validEnvironmentKey entry.1)
    ("unsafe environment key \x60" ++ entry.1 ++ "\x60")
  Fallible.require
    (!(isSensitiveName entry.1 || isProcessInjectionName entry.1
      || Text.startsWith entry.1 "SHEA_SYMPHONY_"))
    ("environment key \x60" ++ entry.1 ++ "\x60 is credential-bearing or reserved")
  validateNonSecretValue "environment value" entry.2 4096

def validateRuntimeProfile (profile : RuntimeProfile) : Except String Unit := do
  Fallible.require (profile.schemaVersion == 1)
    ("unsupported schema_version " ++ toString profile.schemaVersion.toNat ++ "; expected 1")
  validateIdentifier "profile_id" profile.profileId
  validateIdentifier "repository.id" profile.repository.id
  Fallible.require
    (!(Text.isBlank profile.generatedAt || 128 < Text.byteLength profile.generatedAt
      || hasControl profile.generatedAt))
    "generated_at must be a short non-empty timestamp"
  Fallible.require
    (!(profile.requirementSources.isEmpty || 64 < profile.requirementSources.length))
    "requirement_sources must contain 1..=64 entries"
  Fallible.require (!(profile.tools.isEmpty || 32 < profile.tools.length))
    "tools must contain 1..=32 entries"
  Fallible.require (profile.environment.length ≤ 64)
    "environment may contain at most 64 entries"
  validateSources [] profile.requirementSources
  validateTools [] profile.tools
  profile.environment.forM validateEnvironmentEntry

/-! ## The machine -/

/-- What a command has come to, its output read as text. -/
structure CommandOutput where
  success : Bool
  code : Option Int
  stdout : String
  stderr : String
deriving DecidableEq

inductive ProbeAnswer where
  | failed (message : String)
  | exited (output : CommandOutput)
  | timedOut
deriving DecidableEq

structure Machine where
  isFile : String → Bool
  readToString : String → Except String String
  /-- The reader of JSON that is derived for a profile. -/
  decode : String → Except String RuntimeProfile
  /-- `git hash-object` of a source, with this environment, in this worktree. -/
  hashObject : List (String × String) → String → String → Except String CommandOutput
  probe : RuntimeTool → List (String × String) → String → UInt64 → ProbeAnswer

section

variable (machine : Machine)

def loadRuntimeProfile (config : RuntimeProfileConfig) :
    Except RuntimeProfileError (Option RuntimeProfile) :=
  if !machine.isFile config.path then
    if config.required then .error (.missing config.path) else .ok none
  else do
    let content ← (machine.readToString config.path).mapError (.io config.path)
    let profile ← (machine.decode content).mapError (.parse config.path)
    (validateRuntimeProfile profile).mapError (.invalid config.path)
    .ok (some profile)

def compact (value : String) : String :=
  String.ofList ((Text.collapseWhitespace value).toList.take 240)

def gitBlobFingerprintInEnvironment (workspace source : String)
    (environment : List (String × String)) : Except RuntimeProfileError String :=
  match machine.hashObject environment workspace source with
  | .error message => .error (.probeFailed "git-hash-object" message)
  | .ok output =>
      if !output.success then .error (.probeFailed "git-hash-object" (compact output.stderr))
      else .ok (Text.toAsciiLowercase (Text.trim output.stdout))

/-- What a probe has printed, both streams together. -/
def CommandOutput.combined (output : CommandOutput) : String :=
  Text.trim (Text.trim output.stdout ++ " " ++ Text.trim output.stderr)

def runToolProbe (tool : RuntimeTool) (environment : List (String × String)) (workspace : String)
    (timeoutMs : UInt64) : Except RuntimeProfileError String :=
  if !machine.isFile tool.executable then .error (.missingTool tool.id tool.executable)
  else
    match machine.probe tool environment workspace (max timeoutMs 1) with
    | .failed message => .error (.probeFailed tool.id message)
    | .timedOut => .error (.probeTimedOut tool.id timeoutMs)
    | .exited output =>
        if !output.success then
          .error (.probeFailed tool.id
            ("status=" ++ toString (output.code.getD (-1)) ++ "; probe output omitted from evidence"))
        else .ok output.combined

/-! ## Readiness -/

def runtimeEvidence (profile : RuntimeProfile) : String :=
  "runtime_profile=" ++ profile.profileId ++ " schema=" ++ toString profile.schemaVersion.toNat
    ++ " repository=" ++ profile.repository.id

def sourceEvidence (source : RuntimeRequirementSource) : String :=
  "source=" ++ source.path ++ " git_blob=" ++ source.gitBlob ++ " status=matched"

def toolEvidence (tool : RuntimeTool) : String :=
  "tool=" ++ tool.id ++ " executable=" ++ tool.executable ++ " version="
    ++ compact tool.observedVersion ++ " status=matched"

def checkSource (profile : RuntimeProfile) (workspace : String)
    (source : RuntimeRequirementSource) : Except RuntimeProfileError String :=
  if !machine.isFile (MainHandoff.joinPath workspace source.path) then
    .error (.missingSource source.path)
  else do
    let actual ←
      gitBlobFingerprintInEnvironment machine workspace source.path profile.environment
    if actual ≠ source.gitBlob then .error (.drift source.path source.gitBlob actual)
    else .ok (sourceEvidence source)

def checkTool (profile : RuntimeProfile) (workspace : String) (timeoutMs : UInt64)
    (tool : RuntimeTool) : Except RuntimeProfileError String := do
  let output ← runToolProbe machine tool profile.environment workspace timeoutMs
  if !Text.contains output (Text.trim tool.observedVersion) then
    .error (.probeFailed tool.id
      ("observed version mismatch: expected \x60" ++ tool.observedVersion
        ++ "\x60; probe output omitted from evidence"))
  else .ok (toolEvidence tool)

def checkRepository (tracker : TrackerRepository) (profile : RuntimeProfile) :
    Except RuntimeProfileError Unit :=
  match tracker.owner, tracker.repo with
  | some owner, some repo =>
      let expected := owner ++ "/" ++ repo
      if profile.repository.id ≠ expected then
        .error (.repositoryMismatch expected profile.repository.id)
      else .ok ()
  | _, _ => .ok ()

def resolveRuntimeReadiness (config : RuntimeProfileConfig) (tracker : TrackerRepository)
    (workspace : String) : Except RuntimeProfileError ResolvedRuntimeProfile := do
  match ← loadRuntimeProfile machine config with
  | none =>
      .ok
        { profile := none
          report :=
            { ready := true
              status := "skipped:not_configured"
              profileId := none
              profilePath := config.path
              workspace
              evidence :=
                ["runtime_profile=optional_missing compatibility=workflow_profiles_unchanged"] } }
  | some profile =>
      checkRepository tracker profile
      let sources ← profile.requirementSources.mapM (checkSource machine profile workspace)
      let tools ← profile.tools.mapM (checkTool machine profile workspace config.timeoutMs)
      .ok
        { profile := some profile
          report :=
            { ready := true
              status := "ready"
              profileId := some profile.profileId
              profilePath := config.path
              workspace
              evidence := runtimeEvidence profile :: (sources ++ tools) } }

end

end SheaSymphony.RuntimeProfiles

import Mathlib.Data.Finset.Card
import SheaSymphony.Dependencies
import SheaSymphony.Json
import SheaSymphony.Text

/-!
# Groups of a resource manifest

`resolve_resource_closure` of `resource_manifest.rs` up to the selection of the
groups, with `resolve_group`: the core group and the enabled ones are resolved with
the groups they depend on, a group after what it depends on. Reading the files of
the groups is left out.
-/

namespace SheaSymphony.Resources

/-! ## The manifest -/

def resourceManifestSchemaVersion : Nat := 1

structure ResourceGroup where
  optional : Bool
  available : Bool
  dependsOn : List String
deriving DecidableEq

structure ResourceManifest where
  schemaVersion : Nat
  coreGroup : String
  groups : List (String × ResourceGroup)
deriving DecidableEq

inductive ResourceManifestError where
  | invalidWorkflowConfig
  | unsupportedSchema (actual expected : Nat)
  | unknownGroup (group : String)
  | unavailableGroup (group : String)
  | dependencyCycle (group : String)
  | invalidCoreGroup (group : String)
deriving DecidableEq

/-! ## Resolving a group -/

/-- The three accumulators of `resolve_group`. -/
structure Selection where
  visiting : Finset String
  resolved : Finset String
  selected : List String
deriving DecidableEq

def Selection.start : Selection where
  visiting := ∅
  resolved := ∅
  selected := []

/-- Where a resolution ends early: at an error, or below the depth it may recurse to. -/
inductive Halt where
  | tooDeep
  | failed (error : ResourceManifestError)
deriving DecidableEq

def resolveGroup (manifest : ResourceManifest) :
    Nat → Selection → String → Except Halt Selection
  | 0, _, _ => .error .tooDeep
  | depth + 1, selection, groupName =>
      if groupName ∈ selection.resolved then return selection
      else if groupName ∈ selection.visiting then
        .error (.failed (.dependencyCycle groupName))
      else do
        let visiting := insert groupName selection.visiting
        let group ← Fallible.okOr (manifest.groups.lookup groupName)
          (.failed (.unknownGroup groupName))
        Fallible.require group.available (.failed (.unavailableGroup groupName))
        let selection ← group.dependsOn.foldlM (resolveGroup manifest depth)
          { selection with visiting }
        return {
          visiting := selection.visiting.erase groupName
          resolved := insert groupName selection.resolved
          selected := selection.selected ++ [groupName] }

def resolveGroups (manifest : ResourceManifest) (depth : Nat) (requested : List String) :
    Except Halt (List String) := do
  let selection ← requested.foldlM (resolveGroup manifest depth) Selection.start
  return selection.selected

/-! ## What is requested -/

def requestedGroups (manifest : ResourceManifest) (enabledGroups : Option Json) :
    Except ResourceManifestError (List String) :=
  match enabledGroups with
  | none => return [manifest.coreGroup]
  | some groups => do
      let groups ← Fallible.okOr groups.asArray .invalidWorkflowConfig
      let groups ← groups.mapM fun group =>
        Fallible.okOr (group.asStr.filter fun value => !Text.isBlank value) .invalidWorkflowConfig
      return manifest.coreGroup :: groups

def resolveSelectedGroups (manifest : ResourceManifest) (depth : Nat) (enabledGroups : Option Json) :
    Except Halt (List String) := do
  Fallible.require (manifest.schemaVersion == resourceManifestSchemaVersion)
    (.failed (.unsupportedSchema manifest.schemaVersion resourceManifestSchemaVersion))
  let core ← Fallible.okOr (manifest.groups.lookup manifest.coreGroup)
    (.failed (.unknownGroup manifest.coreGroup))
  Fallible.require (!core.optional && core.available) (.failed (.invalidCoreGroup manifest.coreGroup))
  let requested ← (requestedGroups manifest enabledGroups).mapError .failed
  resolveGroups manifest depth requested

end SheaSymphony.Resources

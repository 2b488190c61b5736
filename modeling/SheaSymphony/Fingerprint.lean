import SheaSymphony.Marked
import SheaSymphony.ReviewActions

/-!
# What a configuration fingerprint pins

`configuration_fingerprint` of `app/src-tauri/src/review_actions.rs` hashes the files of the
configuration one behind the other: the path of each, a byte that says whether it is there,
and what is in it. An edit shows in what is hashed exactly when the files are unmistakable:
no file holds, or is followed by, another text that spells the later files
(`edits_detected_iff`).
-/

namespace SheaSymphony.App

/-- What `configuration_fingerprint` gives to the digest of one file. -/
def digestEntry (file : String × Option (List UInt8)) : List UInt8 :=
  Text.bytes file.1 ++
    match file.2 with
    | some bytes => 1 :: bytes
    | none => [0]

def digestInput (files : ConfigurationFiles) : List UInt8 := files.flatMap digestEntry

/-- Behind the presence byte of every file, only one place reads as the files that follow. -/
def ConfigurationFiles.Unmistakable (files : ConfigurationFiles) : Prop :=
  Marked.Unmistakable Text.bytes ((0 : UInt8), 1) files

theorem digestInput_eq (files : ConfigurationFiles) :
    digestInput files = Marked.write Text.bytes ((0 : UInt8), 1) files := by
  have hentry : digestEntry = Marked.entry Text.bytes ((0 : UInt8), 1) := by
    funext file
    obtain ⟨path, - | bytes⟩ := file <;> rfl
  rw [digestInput, hentry, Marked.write]

/-- **Which edits the digest shows.** -/
theorem edits_detected_iff (files : ConfigurationFiles) :
    (∀ later : ConfigurationFiles, later.map Prod.fst = files.map Prod.fst →
        digestInput later = digestInput files → later = files)
      ↔ files.Unmistakable := by
  simp only [digestInput_eq]
  exact Marked.pinned_iff (by decide)

/-! ## A collision -/

/-- The files of a workspace whose two app profiles are these. -/
def profiledFiles (app appLocal : Option (List UInt8)) : ConfigurationFiles :=
  [("/w/WORKFLOW.md", some (Text.bytes "Review the issue.")),
    ("/w/.shea/runtime-profile.json", none), ("/w/.shea/app-profile.json", app),
    ("/w/.shea/app-profile.local.json", appLocal)]

/-- The app profile spells the path of the local one, and that it is there. -/
def spellingProfile : ConfigurationFiles :=
  profiledFiles (some (Text.bytes "/w/.shea/app-profile.local.json" ++ [1])) none

/-- The app profile is emptied and the local one written. -/
def editedProfile : ConfigurationFiles :=
  profiledFiles (some []) (some (Text.bytes "/w/.shea/app-profile.local.json" ++ [0]))

theorem edit_undetected :
    editedProfile.map Prod.fst = spellingProfile.map Prod.fst
      ∧ digestInput editedProfile = digestInput spellingProfile
      ∧ editedProfile ≠ spellingProfile := by
  refine ⟨rfl, ?_, ?_⟩
  · have hlast := @Marked.write_collision _ _ Text.bytes ((0 : UInt8), 1)
      "/w/.shea/app-profile.json" "/w/.shea/app-profile.local.json" []
    rw [digestInput_eq, digestInput_eq, editedProfile, spellingProfile, profiledFiles,
      profiledFiles, @Marked.write_some _ _ _ _ _ "/w/WORKFLOW.md",
      @Marked.write_some _ _ _ _ _ "/w/WORKFLOW.md", Marked.write_none, Marked.write_none, hlast]
  · intro h
    cases congrArg (fun files => files.map fun file => file.2.isSome) h

end SheaSymphony.App

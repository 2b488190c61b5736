import Mathlib.Logic.Function.Basic
import SheaSymphony.Runs

/-!
# A file that several lanes rewrite

A file holds entries with keys. Some lanes modify it in one step; others load it,
go about their business and save a whole new content made from what they loaded. A
save puts back what it does not mean to change as it was when it was loaded, so it
undoes what was written in between. Where nothing is written in between, an entry
stays until a step means to change it (`entry_step`).
-/

namespace SharedFile

variable {L κ ε : Type*}

/-- The content, and what each lane loaded and has not saved yet. -/
structure File (L ε : Type*) where
  content : List ε
  opened : L → Option (List ε)

inductive Access (L ε : Type*) where
  | modify (change : List ε → List ε)
  | load (lane : L)
  | save (lane : L) (rewrite : List ε → Option (List ε))

/-- A file no lane has loaded. -/
def File.closed (content : List ε) : File L ε where
  content := content
  opened _ := none

section
variable [DecidableEq L]

def step (file : File L ε) : Access L ε → File L ε
  | .modify change => { file with content := change file.content }
  | .load lane => { file with opened := Function.update file.opened lane (some file.content) }
  | .save lane rewrite =>
      match file.opened lane with
      | none => file
      | some snapshot =>
          { content := (rewrite snapshot).getD file.content
            opened := Function.update file.opened lane none }

end

/-- What the file holds under a key. -/
def entry [DecidableEq κ] (key : ε → Option κ) (k : κ) (content : List ε) : Option ε :=
  content.find? fun e => decide (key e = some k)

/-- The access means to change the entry: it differs from what the lane saw. -/
def Changes [DecidableEq κ] (key : ε → Option κ) (k : κ) (file : File L ε) : Access L ε → Prop
  | .modify change => entry key k (change file.content) ≠ entry key k file.content
  | .load _ => False
  | .save lane rewrite => ∃ snapshot saved, file.opened lane = some snapshot ∧
      rewrite snapshot = some saved ∧ entry key k saved ≠ entry key k snapshot

/-- Nothing is written while another lane is between its load and its save. -/
def Guarded (file : File L ε) : Access L ε → Prop
  | .modify _ => ∀ lane, file.opened lane = none
  | .load _ => True
  | .save lane _ => ∀ other, other ≠ lane → file.opened other = none

/-- What the lanes loaded is what the file still holds. -/
def Fresh (file : File L ε) : Prop :=
  ∀ lane snapshot, file.opened lane = some snapshot → snapshot = file.content

theorem fresh_closed (content : List ε) : Fresh (File.closed content : File L ε) :=
  fun _ _ h => nomatch h

variable [DecidableEq L]

theorem fresh_step {file : File L ε} (h : Fresh file) {access : Access L ε}
    (hguarded : Guarded file access) : Fresh (step file access) := by
  cases access with
  | modify change =>
      intro lane snapshot hopened
      rw [step, hguarded lane] at hopened
      cases hopened
  | load loading =>
      intro lane snapshot hopened
      change Function.update file.opened loading (some file.content) lane = some snapshot at hopened
      by_cases hlane : lane = loading
      · subst hlane
        rw [Function.update_self] at hopened
        exact (Option.some.inj hopened).symm
      · rw [Function.update_of_ne hlane] at hopened
        exact h lane snapshot hopened
  | save saving rewrite =>
      cases hsaving : file.opened saving with
      | none =>
          rw [step, hsaving]
          exact h
      | some loaded =>
          rw [step, hsaving]
          intro lane snapshot hopened
          change Function.update file.opened saving none lane = some snapshot at hopened
          by_cases hlane : lane = saving
          · subst hlane
            rw [Function.update_self] at hopened
            cases hopened
          · rw [Function.update_of_ne hlane, hguarded lane hlane] at hopened
            cases hopened

/-- An access that does not mean to change an entry leaves it, for what it puts
back is what the file holds. -/
theorem entry_step [DecidableEq κ] (key : ε → Option κ) {k : κ} {file : File L ε} (h : Fresh file)
    {access : Access L ε} (hchanges : ¬Changes key k file access) :
    entry key k (step file access).content = entry key k file.content := by
  cases access with
  | modify change => exact not_not.mp hchanges
  | load lane => rfl
  | save lane rewrite =>
      cases hopened : file.opened lane with
      | none => rw [step, hopened]
      | some snapshot =>
          rw [step, hopened]
          show entry key k ((rewrite snapshot).getD file.content) = entry key k file.content
          cases hsaved : rewrite snapshot with
          | none => rfl
          | some saved =>
              obtain rfl := h lane snapshot hopened
              exact not_not.mp fun hne => hchanges ⟨_, saved, hopened, hsaved, hne⟩

end SharedFile

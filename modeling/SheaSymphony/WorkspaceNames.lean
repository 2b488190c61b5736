import SheaSymphony.Text

/-!
# Names of workspaces

`safe_identifier` and what is made of it (`workspace.rs`).
-/

namespace SheaSymphony.Workspace

def safeChar (c : Char) : Char :=
  if c.isAlphanum || c == '.' || c == '_' || c == '-' then c else '_'

def safeIdentifier (identifier : String) : String :=
  String.ofList (identifier.toList.map safeChar)

theorem safeChar_safeChar (c : Char) : safeChar (safeChar c) = safeChar c := by
  unfold safeChar
  split
  · rfl
  · rfl

@[simp] theorem safeIdentifier_idem (identifier : String) :
    safeIdentifier (safeIdentifier identifier) = safeIdentifier identifier := by
  rw [safeIdentifier, safeIdentifier, String.toList_ofList, List.map_map]
  exact congrArg String.ofList (List.map_congr_left fun c _ => safeChar_safeChar c)

end SheaSymphony.Workspace

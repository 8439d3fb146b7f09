/-
# Choosing the license

The owner named for a proprietary license, the owner named for a permissive one and the owner that
the environment names are tried in this order; a blank name counts as none.  Naming both kinds of
owner at once is an error.
-/
import CrateSync.License.Mode
import CrateSync.Text.Blank
import CrateSync.Config.Environment

namespace CrateSync

/-- The variable that names the owner if the command line does not. -/
def ownerVariable : Text := "CRATEKIT_OWNER"

/-- The name without the blanks around it, unless nothing remains. -/
def nonBlank? (t : Text) : Option Text :=
  if (Text.trim t).isEmpty then none else some (Text.trim t)

/-- The license for the owners named: `proprietaryOwner` and `permissiveOwner` by the command line,
and one by the environment.  There is no answer if two kinds of license are asked for. -/
def License.choose? (proprietaryOwner permissiveOwner : Option Text) (env : Environment) :
    Option (Option License) :=
  match proprietaryOwner.bind nonBlank?, permissiveOwner.bind nonBlank? with
  | some _, some _ => none
  | some owner, none => some (some ⟨.proprietary, owner⟩)
  | none, some owner => some (some ⟨.permissive, owner⟩)
  | none, none => some ((nonBlank? (env.value ownerVariable)).map fun owner => ⟨.permissive, owner⟩)

end CrateSync

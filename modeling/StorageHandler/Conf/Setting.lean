import StorageHandler.Failure
import StorageHandler.OrderedMap
import StorageHandler.Text.Blank
import StorageHandler.Text.Cut

/-!
# Settings on the command line

A setting is written `KEY=VALUE`. The key has no blanks at its ends and is not empty; everything
after the first `=` is the value, as it stands.
-/

namespace StorageHandler

/-- An entry that is no setting. -/
structure SettingError where
  entry : String
  deriving DecidableEq, Repr

/-- What an entry that is no setting says. -/
def SettingError.message (e : SettingError) : String :=
  "Invalid setting '" ++ e.entry ++ "': expected KEY=VALUE."

/-- An entry that is no setting, as a failure. -/
def SettingError.failure (e : SettingError) : Failure := ⟨.configuration, e.message⟩

namespace Setting

/-- The key and the value that an entry writes. -/
def read (entry : String) : Except SettingError (String × String) :=
  match Text.cut '=' entry with
  | (_, none) => .error ⟨entry⟩
  | (key, some value) =>
    if Text.strip key = "" then .error ⟨entry⟩ else .ok (Text.strip key, value)

/-- The settings of a list of entries, in order; a repeated key keeps its place. -/
def readAll (entries : List String) : Except SettingError (OrderedMap String String) :=
  (entries.mapM read).map .ofList

end Setting

end StorageHandler

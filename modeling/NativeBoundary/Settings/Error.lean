import NativeBoundary.Settings.Schema
import NativeBoundary.Storage

/-!
# Why settings cannot be loaded
-/

namespace NativeBoundary

/-- Why settings cannot be loaded. -/
inductive SettingsError
  | notFound (path : Path)
  /-- The file cannot be read as a text. -/
  | unreadable (fault : ReadFault)
  /-- The text is no document, or the document does not hold settings. -/
  | malformed (path : Path) (offence : Option Settings.Schema.Offence)
  /-- A value is not accepted. -/
  | invalid (setting : InvalidSetting)
  | homeNotFound
deriving DecidableEq, Repr

def InvalidSetting.message (setting : InvalidSetting) : String :=
  "Invalid value for '" ++ setting.field ++ "': " ++ setting.reason

def SettingsError.message : SettingsError → String
  | .notFound path => "Configuration file not found: " ++ path.text
  | .unreadable fault => "Failed to read configuration file: " ++ fault.message
  | .malformed path offence =>
    "Invalid TOML syntax in " ++ path.text ++ ": " ++
      match offence with
      | some offence => offence.message
      | none => "the text is not a document"
  | .invalid setting => setting.message
  | .homeNotFound => "Home directory not found"

end NativeBoundary

/-!
What can be wrong with the settings of a program.
-/

set_option autoImplicit false
set_option relaxedAutoImplicit false

namespace SchemaSeed.Settings

/-- Why settings cannot be used. -/
inductive SettingFault where
  /-- A setting that is needed and not there, with a hint on how to give it. -/
  | missing (field hint : String)
  /-- A setting whose value is none of those expected. -/
  | invalidValue (field value expected : String)
  | unusable (reason : String)
  /-- A database URL that is none, or none for the database. -/
  | invalidUrl (url reason : String)
  deriving DecidableEq, Repr

/-- The text of a fault. -/
def SettingFault.message : SettingFault → String
  | .missing field hint => "Missing required field: " ++ field ++ ". " ++ hint
  | .invalidValue field value expected =>
    "Invalid value for field '" ++ field ++ "': '" ++ value ++ "'. Expected: " ++ expected
  | .unusable reason => "Configuration validation failed: " ++ reason
  | .invalidUrl url reason => "Invalid database URL '" ++ url ++ "': " ++ reason

end SchemaSeed.Settings

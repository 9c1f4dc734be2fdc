import SchemaSeed.Settings.Fault
import SchemaSeed.Text.Case

/-!
The environments that a program runs in.
-/

set_option autoImplicit false
set_option relaxedAutoImplicit false

namespace SchemaSeed.Settings

/-- An environment. -/
inductive Environment where
  | development
  | testing
  | production
  deriving DecidableEq, Repr

namespace Environment

/-- The full name. -/
def name : Environment → String
  | .development => "development"
  | .testing => "testing"
  | .production => "production"

/-- The environment that a full or short name stands for, in any case. -/
def ofName (s : String) : Except SettingFault Environment :=
  match Text.lowercase s with
  | "development" => .ok .development
  | "dev" => .ok .development
  | "testing" => .ok .testing
  | "test" => .ok .testing
  | "production" => .ok .production
  | "prod" => .ok .production
  | _ => .error (.invalidValue "environment" s "development, testing, or production")

end Environment

end SchemaSeed.Settings

import SchemaSeed.Settings.Directive
import SchemaSeed.Settings.Environment

/-!
What of its work the program reports while it runs, and in which form.
-/

set_option autoImplicit false
set_option relaxedAutoImplicit false

namespace SchemaSeed.Settings

/-- The settings for reports. -/
structure Logging where
  level : String := "info"
  asJson : Bool := false
  /-- Whether reports tell the place in the program that they come from. -/
  withPlaces : Bool := false
  filter : Option String := none
  deriving DecidableEq, Repr

namespace Logging

/-- The settings for an environment: only the level of the program's own reports can be chosen. -/
def forEnvironment (environment : Environment) (level : String) : Logging :=
  let level := Text.lowercase level
  { level
    filter := some ("tabula=" ++ level ++ ",sqlx=warn")
    withPlaces := environment = .development && level = "trace" }

/-- The filter, which is the level if nothing else is set. -/
def directive (l : Logging) : String := l.filter.getD l.level

/-- Checks that reports can be set up: a filter from outside that is one goes before the own one. -/
def check (l : Logging) (outside : Option String) : Except DirectiveFault Unit :=
  match outside.map Directive.checkFilter with
  | some (.ok ()) => .ok ()
  | _ => Directive.checkFilter l.directive

end Logging

end SchemaSeed.Settings

import SchemaSeed.Factory.Document
import SchemaSeed.Pattern.Replacement
import SchemaSeed.Sql.Value

/-!
Replacements in values.
-/

set_option autoImplicit false
set_option relaxedAutoImplicit false

namespace SchemaSeed.Factory

open SchemaSeed.Sql SchemaSeed.Pattern

/-- A text with every match replaced; a pattern that is none changes nothing. -/
def Manipulation.applyText (m : Manipulation) (text : String) : String :=
  match Machine.ofText m.pattern with
  | .ok machine => machine.replaceAll m.replacement text
  | .error _ => text

/-- A value with every match replaced in its text; values that are no text stay as they are. -/
def Manipulation.apply (m : Manipulation) : Value → Value
  | .text s => .text (m.applyText s)
  | .untyped s => .untyped (m.applyText s)
  | v => v

end SchemaSeed.Factory

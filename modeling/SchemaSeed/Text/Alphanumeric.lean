import SchemaSeed.Text.BinaryProperty
import SchemaSeed.Text.Category

/-!
Letters and numbers of all scripts.
-/

set_option autoImplicit false
set_option relaxedAutoImplicit false

namespace SchemaSeed.Text

/-- Letters and what is used like them. -/
def isAlphabetic (c : Char) : Bool := BinaryProperty.alphabetic.codePoints.contains c.toNat

/-- Letters, and the digits and numbers of all kinds. -/
def isAlphanumeric (c : Char) : Bool :=
  isAlphabetic c || (Category.unionOf Category.numberKinds).contains c.toNat

end SchemaSeed.Text

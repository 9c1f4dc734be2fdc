import SchemaSeed.Text.BinaryProperty
import SchemaSeed.Text.Category
import SchemaSeed.Number.Printed

/-!
The quoted form in which error messages show a text: what a reader could not see is escaped.
-/

set_option autoImplicit false
set_option relaxedAutoImplicit false

namespace SchemaSeed.Text

/-- Categories whose characters leave no mark of their own on a page. -/
def invisibleCategories : List Category := Category.others ++ Category.separators

/-- Characters that extend the one before them in name only: they have a width of their own. -/
def halfwidthSoundMarks : CodePoints := .range 0xFF9E 0xFF9F

/-- Whether a character shows on a page by itself: of the separators only the space does, and neither
a character that may be left out without a trace nor one that extends the character before it. -/
def isVisible (c : Char) : Bool :=
  if c.toNat < 127 then 32 ≤ c.toNat
  else
    !invisibleCategories.any (fun k => k.codePoints.contains c.toNat) &&
      !BinaryProperty.defaultIgnorableCodePoint.codePoints.contains c.toNat &&
      (halfwidthSoundMarks.contains c.toNat ||
        !BinaryProperty.graphemeExtend.codePoints.contains c.toNat)

/-- A character inside quotes. -/
def quotedChar (c : Char) : List Char :=
  if c = '"' then ['\\', '"']
  else if c = '\\' then ['\\', '\\']
  else if c = '\n' then ['\\', 'n']
  else if c = '\r' then ['\\', 'r']
  else if c = '\t' then ['\\', 't']
  else if c.toNat = 0 then ['\\', '0']
  else if isVisible c then [c]
  else '\\' :: 'u' :: '\x7b' :: Nat.toDigits 16 c.toNat ++ ['\x7d']

/-- A text in double quotes. -/
def quoted (s : String) : String :=
  String.ofList ('"' :: s.toList.flatMap quotedChar ++ ['"'])

end SchemaSeed.Text

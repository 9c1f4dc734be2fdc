import SchemaSeed.Text.BinaryProperty
import SchemaSeed.Text.Case
import SchemaSeed.Text.Category
import SchemaSeed.Text.Script
import SchemaSeed.Text.Version

/-!
The properties of characters as patterns know them.

Patterns go by version 16.0 of the character standard. The tables that this library has for texts are
those of version 17.0, so what that version brought is left out here, and the few changes that it made
to older characters are undone.
-/

set_option autoImplicit false
set_option relaxedAutoImplicit false

namespace SchemaSeed.Pattern

open SchemaSeed.Text

namespace Edition

/-- The version that patterns go by. -/
def version : Version := ⟨16, 0⟩

/-- The version of the tables for texts. -/
def textVersion : Version := ⟨17, 0⟩

/-- The characters that patterns do not know yet. -/
def later : CodePoints := textVersion.added

/-- The known characters of a set. -/
def known (s : CodePoints) : CodePoints := s.diff later

/-- A letter of the phonetic alphabet that was a small letter up to version 16.0. -/
def reversedGlottalStop : CodePoints := .range 0x295 0x295

/-- Letters that have had a counterpart of other case since version 17.0. -/
def lateCounterparts : CodePoints := .ofRanges [(0xA7D3, 0xA7D3), (0xA7D5, 0xA7D5)]

/-- Characters that have counted as diacritics since version 17.0. -/
def lateDiacritics : CodePoints :=
  .ofRanges [(0x5A2, 0x5A2), (0x5C5, 0x5C5), (0x5C7, 0x5C7), (0x1D9B, 0x1DBE)]

/-- Characters and places for characters that were pictographs up to version 16.0. -/
def formerPictographs : CodePoints := .ofRuns
    ("70o 1 ho 1 1 7 1 2 1 1 3 2 1 4 1 2 1 1 2 2 1 3 1 3 2 8 3 5 1 1 1 5 c b 2 2 1 1 2 1 1 i 1 2 " ++
    "2 6 a 2 6 1 1 1 2 3 2 5 1 2 2 4 2 b 2 5 2 2 1 5 2 1 1 1 2 k 2 5 6 1 4 2 1 4 1 2 9 1 1 2 2b " ++
    "3 2i6w 4 1 13 4 2s c f 2 f 1 e 2 11 n 3 v 1 1o 4 1p 1 4y 6 58 2 34 2 2 1 3 2 2b 2 3 1 7b 1 " ++
    "1z 3 6 1 o 7 2 2 8 c 1 2 4 2 1 4 2 d 2 2 1 8 2 9 1 5 3 c 3 8 3 2 1 1 1 4 1 6 1 3 1 6 5o 5 8 " ++
    "2 3 1 d 3 1 1 6 2 3l c 2d 5 5y c 4 2 e 9 87 2g 8 e s 1 3 1 1l 1 4 1 s 1 4 1")

/-- The characters of a category. -/
def category (c : Category) : CodePoints :=
  match c with
  | .lowercaseLetter => (known c.codePoints).union reversedGlottalStop
  | .otherLetter => (known c.codePoints).diff reversedGlottalStop
  | .unassigned => c.codePoints.union later
  | _ => known c.codePoints

/-- The characters of any of some categories. -/
def categories (cs : List Category) : CodePoints :=
  .ofRanges (cs.flatMap fun c => (category c).ranges)

/-- The characters that have a property. -/
def binary (p : BinaryProperty) : CodePoints :=
  match p with
  | .lowercase => (known p.codePoints).union reversedGlottalStop
  | .cased => (known p.codePoints).union reversedGlottalStop
  | .changesWhenCasemapped => (known p.codePoints).diff lateCounterparts
  | .changesWhenTitlecased => (known p.codePoints).diff lateCounterparts
  | .changesWhenUppercased => (known p.codePoints).diff lateCounterparts
  | .diacritic => (known p.codePoints).diff lateDiacritics
  | .extendedPictographic => (known p.codePoints).union formerPictographs
  | .patternSyntax => p.codePoints
  | _ => known p.codePoints

/-- The characters of a script. -/
def script (s : Script) : CodePoints := known s.members

/-- The characters that a script uses, alone or with others. -/
def scriptExtensions (s : Script) : CodePoints := known s.extended

/-- The other characters that equal a character when case is ignored. -/
def caseVariants (c : Nat) : List Nat :=
  if later.contains c then [] else (Text.caseVariants c).filter fun v => !later.contains v

end Edition

end SchemaSeed.Pattern

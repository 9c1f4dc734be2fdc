import SchemaSeed.Text.Category

/-!
How characters are joined to their neighbours in scripts that are written joined up.
-/

set_option autoImplicit false
set_option relaxedAutoImplicit false

namespace SchemaSeed.Text

/-- The sides on which a character is joined. -/
inductive Joining where
  | onBoth
  | onLeft
  | onRight
  /-- Marks, which the joining passes over. -/
  | transparent
  deriving DecidableEq, Repr

namespace Joining

/-- Format characters that break the joining. -/
def breaking : CodePoints := .ofRuns
    "16o 6 5z 1 c2 2 28 1 2zv 1 1kt 2 2g 4 1bgz 1 f 1"

/-- The characters of a kind. -/
def codePoints : Joining → CodePoints
  | .onBoth => .ofRuns
    ("17k 1 5 1 1 1 1 5 4 d 1 7 1 2 z 2 8 g i 12 1 2 9 1 1 1 1 2 14 3 2 1 i 3 5 4 1 9 1 1 1 1 1 2 " ++
    "v b 3 f 2 4 1 1 2 3 2 6 22 x 2e 5 2 1 1 a 1 1 a 1 1 4 2 1 t 1 2 5 1 1 g a 5 2 2 6 1 f 30e 1 " ++
    "o 2h e y 1 1 sd1 1e jf2 5 e 4 1 5 1 3 a 4 41 1 1 1 3 3 1 2 1 1 2 1 s 2 9e x 1 1 bj 2 1 2 2w " ++
    "3 1 h c 3 s 4 2 c 1a 1 1 2 4 1 2 2 1 2 1 1 2 1 5 1 16wl 1w")
  | .onLeft => .ofRuns
    "x9u 1 jfe 1 9 1 fc 1 ju 1"
  | .onRight => .ofRuns
    ("17m 4 1 1 1 1 5 4 l 1 14 3 1 3 g i 12 1 2 9 1 1 1 1 2 2 1 1 o 2 w 1 4 5 4 1 9 1 1 1 1 1 2 1 " ++
    "t 1 b 3 f 2 4 1 1 2 3 2 5i 1 5 2 1 1 a 1 1 3 e 1 1 2 5 j b 1 r 3 1 1 2 2 6 1 1eyz 1 1 1 1 2 " ++
    "3 5 a 1 3 1 2 1 a 1 41 1 1 3 3 1 2 1 1 2 1 1 n 4 ad 1 bj 1 34 1 w 1 v 2 1q 3 2 2 2 1 4 2 5 " ++
    "1")
  | .transparent =>
    ((Category.unionOf [.nonspacingMark, .enclosingMark, .format]).diff breaking).union
      (.range 0x1E94B 0x1E94B)

end Joining

end SchemaSeed.Text

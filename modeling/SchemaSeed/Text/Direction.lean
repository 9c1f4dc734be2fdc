import SchemaSeed.Text.Category

/-!
The direction in which characters are written, by their classes for the display of mixed texts.
-/

set_option autoImplicit false
set_option relaxedAutoImplicit false

namespace SchemaSeed.Text

/-- The classes of direction. -/
inductive Direction where
  | leftToRight
  | rightToLeft
  | arabicLetter
  | arabicNumber
  | europeanNumber
  | europeanSeparator
  | commonSeparator
  | europeanTerminator
  /-- Marks, which go with the character before them. -/
  | mark
  | boundaryNeutral
  | neutral
  /-- Separators of lines, paragraphs and words, and the characters that set a direction. -/
  | layout
  deriving DecidableEq, Repr

namespace Direction

/-- Marks that have a place of their own in a line. -/
def placedMarks : CodePoints :=
  .ofRanges [(0xCBF, 0xCBF), (0xCC6, 0xCC6), (0x11A07, 0x11A08), (0x11C3F, 0x11C3F)]

/-- The classes other than that of characters that run from left to right. -/
def special : List Direction :=
  [.mark, .neutral, .rightToLeft, .arabicLetter, .arabicNumber, .europeanNumber, .europeanSeparator,
    .commonSeparator, .europeanTerminator, .boundaryNeutral, .layout]

/-- The characters of a class; those that run from left to right are all that are in no other. -/
def codePoints : Direction → CodePoints
  | .leftToRight => .empty
  | .mark => (Category.unionOf [.nonspacingMark, .enclosingMark]).diff placedMarks
  | .rightToLeft => .ofRuns
    ("14u 1 1 1 2 1 2 1 9 r 4 6 cr 17 9 2 4 1 3 o 4 1 9 1 3 1 7 f 1 p 5 1 4og 1 179p 1 1 a 1 d 1 " ++
    "5 1 1 1 2 1 2 1 a 2i8 6 2 1 1 18 1 2 3 1 2 n 1 20 8 9 1c j 1 2 5 x 4 q 5 r 12 1k 4 k 2 1b f " ++
    "4 1 3 1 t a 9 7 9 7 1s w 11 6 c 9 1i a m 2 r 5 q 7 4 c 7 28 21 1j 1f d 1f 7 6 1s 12 9 n 6y " ++
    "16 3 1 2 2 26 14 20 i 4 4 12 s k n 16o9 5h 2 9 1c 1w 7 1 4 a 4 2")
  | .arabicLetter => .ofRuns
    ("16w 1 2 1 1 1 d 1c y 3 1 2t f 2 7 2 a k 1 2 1 u t 2h b 1 4u b 5 w g 16 1bwm 37 g a3 i 1s 2 " ++
    "1i 14 d 37 5 1 3r 2rn 10 bi 6 8 1 2n m b 9 17o7 1w 24 1p 5e 4 1 r 1 2 1 1 2 1 1 a 1 4 1 1 1 " ++
    "1 6 1 4 1 1 1 1 1 1 3 1 2 1 1 2 1 1 1 1 1 1 1 1 1 1 2 1 1 2 4 1 7 1 4 1 4 1 1 1 a 1 h 5 3 1 " ++
    "5 1 h")
  | .arabicNumber => .ofRuns
    "16o 6 2i a 1 2 34 1 c2 2 28 1 1ff1 a 86 v"
  | .europeanNumber => .ofRuns
    "1c a 3c 2 5 1 186 a 512 1 3 6 6 a se k 175g a qv r 13w4 a 250 1e 4xs b 25h a"
  | .europeanSeparator => .ofRuns
    "17 1 1 1 6do 2 e 2 au 1 16vq 1 mw 2 4n 1 1 1"
  | .commonSeparator => .ofRuns
    "18 1 1 2 a 1 2t 1 12j 1 55u 1 k 1 17uz 1 1 1 2 1 52 1 1 2 a 1"
  | .europeanTerminator => .ofRuns
    ("z 3 3g 4 a 2 yl 1 3d 2 2n 1 p3 2 7 1 6t 1 7b 1 g5 1 1wb 1 1n8 5 2z y 30 1 6c 1 qhw 2 h0l 1 " ++
    "9 2 48 3 62 2 3 2 6ba 4 12ji 1")
  | .boundaryNeutral => .ofRuns
    "0 9 5 e 2r 6 1 q d 1 4m8 1 1ks 3 2a 5 5 6 17yn 1 11gg 4 43z 8 h406 1 u 2o"
  | .neutral => .ofRuns
    ("x 2 3 5 g 6 q 6 q 4 y 1 4 4 1 2 1 2 4 1 1 3 2 5 n 1 v 1 ch 2 7 e 2 e 5 9 1 h 38 2 8 1 5 2 1 " ++
    "1 32 1 b7 1 2 2 3b 2 6 2 5q 1 a 1 7g 4 s9 6 1 1 3h 7 jf 4 uq a 2u 1 ii 2 9f a 6 b 8l 1 3 2 " ++
    "48 y 14t 1 1 3 b 3 d 3 d 3 d 2 h o d f 1 q t 3 d 3 35 2 1 4 1 2 a 1 1 3 5 6 1 1 1 1 1 1 g 2 " ++
    "4 5 5 4 2 g 15 3 4 3m 2 82 1x q 1 44 m b l 14 2q ci 1 9f 74 hg 2 3u 6d 6 e 7 74 2m y q 1 2h " ++
    "c 5y q g 1 4 3 p f 1 5 2 5 3 2j 2 3 1 2i 1 5g 12 9 1 19 2 1d g s 3 1e f c 4 4n 4 2r 2 v 1 " ++
    "534 1s h3k 1j 92 3 2r 1 a 2 3k y 2u 1 4f 4 20 4 ky 2 fvb g a3 i 1s 2 1i 8 19 3 g a m w 1 1 " ++
    "2 1 1 9 1 2 2 3 1 1 2 1 45 2 3 5 g 6 q 6 q b 3g 3 3 7 a 5 77 1 1q 25 3 d 3 1 1ha 1 ex 7 fi " ++
    "1 v 2 8x 8 ah k 16i d 1uw 8 4 h fsg 1 i71 6o a 3 3 c4 6 n f h l4 2 l 1u 3 1 56 2f p0 1 1l 1 " ++
    "1l 1 1l 1 1l 1 4ks 2 7i 18 4 2s c f 2 f 1 f 1 11 l 5 v 1 1m 6 1p 1 4y 6 4a rd 3 h 3 d 3 62 " ++
    "6 c 4 1 f c 4 1k 8 a 6 14 8 u 2 c 4 2 e 9 13 9k 8 e 2 d 3 b 3 1l 1 1 4 g 2 c 4 a 7 43 1 2k " ++
    "a 1")
  | .layout => .ofRuns
    "9 5 e 5 2s 1 4ca 1 1vj b t 7 1c 1 6 4 32u 1"

/-- The class of a character. -/
def ofChar (c : Char) : Direction :=
  (special.find? fun d => d.codePoints.contains c.toNat).getD .leftToRight

end Direction

end SchemaSeed.Text

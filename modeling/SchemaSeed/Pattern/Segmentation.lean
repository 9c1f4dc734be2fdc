import SchemaSeed.Pattern.Edition

/-!
The properties that decide where texts fall apart into what readers take for characters, into words
and into sentences. Each value is given by its rule over simpler properties; where a rule takes what
is left by another one, that one is named.
-/

set_option autoImplicit false
set_option relaxedAutoImplicit false

namespace SchemaSeed.Pattern

open SchemaSeed.Text

private def ofPoints (points : List Nat) : CodePoints := .ofRanges (points.map fun c => (c, c))

private def unionAll (sets : List CodePoints) : CodePoints := .ofRanges (sets.flatMap (·.ranges))

namespace Segmentation

/-- The mark that takes the place back to the start of its line. -/
def carriageReturn : CodePoints := ofPoints [0x0D]

/-- The mark that ends a line. -/
def lineFeed : CodePoints := ofPoints [0x0A]

/-- The mark that asks for its neighbours to be joined. -/
def zeroWidthJoiner : CodePoints := ofPoints [0x200D]

/-- Letters that make a flag in pairs. -/
def regionalIndicator : CodePoints := .range 0x1F1E6 0x1F1FF

/-- Prefixes of numbers, which stand before the digits that they span. -/
def numberSigns : CodePoints :=
  (Edition.binary .prependedConcatenationMark).diff (ofPoints [0x70F])

/-- Marks of all kinds but the spacing ones, and a few of these. -/
def extending : CodePoints := Edition.binary .graphemeExtend

/-- Decimal digits of the normal width, signs of numbers and two separators. -/
def numeric : CodePoints :=
  unionAll [Edition.category .decimalNumber, .range 0x66B 0x66C, numberSigns]

end Segmentation

open Segmentation

/-- How a character goes with its neighbours into what readers take for one. -/
inductive GraphemeBreak where
  | control
  | carriageReturn
  | lineFeed
  | extend
  | prepend
  | spacingMark
  | leadingConsonant
  | vowel
  | trailingConsonant
  | openSyllable
  | closedSyllable
  | regionalIndicator
  | zeroWidthJoiner
  deriving DecidableEq, Repr

namespace GraphemeBreak

/-- Signs that are written before the letter that they belong to. -/
def prepended : CodePoints :=
  .ofRanges
    [(0xD4E, 0xD4E), (0x111C2, 0x111C3), (0x113D1, 0x113D1), (0x1193F, 0x1193F), (0x11941, 0x11941),
      (0x11A3A, 0x11A3A), (0x11A84, 0x11A89), (0x11D46, 0x11D46), (0x11F02, 0x11F02)]

/-- Spacing marks that stand for themselves. -/
def loneMarks : CodePoints :=
  .ofRanges
    [(0x102B, 0x102C), (0x1038, 0x1038), (0x1062, 0x1064), (0x1067, 0x106D), (0x1083, 0x1083),
      (0x1087, 0x108C), (0x108F, 0x108F), (0x109A, 0x109C), (0x1A61, 0x1A61), (0x1A63, 0x1A64),
      (0xAA7B, 0xAA7B), (0xAA7D, 0xAA7D), (0x11720, 0x11721)]

private def extension : CodePoints :=
  (extending.union (Edition.binary .emojiModifier)).diff Segmentation.zeroWidthJoiner

/-- The first of the Hangul syllables, and how many there are. -/
def firstSyllable : Nat := 0xAC00

/-- Every so many syllables one ends in a vowel. -/
def syllableStep : Nat := 28

private def openSyllables : List Nat := (List.range 399).map fun i => firstSyllable + syllableStep * i

/-- The characters of a value. -/
def codePoints : GraphemeBreak → CodePoints
  | .control =>
    (unionAll
      [Edition.categories [.lineSeparator, .paragraphSeparator, .control, .format],
        (Edition.category .unassigned).inter (Edition.binary .defaultIgnorableCodePoint)]).diff
      (unionAll
        [ofPoints [0x0A, 0x0D, 0x200C, 0x200D], Edition.binary .prependedConcatenationMark, extension])
  | .carriageReturn => Segmentation.carriageReturn
  | .lineFeed => Segmentation.lineFeed
  | .extend => extension
  | .prepend => (Edition.binary .prependedConcatenationMark).union prepended
  | .spacingMark =>
    ((Edition.category .spacingMark).union (ofPoints [0xE33, 0xEB3])).diff
      (loneMarks.union extension)
  | .leadingConsonant => .ofRanges [(0x1100, 0x115F), (0xA960, 0xA97C)]
  | .vowel =>
    .ofRanges [(0x1160, 0x11A7), (0xD7B0, 0xD7C6), (0x16D63, 0x16D63), (0x16D67, 0x16D6A)]
  | .trailingConsonant => .ofRanges [(0x11A8, 0x11FF), (0xD7CB, 0xD7FB)]
  | .openSyllable => ofPoints openSyllables
  | .closedSyllable => .ofRanges (openSyllables.map fun c => (c + 1, c + syllableStep - 1))
  | .regionalIndicator => Segmentation.regionalIndicator
  | .zeroWidthJoiner => Segmentation.zeroWidthJoiner

/-- The value of a loose name. -/
def ofName? : String → Option GraphemeBreak
  | "cn" | "control" => some .control
  | "cr" => some .carriageReturn
  | "lf" => some .lineFeed
  | "ex" | "extend" => some .extend
  | "pp" | "prepend" => some .prepend
  | "sm" | "spacingmark" => some .spacingMark
  | "l" => some .leadingConsonant
  | "v" => some .vowel
  | "t" => some .trailingConsonant
  | "lv" => some .openSyllable
  | "lvt" => some .closedSyllable
  | "ri" | "regionalindicator" => some .regionalIndicator
  | "zwj" => some .zeroWidthJoiner
  | _ => none

end GraphemeBreak

/-- How a character goes with its neighbours into a word. -/
inductive WordBreak where
  | carriageReturn
  | lineFeed
  | newline
  | extend
  | zeroWidthJoiner
  | format
  | katakana
  | hebrewLetter
  | letter
  | singleQuote
  | doubleQuote
  | midNumberOrLetter
  | midLetter
  | midNumber
  | numeric
  | connector
  | blank
  | regionalIndicator
  deriving DecidableEq, Repr

namespace WordBreak

private def scriptOf (name : String) : CodePoints :=
  unionAll ((Script.all.filter (·.shortName == name)).map Edition.script)

private def extension : CodePoints :=
  (unionAll [extending, Edition.category .spacingMark, Edition.binary .emojiModifier]).diff
    Segmentation.zeroWidthJoiner

private def katakanaLike : CodePoints :=
  unionAll
    [scriptOf "Kana", .range 0x3031 0x3035,
      ofPoints [0x309B, 0x309C, 0x30A0, 0x30FC, 0xFF70]]

private def hebrew : CodePoints := (scriptOf "Hebr").inter (Edition.category .otherLetter)

/-- Signs that are used like letters. -/
def letterLike : CodePoints :=
  .ofRanges
    [(0xB8, 0xB8), (0x2C2, 0x2C5), (0x2D2, 0x2D7), (0x2DE, 0x2DF), (0x2E5, 0x2EB), (0x2ED, 0x2ED),
      (0x2EF, 0x2FF), (0x55A, 0x55C), (0x55E, 0x55E), (0x58A, 0x58A), (0x5F3, 0x5F3),
      (0x70F, 0x70F), (0xA708, 0xA716), (0xA720, 0xA721), (0xA789, 0xA78A), (0xAB5B, 0xAB5B)]

/-- Characters of scripts in which blanks do not part the words. -/
def unparted : CodePoints :=
  .ofRanges
    [(0xE01, 0xE3A), (0xE40, 0xE4E), (0xE81, 0xE82), (0xE84, 0xE84), (0xE86, 0xE8A), (0xE8C, 0xEA3),
      (0xEA5, 0xEA5), (0xEA7, 0xEBD), (0xEC0, 0xEC4), (0xEC6, 0xEC6), (0xEC8, 0xECE),
      (0xEDC, 0xEDF), (0x1000, 0x103F), (0x1050, 0x108F), (0x109A, 0x109F), (0x1780, 0x17D3),
      (0x17D7, 0x17D7), (0x17DC, 0x17DD), (0x1950, 0x196D), (0x1970, 0x1974), (0x1980, 0x19AB),
      (0x19B0, 0x19C9), (0x19DA, 0x19DA), (0x19DE, 0x19DF), (0x1A20, 0x1A5E), (0x1A60, 0x1A7C),
      (0x1AA0, 0x1AAD), (0xA9E0, 0xA9EF), (0xA9FA, 0xA9FE), (0xAA60, 0xAAC2), (0xAADB, 0xAADF),
      (0x11700, 0x1171A), (0x1171D, 0x1172B), (0x1173A, 0x1173B), (0x1173F, 0x11746)]

/-- The characters of a value. -/
def codePoints : WordBreak → CodePoints
  | .carriageReturn => Segmentation.carriageReturn
  | .lineFeed => Segmentation.lineFeed
  | .newline => ofPoints [0x0B, 0x0C, 0x85, 0x2028, 0x2029]
  | .extend => extension
  | .zeroWidthJoiner => Segmentation.zeroWidthJoiner
  | .format =>
    (Edition.category .format).diff
      (unionAll
        [.range 0x200B 0x200D, extension, Edition.binary .prependedConcatenationMark])
  | .katakana => katakanaLike
  | .hebrewLetter => hebrew
  | .letter =>
    ((Edition.binary .alphabetic).union letterLike).diff
      (unionAll
        [Edition.binary .ideographic, katakanaLike, unparted, scriptOf "Hira", extension, hebrew])
  | .singleQuote => ofPoints [0x27]
  | .doubleQuote => ofPoints [0x22]
  | .midNumberOrLetter => ofPoints [0x2E, 0x2018, 0x2019, 0x2024, 0xFE52, 0xFF07, 0xFF0E]
  | .midLetter => ofPoints [0x3A, 0xB7, 0x387, 0x55F, 0x5F4, 0x2027, 0xFE13, 0xFE55, 0xFF1A]
  | .midNumber =>
    ofPoints
      [0x2C, 0x3B, 0x37E, 0x589, 0x60C, 0x60D, 0x66C, 0x7F8, 0x2044, 0xFE10, 0xFE14, 0xFE50,
        0xFE54, 0xFF0C, 0xFF1B]
  | .numeric => Segmentation.numeric.diff (ofPoints [0x66C])
  | .connector => (Edition.category .connectorPunctuation).union (ofPoints [0x202F])
  | .blank => (Edition.category .spaceSeparator).diff (ofPoints [0xA0, 0x2007, 0x202F])
  | .regionalIndicator => Segmentation.regionalIndicator

/-- The value of a loose name. -/
def ofName? : String → Option WordBreak
  | "cr" => some .carriageReturn
  | "lf" => some .lineFeed
  | "nl" | "newline" => some .newline
  | "extend" => some .extend
  | "zwj" => some .zeroWidthJoiner
  | "fo" | "format" => some .format
  | "ka" | "katakana" => some .katakana
  | "hl" | "hebrewletter" => some .hebrewLetter
  | "le" | "aletter" => some .letter
  | "sq" | "singlequote" => some .singleQuote
  | "dq" | "doublequote" => some .doubleQuote
  | "mb" | "midnumlet" => some .midNumberOrLetter
  | "ml" | "midletter" => some .midLetter
  | "mn" | "midnum" => some .midNumber
  | "nu" | "numeric" => some .numeric
  | "ex" | "extendnumlet" => some .connector
  | "wsegspace" => some .blank
  | "ri" | "regionalindicator" => some .regionalIndicator
  | _ => none

end WordBreak

/-- What a character means for the end of a sentence. -/
inductive SentenceBreak where
  | carriageReturn
  | lineFeed
  | separator
  | extend
  | format
  | blank
  | lower
  | upper
  | letter
  | numeric
  | ambiguousStop
  | continuation
  | stop
  | close
  deriving DecidableEq, Repr

namespace SentenceBreak

private def extension : CodePoints :=
  unionAll [extending, Edition.category .spacingMark, Segmentation.zeroWidthJoiner]

/-- The Georgian letters take no part in the contrast of case that tells the start of a sentence. -/
def georgianLower : CodePoints := .ofRanges [(0x10D0, 0x10FA), (0x10FD, 0x10FF)]

/-- The capital forms of these letters. -/
def georgianUpper : CodePoints := .ofRanges [(0x1C90, 0x1CBA), (0x1CBD, 0x1CBF)]

private def lowerCase : CodePoints :=
  (Edition.binary .lowercase).diff (extending.union georgianLower)

private def upperCase : CodePoints :=
  ((Edition.binary .uppercase).union (Edition.category .titlecaseLetter)).diff georgianUpper

private def fullStops : CodePoints := ofPoints [0x2E, 0x2024, 0xFE52, 0xFF0E]

private def stops : CodePoints := (Edition.binary .sentenceTerminal).diff fullStops

/-- Quotation marks that neither open nor close by their category. -/
def neutralQuotes : CodePoints :=
  .ofRanges
    [(0x22, 0x22), (0x27, 0x27), (0x275B, 0x2760), (0x2E00, 0x2E01), (0x2E06, 0x2E08),
      (0x2E0B, 0x2E0B), (0x1F676, 0x1F678)]

/-- The characters of a value. -/
def codePoints : SentenceBreak → CodePoints
  | .carriageReturn => Segmentation.carriageReturn
  | .lineFeed => Segmentation.lineFeed
  | .separator => ofPoints [0x85, 0x2028, 0x2029]
  | .extend => extension
  | .format =>
    (Edition.category .format).diff
      (unionAll [.range 0x200C 0x200D, extension, Edition.binary .prependedConcatenationMark])
  | .blank => (Edition.binary .whiteSpace).diff (ofPoints [0x0A, 0x0D, 0x85, 0x2028, 0x2029])
  | .lower => lowerCase
  | .upper => upperCase
  | .letter =>
    ((Edition.binary .alphabetic).union (ofPoints [0x5F3, 0x70F])).diff
      (unionAll [lowerCase, upperCase, extension])
  | .numeric => Segmentation.numeric
  | .ambiguousStop => fullStops
  | .continuation =>
    .ofRanges
      [(0x2C, 0x2D), (0x3A, 0x3B), (0x37E, 0x37E), (0x55D, 0x55D), (0x60C, 0x60D), (0x7F8, 0x7F8),
        (0x1802, 0x1802), (0x1808, 0x1808), (0x2013, 0x2014), (0x3001, 0x3001), (0xFE10, 0xFE11),
        (0xFE13, 0xFE14), (0xFE31, 0xFE32), (0xFE50, 0xFE51), (0xFE54, 0xFE55), (0xFE58, 0xFE58),
        (0xFE63, 0xFE63), (0xFF0C, 0xFF0D), (0xFF1A, 0xFF1B), (0xFF64, 0xFF64)]
  | .stop => stops
  | .close =>
    ((Edition.categories
        [.openPunctuation, .closePunctuation, .initialPunctuation, .finalPunctuation]).union
      neutralQuotes).diff (fullStops.union stops)

/-- The value of a loose name. -/
def ofName? : String → Option SentenceBreak
  | "cr" => some .carriageReturn
  | "lf" => some .lineFeed
  | "se" | "sep" => some .separator
  | "ex" | "extend" => some .extend
  | "fo" | "format" => some .format
  | "sp" => some .blank
  | "lo" | "lower" => some .lower
  | "up" | "upper" => some .upper
  | "le" | "oletter" => some .letter
  | "nu" | "numeric" => some .numeric
  | "at" | "aterm" => some .ambiguousStop
  | "sc" | "scontinue" => some .continuation
  | "st" | "sterm" => some .stop
  | "cl" | "close" => some .close
  | _ => none

end SentenceBreak

end SchemaSeed.Pattern

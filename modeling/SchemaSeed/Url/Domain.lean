import SchemaSeed.Text.BinaryProperty
import SchemaSeed.Text.Direction
import SchemaSeed.Text.Joining
import SchemaSeed.Text.Normalization
import SchemaSeed.Url.DomainCharacter
import SchemaSeed.Url.Punycode

/-!
Domain names with letters of all scripts. A name is brought into its one form; then each of its labels
has to be one that can be told apart from others: it does not start with a mark, joiners stand only
where they show, and directions are not mixed.
-/

set_option autoImplicit false
set_option relaxedAutoImplicit false

namespace SchemaSeed.Url

open SchemaSeed.Text

/-- The parts of some characters between separators. -/
def splitChars (separator : Char) : List Char → List (List Char)
  | [] => [[]]
  | c :: rest =>
    if c = separator then [] :: splitChars separator rest
    else
      match splitChars separator rest with
      | [] => [[c]]
      | part :: parts => (c :: part) :: parts

namespace Domain

/-- The one form of a text, if all its characters are admitted. -/
def prepare? (cs : List Char) : Option (List Char) :=
  if cs.all DomainCharacter.isAdmitted then
    some (normalForm (cs.flatMap DomainCharacter.mapped))
  else none

/-- What the written form of a label begins with that holds more than basic characters. -/
def encodedStart : List Char := ['x', 'n', '-', '-']

/-- The written form of a label is at most so long. -/
def maxEncoded : Nat := 2000

/-- A label that has to be written is at most so long. -/
def maxWritten : Nat := 1000

private def isBasic (cs : List Char) : Bool := cs.all fun c => c.toNat < 128

/-- The label that is meant. A written form has to stand for a text that needs it and is in its one
form. -/
def decodeLabel? (label : List Char) : Option (List Char) :=
  if encodedStart.isPrefixOf label then
    let written := label.drop encodedStart.length
    if !isBasic written || maxEncoded < written.length then none
    else
      (Punycode.decode? written).filter fun text =>
        !isBasic text && decide (prepare? text = some text)
  else if !isBasic label && maxWritten < label.length then none
  else some label

/-! ### Joiners -/

private def joins (kinds : List Joining) (c : Char) : Bool :=
  kinds.any fun k => k.codePoints.contains c.toNat

private def isTransparent (c : Char) : Bool := joins [.transparent] c

private def isVirama (c : Char) : Bool := BinaryProperty.graphemeLink.codePoints.contains c.toNat

/-- Whether the joiner or non-joiner between two texts shows: it does behind a virama, and a non-joiner
also where it parts two letters that would be joined. The text before is given from its end. -/
def isJoinerInPlace (joiner : Char) (before after : List Char) : Bool :=
  before.head?.any isVirama ||
    (joiner.toNat = 0x200C &&
      (before.dropWhile isTransparent).head?.any (joins [.onBoth, .onLeft]) &&
      (after.dropWhile isTransparent).head?.any (joins [.onBoth, .onRight]))

private def isJoiner (c : Char) : Bool := c.toNat = 0x200C || c.toNat = 0x200D

/-- Whether all joiners of a text are in their place. -/
def joinersInPlace (before : List Char) : List Char → Bool
  | [] => true
  | c :: rest =>
    (!isJoiner c || isJoinerInPlace c before rest) && joinersInPlace (c :: before) rest

/-! ### Directions -/

/-- The classes that make a name one of mixed directions. -/
def turning : List Direction := [.rightToLeft, .arabicLetter, .arabicNumber]

private def shared : List Direction :=
  [.europeanNumber, .europeanSeparator, .commonSeparator, .europeanTerminator, .neutral,
    .boundaryNeutral, .mark]

/-- The classes of a label that runs from right to left. -/
def rightward : List Direction := turning ++ shared

/-- The classes of a label that runs from left to right. -/
def leftward : List Direction := .leftToRight :: shared

private def endsIn (ends classes : List Direction) : Bool :=
  (classes.reverse.dropWhile (· == .mark)).head?.any ends.contains

/-- Whether a label of some classes can stand in a name of mixed directions. -/
def isDirected : List Direction → Bool
  | [] => true
  | first :: rest =>
    let classes := first :: rest
    if first = .rightToLeft ∨ first = .arabicLetter then
      classes.all rightward.contains && endsIn (.europeanNumber :: turning) classes &&
        !(classes.contains .europeanNumber && classes.contains .arabicNumber)
    else if first = .leftToRight then
      classes.all leftward.contains && endsIn [.leftToRight, .europeanNumber] classes
    else false

/-! ### Names -/

private def isMark (c : Char) : Bool :=
  (Category.unionOf Category.marks).contains c.toNat

/-- Whether a label can stand in any name. -/
def isLabel (label : List Char) : Bool :=
  label.all DomainCharacter.isFinal && !label.head?.any isMark && joinersInPlace [] label

/-- The labels that a name stands for, if it is one. -/
def labels? (name : List Char) : Option (List (List Char)) := do
  let labels ← (splitChars '.' (← prepare? name)).mapM decodeLabel?
  let directions := labels.map fun label => label.map Direction.ofChar
  let isMixed := directions.any fun classes => classes.any turning.contains
  if labels.all isLabel && (!isMixed || directions.all isDirected) then some labels else none

/-- A label with basic characters alone. -/
def encodeLabel (label : List Char) : List Char :=
  if isBasic label then label else encodedStart ++ Punycode.encode label

/-- A name with basic characters alone. -/
def toBasic? (name : List Char) : Option (List Char) :=
  (labels? name).map fun labels => ['.'].intercalate (labels.map encodeLabel)

end Domain

end SchemaSeed.Url

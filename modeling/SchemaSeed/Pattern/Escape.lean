import SchemaSeed.Number.Decimal
import SchemaSeed.Number.Printed
import SchemaSeed.Pattern.Node
import SchemaSeed.Text.Blank

/-!
What a backslash introduces: characters, classes and conditions; and the modes under which a pattern
is read.
-/

set_option autoImplicit false
set_option relaxedAutoImplicit false

namespace SchemaSeed.Pattern

open SchemaSeed.Text SchemaSeed.Number

/-- The modes that a pattern can switch. -/
structure Modes where
  ignoreCase : Bool := false
  multiLine : Bool := false
  dotAll : Bool := false
  swapGreed : Bool := false
  unicode : Bool := true
  anyLineEnd : Bool := false
  /-- Blanks and comments between the parts do not count. -/
  spaced : Bool := false
  deriving DecidableEq, Repr

namespace Modes

private def skipBlanks : Bool → List Char → List Char
  | _, [] => []
  | true, c :: cs => skipBlanks (c != '\n') cs
  | false, c :: cs =>
    if isBlank c then skipBlanks false cs
    else if c = '#' then skipBlanks true cs
    else c :: cs

/-- The text from the next part on. -/
def skip (m : Modes) (cs : List Char) : List Char := if m.spaced then skipBlanks false cs else cs

private def firstPast : Bool → List Char → Option Char
  | _, [] => none
  | commented, c :: cs =>
    if isBlank c then firstPast commented cs
    else if !commented && c = '#' then firstPast true cs
    else some c

/-- The next character that is no blank; of a comment only its mark is passed over. -/
def peek (m : Modes) (cs : List Char) : Option Char := if m.spaced then firstPast false cs else cs.head?

/-- The set for one character. -/
def close (m : Modes) (s : CodePoints) : CodePoints :=
  if !m.ignoreCase then s else if m.unicode then closeUnderCase s else closeUnderAsciiCase s

/-- The characters outside a set. Without the full character set there is no such class, as it would
hold bytes that are no characters. -/
def complement? (m : Modes) (s : CodePoints) : Option CodePoints :=
  if m.unicode then some s.complement else none

/-- Switches one mode. -/
def set (m : Modes) (value : Bool) : Char → Option Modes
  | 'i' => some { m with ignoreCase := value }
  | 'm' => some { m with multiLine := value }
  | 's' => some { m with dotAll := value }
  | 'U' => some { m with swapGreed := value }
  | 'u' => some { m with unicode := value }
  | 'R' => some { m with anyLineEnd := value }
  | 'x' => some { m with spaced := value }
  | _ => none

/-- Reads switches up to the colon or parenthesis that ends them: letters, each at most once, with at
most one hyphen, after which they switch off. Tells the new modes, the end and the rest. -/
def readSwitches (m : Modes) (seen : List Char) : List Char → Option (Modes × Char × List Char)
  | [] => none
  | c :: rest =>
    if c = ':' ∨ c = ')' then
      if seen.head? = some '-' ∨ (c = ')' ∧ seen = []) then none else some (m, c, rest)
    else if seen.contains c then none
    else if c = '-' then readSwitches m ('-' :: seen) rest
    else (m.set (!seen.contains '-') c).bind fun m => readSwitches m (c :: seen) rest

/-- The condition of a caret. -/
def caret (m : Modes) : Look :=
  if !m.multiLine then .textStart else if m.anyLineEnd then .anyLineStart else .lineStart

/-- The condition of a dollar sign. -/
def dollar (m : Modes) : Look :=
  if !m.multiLine then .textStop else if m.anyLineEnd then .anyLineStop else .lineStop

/-- The characters of a dot. -/
def dot? (m : Modes) : Option CodePoints :=
  if !m.unicode then none
  else if m.dotAll then some .all
  else if m.anyLineEnd then some (.complement (.ofRanges [(0x0A, 0x0A), (0x0D, 0x0D)]))
  else some (.complement (.range 0x0A 0x0A))

/-- The set of one written character. -/
def literal (m : Modes) (c : Char) : CodePoints := m.close (.range c.toNat c.toNat)

end Modes

/-- What an escape stands for. -/
inductive Escape where
  /-- A character; a byte is written with exactly two digits after an `x`. -/
  | character (value : Char) (isByte : Bool)
  | set (value : CodePoints)
  | look (condition : Look)
  deriving Repr

namespace Escape

private def charOfCode? (code : Nat) : Option Char :=
  if code < 0xD800 ∨ (0xDFFF < code ∧ code < 0x110000) then some (Char.ofNat code) else none

private def takeDigits (m : Modes) : Nat → List Char → Option (List Char × List Char)
  | 0, cs => some ([], cs)
  | n + 1, c :: rest => do
    let _ ← hexValue? c
    let (more, rest) ← takeDigits m n (m.skip rest)
    return (c :: more, rest)
  | _ + 1, [] => none

private def codeOf (digits : List Char) : Nat :=
  digits.foldl (fun n c => 16 * n + (hexValue? c).getD 0) 0

private def braced (m : Modes) (fuel : Nat) (digits : List Char) (cs : List Char) :
    Option (List Char × List Char) :=
  match fuel, m.skip cs with
  | fuel + 1, c :: rest =>
    if c = '}' then some (digits.reverse, rest)
    else if (hexValue? c).isSome then braced m fuel (c :: digits) rest
    else none
  | _, _ => none

/-- A character by its number: so many digits, or any number of them in braces. -/
def readCode (m : Modes) (width : Nat) (cs : List Char) : Option (Escape × List Char) :=
  match m.skip cs with
  | '{' :: rest => do
    let (digits, rest) ← braced m rest.length [] rest
    if digits.isEmpty then none
    return (.character (← charOfCode? (codeOf digits)) false, m.skip rest)
  | cs => do
    let (digits, rest) ← takeDigits m width cs
    return (.character (← charOfCode? (codeOf digits)) (width == 2), rest)

private def bracedName (m : Modes) (fuel : Nat) (name : List Char) (cs : List Char) :
    Option (List Char × List Char) :=
  match fuel, m.skip cs with
  | fuel + 1, c :: rest =>
    if c = '}' then some (name.reverse, rest) else bracedName m fuel (c :: name) rest
  | _, _ => none

/-- A class by its property: one letter, or a name in braces. -/
def readProperty (m : Modes) (negated : Bool) (cs : List Char) : Option (Escape × List Char) := do
  let (name, rest) ← match m.skip cs with
    | '{' :: rest => bracedName m rest.length [] rest
    | '\\' :: _ => none
    | c :: rest => some ([c], m.skip rest)
    | [] => none
  if !m.unicode then none
  let query := PropertyQuery.ofText name
  let s := m.close (← query.codePoints?)
  return (.set (if negated != query.isNegated then s.complement else s), rest)

private def isEdgeLetter (c : Char) : Bool := c.isAlpha || c == '-'

private def edgeName (m : Modes) (fuel : Nat) (name : List Char) (cs : List Char) :
    List Char × List Char :=
  match fuel, m.skip cs with
  | fuel + 1, c :: rest =>
    if isEdgeLetter c then edgeName m fuel (c :: name) rest else (name.reverse, c :: rest)
  | _, rest => (name.reverse, rest)

private def edgeOf? : String → Option WordEdge
  | "start" => some .start
  | "end" => some .stop
  | "start-half" => some .halfStart
  | "end-half" => some .halfStop
  | _ => none

/-- The edge of a word, of a kind that may be named in braces. Braces that do not start with a letter
or hyphen belong to what follows. -/
def readEdge (m : Modes) (cs : List Char) : Option (Escape × List Char) :=
  let plain : Option (Escape × List Char) := some (.look (.word .either m.unicode), cs)
  match cs with
  | '{' :: rest =>
    match m.skip rest with
    | [] => none
    | c :: more =>
      if !isEdgeLetter c then plain
      else
        match edgeName m rest.length [] (c :: more) with
        | (name, '}' :: rest) =>
          (edgeOf? (String.ofList name)).map fun edge => (.look (.word edge m.unicode), rest)
        | _ => none
  | _ => plain

private def short (m : Modes) (negated : Bool) (c : ShortClass) (rest : List Char) :
    Option (Escape × List Char) :=
  let s := c.codePoints m.unicode
  if negated then (m.complement? s).map fun s => (.set s, rest) else some (.set s, rest)

/-- Punctuation may be escaped, except for what is kept for other use. -/
def isEscapable (c : Char) : Bool :=
  c.toNat < 128 && !c.isAlphanum && c != '<' && c != '>'

private def mark (code : Nat) (rest : List Char) : Option (Escape × List Char) :=
  some (.character (Char.ofNat code) false, rest)

/-- Reads what follows a backslash. -/
def read (m : Modes) : List Char → Option (Escape × List Char)
  | [] => none
  | c :: rest =>
    match c with
    | 'x' => readCode m 2 rest
    | 'u' => readCode m 4 rest
    | 'U' => readCode m 8 rest
    | 'p' => readProperty m false rest
    | 'P' => readProperty m true rest
    | 'd' => short m false .digit rest
    | 'D' => short m true .digit rest
    | 's' => short m false .space rest
    | 'S' => short m true .space rest
    | 'w' => short m false .word rest
    | 'W' => short m true .word rest
    | 'a' => mark 0x07 rest
    | 'f' => mark 0x0C rest
    | 't' => mark 0x09 rest
    | 'n' => mark 0x0A rest
    | 'r' => mark 0x0D rest
    | 'v' => mark 0x0B rest
    | 'A' => some (.look .textStart, rest)
    | 'z' => some (.look .textStop, rest)
    | 'b' => readEdge m rest
    | 'B' => some (.look (.word .neither m.unicode), rest)
    | '<' => some (.look (.word .start m.unicode), rest)
    | '>' => some (.look (.word .stop m.unicode), rest)
    | _ => if isEscapable c then some (.character c false, rest) else none

/-- The code of a written character, unless it is a byte that is no character. -/
def checkByte (m : Modes) (value : Char) (isByte : Bool) : Option Char :=
  if !m.unicode && isByte && 0x7F < value.toNat then none else some value

end Escape

end SchemaSeed.Pattern

import SchemaSeed.Settings.Basic
import SchemaSeed.Text.Alphanumeric

/-!
Files of variables: a line is blank, a comment after `#`, or gives a value to a name. A value can hold
quoted parts, escapes and the values of other variables. A variable that is there already stays as it
is, and the first line that is none of the above ends the reading, with what stands before it kept.
-/

set_option autoImplicit false
set_option relaxedAutoImplicit false

namespace SchemaSeed.Settings

/-- The lookup with one more variable, which counts only if its name has no value yet. -/
def Lookup.addIfMissing (lookup : Lookup) (name value : String) : Lookup :=
  fun key => lookup key <|> if key = name then some value else none

namespace VariableFile

/-- What a character of a value is part of. Where it matters, `quoted` tells whether double quotes are
open. -/
inductive Place where
  | text (quoted : Bool)
  /-- Between single quotes, where every character stands for itself. -/
  | verbatim
  /-- After a backslash. -/
  | escape (quoted : Bool)
  /-- The name of a variable after a dollar, its latest character first. -/
  | name (quoted : Bool) (reversed : List Char)
  /-- The name of a variable in braces after a dollar, its latest character first. -/
  | braced (quoted : Bool) (reversed : List Char)
  /-- After a blank outside of quotes, where only blanks and a comment can follow. -/
  | ending
  deriving DecidableEq, Repr

/-- The value of a variable with its name in reverse; a missing one is empty. -/
def substitute (lookup : Lookup) (reversed : List Char) : List Char :=
  ((lookup (String.ofList reversed.reverse)).getD "").toList

/-- The character that a backslash and a character stand for. -/
def unescape? (c : Char) : Option Char :=
  if c = 'n' then some '\n' else if "\\'\"$ ".contains c then some c else none

/-- One character of text: where it leads to, and what it adds to the value. -/
def textStep (quoted : Bool) (c : Char) : Place × List Char :=
  if c = '$' then (.name quoted [], [])
  else if c = '\\' then (.escape quoted, [])
  else if c = '"' then (.text !quoted, [])
  else if quoted then (.text true, [c])
  else if c = '\'' then (.verbatim, [])
  else if c = ' ' ∨ c = '\t' then (.ending, [])
  else (.text false, [c])

/-- One character of a value; `none` if it cannot stand there. The character that ends a name without
braces stands for itself, be it a quote. -/
def step (lookup : Lookup) (c : Char) : Place → Option (Place × List Char)
  | .text quoted => some (textStep quoted c)
  | .verbatim => some (if c = '\'' then (.text false, []) else (.verbatim, [c]))
  | .escape quoted => (unescape? c).map fun c => (.text quoted, [c])
  | .name quoted reversed => some <|
    if Text.isAlphanumeric c then (.name quoted (c :: reversed), [])
    else if c = '\x7b' ∧ reversed = [] then (.braced quoted [], [])
    else if c = '$' then (.name quoted [], substitute lookup reversed)
    else (.text quoted, substitute lookup reversed ++ [c])
  | .braced quoted reversed => some <|
    if c = '\x7d' then (.text quoted, substitute lookup reversed)
    else (.braced quoted (c :: reversed), [])
  | .ending => if c = ' ' ∨ c = '\t' then some (.ending, []) else none

/-- What a value adds at its end; open quotes and braces have none. -/
def close (lookup : Lookup) : Place → Option (List Char)
  | .text quoted => if quoted then none else some []
  | .verbatim => none
  | .escape quoted => if quoted then none else some []
  | .name quoted reversed => if quoted then none else some (substitute lookup reversed)
  | .braced .. => none
  | .ending => some []

/-- The rest of a value from a place on. -/
def valueFrom (lookup : Lookup) : Place → List Char → Option (List Char)
  | place, [] => close lookup place
  | place, c :: rest =>
    if place = .ending ∧ c = '#' then some []
    else do
      let (next, added) ← step lookup c place
      return added ++ (← valueFrom lookup next rest)

/-- What a line says. -/
inductive Line where
  | nothing
  | variable (name value : String)
  | malformed
  deriving DecidableEq, Repr

private def isNameStart (c : Char) : Bool := c.isAlpha || c = '_'

private def isNamePart (c : Char) : Bool := c.isAlphanum || c = '_' || c = '.'

/-- The name at the front of some characters, and what follows it and the blanks after it. -/
def name? : List Char → Option (String × List Char)
  | [] => none
  | c :: cs =>
    if isNameStart c then
      some (String.ofList (c :: cs.takeWhile isNamePart),
        (cs.dropWhile isNamePart).dropWhile Text.isBlank)
    else none

/-- The name of a line, and what follows the equals sign. The word `export` can stand before a name,
and is a name itself if the equals sign follows. -/
def assignment? (cs : List Char) : Option (String × List Char) :=
  match name? cs with
  | some (name, '=' :: rest) => some (name, rest)
  | some ("export", rest) =>
    match name? rest with
    | some (name, '=' :: rest) => some (name, rest)
    | _ => none
  | _ => none

/-- Reads a line. -/
def Line.read (lookup : Lookup) (line : String) : Line :=
  match Text.trimChars line.toList with
  | [] => .nothing
  | '#' :: _ => .nothing
  | cs =>
    match assignment? cs with
    | none => .malformed
    | some (name, rest) =>
      match rest.dropWhile Text.isBlank with
      | '#' :: _ => .variable name ""
      | value =>
        match valueFrom lookup (.text false) value with
        | some value => .variable name (String.ofList value)
        | none => .malformed

/-- Adds the variables of some lines to those that are there. A line that is no text is malformed.
There is no result if a variable would get a value that holds the character zero, which no variable
can have. -/
def extend? (lookup : Lookup) : List (Option String) → Option Lookup
  | [] => some lookup
  | none :: _ => some lookup
  | some line :: rest =>
    match Line.read lookup line with
    | .nothing => extend? lookup rest
    | .variable name value =>
      if (lookup name).isNone && value.contains '\x00' then none
      else extend? (lookup.addIfMissing name value) rest
    | .malformed => some lookup

private def splitLines : List UInt8 → List UInt8 → List (List UInt8)
  | reversed, [] => [reversed.reverse]
  | reversed, b :: rest =>
    if b = 10 then reversed.reverse :: splitLines [] rest else splitLines (b :: reversed) rest

/-- The lines of a file. -/
def lines (content : ByteArray) : List (Option String) :=
  (splitLines [] content.toList).map fun (line : List UInt8) => String.fromUTF8? ⟨line.toArray⟩

private def wordsOf (isPart : Char → Bool) (text : String) : List String :=
  ((text.map fun c => if isPart c then c else ' ').splitOn " ").filter (· ≠ "")

/-- The names that a file gives a value to, and those of whose values it may make use. -/
def mentioned (content : ByteArray) : List String :=
  (lines content).flatMap fun
    | none => []
    | some line => wordsOf isNamePart line ++ wordsOf Text.isAlphanumeric line

end VariableFile

end SchemaSeed.Settings

import SchemaSeed.Number.Decimal
import SchemaSeed.Pattern.Search

/-!
Replacement texts. A dollar sign refers to a group by its number or name; two of them stand for one.

Authors write `$1abc` for the first group followed by `abc`. In the notation that is expanded, a name
runs as far as it can, so bare numbers are put in braces first.
-/

set_option autoImplicit false
set_option relaxedAutoImplicit false

namespace SchemaSeed.Pattern

open SchemaSeed.Number

/-- Puts bare group numbers in braces. -/
def normalize : List Char → List Char
  | [] => []
  | '$' :: '$' :: rest => '$' :: '$' :: normalize rest
  | '$' :: rest =>
    match rest.takeWhile Char.isDigit with
    | [] => '$' :: normalize rest
    | ds => ['$', '\x7b'] ++ ds ++ ['\x7d'] ++ normalize (rest.drop ds.length)
  | c :: rest => c :: normalize rest
termination_by cs => cs.length
decreasing_by all_goals simp_wf; try omega

/-- How a group is referred to. -/
inductive GroupRef where
  | number (index : Nat)
  | name (name : String)
  deriving DecidableEq, Repr

/-- What the text between the braces, or behind the dollar sign, refers to: a number of 64 bits, or
else a name. -/
def GroupRef.ofText (s : String) : GroupRef :=
  match natBelow? (twoTo 64) s with
  | some n => .number n
  | none => .name s

/-- A piece of a replacement text. -/
inductive Piece where
  | verbatim (c : Char)
  | group (target : GroupRef)
  deriving DecidableEq, Repr

/-- The characters of bare names. -/
def isBareName (c : Char) : Bool := c.isAlphanum || c == '_'

/-- Takes a replacement text apart. A dollar sign that refers to nothing stands for itself. -/
def pieces : List Char → List Piece
  | [] => []
  | '$' :: '$' :: rest => .verbatim '$' :: pieces rest
  | '$' :: '\x7b' :: rest =>
    if rest.contains '\x7d' then
      .group (.ofText (String.ofList (rest.takeWhile (· != '\x7d')))) ::
        pieces (rest.drop ((rest.takeWhile (· != '\x7d')).length + 1))
    else .verbatim '$' :: pieces ('\x7b' :: rest)
  | '$' :: rest =>
    match rest.takeWhile isBareName with
    | [] => .verbatim '$' :: pieces rest
    | name => .group (.ofText (String.ofList name)) :: pieces (rest.drop name.length)
  | c :: rest => .verbatim c :: pieces rest
termination_by cs => cs.length
decreasing_by all_goals simp_wf; try omega

/-- What a piece stands for, given the contents of the groups; a group that there is not or that took
no part is empty. -/
def Piece.expand (lookup : GroupRef → Option String) : Piece → String
  | .verbatim c => c.toString
  | .group target => (lookup target).getD ""

/-- What a replacement text stands for. -/
def expand (lookup : GroupRef → Option String) (text : List Char) : String :=
  String.join ((pieces text).map (Piece.expand lookup))

namespace Machine

/-- The contents of the groups of a match. -/
def lookup (m : Machine) (text : Array Char) (found : Match) : GroupRef → Option String
  | .number index => found.group? text index
  | .name name => (m.names.lookup name).bind (found.group? text)

/-- A text with every match replaced. -/
def replaceAll (m : Machine) (replacement text : String) : String :=
  let cs := text.toList
  let all := cs.toArray
  let new := (normalize replacement.toList)
  let (parts, last) := (m.allMatches cs).foldl (fun (parts, last) found =>
    (expand (m.lookup all found) new :: String.ofList (all.extract last found.start).toList :: parts,
      found.stop)) (([] : List String), 0)
  String.join (String.ofList (all.extract last all.size).toList :: parts).reverse

end Machine

end SchemaSeed.Pattern

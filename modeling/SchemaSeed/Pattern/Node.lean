import SchemaSeed.Pattern.Property

/-!
Patterns as expressions: what they match, and which parts of a match they keep.
-/

set_option autoImplicit false
set_option relaxedAutoImplicit false

namespace SchemaSeed.Pattern

open SchemaSeed.Text

/-- What an edge of a word is asked for. -/
inductive WordEdge where
  | either
  | neither
  | start
  | stop
  | halfStart
  | halfStop
  deriving DecidableEq, Repr

/-- A condition on a place between two characters. -/
inductive Look where
  | textStart
  | textStop
  | lineStart
  | lineStop
  /-- Lines that end with a carriage return, a line feed or both. -/
  | anyLineStart
  | anyLineStop
  | word (edge : WordEdge) (unicode : Bool)
  deriving DecidableEq, Repr

/-- Whether a condition holds between two characters; at the ends of the text one is missing. -/
def Look.holds (before after : Option Char) : Look → Bool
  | .textStart => before.isNone
  | .textStop => after.isNone
  | .lineStart => before.isNone || before == some '\n'
  | .lineStop => after.isNone || after == some '\n'
  | .anyLineStart =>
    before.isNone || before == some '\n' || (before == some '\r' && after != some '\n')
  | .anyLineStop =>
    after.isNone || after == some '\r' || (after == some '\n' && before != some '\r')
  | .word edge unicode =>
    let letters := if unicode then wordCharacters else asciiWordCharacters
    let left := before.any fun c => letters.contains c.toNat
    let right := after.any fun c => letters.contains c.toNat
    match edge with
    | .either => left != right
    | .neither => left == right
    | .start => !left && right
    | .stop => left && !right
    | .halfStart => !left
    | .halfStop => !right

/-- A pattern as an expression. -/
inductive Node where
  | empty
  /-- One character of a set. -/
  | oneOf (set : CodePoints)
  | look (condition : Look)
  /-- A part whose match is kept under a number and possibly a name. -/
  | group (index : Nat) (name : Option String) (inner : Node)
  | seq (first second : Node)
  /-- The first that leads to a match counts. -/
  | alt (first second : Node)
  /-- Repetitions, as many or as few as possible. -/
  | repeated (inner : Node) (min : Nat) (max : Option Nat) (greedy : Bool)
  deriving DecidableEq, Repr

namespace Node

/-- The one character of a set that has no other. -/
def single? : Node → Option Nat
  | .oneOf ⟨[(lo, hi)]⟩ => if lo = hi then some lo else none
  | _ => none

/-- The parts that follow one another, none of which is a sequence or empty. -/
def parts : Node → List Node
  | .empty => []
  | .seq a b => a.parts ++ b.parts
  | n => [n]

/-- The parts of which the first that leads to a match counts. -/
def branches : Node → List Node
  | .alt a b => a.branches ++ b.branches
  | n => [n]

private def chain : List Node → Node
  | [] => .empty
  | [n] => n
  | n :: rest => .seq n (chain rest)

/-- Parts one after another. -/
def sequence (ns : List Node) : Node := chain (ns.flatMap parts)

/-- Joins neighbours that are single characters. -/
private def addPart (n : Node) : List (List Node) → List (List Node)
  | (m :: run) :: rest =>
    if n.single?.isSome && m.single?.isSome then (n :: m :: run) :: rest else [n] :: (m :: run) :: rest
  | rest => [n] :: rest

/-- A sequence in pieces: single characters that follow one another are one piece, any other part is
one by itself. -/
def pieces (n : Node) : List (List Node) := n.parts.foldr addPart []

private def sharedStart : List (List Node) → List (List Node) → List (List Node)
  | p :: ps, q :: qs => if p = q then p :: sharedStart ps qs else []
  | _, _ => []

private def altChain : List Node → Node
  | [] => .oneOf .empty
  | [n] => n
  | n :: rest => .alt n (altChain rest)

/-- The set of some parts that are all single characters, or all sets of several. -/
def mergedSet? (ns : List Node) : Option CodePoints :=
  let sets := ns.filterMap fun n => match n with
    | .oneOf s => some s
    | _ => none
  if sets.length < ns.length then none
  else if ns.all (·.single?.isSome) || ns.all (·.single?.isNone) then
    some (.ofRanges (sets.flatMap (·.ranges)))
  else none

private def choose : Nat → List Node → Node
  | 0, ns => altChain ns
  | fuel + 1, ns =>
    match mergedSet? ns with
    | some s => .oneOf s
    | none =>
      match ns.map pieces with
      | first :: others =>
        let shared := others.foldl sharedStart first
        if shared.isEmpty || (first :: others).any (·.length < 2) then altChain ns
        else
          let ends := (first :: others).map fun ps => chain (ps.drop shared.length).flatten
          chain (shared.flatten ++ (choose fuel (ends.flatMap branches)).parts)
      | [] => altChain ns

/-- Parts of which the first that leads to a match counts. Characters become a set, and the pieces that
all parts start with are taken out in front. -/
def alternatives (ns : List Node) : Node :=
  let ns := ns.flatMap branches
  match ns with
  | [n] => n
  | _ => choose (ns.flatMap parts).length.succ ns

/-- Whether nothing but the empty text is matched. -/
def isAlwaysEmpty : Node → Bool
  | .empty => true
  | .oneOf _ => false
  | .look _ => true
  | .group _ _ inner => inner.isAlwaysEmpty
  | .seq a b => a.isAlwaysEmpty && b.isAlwaysEmpty
  | .alt a b => a.isAlwaysEmpty && b.isAlwaysEmpty
  | .repeated inner .. => inner.isAlwaysEmpty

/-- Whether the empty text is surely not matched. -/
def isNeverEmpty : Node → Bool
  | .empty => false
  | .oneOf _ => true
  | .look _ => false
  | .group _ _ inner => inner.isNeverEmpty
  | .seq a b => a.isNeverEmpty || b.isNeverEmpty
  | .alt a b => a.isNeverEmpty && b.isNeverEmpty
  | .repeated inner min _ _ => 0 < min && inner.isNeverEmpty

/-- A repetition. What matches only the empty text is repeated at most once; no repetition is the
empty pattern, groups included; exactly one is the part itself. -/
def repetition (inner : Node) (min : Nat) (max : Option Nat) (greedy : Bool) : Node :=
  let (least, most) :=
    if inner.isAlwaysEmpty then (Nat.min min 1, some ((max.map fun n => Nat.min n 1).getD 1))
    else (min, max)
  if most = some 0 then .empty
  else if least = 1 ∧ most = some 1 then inner
  else .repeated inner least most greedy

/-- The numbers and names of the groups, in the order of the text. -/
def groups : Node → List (Nat × Option String)
  | .empty => []
  | .oneOf _ => []
  | .look _ => []
  | .group index name inner => (index, name) :: inner.groups
  | .seq a b => a.groups ++ b.groups
  | .alt a b => a.groups ++ b.groups
  | .repeated inner .. => inner.groups

/-- The conditions that a pattern asks for. -/
def looks : Node → List Look
  | .empty => []
  | .oneOf _ => []
  | .look condition => [condition]
  | .group _ _ inner => inner.looks
  | .seq a b => a.looks ++ b.looks
  | .alt a b => a.looks ++ b.looks
  | .repeated inner .. => inner.looks

end Node

end SchemaSeed.Pattern

import SchemaSeed.Pattern.Bracket
import SchemaSeed.Text.Alphanumeric

/-!
Reading patterns: from text to expressions.

Modes hold from where they are switched to the end of the group. A reader returns the text that it
left, so that the reader of a group can go on behind the group's end.
-/

set_option autoImplicit false
set_option relaxedAutoImplicit false

namespace SchemaSeed.Pattern

open SchemaSeed.Text SchemaSeed.Number

/-- What is left to be read, with the number of groups so far and their names. -/
structure Scan where
  rest : List Char
  groups : Nat := 0
  names : List String := []

/-- A part of a pattern with the depth to which it is nested. -/
structure Part where
  node : Node
  depth : Nat := 0
  /-- Switches of modes are no parts that could be repeated. -/
  repeatable : Bool := true

namespace Part

/-- Parts one after another. -/
def sequence : List Part → Part
  | [p] => p
  | ps =>
    ⟨.sequence (ps.map (·.node)), if ps.isEmpty then 0 else 1 + (ps.map (·.depth)).foldl max 0, true⟩

/-- Parts of which one is to match. -/
def alternatives : List Part → Part
  | [p] => p
  | ps => ⟨.alternatives (ps.map (·.node)), 1 + (ps.map (·.depth)).foldl max 0, true⟩

/-- A part repeated, the latest of some parts. -/
def repeatLatest (min : Nat) (max : Option Nat) (greedy : Bool) : List Part → Option (List Part)
  | p :: ps =>
    if p.repeatable then some (⟨.repetition p.node min max greedy, p.depth + 1, true⟩ :: ps) else none
  | [] => none

end Part

/-- How often something is repeated. -/
structure Count where
  min : Nat
  max : Option Nat

namespace Count

private def digits (m : Modes) (fuel : Nat) (soFar : List Char) (cs : List Char) :
    List Char × List Char :=
  match fuel, cs with
  | fuel + 1, c :: rest =>
    if c.isDigit then digits m fuel (c :: soFar) (m.skip rest) else (soFar.reverse, c :: rest)
  | _, cs => (soFar.reverse, cs)

/-- A decimal number below 2 ^ 32 with blanks around it; none at all is told apart from a bad one. -/
def readNumber (m : Modes) (cs : List Char) : Option (Option Nat × List Char) :=
  let (ds, rest) := digits m cs.length [] (cs.dropWhile isBlank)
  let rest := m.skip (rest.dropWhile isBlank)
  match natOfChars? ds with
  | none => some (none, rest)
  | some n => if n < twoTo 32 then some (some n, rest) else none

/-- Reads a count after its opening brace. -/
def read (m : Modes) (cs : List Char) : Option (Count × List Char) := do
  let (least, rest) ← readNumber m (m.skip cs)
  let least ← least
  match rest with
  | '}' :: rest => return (⟨least, some least⟩, rest)
  | ',' :: rest =>
    match m.skip rest with
    | '}' :: rest => return (⟨least, none⟩, rest)
    | rest => do
      let (most, rest) ← readNumber m rest
      let most ← most
      match rest with
      | '}' :: rest => if most < least then none else return (⟨least, some most⟩, rest)
      | _ => none
  | _ => none

end Count

/-- What an opening parenthesis introduces. -/
inductive Opening where
  | switches (modes : Modes)
  | group (modes : Modes) (kept : Option (Nat × Option String))

namespace Opening

private def isNameStart (c : Char) : Bool :=
  c == '_' || isAlphabetic c

private def isNamePart (c : Char) : Bool :=
  c == '_' || c == '.' || c == '[' || c == ']' || isAlphanumeric c

private def readName (s : Scan) (cs : List Char) : Option (String × List Char) :=
  let name := cs.takeWhile (· != '>')
  match name, cs.dropWhile (· != '>') with
  | c :: more, _ :: rest =>
    let text := String.ofList name
    if isNameStart c && more.all isNamePart && !s.names.contains text then some (text, rest) else none
  | _, _ => none

private def named (m : Modes) (s : Scan) (cs : List Char) : Option (Opening × Scan) := do
  let (name, rest) ← readName s cs
  return (.group m (some (s.groups + 1, some name)),
    { rest, groups := s.groups + 1, names := name :: s.names })

/-- Reads what follows an opening parenthesis. There is no looking ahead or behind. -/
def read (m : Modes) (s : Scan) : Option (Opening × Scan) :=
  match m.skip s.rest with
  | '?' :: '=' :: _ => none
  | '?' :: '!' :: _ => none
  | '?' :: '<' :: '=' :: _ => none
  | '?' :: '<' :: '!' :: _ => none
  | '?' :: 'P' :: '<' :: rest => named m s rest
  | '?' :: '<' :: rest => named m s rest
  | '?' :: rest => do
    let (modes, stop, rest) ← m.readSwitches [] rest
    return (if stop = ')' then .switches modes else .group modes none, { s with rest })
  | rest =>
    some (.group m (some (s.groups + 1, none)), { s with rest, groups := s.groups + 1 })

end Opening

namespace Part

private def single (m : Modes) : List Char → Option (Part × List Char)
  | [] => none
  | '.' :: rest => m.dot?.map fun s => (⟨.oneOf s, 0, true⟩, rest)
  | '^' :: rest => some (⟨.look m.caret, 0, true⟩, rest)
  | '$' :: rest => some (⟨.look m.dollar, 0, true⟩, rest)
  | '[' :: rest => do
    let (b, rest) ← Bracket.read m rest
    return (⟨.oneOf b.set, b.depth, true⟩, rest)
  | '\\' :: rest => do
    let (escape, rest) ← Escape.read m rest
    match escape with
    | .character c isByte => do
      let c ← Escape.checkByte m c isByte
      return (⟨.oneOf (m.literal c), 0, true⟩, rest)
    | .set s => return (⟨.oneOf s, 0, true⟩, rest)
    | .look l => return (⟨.look l, 0, true⟩, rest)
  | c :: rest => some (⟨.oneOf (m.literal c), 0, true⟩, rest)

private def lazily (rest : List Char) : Bool × List Char :=
  match rest with
  | '?' :: rest => (true, rest)
  | rest => (false, rest)

/-- A part in parentheses. -/
def enclosed (kept : Option (Nat × Option String)) (inner : Part) : Part :=
  match kept with
  | some (index, name) => ⟨.group index name inner.node, inner.depth + 1, true⟩
  | none => ⟨inner.node, inner.depth + 1, true⟩

/-- Reads on in a group or the whole pattern: `branches` are the finished alternatives and `parts` the
parts of the current one, both the latest first. -/
def readFrom : Nat → Modes → List Part → List Part → Scan → Option (Part × Scan)
  | 0, _, _, _, _ => none
  | fuel + 1, m, branches, parts, s =>
    let repeated (min : Nat) (max : Option Nat) (rest : List Char) : Option (Part × Scan) := do
      let (isLazy, rest) := lazily rest
      let parts ← repeatLatest min max (isLazy == m.swapGreed) parts
      readFrom fuel m branches parts { s with rest }
    let finished : Part := alternatives (sequence parts.reverse :: branches).reverse
    match m.skip s.rest with
    | [] => some (finished, { s with rest := [] })
    | ')' :: rest => some (finished, { s with rest := ')' :: rest })
    | '|' :: rest => readFrom fuel m (sequence parts.reverse :: branches) [] { s with rest }
    | '(' :: rest => do
      let (opening, s) ← Opening.read m { s with rest }
      match opening with
      | .switches modes => readFrom fuel modes branches (⟨.empty, 0, false⟩ :: parts) s
      | .group modes kept => do
        let (inner, s) ← readFrom fuel modes [] [] s
        match s.rest with
        | ')' :: rest => readFrom fuel m branches (enclosed kept inner :: parts) { s with rest }
        | _ => none
    | '?' :: rest => repeated 0 (some 1) rest
    | '*' :: rest => repeated 0 none rest
    | '+' :: rest => repeated 1 none rest
    | '{' :: rest => do
      let (count, rest) ← Count.read m rest
      repeated count.min count.max (m.skip rest)
    | rest => do
      let (part, rest) ← single m rest
      readFrom fuel m branches (part :: parts) { s with rest }

end Part

/-- Parts may be nested this deep. -/
def maxDepth : Nat := 250

/-- The expression that a text stands for. -/
def Node.ofText? (text : String) : Option Node := do
  let cs := text.toList
  let (part, s) ← Part.readFrom (cs.length + 1) {} [] [] { rest := cs }
  if !s.rest.isEmpty || maxDepth < part.depth then none
  return part.node

end SchemaSeed.Pattern

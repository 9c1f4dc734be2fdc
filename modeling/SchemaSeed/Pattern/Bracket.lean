import SchemaSeed.Pattern.Escape

/-!
Classes in brackets: characters, ranges, classes within classes, and the operations on them.
-/

set_option autoImplicit false
set_option relaxedAutoImplicit false

namespace SchemaSeed.Pattern

open SchemaSeed.Text

/-- A class with the depth to which it is nested. -/
structure Bracket where
  set : CodePoints
  depth : Nat := 0
  deriving Repr

namespace Bracket

/-- An operation on two classes. -/
inductive Operator where
  | both
  | without
  | onlyOne
  deriving DecidableEq, Repr

/-- The operation on sets. -/
def Operator.apply : Operator → CodePoints → CodePoints → CodePoints
  | .both => .inter
  | .without => .diff
  | .onlyOne => .symmDiff

/-- The union of some items. -/
def union : List Bracket → Bracket
  | [] => ⟨.empty, 0⟩
  | [b] => b
  | bs => ⟨.ofRanges (bs.flatMap fun b => b.set.ranges), 1 + (bs.map (·.depth)).foldl max 0⟩

/-- What was read before an operator. -/
structure Pending where
  left : Bracket
  operator : Operator

/-- Joins what was read before the last operator with what was read after it. Operators bind alike,
from left to right, and case is ignored on both sides before they apply. -/
def join (m : Modes) (pending : Option Pending) (right : Bracket) : Bracket :=
  match pending with
  | none => right
  | some p =>
    ⟨p.operator.apply (m.close p.left.set) (m.close right.set), 1 + max p.left.depth right.depth⟩

/-- A finished class. -/
def close? (m : Modes) (negated : Bool) (b : Bracket) : Option Bracket := do
  let s := m.close b.set
  return ⟨← if negated then m.complement? s else some s, b.depth + 1⟩

/-- A class in brackets and colons, if there is one: the text after its opening bracket decides. -/
def readNamed (m : Modes) : List Char → Option (Option Bracket × List Char)
  | ':' :: rest =>
    let negated := rest.head? == some '^'
    let rest := if negated then rest.drop 1 else rest
    let name := String.ofList (rest.takeWhile (· != ':'))
    match rest.dropWhile (· != ':'), namedClass? name with
    | ':' :: ']' :: rest, some s =>
      let s := m.close s
      some ((if negated then m.complement? s else some s).map fun s => ⟨s, 0⟩, rest)
    | _, _ => none
  | _ => none

/-- One end of a range or a whole item. -/
inductive Item where
  | character (value : Char)
  | set (value : CodePoints)

private def plain? (m : Modes) (c : Char) : Option Item :=
  if !m.unicode && 0x7F < c.toNat then none else some (.character c)

/-- Reads a character or an escape. Conditions have no place in a class. -/
def readItem (m : Modes) : List Char → Option (Item × List Char)
  | [] => none
  | '\\' :: rest => do
    let (escape, rest) ← Escape.read m rest
    match escape with
    | .character c _ => return (← plain? m c, rest)
    | .set s => return (.set s, rest)
    | .look _ => none
  | c :: rest => (plain? m c).map fun item => (item, rest)

private def readRange (m : Modes) (cs : List Char) : Option (Bracket × List Char) := do
  let (first, rest) ← readItem m cs
  let alone : Bracket := match first with
    | .character c => ⟨.range c.toNat c.toNat, 0⟩
    | .set s => ⟨s, 0⟩
  match m.skip rest with
  | [] => none
  | '-' :: after =>
    if m.peek after = some ']' ∨ m.peek after = some '-' then return (alone, '-' :: after)
    let (last, rest) ← readItem m (m.skip after)
    match first, last with
    | .character a, .character b =>
      if b.toNat < a.toNat then none else return (⟨.range a.toNat b.toNat, 0⟩, rest)
    | _, _ => none
  | rest => return (alone, rest)

private def hyphens : Nat → Modes → List Char → List Bracket × List Char
  | fuel + 1, m, '-' :: rest =>
    let (more, rest) := hyphens fuel m (m.skip rest)
    (⟨.range 0x2D 0x2D, 0⟩ :: more, rest)
  | _, _, cs => ([], cs)

/-- Reads the start of a class, after its bracket: a caret, hyphens, and a closing bracket that stands
for itself because nothing stands before it. -/
def readOpening (m : Modes) (cs : List Char) : Bool × List Bracket × List Char :=
  let cs := m.skip cs
  let negated := cs.head? == some '^'
  let cs := if negated then m.skip (cs.drop 1) else cs
  match hyphens cs.length m cs with
  | ([], ']' :: rest) => (negated, [⟨.range 0x5D 0x5D, 0⟩], m.skip rest)
  | (items, rest) => (negated, items, rest)

/-- Reads on in a class: `items` is what was read since the last operator. -/
def readRest (m : Modes) (negated : Bool) :
    Nat → Option Pending → List Bracket → List Char → Option (Bracket × List Char)
  | 0, _, _, _ => none
  | fuel + 1, pending, items, cs =>
    let operator (o : Operator) (rest : List Char) : Option (Bracket × List Char) :=
      readRest m negated fuel (some ⟨join m pending (union items.reverse), o⟩) [] rest
    match m.skip cs with
    | [] => none
    | ']' :: rest => do
      return (← close? m negated (join m pending (union items.reverse)), rest)
    | '[' :: rest =>
      match readNamed m rest with
      | some (found, rest) => do
        let b ← found
        readRest m negated fuel pending (b :: items) rest
      | none => do
        let (inner, start, rest) := readOpening m rest
        let (b, rest) ← readRest m inner fuel none start.reverse rest
        readRest m negated fuel pending (b :: items) rest
    | '&' :: '&' :: rest => operator .both rest
    | '-' :: '-' :: rest => operator .without rest
    | '~' :: '~' :: rest => operator .onlyOne rest
    | cs => do
      let (b, rest) ← readRange m cs
      readRest m negated fuel pending (b :: items) rest

/-- Reads a class, after its opening bracket. -/
def read (m : Modes) (cs : List Char) : Option (Bracket × List Char) :=
  let (negated, start, rest) := readOpening m cs
  readRest m negated (rest.length + 1) none start.reverse rest

end Bracket

end SchemaSeed.Pattern

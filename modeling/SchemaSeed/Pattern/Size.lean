import SchemaSeed.Number.Power
import SchemaSeed.Pattern.Node
import Std.Data.HashMap

/-!
The size of a pattern, by which patterns that are too large are refused.

The measure is the memory of two machines that read a text byte by byte, one from the front and one
from the back. Each of them has to stay below the limit. A set of characters is split into runs whose
encoded forms differ in ranges of single bytes. From the front, states with the same ways out are
shared; from the back, runs that start alike share the states of their start.
-/

set_option autoImplicit false
set_option relaxedAutoImplicit false

namespace SchemaSeed.Pattern

open SchemaSeed.Text SchemaSeed.Number

/-- The bytes of the encoded form of a character. -/
def encoded (c : Nat) : List Nat :=
  if c < 0x80 then [c]
  else if c < 0x800 then [0xC0 + c / 0x40, 0x80 + c % 0x40]
  else if c < 0x10000 then [0xE0 + c / 0x1000, 0x80 + c / 0x40 % 0x40, 0x80 + c % 0x40]
  else [0xF0 + c / 0x40000, 0x80 + c / 0x1000 % 0x40, 0x80 + c / 0x40 % 0x40, 0x80 + c % 0x40]

/-- Where a run has to be split: between characters of different length, and where a byte other than
the last would change while the ones behind it do not take all their values. -/
def splitPoint? (lo hi : Nat) : Option Nat :=
  match [0x80, 0x800, 0x10000].find? fun first => lo < first && first ≤ hi with
  | some first => some first
  | none =>
    if hi < 0x80 then none
    else
      [0x40, 0x1000, 0x40000].findSome? fun unit =>
        if lo / unit = hi / unit then none
        else if lo % unit ≠ 0 then some ((lo / unit + 1) * unit)
        else if hi % unit ≠ unit - 1 then some (hi / unit * unit)
        else none

/-- Splits a run until it is one of ranges of bytes. -/
def byteRuns : Nat → Nat → Nat → List (List (Nat × Nat))
  | 0, lo, hi => [(encoded lo).zip (encoded hi)]
  | fuel + 1, lo, hi =>
    match splitPoint? lo hi with
    | some middle => byteRuns fuel lo (middle - 1) ++ byteRuns fuel middle hi
    | none => [(encoded lo).zip (encoded hi)]

/-- The end of a text that a machine starts from. -/
inductive ReadingOrder where
  | forward
  | backward
  deriving DecidableEq, Repr

/-- The memory of one state. -/
def stateSize : Nat := 32

/-- The memory of a way out of a state on a range of bytes. -/
def arcSize : Nat := 8

/-- The memory of a way out of a state that reads nothing. -/
def branchSize : Nat := 4

/-- The runs of bytes of a set. -/
def runsOf (s : CodePoints) : List (List (Nat × Nat)) :=
  s.ranges.flatMap fun r => byteRuns 32 r.1 r.2

private def sharedBytes : List (Nat × Nat) → List (Nat × Nat) → Nat
  | a :: as, b :: bs => if a = b then sharedBytes as bs + 1 else 0
  | _, _ => 0

private def newStates (before : List (Nat × Nat)) : List (List (Nat × Nat)) → Nat
  | [] => 0
  | run :: rest => run.length - sharedBytes before run + newStates run rest

/-- Groups neighbours with the same first range, and keeps what follows that range. -/
private def byFirst : List (List (Nat × Nat)) → List ((Nat × Nat) × List (List (Nat × Nat)))
  | [] => []
  | [] :: rest => byFirst rest
  | (r :: tail) :: rest =>
    match byFirst rest with
    | (q, tails) :: more => if r = q then (q, tail :: tails) :: more else (r, [tail]) :: (q, tails) :: more
    | [] => [(r, [tail])]

/-- A state by its ways out: ranges of bytes and the numbers of the states that they lead to. -/
abbrev Arcs := List (Nat × Nat × Nat)

/-- The states built so far, each with its number. The end has number zero. -/
abbrev Shared := Std.HashMap Arcs Nat

/-- The number of a state; one that is there already is not built again. -/
def Shared.intern (arcs : Arcs) (shared : Shared) : Nat × Shared :=
  match shared[arcs]? with
  | some number => (number, shared)
  | none => (shared.size + 1, shared.insert arcs (shared.size + 1))

/-- The states for some runs, and the number of their first one. -/
def Shared.ofRuns : Nat → List (List (Nat × Nat)) → Shared → Nat × Shared
  | 0, _, shared => (0, shared)
  | fuel + 1, runs, shared =>
    match byFirst runs with
    | [] => (0, shared)
    | groups =>
      let (arcs, shared) := groups.foldl (fun (arcs, shared) (range, tails) =>
        let (next, shared) := Shared.ofRuns fuel tails shared
        ((range.1, range.2, next) :: arcs, shared)) (([], shared) : Arcs × Shared)
      Shared.intern arcs.reverse shared

/-- The size of the part of a machine that reads one character of a set. -/
def setSize (order : ReadingOrder) (s : CodePoints) : Nat :=
  match Node.single? (.oneOf s) with
  | some c => (encoded c).length * stateSize
  | none =>
    if s.ranges.all fun r => r.2 < 0x80 then 2 * stateSize + arcSize * s.ranges.length
    else
      match order with
      | .backward =>
        let runs := runsOf s
        (2 + newStates [] runs) * stateSize + branchSize * runs.length
      | .forward =>
        let states := (Shared.ofRuns 5 (runsOf s) ∅).2
        stateSize + states.fold (fun n arcs _ => n + stateSize + arcSize * arcs.length) 0

/-- What follows each first byte of some texts, in the order of the texts. -/
private def byByte (texts : List (List Nat)) : List (List (List Nat)) :=
  (texts.filterMap List.head?).eraseDups.map fun b =>
    texts.filterMap fun t => match t with
      | c :: rest => if c = b then some rest else none
      | [] => none

/-- Cuts some texts where an empty one stands among them; an empty one right after the start cuts only
once. -/
private def cutAtEmpty (cut : Bool) (current : List (List Nat)) :
    List (List Nat) → List (List (List Nat))
  | [] => [current.reverse]
  | [] :: rest =>
    if cut && current.isEmpty then cutAtEmpty cut [] rest
    else current.reverse :: cutAtEmpty true [] rest
  | t :: rest => cutAtEmpty false (t :: current) rest

/-- The size of the states that tell some texts apart byte by byte. Texts that are all at their end need
none. -/
def treeSize : Nat → List (List Nat) → Nat
  | 0, _ => 0
  | fuel + 1, texts =>
    if texts.all (·.isEmpty) then 0
    else
      let chunks := cutAtEmpty false [] texts
      let filled := chunks.filter fun c => !c.isEmpty
      stateSize + branchSize * (filled.length + (chunks.length - 1)) +
        (filled.map fun chunk =>
          let follows := byByte chunk
          stateSize + (if follows.length = 1 then 0 else arcSize * follows.length) +
            (follows.map (treeSize fuel)).sum).sum

/-- The size of a part of a machine. -/
structure Measure where
  bytes : Nat
  /-- Whether the part ends in a state with several ways out: going on from there takes one more. -/
  isOpen : Bool := false
  /-- The size of the alternatives that the part consists of. -/
  inBranches : Nat

namespace Measure

/-- What going on behind a part takes. -/
def onward (m : Measure) : Nat := if m.isOpen then branchSize else 0

/-- A part that is its own only alternative. -/
def plain (bytes : Nat) (isOpen : Bool) : Measure :=
  let m : Measure := ⟨bytes, isOpen, 0⟩
  { m with inBranches := bytes + branchSize + m.onward }

/-- One part and then, in the order of reading, another. -/
def andThen (a b : Measure) : Measure := plain (a.bytes + a.onward + b.bytes) b.isOpen

/-- A part so many times. -/
def times (m : Measure) : Nat → Measure
  | 0 => plain stateSize false
  | n + 1 => plain ((n + 1) * m.bytes + n * m.onward) m.isOpen

/-- A part any number of times, but at least so often. -/
def atLeast (m : Measure) (neverEmpty : Bool) : Nat → Measure
  | 0 =>
    if neverEmpty then plain (stateSize + m.bytes + branchSize + m.onward) true
    else plain (m.bytes + 3 * stateSize + m.onward + 4 * branchSize) false
  | 1 => plain (m.bytes + stateSize + m.onward + branchSize) true
  | n + 2 =>
    let before := m.times (n + 1)
    plain (before.bytes + before.onward + m.bytes + stateSize + m.onward + branchSize) true

/-- A part between so many and so many times. -/
def between (m : Measure) (min max : Nat) : Measure :=
  if min = max then m.times min
  else if min = 0 ∧ max = 1 then plain (2 * stateSize + m.bytes + 2 * branchSize + m.onward) false
  else
    let before := m.times min
    plain (before.bytes + before.onward + stateSize +
      (max - min) * (stateSize + m.bytes + 2 * branchSize + m.onward)) false

end Measure

namespace Node

/-- The text of a part that matches one text only. -/
def text? (n : Node) : Option (List Nat) :=
  match n.parts with
  | [] => none
  | ns => ns.mapM single?

/-- The texts of alternatives that match one text each, as bytes in the order of reading. -/
def texts? (order : ReadingOrder) (n : Node) : Option (List (List Nat)) :=
  (n.branches.mapM text?).map fun texts => texts.map fun cs =>
    let bytes := cs.flatMap encoded
    match order with
    | .forward => bytes
    | .backward => bytes.reverse

/-- Measures an expression. Groups are noted only by the machine that reads from the front. -/
def measure (order : ReadingOrder) : Node → Measure
  | .empty => .plain stateSize false
  | .oneOf s => .plain (setSize order s) false
  | .look _ => .plain stateSize false
  | .group _ _ inner =>
    let m := inner.measure order
    match order with
    | .forward => .plain (2 * stateSize + m.bytes + m.onward) false
    | .backward => .plain m.bytes m.isOpen
  | .seq a b =>
    match order with
    | .forward => (a.measure order).andThen (b.measure order)
    | .backward => (b.measure order).andThen (a.measure order)
  | .alt a b =>
    let inBranches := (a.measure order).inBranches + (b.measure order).inBranches
    match texts? order (.alt a b) with
    | some texts =>
      ⟨stateSize + treeSize ((texts.map List.length).foldl max 0 + 1) texts, false, inBranches⟩
    | none => ⟨2 * stateSize + inBranches, false, inBranches⟩
  | .repeated inner min none _ => (inner.measure order).atLeast inner.isNeverEmpty min
  | .repeated inner min (some max) _ => (inner.measure order).between min max

/-- The conditions that every match starts with. -/
def firstLooks : Node → List Look
  | .empty => []
  | .oneOf _ => []
  | .look condition => [condition]
  | .group _ _ inner => inner.firstLooks
  | .seq a b => a.firstLooks ++ if a.isAlwaysEmpty then b.firstLooks else []
  | .alt a b => a.firstLooks.filter b.firstLooks.contains
  | .repeated inner min _ _ => if min = 0 then [] else inner.firstLooks

/-- The conditions that every match ends with. -/
def lastLooks : Node → List Look
  | .empty => []
  | .oneOf _ => []
  | .look condition => [condition]
  | .group _ _ inner => inner.lastLooks
  | .seq a b => b.lastLooks ++ if b.isAlwaysEmpty then a.lastLooks else []
  | .alt a b => a.lastLooks.filter b.lastLooks.contains
  | .repeated inner min _ _ => if min = 0 then [] else inner.lastLooks

/-- Whether a match can only be where the reading starts. -/
def isAnchored (order : ReadingOrder) (n : Node) : Bool :=
  match order with
  | .forward => n.firstLooks.contains .textStart
  | .backward => n.lastLooks.contains .textStop

/-- The size of the part that skips what stands before a match. -/
def skipSize (order : ReadingOrder) (n : Node) : Nat :=
  if n.isAnchored order then stateSize else 3 * stateSize + arcSize + 2 * branchSize

/-- The size of the machine for an expression, with the state that accepts and, from the front, the two
that note the whole match. -/
def size (order : ReadingOrder) (n : Node) : Nat :=
  let m := n.measure order
  n.skipSize order + m.bytes + m.onward + stateSize + if order = .forward then 2 * stateSize else 0

/-- The size beyond which a pattern is refused: ten mebibytes. -/
def sizeLimit : Nat := 10 * twoTo 20

/-- Whether a pattern is too large. -/
def isTooLarge (n : Node) : Bool :=
  sizeLimit < n.size .forward || sizeLimit < n.size .backward

end Node

end SchemaSeed.Pattern

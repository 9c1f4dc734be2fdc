import SchemaSeed.Pattern.Program

/-!
Searching for a pattern. All ways through a machine are followed at once, in the order of preference,
so that the time is the length of the text times the size of the machine. The leftmost match wins,
and of those that start there the preferred one.
-/

set_option autoImplicit false
set_option relaxedAutoImplicit false

namespace SchemaSeed.Pattern

/-- The places that were noted, by slot: group `n` starts at slot `2 * n` and ends at the next. -/
abbrev Slots := Array (Option Nat)

/-- A way through the machine: the state that it waits in, and what it noted. -/
structure Thread where
  state : Nat
  slots : Slots

/-- The ways that wait at one place, the latest first, and the states that were visited there. -/
structure Front where
  reversed : List Thread
  visited : Array Bool

namespace Front

/-- No way at all. -/
def empty (m : Machine) : Front := ⟨[], Array.replicate m.states.size false⟩

/-- Follows ways without reading on, depth first, each state once: `todo` are the ways not followed
yet. Every state puts off at most two ways, which bounds the number of steps. -/
def follow (m : Machine) (before after : Option Char) (place : Nat) :
    Nat → List Thread → Front → Front
  | 0, _, front => front
  | _ + 1, [], front => front
  | fuel + 1, t :: todo, front =>
    if front.visited[t.state]?.getD true then follow m before after place fuel todo front
    else
      let front := { front with visited := front.visited.setIfInBounds t.state true }
      match m.states[t.state]? with
      | some (.split a b) =>
        follow m before after place fuel (⟨a, t.slots⟩ :: ⟨b, t.slots⟩ :: todo) front
      | some (.save slot next) =>
        follow m before after place fuel (⟨next, t.slots.setIfInBounds slot (some place)⟩ :: todo) front
      | some (.look condition next) =>
        if condition.holds before after then
          follow m before after place fuel (⟨next, t.slots⟩ :: todo) front
        else follow m before after place fuel todo front
      | _ => follow m before after place fuel todo { front with reversed := t :: front.reversed }

/-- Adds one way with all that it leads to. -/
def enter (m : Machine) (before after : Option Char) (place : Nat) (front : Front) (t : Thread) :
    Front :=
  follow m before after place (2 * m.states.size + 2) [t] front

/-- The ways in the order of preference up to the first that has come to the end, and what that one
noted. -/
def untilAccepted (m : Machine) : List Thread → List Thread × Option Slots
  | [] => ([], none)
  | t :: rest =>
    match m.states[t.state]? with
    | some .accept => ([], some t.slots)
    | _ =>
      let (others, found) := untilAccepted m rest
      (t :: others, found)

end Front

/-- A place in a text: the character before it and the text after it. -/
structure Cursor where
  before : Option Char
  rest : List Char
  place : Nat

/-- The place behind so many more characters. -/
def Cursor.forward (c : Cursor) : Nat → Cursor
  | 0 => c
  | n + 1 =>
    match c.rest with
    | [] => c
    | x :: rest => forward ⟨some x, rest, c.place + 1⟩ n

namespace Machine

private def step (m : Machine) (c : Char) (before after : Option Char) (place : Nat)
    (threads : List Thread) : Front :=
  threads.foldl (fun (front : Front) (t : Thread) =>
    match m.states[t.state]? with
    | some (.oneOf set next) =>
      if set.contains c.toNat then front.enter m before after place ⟨next, t.slots⟩ else front
    | _ => front) (Front.empty m)

private def searchFrom (m : Machine) (before : Option Char) (rest : List Char) (place : Nat)
    (front : Front) (found : Option Slots) : Option Slots :=
  let front :=
    if found.isSome then front
    else front.enter m before rest.head? place ⟨m.start, Array.replicate (2 * m.groups) none⟩
  let (threads, better) := Front.untilAccepted m front.reversed.reverse
  let found := better <|> found
  match rest with
  | [] => found
  | c :: rest =>
    if threads.isEmpty && found.isSome then found
    else
      searchFrom m (some c) rest (place + 1) (m.step c (some c) rest.head? (place + 1) threads) found
termination_by structural rest

/-- What the first match from a place on noted. -/
def search (m : Machine) (c : Cursor) : Option Slots :=
  searchFrom m c.before c.rest c.place (Front.empty m) none

end Machine

/-- A match: for each group where it starts and ends, if it took part. -/
structure Match where
  start : Nat
  stop : Nat
  slots : Slots

namespace Match

/-- The match of which some places were noted. -/
def ofSlots (slots : Slots) : Match :=
  ⟨(slots[0]?.join).getD 0, (slots[1]?.join).getD 0, slots⟩

/-- What a group matched. -/
def group? (m : Match) (text : Array Char) (index : Nat) : Option String := do
  let start ← (m.slots[2 * index]?).join
  let stop ← (m.slots[2 * index + 1]?).join
  return String.ofList (text.extract start stop).toList

end Match

namespace Machine

/-- The match at or behind a place that is not an empty one at the end of the match before. -/
def nextMatch (m : Machine) (c : Cursor) (lastStop : Option Nat) : Option Match :=
  match (m.search c).map Match.ofSlots with
  | none => none
  | some found =>
    if found.start = found.stop ∧ lastStop = some found.stop then
      if c.rest.isEmpty then none else (m.search (c.forward 1)).map Match.ofSlots
    else some found

private def matchesFrom (m : Machine) : Nat → Cursor → Option Nat → List Match
  | 0, _, _ => []
  | fuel + 1, c, lastStop =>
    match m.nextMatch c lastStop with
    | none => []
    | some found =>
      found :: matchesFrom m fuel (c.forward (found.stop - c.place)) (some found.stop)

/-- The matches in a text from left to right. Each ends behind the one before, so there is at most one
more than there are characters. -/
def allMatches (m : Machine) (text : List Char) : List Match :=
  matchesFrom m (text.length + 2) ⟨none, text, 0⟩ none

end Machine

end SchemaSeed.Pattern

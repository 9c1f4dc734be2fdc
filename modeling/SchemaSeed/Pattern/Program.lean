import SchemaSeed.Failure
import SchemaSeed.Pattern.Reader
import SchemaSeed.Pattern.Size

/-!
Patterns as machines: a list of states, each of which names the states that follow it. A machine is
built from its end, so that every part is told where to go on.
-/

set_option autoImplicit false
set_option relaxedAutoImplicit false

namespace SchemaSeed.Pattern

open SchemaSeed.Text

/-- A state of a machine. -/
inductive State where
  /-- Goes on behind a character of a set. -/
  | oneOf (set : CodePoints) (next : Nat)
  /-- Goes on where a condition holds. -/
  | look (condition : Look) (next : Nat)
  /-- Goes on in two ways, of which the first is to be preferred. -/
  | split (first second : Nat)
  /-- Notes the place. -/
  | save (slot next : Nat)
  | accept
  deriving Repr

/-- The states of a machine while it is built. -/
abbrev Build := StateM (Array State)

namespace Build

/-- Adds a state and tells its number. -/
def add (state : State) : Build Nat := fun states => (states.size, states.push state)

/-- Replaces a state. -/
def put (index : Nat) (state : State) : Build Unit := fun states => ((), states.setIfInBounds index state)

/-- A choice between going in and going on. -/
def choice (greedy : Bool) (inside onward : Nat) : State :=
  if greedy then .split inside onward else .split onward inside

/-- The same part so many times. -/
def times (part : Nat → Build Nat) : Nat → Nat → Build Nat
  | 0, next => pure next
  | n + 1, next => do part (← times part n next)

/-- The part up to so many times. -/
def atMost (part : Nat → Build Nat) (greedy : Bool) (onward : Nat) : Nat → Build Nat
  | 0 => pure onward
  | n + 1 => do
    let more ← atMost part greedy onward n
    add (choice greedy (← part more) onward)

/-- The part once or more often: the start of the part, and the choice behind it. -/
def loop (part : Nat → Build Nat) (greedy : Bool) (next : Nat) : Build (Nat × Nat) := do
  let again ← add .accept
  let start ← part again
  put again (choice greedy start next)
  return (start, again)

/-- Adds the states of an expression that goes on at `next`, and tells where it starts. What may match
the empty text is repeated at least once inside of an option: the order of preference asks for it. -/
def node : Node → Nat → Build Nat
  | .empty, next => pure next
  | .oneOf set, next => add (.oneOf set next)
  | .look condition, next => add (.look condition next)
  | .group index _ inner, next => do
    let stop ← add (.save (2 * index + 1) next)
    add (.save (2 * index) (← node inner stop))
  | .seq a b, next => do node a (← node b next)
  | .alt a b, next => do
    let first ← node a next
    add (.split first (← node b next))
  | .repeated inner min none greedy, next => do
    let (start, again) ← loop (node inner) greedy next
    if 0 < min then times (node inner) (min - 1) start
    else if inner.isNeverEmpty then return again
    else add (choice greedy start next)
  | .repeated inner min (some max) greedy, next => do
    times (node inner) min (← atMost (node inner) greedy next (max - min))

end Build

/-- A pattern that can be searched for. -/
structure Machine where
  states : Array State
  start : Nat
  /-- The number of groups, the whole match included. -/
  groups : Nat
  /-- The groups that have a name. -/
  names : List (String × Nat)

/-- The machine of an expression. Groups that cannot be reached do not count. -/
def Machine.ofNode (n : Node) : Machine :=
  let (start, states) := (do
    let stop ← Build.add .accept
    Build.node (.group 0 none n) stop : Build Nat).run #[]
  { states, start
    groups := 1 + (n.groups.map (·.1)).foldl Nat.max 0
    names := n.groups.filterMap fun g => g.2.map fun name => (name, g.1) }

/-- The machine of a text. An empty text, a text that is no pattern, and a pattern that is too large
are refused. -/
def Machine.ofText (text : String) : Except Failure Machine :=
  if text = "" then .error (.invalidPattern "" "no pattern provided")
  else
    match Node.ofText? text with
    | none => .error (.invalidPattern text "not a regular expression")
    | some n =>
      if n.isTooLarge then .error (.invalidPattern text "too large")
      else .ok (.ofNode n)

end SchemaSeed.Pattern

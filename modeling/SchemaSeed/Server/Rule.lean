import SchemaSeed.Failure

/-!
Rules by which a scripted server answers statements: the first rule whose text matches and that is
not used up gives its answer.
-/

set_option autoImplicit false
set_option relaxedAutoImplicit false

namespace SchemaSeed.Server

/-- How the text of a rule is looked for in a statement. -/
inductive Matching where
  | contains
  | startsWith
  | equals
  deriving DecidableEq, Repr

/-- Whether some characters occur in others without a gap. -/
def occursIn (part : List Char) : List Char → Bool
  | [] => part.isEmpty
  | c :: rest => part.isPrefixOf (c :: rest) || occursIn part rest

/-- Whether a text stands in a statement as asked. -/
def Matching.holds (m : Matching) (text statement : String) : Bool :=
  match m with
  | .contains => occursIn text.toList statement.toList
  | .startsWith => text.toList.isPrefixOf statement.toList
  | .equals => text == statement

/-- A rule: the statements that it is for, how often it may still be used, and its answer. -/
structure Rule (α : Type) where
  text : String
  matching : Matching := .contains
  /-- Without a number the rule is never used up. -/
  usesLeft : Option Nat := none
  answer : α

namespace Rule

variable {α : Type}

/-- Whether the rule answers a statement. -/
def applies (r : Rule α) (statement : String) : Bool :=
  r.usesLeft != some 0 && r.matching.holds r.text statement

/-- The rule after one use. -/
def used (r : Rule α) : Rule α := { r with usesLeft := r.usesLeft.map (· - 1) }

/-- The answer of the first rule that applies, and the rules after that use. -/
def answer? (statement : String) : List (Rule α) → Option (α × List (Rule α))
  | [] => none
  | r :: rest =>
    if r.applies statement then some (r.answer, r.used :: rest)
    else (answer? statement rest).map fun (answer, others) => (answer, r :: others)

end Rule

end SchemaSeed.Server

import SchemaSeed.Factory.Generator
import SchemaSeed.Factory.Lookup
import SchemaSeed.Factory.Manipulation
import SchemaSeed.Seed.Statement

/-!
Running one job: its rows one by one, each made up and then written, and its own statement after
them. What was written stays when a later step fails.
-/

set_option autoImplicit false
set_option relaxedAutoImplicit false

namespace SchemaSeed.Seed

open SchemaSeed.Sql SchemaSeed.Factory

/-- What a run did. -/
structure Summary where
  files : Nat := 0
  specsRun : Nat := 0
  specsSkipped : Nat := 0
  rowsInserted : Nat := 0
  rowsUpdated : Nat := 0
  customQueries : Nat := 0
  deriving DecidableEq, Repr

namespace Summary

/-- What two runs did together. -/
def add (a b : Summary) : Summary :=
  ⟨a.files + b.files, a.specsRun + b.specsRun, a.specsSkipped + b.specsSkipped,
    a.rowsInserted + b.rowsInserted, a.rowsUpdated + b.rowsUpdated,
    a.customQueries + b.customQueries⟩

theorem add_assoc (a b c : Summary) : (a.add b).add c = a.add (b.add c) := by
  simp only [add, Nat.add_assoc]

@[simp] theorem add_zero (a : Summary) : a.add {} = a := rfl

@[simp] theorem zero_add (a : Summary) : add {} a = a := by
  simp only [add, Nat.zero_add]

/-- The rows that were added or replaced. -/
def rowsWritten (s : Summary) : Nat := s.rowsInserted + s.rowsUpdated

end Summary

/-- What became of a row. -/
inductive WriteOutcome where
  | inserted
  | updated
  deriving DecidableEq, Repr

/-- What a row that was written adds to the summary of a run. -/
def WriteOutcome.summary : WriteOutcome → Summary
  | .inserted => { rowsInserted := 1 }
  | .updated => { rowsUpdated := 1 }

/-- The party that makes up rows and writes them, for one dialect. -/
structure Engine (γ : Type) where
  dialect : Dialect
  generator : Generator γ

namespace Engine

variable {γ : Type}

/-- Asks the generator for a value. -/
def generate (e : Engine γ) (word : String) : Work γ Value :=
  Work.ofStep fun state =>
    let (v, state) := (e.generator word).run state
    .done (.ok v, state)

/-- The value that a rule gives, before replacements. Literals and values of other tables lose their
declared type. -/
def ruleValue (e : Engine γ) (rule : Rule) : Work γ Value := do
  if rule.isFake then e.generate (rule.tag.getD "")
  else
    match ← Work.ofResult rule.customValue with
    | .literal j => return (Value.ofJson j).toUntyped
    | .reference r => return (← r.resolve e.dialect).toUntyped
    | .nothing => return .null

/-- The value that a rule gives. -/
def cell (e : Engine γ) (rule : Rule) : Work γ Value := do
  let v ← e.ruleValue rule
  return match rule.manipulation with
    | some m => m.apply v
    | none => v

/-- A row of a factory. -/
def buildRow (e : Engine γ) (factory : Factory.Document) : Work γ SeedRow :=
  factory.rules.mapM fun (column, rule) => do return (column, ← e.cell rule)

/-- Sends a statement with its parameters. -/
def send (c : Call) : Work γ Unit := do let _ ← Work.execute c.sql c.params

/-- The number that an answer to a count gives; without a row, or without a number in it, nothing was
counted. -/
def existing (rows : List Row) : Except Failure Int :=
  match rows with
  | [] => .ok 0
  | row :: _ => (row.byIndex 0).map fun v => v.int64?.getD 0

/-- Writes a row: adds it, or replaces what it matches if there is such a row. Counting and writing
are two steps. -/
def writeRow (e : Engine γ) (table : String) (row : SeedRow) (upsert : Option Upsert) :
    Work γ WriteOutcome := do
  match upsert with
  | none =>
    send (Statement.insert e.dialect table row)
    return .inserted
  | some u =>
    let count ← Work.ofResult (Statement.count e.dialect table row u)
    let found ← Work.ofResult (existing (← Work.fetch count.sql count.params))
    if 0 < found then
      send (← Work.ofResult (Statement.update e.dialect table row u))
      return .updated
    else
      send (Statement.insert e.dialect table row)
      return .inserted

/-- Makes up and writes so many rows. -/
def writeRows (e : Engine γ) (spec : Spec) (factory : Factory.Document) :
    Nat → Summary → Work γ Summary
  | 0, summary => return summary
  | n + 1, summary => do
    let row ← e.buildRow factory
    let outcome ← e.writeRow spec.table row spec.upsert
    e.writeRows spec factory n (summary.add outcome.summary)

/-- Sends a statement so many times. -/
def sendQuery (e : Engine γ) (query : String) : Nat → Summary → Work γ Summary
  | 0, summary => return summary
  | n + 1, summary => do
    send ⟨query, []⟩
    e.sendQuery query n (summary.add { customQueries := 1 })

/-- Runs a job. Without a factory there are no rows. -/
def run (e : Engine γ) (spec : Spec) (factory : Option Factory.Document) : Work γ Summary := do
  Work.ofResult (spec.validate factory)
  let summary ← match factory with
    | some f => e.writeRows spec f spec.count {}
    | none => pure {}
  match spec.customQuery with
  | some q => e.sendQuery q.query q.count summary
  | none => return summary

end Engine

end SchemaSeed.Seed

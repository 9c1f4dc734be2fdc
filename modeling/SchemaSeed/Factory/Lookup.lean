import SchemaSeed.Factory.Document
import SchemaSeed.Sql.Dialect
import SchemaSeed.Sql.Session

/-!
Values that are taken from other tables.
-/

set_option autoImplicit false
set_option relaxedAutoImplicit false

namespace SchemaSeed.Factory

open SchemaSeed.Sql

variable {σ : Type}

/-- The column of some row of the table; a table without rows is a failure. -/
def Reference.find (r : Reference) (d : Dialect) : Work σ Value := do
  match (← Work.fetch (d.randomRow r.table r.column) []).head? with
  | some row => Work.ofResult (row.byIndex 0)
  | none => throw (.emptyReference r.table r.column)

/-- The column of some row of the table, or nothing if there is no such row. -/
def Reference.resolve (r : Reference) (d : Dialect) : Work σ Value := do
  match ← (r.find d).attempt with
  | .ok v => return v
  | .error e => if e.isRecoverable then return .null else throw e

end SchemaSeed.Factory

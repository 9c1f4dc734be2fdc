import SchemaSeed.Failure
import SchemaSeed.Sql.Value

/-!
Rows of answers. A cell holds its value, or the failure that decoding it met.
-/

set_option autoImplicit false
set_option relaxedAutoImplicit false

namespace SchemaSeed.Sql

/-- A row: cells under the names of their columns. -/
structure Row where
  cells : List (String × Except Failure Value)

namespace Row

/-- A row of values. -/
def ofValues (values : List (String × Value)) : Row := ⟨values.map fun v => (v.1, .ok v.2)⟩

/-- The names of the columns. -/
def columns (r : Row) : List String := r.cells.map (·.1)

/-- The cell at a position, counted from zero. -/
def byIndex (r : Row) (index : Nat) : Except Failure Value :=
  match r.cells[index]? with
  | some cell => cell.2
  | none =>
    .error (.statementFailed ("Column index " ++ toString index ++ " out of range") none)

/-- The first cell under a name. -/
def byName (r : Row) (name : String) : Except Failure Value :=
  match r.cells.find? (·.1 == name) with
  | some cell => cell.2
  | none => .error (.statementFailed ("Column '" ++ name ++ "' not found") none)

end Row

end SchemaSeed.Sql

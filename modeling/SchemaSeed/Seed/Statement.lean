import SchemaSeed.Seed.Document
import SchemaSeed.Sql.Dialect
import SchemaSeed.Sql.Session

/-!
The statements that write a row. Missing values are written into the statement, and so is text
without a declared type where the dialect has a notation for it; everything else is bound.
-/

set_option autoImplicit false
set_option relaxedAutoImplicit false

namespace SchemaSeed.Seed

open SchemaSeed.Sql

/-- The values of a row with their columns, in order. -/
abbrev SeedRow := List (String × Value)

/-- The parameters of a statement that is being written. -/
abbrev Binding := StateM (List Value)

namespace Statement

/-- Binds a value and writes its placeholder. -/
def placeholder (d : Dialect) (v : Value) : Binding String := fun params =>
  (d.placeholder (params.length + 1), params ++ [v])

/-- Writes a value: as a literal or as a placeholder. -/
def operand (d : Dialect) (v : Value) : Binding String :=
  match v with
  | .null => return "NULL"
  | .untyped s =>
    match d.untypedLiteral? s with
    | some literal => return literal
    | none => placeholder d v
  | _ => placeholder d v

/-- Writes a column and the value that it gets. -/
def assignment (d : Dialect) (cell : String × Value) : Binding String := do
  return d.quoteName cell.1 ++ " = " ++ (← operand d cell.2)

/-- Writes the condition that a column has a value; missing values are told by `IS NULL`. -/
def comparison (d : Dialect) (cell : String × Value) : Binding String :=
  if cell.2.isNull then return d.quoteName cell.1 ++ " IS NULL" else assignment d cell

/-- The cells of a row that a new row is compared by. -/
def matchCells (table : String) (row : SeedRow) (columns : List String) :
    Except Failure SeedRow :=
  columns.mapM fun column =>
    match row.find? (·.1 == column) with
    | some cell => .ok cell
    | none =>
      .error (.invalidDocument
        ("match column '" ++ column ++ "' missing from row for '" ++ table ++ "'"))

/-- How the comparisons are joined; several need an operator. -/
def joiner (table : String) (u : Upsert) : Except Failure String :=
  match u.operator with
  | some o => .ok (" " ++ o.toSql ++ " ")
  | none => if 1 < u.columns.length then .error (.missingOperator table) else .ok " AND "

/-- Writes the condition for the rows that a new row is to replace. -/
def predicate (d : Dialect) (table : String) (row : SeedRow) (u : Upsert) :
    Except Failure (Binding String) := do
  let separator ← joiner table u
  let cells ← matchCells table row u.columns
  return do return separator.intercalate (← cells.mapM (comparison d))

private def finish (text : Binding String) : Call :=
  let (sql, params) := text.run []
  ⟨sql, params⟩

/-- The statement that adds a row. -/
def insert (d : Dialect) (table : String) (row : SeedRow) : Call :=
  if row.isEmpty then ⟨d.insertDefaults table, []⟩
  else
    finish do
      let values ← row.mapM fun cell => operand d cell.2
      return "INSERT INTO " ++ d.quoteName table ++ " (" ++
        ", ".intercalate (row.map fun cell => d.quoteName cell.1) ++ ") VALUES (" ++
        ", ".intercalate values ++ ")"

/-- The query that counts the rows which a new row is to replace. -/
def count (d : Dialect) (table : String) (row : SeedRow) (u : Upsert) : Except Failure Call := do
  let condition ← predicate d table row u
  return finish do
    return "SELECT COUNT(*) AS count FROM " ++ d.quoteName table ++ " WHERE " ++ (← condition)

/-- The statement that replaces rows. -/
def update (d : Dialect) (table : String) (row : SeedRow) (u : Upsert) : Except Failure Call := do
  let condition ← predicate d table row u
  return finish do
    let assignments ← row.mapM (assignment d)
    return "UPDATE " ++ d.quoteName table ++ " SET " ++ ", ".intercalate assignments ++ " WHERE " ++
      (← condition)

end Statement

end SchemaSeed.Seed

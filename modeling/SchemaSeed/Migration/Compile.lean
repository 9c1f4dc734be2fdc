import SchemaSeed.Migration.Clause

/-!
Compiling operations into a script. Every operation is checked before any statement is built, so a
document compiles as a whole or not at all.
-/

set_option autoImplicit false
set_option relaxedAutoImplicit false

namespace SchemaSeed.Migration

open SchemaSeed.Sql SchemaSeed.Text

/-- What an operation must not be. -/
inductive Objection where
  | blankTable
  | noColumns
  | blankColumn
  | noType (column : String)
  | blankKeyField (key : String)
  | emptyIndex
  | blankDroppedName
  deriving DecidableEq, Repr

/-- The text of an objection. -/
def Objection.message : Objection → String
  | .blankTable => "`table` must not be empty"
  | .noColumns => "create requires at least one column"
  | .blankColumn => "column `name` must not be empty"
  | .noType column => "column '" ++ column ++ "' has no `type`"
  | .blankKeyField key => "foreign key '" ++ key ++ "' has empty fields"
  | .emptyIndex => "index requires at least one column"
  | .blankDroppedName => "dropped names must not be empty"

/-- The objection to a column. -/
def Column.objection? (c : Column) : Option Objection :=
  if isBlankText c.name then some .blankColumn
  else if isBlankText c.type then some (.noType c.name)
  else none

/-- The objection to a foreign key. -/
def ForeignKey.objection? (fk : ForeignKey) : Option Objection :=
  if [fk.name, fk.column, fk.referenceTable, fk.referenceColumn].any isBlankText then
    some (.blankKeyField fk.name)
  else none

/-- The objection to an index. -/
def Index.objection? (i : Index) : Option Objection :=
  if i.columns.isEmpty then some .emptyIndex else none

namespace Operation

/-- The first objection to an operation. -/
def objection? (op : Operation) : Option Objection :=
  if isBlankText op.table then some .blankTable
  else
    match op with
    | .create op =>
      if op.columns.isEmpty then some .noColumns
      else
        (op.columns.findSome? Column.objection?).or
          ((op.foreignKeys.findSome? ForeignKey.objection?).or
            (op.indexes.findSome? Index.objection?))
    | .alter op =>
      let c := op.changes
      ((c.add ++ c.modify).findSome? Column.objection?).or
        ((c.addForeignKeys.findSome? ForeignKey.objection?).or
          (if (c.drop ++ c.dropForeignKeys ++ c.dropIndex).any isBlankText then
            some .blankDroppedName
          else none))
    | .drop _ => none

/-- The failure that an objection to an operation is; positions count from one. -/
def invalid (position : Nat) (op : Operation) (reason : Objection) : Failure :=
  .invalidDocument ("operation #" ++ toString position ++ " (" ++ op.action ++ " '" ++ op.table ++
    "'): " ++ reason.message)

/-- Checks operations in order, the first of which has the given position. -/
def validateFrom (position : Nat) : List Operation → Except Failure Unit
  | [] => .ok ()
  | op :: rest =>
    match op.objection? with
    | some reason => .error (invalid position op reason)
    | none => validateFrom (position + 1) rest

/-- Checks operations in order; the first objection counts. -/
def validate (ops : List Operation) : Except Failure Unit := validateFrom 1 ops

end Operation

/-- The statements that make a table: the table, then its indexes. -/
def CreateTable.statements (d : Dialect) (op : CreateTable) : List String :=
  let parts := op.columns.map (Clause.column d) ++ op.foreignKeys.map (Clause.foreignKey d)
  let options := match Clause.tableOptions? d op with
    | some words => " " ++ words
    | none => ""
  ("CREATE TABLE IF NOT EXISTS " ++ d.quoteName op.table ++ " (" ++ ", ".intercalate parts ++ ")" ++
      options ++ ";") ::
    op.indexes.map (Clause.createIndex d op.table)

/-- The clause that a removal is, if it is one. -/
def removalClause? : IndexRemoval → Option String
  | .clause sql => some sql
  | .statement _ => none

/-- The statement that a removal is, if it is one. -/
def removalStatement? : IndexRemoval → Option String
  | .clause _ => none
  | .statement sql => some sql

/-- The statements that change a table: one for all clauses, if there are any, then those that stand
alone. -/
def AlterTable.statements (d : Dialect) (op : AlterTable) : List String :=
  let c := op.changes
  let removals := c.dropIndex.map (Clause.dropIndex d)
  let clauses := c.add.map (Clause.addColumn d) ++ c.modify.map (Clause.modifyColumn d) ++
    c.drop.map (Clause.dropColumn d) ++ c.addForeignKeys.map (Clause.addForeignKey d) ++
    c.dropForeignKeys.map (Clause.dropForeignKey d) ++ removals.filterMap removalClause?
  let change := if clauses.isEmpty then []
    else ["ALTER TABLE " ++ d.quoteName op.table ++ " " ++ ", ".intercalate clauses ++ ";"]
  change ++ removals.filterMap removalStatement?

/-- The statements of an operation. -/
def Operation.statements (d : Dialect) : Operation → List String
  | .create op => op.statements d
  | .alter op => op.statements d
  | .drop op => [Clause.dropTable d op]

/-- The script of some operations. -/
def compile (d : Dialect) (ops : List Operation) : Except Failure Script := do
  Operation.validate ops
  return d.wrap (ops.flatMap (Operation.statements d))

/-- The script of a document in one direction. -/
def Document.compile (d : Dialect) (direction : Direction) (document : Document) :
    Except Failure Script := do
  Migration.compile d (← document.operations direction)

end SchemaSeed.Migration

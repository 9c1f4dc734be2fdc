import SchemaSeed.Json.Value
import SchemaSeed.Failure

/-!
Migration documents: the schema changes of one file, forwards and backwards.
-/

set_option autoImplicit false
set_option relaxedAutoImplicit false

namespace SchemaSeed.Migration

/-- The default of a column: a literal, or a moment that each dialect writes in its own words. -/
inductive DefaultValue where
  | currentTimestamp
  | onUpdateTimestamp
  | text (value : String)
  | number (value : JsonNumber)
  | bool (value : Bool)
  deriving DecidableEq, Repr

/-- A column. Only an explicit `false` makes it refuse missing values. -/
structure Column where
  name : String
  type : String
  primaryKey : Bool := false
  autoIncrement : Bool := false
  unique : Bool := false
  unsigned : Bool := false
  nullable : Option Bool := none
  default : Option DefaultValue := none
  deriving DecidableEq, Repr

/-- Whether the column carries the clause that refuses missing values. -/
def Column.isNotNull (c : Column) : Bool := c.nullable == some false

/-- What happens to a row when the row that it refers to goes or changes. -/
inductive ReferentialAction where
  | cascade
  | setNull
  | setDefault
  | restrict
  | noAction
  deriving DecidableEq, Repr

/-- The words of an action. -/
def ReferentialAction.toSql : ReferentialAction → String
  | .cascade => "CASCADE"
  | .setNull => "SET NULL"
  | .setDefault => "SET DEFAULT"
  | .restrict => "RESTRICT"
  | .noAction => "NO ACTION"

/-- A reference from a column to a column of another table. -/
structure ForeignKey where
  name : String
  column : String
  referenceTable : String
  referenceColumn : String
  onDelete : Option ReferentialAction := none
  onUpdate : Option ReferentialAction := none
  deriving DecidableEq, Repr

/-- An index over columns. -/
structure Index where
  name : Option String := none
  columns : List String
  unique : Bool := false
  deriving DecidableEq, Repr

/-- The declared name, or one made of the table and its columns. -/
def Index.resolvedName (i : Index) (table : String) : String :=
  match i.name with
  | some name => if name = "" then made else name
  | none => made
where
  /-- The name of an index that declares none. -/
  made : String := "idx_" ++ table ++ "_" ++ "_".intercalate i.columns

/-- A table to be made. -/
structure CreateTable where
  table : String := ""
  columns : List Column := []
  foreignKeys : List ForeignKey := []
  indexes : List Index := []
  engine : Option String := none
  charset : Option String := none
  deriving DecidableEq, Repr

/-- Changes to the columns and constraints of one table. -/
structure TableChanges where
  add : List Column := []
  modify : List Column := []
  drop : List String := []
  addForeignKeys : List ForeignKey := []
  dropForeignKeys : List String := []
  dropIndex : List String := []
  deriving DecidableEq, Repr

/-- Whether there is nothing to change. -/
def TableChanges.isEmpty (c : TableChanges) : Bool :=
  c.add.isEmpty && c.modify.isEmpty && c.drop.isEmpty && c.addForeignKeys.isEmpty &&
    c.dropForeignKeys.isEmpty && c.dropIndex.isEmpty

/-- A table to be changed. -/
structure AlterTable where
  table : String := ""
  changes : TableChanges := {}
  deriving DecidableEq, Repr

/-- A table to be removed. -/
structure DropTable where
  table : String := ""
  dropIfExists : Bool := false
  ignoreForeignAndCascade : Bool := false
  deriving DecidableEq, Repr

/-- One schema change. -/
inductive Operation where
  | create (op : CreateTable)
  | alter (op : AlterTable)
  | drop (op : DropTable)
  deriving DecidableEq, Repr

namespace Operation

/-- The table that is changed. -/
def table : Operation → String
  | .create op => op.table
  | .alter op => op.table
  | .drop op => op.table

/-- The word for the change in a document. -/
def action : Operation → String
  | .create _ => "create"
  | .alter _ => "alter"
  | .drop _ => "drop"

end Operation

/-- The direction in which a document is run. -/
inductive Direction where
  | up
  | down
  deriving DecidableEq, Repr

/-- The key of the section for a direction. -/
def Direction.key : Direction → String
  | .up => "migrations"
  | .down => "rollback"

/-- A migration file. -/
structure Document where
  migrations : Option (List Operation) := none
  rollback : Option (List Operation) := none
  deriving DecidableEq, Repr

/-- The operations for a direction; a document without them is malformed. -/
def Document.operations (d : Document) (direction : Direction) :
    Except Failure (List Operation) :=
  match (match direction with | .up => d.migrations | .down => d.rollback) with
  | some ops => .ok ops
  | none =>
    .error (.invalidDocument ("`" ++ direction.key ++ "` key not defined in migration document"))

end SchemaSeed.Migration

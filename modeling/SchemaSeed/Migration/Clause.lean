import SchemaSeed.Migration.Document
import SchemaSeed.Sql.Dialect
import SchemaSeed.Json.Printed

/-!
The clauses of schema statements, in each dialect.
-/

set_option autoImplicit false
set_option relaxedAutoImplicit false

namespace SchemaSeed.Migration

open SchemaSeed.Sql

/-- Where the removal of an index is written. -/
inductive IndexRemoval where
  /-- As a clause of the change of its table. -/
  | clause (sql : String)
  /-- As a statement of its own after the change of its table. -/
  | statement (sql : String)
  deriving DecidableEq, Repr

namespace Clause

/-- The native type for a type of the documents; a type that is not listed stays as written. -/
def columnType (d : Dialect) (type : String) : String :=
  match d, Text.lowercase type with
  | .postgres, "int" => "INTEGER"
  | .postgres, "varchar" => "VARCHAR"
  | .mysql, "int" => "INT"
  | .mysql, "varchar" => "VARCHAR(255)"
  | _, "varchar(255)" => "VARCHAR(255)"
  | _, "varchar(100)" => "VARCHAR(100)"
  | _, "smallint" => "SMALLINT"
  | _, "timestamp" => "TIMESTAMP"
  | _, "date" => "DATE"
  | _, _ => type

/-- A default in SQL. One dialect has no words for the moment of an update. -/
def defaultValue (d : Dialect) : DefaultValue → String
  | .currentTimestamp => "CURRENT_TIMESTAMP"
  | .onUpdateTimestamp =>
    match d with
    | .postgres => "CURRENT_TIMESTAMP"
    | .mysql => "CURRENT_TIMESTAMP ON UPDATE CURRENT_TIMESTAMP"
  | .text s => d.quoteText s
  | .number n => n.print
  | .bool b => if b then "TRUE" else "FALSE"

/-- The clause that numbers rows. -/
def autoIncrement : Dialect → String
  | .postgres => "GENERATED ALWAYS AS IDENTITY"
  | .mysql => "AUTO_INCREMENT"

/-- Words that are only written if something is asked for. -/
def flag (present : Bool) (words : String) : String := if present then words else ""

/-- The clause for the default of a column. -/
def defaultClause (d : Dialect) (default : Option DefaultValue) : String :=
  match default with
  | some value => " DEFAULT " ++ defaultValue d value
  | none => ""

/-- A column as a table lists it. In one dialect a numbered column cannot have a default, in the
other the sign of a type follows it directly. -/
def column (d : Dialect) (c : Column) : String :=
  d.quoteName c.name ++ " " ++ columnType d c.type ++
    match d with
    | .postgres =>
      flag c.primaryKey " PRIMARY KEY" ++
        (if c.autoIncrement then " " ++ autoIncrement d else defaultClause d c.default) ++
        flag c.unique " UNIQUE" ++ flag c.isNotNull " NOT NULL"
    | .mysql =>
      flag c.unsigned " UNSIGNED" ++ flag c.primaryKey " PRIMARY KEY" ++
        flag c.autoIncrement (" " ++ autoIncrement d) ++ flag c.unique " UNIQUE" ++
        flag c.isNotNull " NOT NULL" ++ defaultClause d c.default

/-- The clause for what a foreign key does on an event. -/
def onEvent (event : String) (action : Option ReferentialAction) : String :=
  match action with
  | some a => " ON " ++ event ++ " " ++ a.toSql
  | none => ""

/-- A foreign key as a table lists it. -/
def foreignKey (d : Dialect) (fk : ForeignKey) : String :=
  "CONSTRAINT " ++ d.quoteName fk.name ++ " FOREIGN KEY (" ++ d.quoteName fk.column ++
    ") REFERENCES " ++ d.quoteName fk.referenceTable ++ " (" ++ d.quoteName fk.referenceColumn ++
    ")" ++ onEvent "DELETE" fk.onDelete ++ onEvent "UPDATE" fk.onUpdate

/-- A setting of a table; an empty value is none. -/
def setting (words : String) (value : Option String) : List String :=
  match value with
  | some v => if v = "" then [] else [words ++ v]
  | none => []

/-- What follows the list of columns of a table. -/
def tableOptions? (d : Dialect) (op : CreateTable) : Option String :=
  match d with
  | .postgres => none
  | .mysql =>
    match setting "ENGINE=" op.engine ++ setting "DEFAULT CHARSET=" op.charset with
    | [] => none
    | options => some (" ".intercalate options)

/-- The statement that makes an index. -/
def createIndex (d : Dialect) (table : String) (i : Index) : String :=
  "CREATE " ++ flag i.unique "UNIQUE " ++ "INDEX " ++ d.quoteName (i.resolvedName table) ++ " ON " ++
    d.quoteName table ++ " (" ++ ", ".intercalate (i.columns.map d.quoteName) ++ ");"

/-- The clause that adds a column. -/
def addColumn (d : Dialect) (c : Column) : String := "ADD COLUMN " ++ column d c

/-- The clause, or the clauses, that change a column. -/
def modifyColumn (d : Dialect) (c : Column) : String :=
  match d with
  | .mysql => "MODIFY COLUMN " ++ column d c
  | .postgres =>
    let alter := "ALTER COLUMN " ++ d.quoteName c.name
    let nullability := match c.nullable with
      | some false => [alter ++ " SET NOT NULL"]
      | some true => [alter ++ " DROP NOT NULL"]
      | none => []
    let default := match c.default with
      | some value => [alter ++ " SET DEFAULT " ++ defaultValue d value]
      | none => []
    ", ".intercalate ((alter ++ " TYPE " ++ columnType d c.type) :: nullability ++ default)

/-- The clause that removes a column. -/
def dropColumn (d : Dialect) (name : String) : String := "DROP COLUMN " ++ d.quoteName name

/-- The clause that adds a foreign key. -/
def addForeignKey (d : Dialect) (fk : ForeignKey) : String := "ADD " ++ foreignKey d fk

/-- The clause that removes a foreign key. -/
def dropForeignKey (d : Dialect) (name : String) : String :=
  (match d with
    | .postgres => "DROP CONSTRAINT "
    | .mysql => "DROP FOREIGN KEY ") ++ d.quoteName name

/-- The removal of an index. -/
def dropIndex (d : Dialect) (name : String) : IndexRemoval :=
  match d with
  | .postgres => .statement ("DROP INDEX IF EXISTS " ++ d.quoteName name ++ ";")
  | .mysql => .clause ("DROP INDEX " ++ d.quoteName name)

/-- The statement that removes a table. One dialect checks for the table when the document does not
ask for it, the other when it does. -/
def dropTable (d : Dialect) (op : DropTable) : String :=
  let checked := match d with
    | .postgres => !op.dropIfExists
    | .mysql => op.dropIfExists
  "DROP TABLE" ++ flag checked " IF EXISTS" ++ " " ++ d.quoteName op.table ++
    flag op.ignoreForeignAndCascade " CASCADE" ++ ";"

end Clause

end SchemaSeed.Migration

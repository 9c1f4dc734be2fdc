import SchemaSeed.Failure
import SchemaSeed.Text.Blank
import SchemaSeed.Text.Case

/-!
The two SQL dialects: their names, how they quote names and texts, their placeholders and their
transaction blocks.
-/

set_option autoImplicit false
set_option relaxedAutoImplicit false

namespace SchemaSeed.Sql

/-- A kind of database server, and with it a dialect of SQL. -/
inductive Dialect where
  | postgres
  | mysql
  deriving DecidableEq, Repr

/-- Statements inside a transaction block. -/
structure Script where
  start : String
  statements : List String
  commit : String
  rollback : String
  deriving DecidableEq, Repr

/-- A script, one statement a line, without the rollback that stands by. -/
def Script.print (s : Script) : String :=
  "\n".intercalate (s.start :: s.statements ++ [s.commit])

namespace Dialect

/-- The full name. -/
def name : Dialect → String
  | .postgres => "postgresql"
  | .mysql => "mysql"

/-- The name of the directory that holds documents for this dialect only. -/
def directory : Dialect → String
  | .postgres => "pg"
  | .mysql => "mysql"

/-- The scheme of connection URLs. -/
def scheme : Dialect → String
  | .postgres => "postgres"
  | .mysql => "mysql"

/-- The dialect that a name stands for, in any case and with blanks around it. -/
def ofName? (s : String) : Option Dialect :=
  let n := Text.lowercase (Text.trim s)
  if n = "pg" ∨ n = "postgresql" ∨ n = "postgres" then some .postgres
  else if n = "mysql" then some .mysql
  else none

/-- The dialect that a name stands for; other names are not supported. -/
def ofName (s : String) : Except Failure Dialect :=
  match ofName? s with
  | some d => .ok d
  | none => .error (.unsupportedDialect s)

/-- The mark around names. -/
def quoteMark : Dialect → Char
  | .postgres => '"'
  | .mysql => '`'

/-- A text with one of its characters doubled. -/
def doubled (mark : Char) (s : List Char) : List Char :=
  s.flatMap fun c => if c = mark then [c, c] else [c]

/-- A text between marks, with the mark itself doubled inside. -/
def enclosed (mark : Char) (s : String) : String :=
  String.ofList (mark :: doubled mark s.toList ++ [mark])

/-- A name as an identifier. -/
def quoteName (d : Dialect) (name : String) : String := enclosed d.quoteMark name

/-- A text as a standard string literal. -/
def quoteLiteral (s : String) : String := enclosed '\'' s

/-- A text as a string literal of a default clause; where a backslash escapes it is doubled. -/
def quoteText : Dialect → String → String
  | .postgres, s => quoteLiteral s
  | .mysql, s => enclosed '\'' (String.ofList (doubled '\\' s.toList))

/-- The placeholder of a parameter, counted from one. -/
def placeholder : Dialect → Nat → String
  | .postgres, i => "$" ++ toString i
  | .mysql, _ => "?"

/-- The form in which text without a declared type is written into a statement; where there is none
it is bound. A bound text would not be cast to a date or numeric column. -/
def untypedLiteral? : Dialect → String → Option String
  | .postgres, s => some (quoteLiteral s)
  | .mysql, _ => none

/-- The words that open a transaction. -/
def beginKeyword : Dialect → String
  | .postgres => "BEGIN"
  | .mysql => "START TRANSACTION"

/-- Statements in a transaction block. -/
def wrap (d : Dialect) (statements : List String) : Script :=
  ⟨d.beginKeyword ++ ";", statements, "COMMIT;", "ROLLBACK;"⟩

/-- The insertion of a row that names no column. -/
def insertDefaults (d : Dialect) (table : String) : String :=
  "INSERT INTO " ++ d.quoteName table ++
    match d with
    | .postgres => " DEFAULT VALUES"
    | .mysql => " () VALUES ()"

/-- The query for one random value of a column. -/
def randomRow (d : Dialect) (table column : String) : String :=
  "SELECT " ++ d.quoteName column ++ " FROM " ++ d.quoteName table ++ " ORDER BY " ++
    (match d with
      | .postgres => "random()"
      | .mysql => "RAND()") ++ " LIMIT 1"

end Dialect

end SchemaSeed.Sql

import SchemaSeed.Migration.Document
import SchemaSeed.Json.Reading
import SchemaSeed.Text.Blank
import SchemaSeed.Text.Case

/-!
Reading migration documents from JSON.

An operation is read in two passes, because its `action` may stand anywhere in it: first everything
is read and the action decoded, then the rest is taken apart as that action asks for.
-/

set_option autoImplicit false
set_option relaxedAutoImplicit false

namespace SchemaSeed.Migration

open SchemaSeed.Text

/-- The default that a text stands for: one of the markers, in any case, or itself. -/
def defaultOfText (s : String) : DefaultValue :=
  let marker := uppercase s
  if marker = "CURRENT_TIMESTAMP" then .currentTimestamp
  else if marker = "ON_UPDATE_TIMESTAMP" then .onUpdateTimestamp
  else .text s

/-- The default that a scalar stands for. -/
def scalarDefault? : Json → Option DefaultValue
  | .string s => some (defaultOfText s)
  | .number n => some (.number n)
  | .bool b => some (.bool b)
  | _ => none

/-- The default that a JSON value stands for: a scalar, an object that holds a scalar as `value`, or
one that names the update function. -/
def DefaultValue.ofJson (j : Json) : Except String DefaultValue :=
  match scalarDefault? j with
  | some value => .ok value
  | none =>
    match j with
    | .object _ =>
      if (j.member? "function").bind Json.string? |>.any (uppercase · == "ON_UPDATE_TIMESTAMP") then
        .ok .onUpdateTimestamp
      else
        match (j.member? "value").bind scalarDefault? with
        | some value => .ok value
        | none => .error "default object needs a scalar `value` or `function: ON_UPDATE_TIMESTAMP`"
    | other => .error ("unsupported default value: " ++ other.print)

/-- Reads a default. -/
def DefaultValue.read (t : JsonTree) : Reading DefaultValue := do
  (DefaultValue.ofJson (← Reading.json t)).mapError .refused

/-- The action that a word stands for, in any case, with underscores for blanks. -/
def ReferentialAction.ofText (s : String) : Except String ReferentialAction :=
  let words := String.ofList
    ((uppercase (trim s)).toList.map fun c => if c = '_' then ' ' else c)
  match words with
  | "CASCADE" => .ok .cascade
  | "SET NULL" => .ok .setNull
  | "SET DEFAULT" => .ok .setDefault
  | "RESTRICT" => .ok .restrict
  | "NO ACTION" => .ok .noAction
  | _ => .error ("unknown referential action '" ++ s ++ "'")

/-- Reads a referential action. -/
def ReferentialAction.read (t : JsonTree) : Reading ReferentialAction := do
  (ReferentialAction.ofText (← Reading.string t)).mapError .refused

/-- Reads a column. -/
def Column.read (origin : Origin) : JsonTree → Reading Column :=
  Reading.record origin
    ⟨"ColumnDefinition",
      ["name", "type", "primaryKey", "autoIncrement", "unique", "unsigned", "nullable", "default"],
      ["name", "type"]⟩
    ⟨"", "", false, false, false, false, none, none⟩
    fun field t c => do
      match field with
      | "name" => return { c with name := ← Reading.string t }
      | "type" => return { c with type := ← Reading.string t }
      | "primaryKey" => return { c with primaryKey := ← Reading.bool t }
      | "autoIncrement" => return { c with autoIncrement := ← Reading.bool t }
      | "unique" => return { c with unique := ← Reading.bool t }
      | "unsigned" => return { c with unsigned := ← Reading.bool t }
      | "nullable" => return { c with nullable := ← Reading.option Reading.bool t }
      | _ => return { c with default := ← Reading.option DefaultValue.read t }

/-- Reads a foreign key. -/
def ForeignKey.read (origin : Origin) : JsonTree → Reading ForeignKey :=
  Reading.record origin
    ⟨"ForeignKeyDefinition",
      ["name", "column", "referenceTable", "referenceColumn", "onDelete", "onUpdate"],
      ["name", "column", "referenceTable", "referenceColumn"]⟩
    ⟨"", "", "", "", none, none⟩
    fun field t fk => do
      match field with
      | "name" => return { fk with name := ← Reading.string t }
      | "column" => return { fk with column := ← Reading.string t }
      | "referenceTable" => return { fk with referenceTable := ← Reading.string t }
      | "referenceColumn" => return { fk with referenceColumn := ← Reading.string t }
      | "onDelete" => return { fk with onDelete := ← Reading.option ReferentialAction.read t }
      | _ => return { fk with onUpdate := ← Reading.option ReferentialAction.read t }

/-- Reads an index. -/
def Index.read (origin : Origin) : JsonTree → Reading Index :=
  Reading.record origin ⟨"IndexDefinition", ["name", "columns", "unique"], ["columns"]⟩
    ⟨none, [], false⟩
    fun field t i => do
      match field with
      | "name" => return { i with name := ← Reading.option Reading.string t }
      | "columns" => return { i with columns := ← Reading.list Reading.string t }
      | _ => return { i with unique := ← Reading.bool t }

/-- Reads a table to be made. -/
def CreateTable.read (origin : Origin) : JsonTree → Reading CreateTable :=
  Reading.record origin
    ⟨"CreateTable", ["table", "columns", "foreignKeys", "indexes", "engine", "charset"], []⟩ {}
    fun field t op => do
      match field with
      | "table" => return { op with table := ← Reading.string t }
      | "columns" => return { op with columns := ← Reading.list (Column.read origin) t }
      | "foreignKeys" => return { op with foreignKeys := ← Reading.list (ForeignKey.read origin) t }
      | "indexes" => return { op with indexes := ← Reading.list (Index.read origin) t }
      | "engine" => return { op with engine := ← Reading.option Reading.string t }
      | _ => return { op with charset := ← Reading.option Reading.string t }

/-- Reads the changes to a table. -/
def TableChanges.read (origin : Origin) : JsonTree → Reading TableChanges :=
  Reading.record origin
    ⟨"TableChanges",
      ["add", "modify", "drop", "addForeignKeys", "dropForeignKeys", "dropIndex"], []⟩ {}
    fun field t c => do
      match field with
      | "add" => return { c with add := ← Reading.list (Column.read origin) t }
      | "modify" => return { c with modify := ← Reading.list (Column.read origin) t }
      | "drop" => return { c with drop := ← Reading.list Reading.string t }
      | "addForeignKeys" =>
        return { c with addForeignKeys := ← Reading.list (ForeignKey.read origin) t }
      | "dropForeignKeys" => return { c with dropForeignKeys := ← Reading.list Reading.string t }
      | _ => return { c with dropIndex := ← Reading.list Reading.string t }

/-- Reads a table to be changed. -/
def AlterTable.read (origin : Origin) : JsonTree → Reading AlterTable :=
  Reading.record origin ⟨"AlterTable", ["table", "changes"], []⟩ {}
    fun field t op => do
      match field with
      | "table" => return { op with table := ← Reading.string t }
      | _ => return { op with changes := ← TableChanges.read origin t }

/-- Reads a table to be removed. -/
def DropTable.read (origin : Origin) : JsonTree → Reading DropTable :=
  Reading.record origin
    ⟨"DropTable", ["table", "dropIfExists", "ignoreForeignAndCascade"], []⟩ {}
    fun field t op => do
      match field with
      | "table" => return { op with table := ← Reading.string t }
      | "dropIfExists" => return { op with dropIfExists := ← Reading.bool t }
      | _ => return { op with ignoreForeignAndCascade := ← Reading.bool t }

/-- The words that name a change. -/
inductive Action where
  | create
  | alter
  | drop
  deriving DecidableEq, Repr

/-- Reads the word that names a change. -/
def Action.read : JsonTree → Reading Action
  | .string s => do
    match ← Reading.lift s with
    | "create" => return .create
    | "alter" => return .alter
    | "drop" => return .drop
    | other => .error (.unknownVariant other ["create", "alter", "drop"])
  | t => Reading.mismatch t "variant identifier"

/-- The action of an operation, which must have one. -/
def actionOr (action : Option Action) : Reading Action :=
  match action with
  | some a => .ok a
  | none => .error (.missingField "action")

/-- Reads the members of an operation and takes the action out of them. -/
def takeAction :
    List (Except SyntaxFault String × JsonTree) → Option Action →
    Reading (Option Action × List (Except SyntaxFault String × JsonTree))
  | [], action => .ok (action, [])
  | (key, t) :: rest, action => do
    let k ← Reading.lift key
    if k = "action" then
      if action.isSome then .error (.duplicateField "action")
      let a ← Action.read t
      takeAction rest (some a)
    else
      let _ ← Reading.json t
      let (found, others) ← takeAction rest action
      .ok (found, (key, t) :: others)

/-- Reads what an action acts on. -/
def ofAction (action : Action) (body : JsonTree) : Reading Operation :=
  match action with
  | .create => .create <$> CreateTable.read .buffer body
  | .alter => .alter <$> AlterTable.read .buffer body
  | .drop => .drop <$> DropTable.read .buffer body

/-- Reads an operation: an object with an `action`, or an array that starts with one. -/
def Operation.read : JsonTree → Reading Operation
  | .object depth members ending => do
    let (action, others) ← takeAction members none
    Reading.checkEnding ending
    ofAction (← actionOr action) (.object depth others none)
  | .array depth items ending => do
    match items with
    | [] =>
      Reading.checkEnding ending
      .error (.missingField "action")
    | first :: rest =>
      let action ← Action.read first
      let _ ← rest.mapM Reading.json
      Reading.checkEnding ending
      ofAction action (.array depth rest none)
  | t => Reading.mismatch t "internally tagged enum ChangeOperation"

/-- Reads a migration document. -/
def Document.read (origin : Origin) : JsonTree → Reading Document :=
  Reading.record origin ⟨"MigrationDocument", ["migrations", "rollback"], []⟩ {}
    fun field t d => do
      match field with
      | "migrations" =>
        return { d with migrations := ← Reading.option (Reading.list Operation.read) t }
      | _ => return { d with rollback := ← Reading.option (Reading.list Operation.read) t }

/-- The document that a text holds. -/
def Document.parse (text : String) : Except Failure Document :=
  (Reading.ofText (Document.read .text) text).mapError fun e => .invalidDocument e.message

/-- The list of operations that a text holds. -/
def Operation.parseList (text : String) : Except Failure (List Operation) :=
  (Reading.ofText (Reading.list Operation.read) text).mapError fun e => .invalidDocument e.message

/-- The document that a JSON value stands for. -/
def Document.ofJson (j : Json) : Reading Document := Document.read .value (JsonTree.ofJson j)

end SchemaSeed.Migration

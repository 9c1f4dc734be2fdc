import SchemaSeed.Migration.Document
import SchemaSeed.Json.Printed

/-!
Migration documents as JSON: every field that is not optional is written, absent optional ones are
left out, and actions and moments are written in their standard words.
-/

set_option autoImplicit false
set_option relaxedAutoImplicit false

namespace SchemaSeed.Migration

/-- A default as JSON. -/
def DefaultValue.toJson : DefaultValue → Json
  | .currentTimestamp => .string "CURRENT_TIMESTAMP"
  | .onUpdateTimestamp => .ofMembers [("function", .string "ON_UPDATE_TIMESTAMP")]
  | .text s => .string s
  | .number n => .number n
  | .bool b => .bool b

/-- A column as JSON. -/
def Column.toJson (c : Column) : Json :=
  .ofMembers
    ([("name", .string c.name), ("type", .string c.type), ("primaryKey", .bool c.primaryKey),
      ("autoIncrement", .bool c.autoIncrement), ("unique", .bool c.unique),
      ("unsigned", .bool c.unsigned)] ++
      Json.optionalMember "nullable" c.nullable .bool ++
      Json.optionalMember "default" c.default DefaultValue.toJson)

/-- A foreign key as JSON. -/
def ForeignKey.toJson (fk : ForeignKey) : Json :=
  .ofMembers
    ([("name", .string fk.name), ("column", .string fk.column),
      ("referenceTable", .string fk.referenceTable),
      ("referenceColumn", .string fk.referenceColumn)] ++
      Json.optionalMember "onDelete" fk.onDelete (fun a => .string a.toSql) ++
      Json.optionalMember "onUpdate" fk.onUpdate (fun a => .string a.toSql))

/-- An index as JSON. -/
def Index.toJson (i : Index) : Json :=
  .ofMembers
    (Json.optionalMember "name" i.name .string ++
      [("columns", .array (i.columns.map .string)), ("unique", .bool i.unique)])

/-- The changes to a table as JSON. -/
def TableChanges.toJson (c : TableChanges) : Json :=
  .ofMembers
    [("add", .array (c.add.map Column.toJson)), ("modify", .array (c.modify.map Column.toJson)),
      ("drop", .array (c.drop.map .string)),
      ("addForeignKeys", .array (c.addForeignKeys.map ForeignKey.toJson)),
      ("dropForeignKeys", .array (c.dropForeignKeys.map .string)),
      ("dropIndex", .array (c.dropIndex.map .string))]

/-- An operation as JSON, with the word for its action. -/
def Operation.toJson : Operation → Json
  | .create op => .ofMembers
      ([("action", .string "create"), ("table", .string op.table),
        ("columns", .array (op.columns.map Column.toJson)),
        ("foreignKeys", .array (op.foreignKeys.map ForeignKey.toJson)),
        ("indexes", .array (op.indexes.map Index.toJson))] ++
        Json.optionalMember "engine" op.engine .string ++ Json.optionalMember "charset" op.charset .string)
  | .alter op => .ofMembers
      [("action", .string "alter"), ("table", .string op.table), ("changes", op.changes.toJson)]
  | .drop op => .ofMembers
      [("action", .string "drop"), ("table", .string op.table),
        ("dropIfExists", .bool op.dropIfExists),
        ("ignoreForeignAndCascade", .bool op.ignoreForeignAndCascade)]

/-- A document as JSON. -/
def Document.toJson (d : Document) : Json :=
  let section? (ops : List Operation) : Json := .array (ops.map Operation.toJson)
  .ofMembers
    (Json.optionalMember "migrations" d.migrations section? ++
      Json.optionalMember "rollback" d.rollback section?)

end SchemaSeed.Migration

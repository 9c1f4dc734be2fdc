import SchemaSeed.Json.Syntax
import SchemaSeed.Sql.Dialect
import SchemaSeed.Sql.Value

/-!
Values on their way to and from a server: how the cells of an answer are read by the type of their
column, and under which type and text a parameter is sent.
-/

set_option autoImplicit false
set_option relaxedAutoImplicit false

namespace SchemaSeed.Server

open SchemaSeed.Sql SchemaSeed.Number SchemaSeed.Calendar

namespace Cell

/-- A truth value from its text. -/
def bool? (s : String) : Option Value :=
  if s = "true" then some (.bool true) else if s = "false" then some (.bool false) else none

/-- A signed integer of a width from its text. -/
def signed? (bits : Nat) (s : String) : Option Int :=
  intWithin? (-(twoTo (bits - 1) : Int)) (twoTo (bits - 1) - 1) s

/-- A signed integer as a value of 32 bits. -/
def int32? (bits : Nat) (s : String) : Option Value := (signed? bits s).map .int32

/-- A signed integer as a value of 64 bits. -/
def int64? (bits : Nat) (s : String) : Option Value := (signed? bits s).map .int64

/-- An unsigned integer of a width; what a signed value of 64 bits does not hold is kept as text. -/
def unsigned? (bits : Nat) (s : String) : Option Value :=
  (intWithin? 0 (twoTo bits - 1) s).map fun (n : Int) =>
    if n < (twoTo 63 : Int) then .int64 n else .text (toString n)

/-- A JSON value from its text. -/
def json? (s : String) : Option Value :=
  match Json.parse s with
  | .ok j => some (.json j)
  | .error _ => none

/-- Bytes that are text are read as text. -/
def textOrBytes (bytes : List UInt8) : Value :=
  match String.fromUTF8? (ByteArray.mk bytes.toArray) with
  | some text => .text text
  | none => .bytes bytes

/-- The value of a text by the upper-case name of its type, in one of the dialects. -/
def postgresValue? (type text : String) : Option Value :=
  match type with
  | "BOOL" => bool? text
  | "INT2" => int32? 16 text
  | "INT4" => int32? 32 text
  | "INT8" => int64? 64 text
  | "FLOAT4" => (Binary.ofText? .single text).map .float32
  | "FLOAT8" => (Binary.ofText? .double text).map .float64
  | "UUID" => (Uuid.ofText? text).map .uuid
  | "TIMESTAMPTZ" => (Instant.ofText? text).map .instant
  | "TIMESTAMP" => (Instant.ofText? text).map .instant
  | "DATE" => (Date.ofText? text).map .date
  | "TIME" => (Time.ofText? text).map .time
  | "JSON" => json? text
  | "JSONB" => json? text
  | "BYTEA" => (bytesOfHex? text).map .bytes
  | _ => some (.text text)

/-- The value of a text by the upper-case name of its type, in the other dialect. -/
def mysqlValue? (type text : String) : Option Value :=
  match type with
  | "BOOLEAN" => bool? text
  | "TINYINT" => int64? 8 text
  | "SMALLINT" => int64? 16 text
  | "MEDIUMINT" => int64? 24 text
  | "INT" => int64? 32 text
  | "BIGINT" => int64? 64 text
  | "TINYINT UNSIGNED" => unsigned? 8 text
  | "SMALLINT UNSIGNED" => unsigned? 16 text
  | "MEDIUMINT UNSIGNED" => unsigned? 24 text
  | "INT UNSIGNED" => unsigned? 32 text
  | "BIGINT UNSIGNED" => unsigned? 64 text
  | "FLOAT" => (Binary.ofText? .single text).map .float32
  | "DOUBLE" => (Binary.ofText? .double text).map .float64
  | "TIMESTAMP" => (Instant.ofText? text).map .instant
  | "DATETIME" => (Instant.ofText? text).map .instant
  | "DATE" => (Date.ofText? text).map .date
  | "TIME" => (Time.ofText? text).map .time
  | "JSON" => json? text
  | "BINARY" => (bytesOfHex? text).map textOrBytes
  | "VARBINARY" => (bytesOfHex? text).map textOrBytes
  | "TINYBLOB" => (bytesOfHex? text).map textOrBytes
  | "BLOB" => (bytesOfHex? text).map textOrBytes
  | "MEDIUMBLOB" => (bytesOfHex? text).map textOrBytes
  | "LONGBLOB" => (bytesOfHex? text).map textOrBytes
  | _ => some (.text text)

/-- The value of a cell from the type of its column and its text. A missing text is the missing
value whatever the type; a type that is not listed holds text. -/
def value? (d : Dialect) (type : String) : Option String → Option Value
  | none => some .null
  | some text =>
    match d with
    | .postgres => postgresValue? (Text.uppercase type) text
    | .mysql => mysqlValue? (Text.uppercase type) text

end Cell

/-- A parameter as a server gets it: a type name, and a text unless the value is missing. -/
structure Parameter where
  type : String
  text : Option String
  deriving DecidableEq, Repr

namespace Parameter

/-- The one of two words that a dialect has. -/
def pick (d : Dialect) (postgres mysql : String) : String :=
  match d with
  | .postgres => postgres
  | .mysql => mysql

/-- The form in which a value is sent. -/
def ofValue (d : Dialect) : Value → Parameter
  | .null => ⟨pick d "TEXT" "VARCHAR", none⟩
  | .bool b =>
    ⟨pick d "BOOL" "TINYINT UNSIGNED",
      some (if b then pick d "true" "1" else pick d "false" "0")⟩
  | .int32 n => ⟨pick d "INT4" "INT", some (toString n)⟩
  | .int64 n => ⟨pick d "INT8" "BIGINT", some (toString n)⟩
  | .float32 b => ⟨pick d "FLOAT4" "FLOAT", some ((b.convert .double).print .double)⟩
  | .float64 b => ⟨pick d "FLOAT8" "DOUBLE", some (b.print .double)⟩
  | .text s => ⟨pick d "TEXT" "VARCHAR", some s⟩
  | .untyped s => ⟨pick d "TEXT" "VARCHAR", some s⟩
  | .bytes bs => ⟨pick d "BYTEA" "BLOB", some (printBytes bs)⟩
  | .uuid u => ⟨pick d "UUID" "VARCHAR", some u.print⟩
  | .instant i => ⟨pick d "TIMESTAMPTZ" "TIMESTAMP", some i.printPlain⟩
  | .date day => ⟨"DATE", some day.print⟩
  | .time t => ⟨"TIME", some t.toMicroseconds.print⟩
  | .json j => ⟨pick d "JSONB" "VARCHAR", some j.print⟩

end Parameter

end SchemaSeed.Server

import SchemaSeed.Calendar.Instant
import SchemaSeed.Json.Printed
import SchemaSeed.Sql.Uuid
import SchemaSeed.Text.Blank

/-!
The values that are bound to statements and that rows hold.
-/

set_option autoImplicit false
set_option relaxedAutoImplicit false

namespace SchemaSeed.Sql

open SchemaSeed.Number SchemaSeed.Calendar

/-- A value of a database. -/
inductive Value where
  | null
  | bool (value : Bool)
  | int32 (value : Int)
  | int64 (value : Int)
  | float32 (value : Binary)
  | float64 (value : Binary)
  | text (value : String)
  /-- Text without a declared type: the server reads it as the column it meets asks for. -/
  | untyped (value : String)
  | bytes (value : List UInt8)
  | uuid (value : Uuid)
  | instant (value : Instant)
  | date (value : Date)
  | time (value : Time)
  | json (value : Json)
  deriving Repr, Inhabited

/-- Bytes as pairs of lower-case hexadecimal digits. -/
def printBytes (bytes : List UInt8) : String :=
  String.ofList (bytes.flatMap fun b => (hexPadded 2 b.toNat).toList)

/-- Bytes written as pairs of hexadecimal digits of either case. -/
def bytesOfHex? (s : String) : Option (List UInt8) := pairs s.toList
where
  /-- Reads pair by pair. -/
  pairs : List Char → Option (List UInt8)
    | [] => some []
    | a :: b :: rest => do
      let hi ← hexValue? a
      let lo ← hexValue? b
      return UInt8.ofNat (16 * hi + lo) :: (← pairs rest)
    | [_] => none

namespace Value

/-- Whether the value is the missing one. -/
def isNull : Value → Bool
  | .null => true
  | _ => false

/-- Text loses its declared type; all else stays as it is. -/
def toUntyped : Value → Value
  | .text s => .untyped s
  | v => v

/-- The content of text, declared or not. -/
def text? : Value → Option String
  | .text s => some s
  | .untyped s => some s
  | _ => none

/-- The signed 64-bit integer that a value stands for: numbers lose their fraction and are clamped,
truth values count as one and zero, text is read without the blanks around it. -/
def int64? : Value → Option Int
  | .int32 n => some n
  | .int64 n => some n
  | .float32 b => some b.toInt64
  | .float64 b => some b.toInt64
  | .bool b => some (if b then 1 else 0)
  | .text s => Number.int64? (Text.trim s)
  | .untyped s => Number.int64? (Text.trim s)
  | _ => none

private def floatJson (b : Binary) : Json :=
  if b.isFinite then .number (.float b) else .null

/-- The value as JSON; what JSON has no form for becomes text. -/
def toJson : Value → Json
  | .null => .null
  | .bool b => .bool b
  | .int32 n => .int n
  | .int64 n => .int n
  | .float32 b => floatJson (b.convert .double)
  | .float64 b => floatJson b
  | .text s => .string s
  | .untyped s => .string s
  | .bytes bs => .string (printBytes bs)
  | .uuid u => .string u.print
  | .instant i => .string i.print
  | .date d => .string d.print
  | .time t => .string t.print
  | .json j => j

/-- The value that a literal of a document is bound as: integers as the narrowest of the two integer
types that holds them, text as text, arrays and objects as JSON. -/
def ofJson : Json → Value
  | .null => .null
  | .bool b => .bool b
  | .number n =>
    match n.int64? with
    | some i => if -(twoTo 31 : Int) ≤ i ∧ i < twoTo 31 then .int32 i else .int64 i
    | none => .float64 n.toBinary
  | .string s => .text s
  | j => .json j

/-- The text of a JSON value as a message shows it: a string without its quotes. -/
def displayJson : Json → String
  | .string s => s
  | j => j.print

/-- How messages show a value. -/
def display : Value → String
  | .null => "NULL"
  | .text s => s
  | .untyped s => s
  | v => displayJson v.toJson

/-- Equality of values; a NaN equals nothing. -/
def same : Value → Value → Bool
  | .null, .null => true
  | .bool a, .bool b => a == b
  | .int32 a, .int32 b => a == b
  | .int64 a, .int64 b => a == b
  | .float32 a, .float32 b => a.same b
  | .float64 a, .float64 b => a.same b
  | .text a, .text b => a == b
  | .untyped a, .untyped b => a == b
  | .bytes a, .bytes b => a == b
  | .uuid a, .uuid b => a == b
  | .instant a, .instant b => a == b
  | .date a, .date b => a == b
  | .time a, .time b => a == b
  | .json a, .json b => a.same b
  | _, _ => false

end Value

end SchemaSeed.Sql

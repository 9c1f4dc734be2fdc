import SchemaSeed.Json.Value
import SchemaSeed.Number.Printed

/-!
The compact text of JSON values, and the indented one that documents are kept in.
-/

set_option autoImplicit false
set_option relaxedAutoImplicit false

namespace SchemaSeed

open SchemaSeed.Number

/-- The text of a number. -/
def JsonNumber.print : JsonNumber → String
  | .integer n => toString n
  | .float b => b.print .double

namespace Json

/-- A character inside a string: quotes, backslashes and control characters are escaped. -/
def escapeChar (c : Char) : List Char :=
  if c = '"' then ['\\', '"']
  else if c = '\\' then ['\\', '\\']
  else if c = '\n' then ['\\', 'n']
  else if c = '\r' then ['\\', 'r']
  else if c = '\t' then ['\\', 't']
  else if c.toNat = 8 then ['\\', 'b']
  else if c.toNat = 12 then ['\\', 'f']
  else if c.toNat < 32 then '\\' :: 'u' :: (hexPadded 4 c.toNat).toList
  else [c]

/-- The text of a string, with its quotes. -/
def printString (s : String) : String :=
  String.ofList ('"' :: s.toList.flatMap escapeChar ++ ['"'])

mutual

/-- The compact text of a value. -/
def print : Json → String
  | .null => "null"
  | .bool b => if b then "true" else "false"
  | .number n => n.print
  | .string s => printString s
  | .array items => "[" ++ ",".intercalate (printItems items) ++ "]"
  | .object members => "\x7b" ++ ",".intercalate (printMembers members) ++ "\x7d"

/-- The texts of the items of an array. -/
def printItems : List Json → List String
  | [] => []
  | j :: rest => print j :: printItems rest

/-- The texts of the members of an object. -/
def printMembers : List (String × Json) → List String
  | [] => []
  | (k, v) :: rest => (printString k ++ ":" ++ print v) :: printMembers rest

end

end Json

end SchemaSeed

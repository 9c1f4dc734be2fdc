import SchemaSeed.Number.Binary

/-!
JSON values. Objects are held as lists in ascending order of their keys, each key once.
-/

set_option autoImplicit false
set_option relaxedAutoImplicit false

namespace SchemaSeed

open SchemaSeed.Number

/-- A JSON number: an integer of the signed or unsigned 64-bit range, or a floating-point number. -/
inductive JsonNumber where
  | integer (value : Int)
  | float (value : Binary)
  deriving DecidableEq, Repr

/-- A JSON value. -/
inductive Json where
  | null
  | bool (value : Bool)
  | number (value : JsonNumber)
  | string (value : String)
  | array (items : List Json)
  | object (members : List (String × Json))
  deriving Repr, Inhabited

namespace JsonNumber

/-- The number as a signed 64-bit integer, if it is one. -/
def int64? : JsonNumber → Option Int
  | .integer n => if n < twoTo 63 then some n else none
  | .float _ => none

/-- The number rounded to a floating-point one. -/
def toBinary : JsonNumber → Binary
  | .integer n => .ofInt .double n
  | .float b => b

/-- Equality of numbers: integers are no floating-point numbers. -/
def same : JsonNumber → JsonNumber → Bool
  | .integer a, .integer b => a == b
  | .float a, .float b => a.same b
  | _, _ => false

end JsonNumber

namespace Json

/-- An integer as a JSON value. -/
def int (n : Int) : Json := .number (.integer n)

/-- Puts a member at the place of its key; a key that is there already gets the new value. -/
def insertMember (key : String) (value : Json) : List (String × Json) → List (String × Json)
  | [] => [(key, value)]
  | (k, v) :: rest =>
    if key < k then (key, value) :: (k, v) :: rest
    else if key = k then (key, value) :: rest
    else (k, v) :: insertMember key value rest

/-- The object of some members; of members with one key the last counts. -/
def ofMembers (members : List (String × Json)) : Json :=
  .object (members.foldl (fun ms m => insertMember m.1 m.2 ms) [])

/-- A member that is there only if its value is. -/
def optionalMember {α : Type} (key : String) (value : Option α) (toJson : α → Json) :
    List (String × Json) :=
  match value with
  | some v => [(key, toJson v)]
  | none => []

/-- The value of a member of an object. -/
def member? (key : String) : Json → Option Json
  | .object ms => (ms.find? (·.1 == key)).map (·.2)
  | _ => none

/-- The content of a string. -/
def string? : Json → Option String
  | .string s => some s
  | _ => none

/-- The value of a boolean. -/
def bool? : Json → Option Bool
  | .bool b => some b
  | _ => none

/-- The value of an integer. -/
def int? : Json → Option Int
  | .number (.integer n) => some n
  | _ => none

/-- The items of an array. -/
def items? : Json → Option (List Json)
  | .array items => some items
  | _ => none

/-- The members of an object. -/
def members? : Json → Option (List (String × Json))
  | .object ms => some ms
  | _ => none

/-- Whether the value is `null`. -/
def isNull : Json → Bool
  | .null => true
  | _ => false

mutual

/-- Equality of values, by content. -/
def same : Json → Json → Bool
  | .null, .null => true
  | .bool a, .bool b => a == b
  | .number a, .number b => a.same b
  | .string a, .string b => a == b
  | .array as, .array bs => sameItems as bs
  | .object as, .object bs => sameMembers as bs
  | _, _ => false

/-- Equality of arrays. -/
def sameItems : List Json → List Json → Bool
  | [], [] => true
  | a :: as, b :: bs => same a b && sameItems as bs
  | _, _ => false

/-- Equality of objects. -/
def sameMembers : List (String × Json) → List (String × Json) → Bool
  | [], [] => true
  | (k, a) :: as, (l, b) :: bs => k == l && same a b && sameMembers as bs
  | _, _ => false

end

end Json

end SchemaSeed

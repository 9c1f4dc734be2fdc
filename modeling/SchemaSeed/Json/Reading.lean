import SchemaSeed.Json.Syntax
import SchemaSeed.Json.Printed
import SchemaSeed.Text.Quoted

/-!
Typed reading of JSON trees: scalars, lists, options, maps and records, in text order, with the
first fault as the answer.

A record is an object, or an array of its fields in their declared order. Unknown members are
skipped; a known member that comes twice is a fault, and so is the absence of a required one.
-/

set_option autoImplicit false
set_option relaxedAutoImplicit false

namespace SchemaSeed

open SchemaSeed.Text

/-- Why a tree is not what a reader wants. -/
inductive ReadError where
  | syntactic (fault : SyntaxFault)
  | wrongType (found expected : String)
  | wrongValue (found expected : String)
  | unknownVariant (name : String) (known : List String)
  | missingField (name : String)
  | duplicateField (name : String)
  | wrongLength (count : Nat) (expected : String)
  /-- A reading that a conversion refused, in the words of the conversion. -/
  | refused (reason : String)
  deriving DecidableEq, Repr

/-- The text of a reading error. -/
def ReadError.message : ReadError → String
  | .syntactic fault => fault.message
  | .wrongType found expected => "invalid type: " ++ found ++ ", expected " ++ expected
  | .wrongValue found expected => "invalid value: " ++ found ++ ", expected " ++ expected
  | .unknownVariant name known =>
    "unknown variant `" ++ name ++ "`, expected one of " ++
      ", ".intercalate (known.map fun k => "`" ++ k ++ "`")
  | .missingField name => "missing field `" ++ name ++ "`"
  | .duplicateField name => "duplicate field `" ++ name ++ "`"
  | .wrongLength count expected =>
    "invalid length " ++ toString count ++ ", expected " ++ expected
  | .refused reason => reason

/-- The result of reading a tree. -/
abbrev Reading := Except ReadError

/-- Where a tree comes from: straight from text, from an operation that was buffered to find its
action, or from a value read before. Only the words for surplus array elements depend on it. -/
inductive Origin where
  | text
  | buffer
  | value
  deriving DecidableEq, Repr

namespace Reading

/-- A part of the text that had a fault of its own. -/
def lift {α : Type} (part : Except SyntaxFault α) : Reading α := part.mapError .syntactic

/-- How a message names what a tree holds. -/
def describe : JsonTree → Reading String
  | .null => .ok "null"
  | .bool b => .ok ("boolean `" ++ (if b then "true" else "false") ++ "`")
  | .number n => do
    match ← lift n with
    | .integer i => .ok ("integer `" ++ toString i ++ "`")
    | .float b => .ok ("floating point `" ++ b.print .double ++ "`")
  | .string s => do .ok ("string " ++ quoted (← lift s))
  | .array .. => .ok "sequence"
  | .object .. => .ok "map"
  | .broken b => .error (.syntactic b.read)

/-- The complaint about a tree of the wrong type. -/
def mismatch {α : Type} (t : JsonTree) (expected : String) : Reading α := do
  .error (.wrongType (← describe t) expected)

/-- The whole tree as a value. -/
def json (t : JsonTree) : Reading Json := lift t.read

/-- A text. -/
def string : JsonTree → Reading String
  | .string s => lift s
  | t => mismatch t "a string"

/-- A truth value. -/
def bool : JsonTree → Reading Bool
  | .bool b => .ok b
  | t => mismatch t "a boolean"

/-- A number from zero to the largest of 64 bits. -/
def nat64 (t : JsonTree) : Reading Nat :=
  match t with
  | .number (.ok (.integer n)) =>
    if n < 0 then .error (.wrongValue ("integer `" ++ toString n ++ "`") "u64") else .ok n.toNat
  | t => mismatch t "u64"

/-- A value that may be absent, written as `null`. -/
def option {α : Type} (value : JsonTree → Reading α) : JsonTree → Reading (Option α)
  | .null => .ok none
  | t => some <$> value t

/-- Faults a nesting that is too deep. -/
def checkDepth (depth : Nat) : Reading Unit :=
  if JsonTree.maxDepth < depth then .error (.syntactic .tooDeep) else .ok ()

/-- Faults a bracket that is not closed as it should be. -/
def checkEnding : Option Break → Reading Unit
  | some b => .error (.syntactic b.read)
  | none => .ok ()

/-- A list. -/
def list {α : Type} (item : JsonTree → Reading α) : JsonTree → Reading (List α)
  | .array depth items ending => do
    checkDepth depth
    let values ← items.mapM item
    checkEnding ending
    .ok values
  | t => mismatch t "a sequence"

/-- Puts a value at the place of its key in a list ordered by keys. -/
def insertKey {α : Type} (key : String) (value : α) : List (String × α) → List (String × α)
  | [] => [(key, value)]
  | (k, v) :: rest =>
    if key < k then (key, value) :: (k, v) :: rest
    else if key = k then (key, value) :: rest
    else (k, v) :: insertKey key value rest

/-- A map from texts, in ascending order of the keys; a repeated key keeps its last value. -/
def map {α : Type} (value : JsonTree → Reading α) : JsonTree → Reading (List (String × α))
  | .object depth members ending => do
    checkDepth depth
    let entries ← members.foldlM (fun entries (key, t) => do
      let k ← lift key
      let v ← value t
      .ok (insertKey k v entries)) []
    checkEnding ending
    .ok entries
  | t => mismatch t "a map"

/-- The name of a record and its fields in their declared order. -/
structure Shape where
  name : String
  fields : List String
  required : List String := []

namespace Shape

/-- How messages name a record. -/
def title (s : Shape) : String := "struct " ++ s.name

private def elements (n : Nat) : String :=
  toString n ++ (if n = 1 then " element" else " elements")

/-- The complaint about an array with too few elements. -/
def tooShort (s : Shape) (count : Nat) : ReadError :=
  .wrongLength count (s.title ++ " with " ++ elements s.fields.length)

/-- The complaint about the elements of an array that are left when every field is read. -/
def surplus (s : Shape) (origin : Origin) (left : List JsonTree) (ending : Option Break) :
    Reading Unit :=
  match origin, left, ending with
  | _, [], none => .ok ()
  | .text, [], some b =>
    .error (.syntactic (if b.read = .noListSeparator then .trailingText else b.read))
  | .text, _ :: _, _ => .error (.syntactic .trailingText)
  | .buffer, left, _ =>
    .error (.wrongLength (s.fields.length + left.length)
      (elements s.fields.length ++ " in sequence"))
  | .value, left, _ =>
    .error (.wrongLength (s.fields.length + left.length) "fewer elements in array")

end Shape

/-- How a record takes in the value of one of its fields. -/
abbrev PutField (α : Type) := String → JsonTree → α → Reading α

/-- Reads the members of an object that are fields of a record, and tells which have been read. -/
def readMembers {α : Type} (shape : Shape) (put : PutField α) :
    List (Except SyntaxFault String × JsonTree) → List String → α → Reading (α × List String)
  | [], seen, record => .ok (record, seen)
  | (key, t) :: rest, seen, record => do
    let k ← lift key
    if !shape.fields.contains k then
      lift t.skip
      readMembers shape put rest seen record
    else if seen.contains k then .error (.duplicateField k)
    else
      let record ← put k t record
      readMembers shape put rest (k :: seen) record

/-- Reads the elements of an array as the fields of a record, and tells which are left over. -/
def readElements {α : Type} (shape : Shape) (put : PutField α) (ending : Option Break) :
    List String → List JsonTree → Nat → α → Reading (α × List JsonTree)
  | [], left, _, record => .ok (record, left)
  | field :: fields, t :: rest, count, record => do
    let record ← put field t record
    readElements shape put ending fields rest (count + 1) record
  | field :: fields, [], count, record => do
    checkEnding ending
    if shape.required.contains field then .error (shape.tooShort count)
    readElements shape put ending fields [] (count + 1) record

/-- A record, from an object or from an array, starting from the values that its optional fields
have when they are absent. -/
def record {α : Type} (origin : Origin) (shape : Shape) (start : α) (put : PutField α) :
    JsonTree → Reading α
  | .object depth members ending => do
    checkDepth depth
    let (result, seen) ← readMembers shape put members [] start
    checkEnding ending
    match shape.required.find? (fun f => !seen.contains f) with
    | some field => .error (.missingField field)
    | none => .ok result
  | .array depth items ending => do
    checkDepth depth
    let (result, left) ← readElements shape put ending shape.fields items 0 start
    shape.surplus origin left ending
    .ok result
  | t => mismatch t shape.title

/-- A value that a whole text holds. -/
def ofText {α : Type} (value : JsonTree → Reading α) (text : String) : Reading α := do
  let source := JsonTree.ofText text
  let result ← value source.tree
  match source.tail with
  | some fault => .error (.syntactic fault)
  | none => .ok result

end Reading

end SchemaSeed

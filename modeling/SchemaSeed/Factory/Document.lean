import SchemaSeed.Failure
import SchemaSeed.Json.Reading

/-!
Factory documents: for every column of a row, the rule that gives its value.

A document is a list of entries, and an entry maps columns to rules; the rules of a document are
those of its entries one after another.
-/

set_option autoImplicit false
set_option relaxedAutoImplicit false

namespace SchemaSeed.Factory

/-- A replacement that is made in textual values. -/
structure Manipulation where
  pattern : String
  replacement : String := ""
  deriving DecidableEq, Repr

/-- How the values of a column come about. -/
structure Rule where
  /-- Whether values are made up, by their tag. -/
  isFake : Bool := false
  tag : Option String := none
  custom : Option Json := none
  manipulation : Option Manipulation := none
  deriving Repr

/-- A column of another table, of which some value is taken. -/
structure Reference where
  table : String
  column : String
  deriving DecidableEq, Repr

/-- What a rule gives that makes nothing up. -/
inductive Custom where
  | literal (value : Json)
  | reference (target : Reference)
  | nothing
  deriving Repr

/-- A factory file. -/
structure Document where
  columns : List (List (String × Rule)) := []
  deriving Repr

/-! Reading. -/

/-- Reads a replacement. -/
def Manipulation.read (origin : Origin) : JsonTree → Reading Manipulation :=
  Reading.record origin ⟨"Manipulation", ["regex", "replace_with"], ["regex"]⟩ ⟨"", ""⟩
    fun field t m => do
      match field with
      | "regex" => return { m with pattern := ← Reading.string t }
      | _ => return { m with replacement := ← Reading.string t }

/-- The replacement that a JSON value stands for. -/
def Manipulation.ofJson (j : Json) : Except Failure Manipulation :=
  (Manipulation.read .value (JsonTree.ofJson j)).mapError fun e => .invalidDocument e.message

/-- Reads a rule. -/
def Rule.read : JsonTree → Reading Rule :=
  Reading.record .text ⟨"ColumnGenRule", ["fake", "type", "custom", "manipulation"], []⟩ {}
    fun field t r => do
      match field with
      | "fake" => return { r with isFake := ← Reading.bool t }
      | "type" => return { r with tag := ← Reading.option Reading.string t }
      | "custom" => return { r with custom := ← Reading.option Reading.json t }
      | _ => return { r with manipulation := ← Reading.option (Manipulation.read .text) t }

/-- Reads a reference. -/
def Reference.read (origin : Origin) : JsonTree → Reading Reference :=
  Reading.record origin ⟨"TableReference", ["table", "column"], ["table", "column"]⟩ ⟨"", ""⟩
    fun field t r => do
      match field with
      | "table" => return { r with table := ← Reading.string t }
      | _ => return { r with column := ← Reading.string t }

/-- Reads a factory document. -/
def Document.read : JsonTree → Reading Document :=
  Reading.record .text ⟨"FactoryDocument", ["columns"], []⟩ {}
    fun _ t d => do
      return { d with columns := ← Reading.list (Reading.map Rule.read) t }

/-- The factory document that a text holds. -/
def Document.parse (text : String) : Except Failure Document :=
  (Reading.ofText Document.read text).mapError fun e => .invalidDocument e.message

/-! Writing. -/

/-- A replacement as JSON. -/
def Manipulation.toJson (m : Manipulation) : Json :=
  .ofMembers [("regex", .string m.pattern), ("replace_with", .string m.replacement)]

/-- A rule as JSON. -/
def Rule.toJson (r : Rule) : Json :=
  .ofMembers
    (("fake", .bool r.isFake) ::
      (Json.optionalMember "type" r.tag .string ++ Json.optionalMember "custom" r.custom id ++
        Json.optionalMember "manipulation" r.manipulation Manipulation.toJson))

/-- A factory document as JSON. -/
def Document.toJson (d : Document) : Json :=
  .ofMembers
    [("columns", .array (d.columns.map fun entry =>
      .ofMembers (entry.map fun (column, rule) => (column, rule.toJson))))]

/-! Meaning. -/

/-- What a rule gives that makes nothing up. Nothing is written as `null`, as an empty text, as the
text `null` or as an object without a reference. -/
def Rule.customValue (r : Rule) : Except Failure Custom :=
  match r.custom with
  | none => .ok .nothing
  | some .null => .ok .nothing
  | some (.string s) => if s = "" ∨ s = "null" then .ok .nothing else .ok (.literal (.string s))
  | some (.object members) =>
    match (Json.object members).member? "reference_table" with
    | none => .ok .nothing
    | some target =>
      match Reference.read .value (JsonTree.ofJson target) with
      | .ok target => .ok (.reference target)
      | .error e => .error (.invalidDocument ("invalid reference_table: " ++ e.message))
  | some value => .ok (.literal value)

/-- The columns with their rules, in the order of a row. -/
def Document.rules (d : Document) : List (String × Rule) := d.columns.flatten

/-- Whether a row has a column. -/
def Document.hasColumn (d : Document) (column : String) : Bool := d.rules.any (·.1 == column)

end SchemaSeed.Factory

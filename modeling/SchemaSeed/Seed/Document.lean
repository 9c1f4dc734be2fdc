import SchemaSeed.Factory.Document
import SchemaSeed.Text.Blank
import SchemaSeed.Text.Case

/-!
Seed documents: lists of jobs, each of which fills one table with rows of a factory.
-/

set_option autoImplicit false
set_option relaxedAutoImplicit false

namespace SchemaSeed.Seed

open SchemaSeed.Text

/-- How the conditions on several match columns are joined. -/
inductive MatchOperator where
  | and
  | or
  deriving DecidableEq, Repr

/-- The keyword of an operator. -/
def MatchOperator.toSql : MatchOperator → String
  | .and => "AND"
  | .or => "OR"

/-- The operator that a word stands for, in any case and with blanks around it. -/
def MatchOperator.ofText (s : String) : Except String MatchOperator :=
  match uppercase (trim s) with
  | "AND" => .ok .and
  | "OR" => .ok .or
  | other => .error ("unknown match operator '" ++ other ++ "', expected AND or OR")

/-- Which row of the table a new row is to replace. -/
structure Upsert where
  columns : List String := []
  operator : Option MatchOperator := none
  deriving DecidableEq, Repr

/-- A statement that is sent as it is, so many times. -/
structure CustomQuery where
  query : String
  count : Nat := 0
  deriving DecidableEq, Repr

/-- One job. The statement to be sent after the rows can be given as a whole or by two keys of its
own. -/
structure Spec where
  table : String := ""
  factory : Option String := none
  count : Nat := 0
  createOrUpdate : Option Upsert := none
  custom : Option CustomQuery := none
  query : Option String := none
  queryCount : Option Nat := none
  deriving DecidableEq, Repr

/-- A seeder file. -/
structure Document where
  specs : List Spec
  deriving DecidableEq, Repr

/-! Reading. -/

/-- Reads an operator. -/
def MatchOperator.read (t : JsonTree) : Reading MatchOperator := do
  (MatchOperator.ofText (← Reading.string t)).mapError .refused

/-- Reads the match columns of a job. -/
def Upsert.read : JsonTree → Reading Upsert :=
  Reading.record .text ⟨"CreateOrUpdate", ["matchColumns", "operator"], []⟩ {}
    fun field t u => do
      match field with
      | "matchColumns" => return { u with columns := ← Reading.list Reading.string t }
      | _ => return { u with operator := ← Reading.option MatchOperator.read t }

/-- Reads a custom query. -/
def CustomQuery.read : JsonTree → Reading CustomQuery :=
  Reading.record .text ⟨"CustomQuery", ["query", "execution_count"], ["query"]⟩ ⟨"", 0⟩
    fun field t q => do
      match field with
      | "query" => return { q with query := ← Reading.string t }
      | _ => return { q with count := ← Reading.nat64 t }

/-- Reads a job. -/
def Spec.read : JsonTree → Reading Spec :=
  Reading.record .text
    ⟨"SeedSpec",
      ["table", "factory", "execution_count", "createOrUpdate", "custom", "custom_query",
        "custom_query_execution_count"], []⟩ {}
    fun field t s => do
      match field with
      | "table" => return { s with table := ← Reading.string t }
      | "factory" => return { s with factory := ← Reading.option Reading.string t }
      | "execution_count" => return { s with count := ← Reading.nat64 t }
      | "createOrUpdate" => return { s with createOrUpdate := ← Reading.option Upsert.read t }
      | "custom" => return { s with custom := ← Reading.option CustomQuery.read t }
      | "custom_query" => return { s with query := ← Reading.option Reading.string t }
      | _ => return { s with queryCount := ← Reading.option Reading.nat64 t }

/-- Reads a seed document. -/
def Document.read : JsonTree → Reading Document :=
  Reading.record .text ⟨"SeedDocument", ["seed"], ["seed"]⟩ ⟨[]⟩
    fun _ t _ => do return ⟨← Reading.list Spec.read t⟩

private def parseWith {α : Type} (read : JsonTree → Reading α) (text : String) :
    Except Failure α :=
  (Reading.ofText read text).mapError fun e => .invalidDocument e.message

/-- The seed document that a text holds. -/
def Document.parse (text : String) : Except Failure Document := parseWith Document.read text

/-- The job that a text holds. -/
def Spec.parse (text : String) : Except Failure Spec := parseWith Spec.read text

/-! Writing. -/

/-- Match columns as JSON. -/
def Upsert.toJson (u : Upsert) : Json :=
  .ofMembers
    (("matchColumns", .array (u.columns.map .string)) ::
      Json.optionalMember "operator" u.operator fun o => .string o.toSql)

/-- A custom query as JSON. -/
def CustomQuery.toJson (q : CustomQuery) : Json :=
  .ofMembers [("query", .string q.query), ("execution_count", .int q.count)]

/-- A job as JSON. -/
def Spec.toJson (s : Spec) : Json :=
  .ofMembers
    ([("table", .string s.table), ("execution_count", .int s.count)] ++
      Json.optionalMember "factory" s.factory .string ++
      Json.optionalMember "createOrUpdate" s.createOrUpdate Upsert.toJson ++
      Json.optionalMember "custom" s.custom CustomQuery.toJson ++
      Json.optionalMember "custom_query" s.query .string ++
      Json.optionalMember "custom_query_execution_count" s.queryCount fun n => .int n)

/-- A seed document as JSON. -/
def Document.toJson (d : Document) : Json :=
  .ofMembers [("seed", .array (d.specs.map Spec.toJson))]

/-! Meaning. -/

namespace Spec

/-- The statement to be sent after the rows, unless it is blank or is to be sent no time. -/
def customQuery (s : Spec) : Option CustomQuery :=
  let given : Option CustomQuery :=
    s.custom <|> s.query.map fun query => ⟨query, s.queryCount.getD 0⟩
  given.filter fun q => !isBlankText q.query && q.count != 0

/-- Which rows are to be replaced, if rows are not just added. -/
def upsert (s : Spec) : Option Upsert :=
  s.createOrUpdate.filter fun u => !u.columns.isEmpty

/-- What must hold of match columns: several have an operator, and each is one of the factory's. -/
def checkUpsert (s : Spec) (factory : Option Factory.Document) (u : Upsert) :
    Except Failure Unit :=
  if 1 < u.columns.length && u.operator.isNone then .error (.missingOperator s.table)
  else
    match factory.bind fun f => u.columns.find? fun c => !f.hasColumn c with
    | none => .ok ()
    | some column =>
      .error (.invalidDocument
        ("match column '" ++ column ++ "' of table '" ++ s.table ++
          "' is not produced by factory '" ++ s.factory.getD "" ++ "'"))

/-- What must hold of a job before any row is written: rows have a table, several match columns an
operator, and every match column is one of the factory's. -/
def validate (s : Spec) (factory : Option Factory.Document) : Except Failure Unit :=
  if 0 < s.count && isBlankText s.table then
    .error (.invalidDocument "seed entry with execution_count > 0 has no table")
  else
    match s.upsert with
    | none => .ok ()
    | some u => s.checkUpsert factory u

end Spec

end SchemaSeed.Seed

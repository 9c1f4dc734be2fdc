import SchemaSeed.Server.LedgerTable

/-!
A connection that needs no server: it notes every call and answers by rules, then by a ledger table
if it has one, then with no rows. An executed statement always affects one row.
-/

set_option autoImplicit false
set_option relaxedAutoImplicit false

namespace SchemaSeed.Server

open SchemaSeed.Sql SchemaSeed.Migration

/-- What a rule of a connection in memory answers: a failure, which may depend on the statement, or
rows. -/
abbrev MemoryAnswer := String → Except Failure (List Row)

/-- The state of a connection in memory. It stays usable after it is closed. -/
structure Memory where
  rules : List (Rule MemoryAnswer) := []
  ledger : Option LedgerTable := none
  closed : Bool := false

namespace Memory

/-- The ledger's answer as rows. -/
def ledgerRows : LedgerAnswer → List Row
  | .nextBatch batch => [.ofValues [("batch", .int64 batch)]]
  | .names names => names.map fun name => .ofValues [("migration", .text name)]
  | .entries entries => entries.map fun e => .ofValues
      [("migration", .text e.migration), ("batch", .int64 e.batch),
        ("created_at", (e.appliedAt.map Value.instant).getD .null)]
  | .batchColumn present => if present then [.ofValues [("column_name", .text "batch")]] else []
  | .changed _ => []

/-- The answer to a statement. -/
def respond (statement : String) (params : List Value) (m : Memory) :
    Except Failure (List Row) × Memory :=
  match Rule.answer? statement m.rules with
  | some (answer, rules) => (answer statement, { m with rules })
  | none =>
    match m.ledger.bind (·.answer? statement params) with
    | some (answer, table) => (.ok (ledgerRows answer), { m with ledger := some table })
    | none => (.ok [], m)

/-- The connection as a server. -/
def server : Server Memory where
  execute sql params m :=
    let (answer, m) := respond sql params m
    (answer.map fun _ => 1, m)
  fetch := respond
  close m := (.ok (), { m with closed := true })

end Memory

end SchemaSeed.Server

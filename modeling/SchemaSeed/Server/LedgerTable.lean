import SchemaSeed.Migration.Ledger
import SchemaSeed.Number.Power
import SchemaSeed.Server.Rule

/-!
The ledger table as a server keeps it, with its answers to the statements of a ledger. It knows no
transactions: a change is there as soon as it is made.
-/

set_option autoImplicit false
set_option relaxedAutoImplicit false

namespace SchemaSeed.Server

open SchemaSeed.Sql SchemaSeed.Migration SchemaSeed.Number

/-- The rows of a ledger table. -/
structure LedgerTable where
  table : String := "migrations"
  entries : List LedgerEntry := []
  hasBatch : Bool := true
  deriving Repr

/-- What the table answers. -/
inductive LedgerAnswer where
  | nextBatch (batch : Int)
  | names (names : List String)
  | entries (entries : List LedgerEntry)
  | batchColumn (present : Bool)
  | changed (rows : Nat)

namespace LedgerTable

/-- The largest batch, or zero if there is no row, and one more; the sum stays in the signed 64-bit
range by going round. -/
def nextBatch (t : LedgerTable) : Int :=
  match t.entries.map (·.batch) with
  | [] => 1
  | b :: bs => Int.bmod (bs.foldl max b + 1) (twoTo 64)

/-- The name that comes as the first parameter. -/
def textOf (params : List Value) : String :=
  match params with
  | v :: _ => v.display
  | [] => ""

/-- The batch that comes as the second parameter. -/
def batchOf (params : List Value) : Int :=
  match params with
  | _ :: v :: _ => v.int64?.getD 0
  | _ => 0

/-- The answer to a statement of the ledger, and the table after it; other statements have none. -/
def answer? (t : LedgerTable) (statement : String) (params : List Value) :
    Option (LedgerAnswer × LedgerTable) :=
  let starts := fun (text : String) => Matching.startsWith.holds text statement
  if starts "SELECT COALESCE(MAX(batch), 0) + 1" then some (.nextBatch t.nextBatch, t)
  else if starts "SELECT migration FROM" then some (.names (t.entries.map (·.migration)), t)
  else if starts "SELECT migration, batch, created_at FROM" then some (.entries t.entries, t)
  else if starts ("INSERT INTO " ++ t.table ++ " (migration") then
    some (.changed 1, { t with entries := t.entries ++ [⟨textOf params, batchOf params, none⟩] })
  else if starts ("DELETE FROM " ++ t.table ++ " ") then
    let kept := t.entries.filter (·.migration != textOf params)
    some (.changed (t.entries.length - kept.length), { t with entries := kept })
  else if Matching.contains.holds "information_schema" statement || starts "SHOW COLUMNS" then
    some (.batchColumn t.hasBatch, t)
  else if starts ("ALTER TABLE " ++ t.table ++ " ADD COLUMN batch") then
    some (.changed 0, { t with hasBatch := true })
  else none

end LedgerTable

end SchemaSeed.Server

import SchemaSeed.Sql.Dialect
import SchemaSeed.Sql.Session

/-!
The ledger: the table that records which migrations have been applied, and in which batch.

A run reads the ledger once and then keeps what it knows in a `Ledger.Cache`, which it brings up to
date with every row that it adds or removes.
-/

set_option autoImplicit false
set_option relaxedAutoImplicit false

namespace SchemaSeed.Migration

open SchemaSeed.Sql SchemaSeed.Calendar

/-- A ledger table on a server of some dialect. -/
structure Ledger where
  dialect : Dialect
  table : String := "migrations"
  deriving DecidableEq, Repr

/-- A row of the ledger. -/
structure LedgerEntry where
  migration : String
  batch : Int
  appliedAt : Option Instant
  deriving DecidableEq, Repr

namespace Ledger

/-- What a run knows of the ledger so far. -/
structure Cache where
  /-- The batch of this run. -/
  batch : Option Int := none
  /-- The names of the recorded migrations, each once. -/
  applied : Option (List String) := none
  deriving DecidableEq, Repr

/-- The statement that makes the table unless it is there. -/
def createStatement (l : Ledger) : String :=
  "CREATE TABLE IF NOT EXISTS " ++ l.table ++ " (" ++
    (match l.dialect with
      | .postgres => "id SERIAL PRIMARY KEY"
      | .mysql => "id INT AUTO_INCREMENT PRIMARY KEY") ++
    ", migration VARCHAR(255) NOT NULL, batch INT DEFAULT 1 NOT NULL, " ++
    "created_at TIMESTAMP DEFAULT CURRENT_TIMESTAMP)"

/-- The query that has a row if the table has a column for batches. -/
def batchColumnQuery (l : Ledger) : String :=
  match l.dialect with
  | .postgres =>
    "SELECT column_name FROM information_schema.columns WHERE table_name = " ++
      Dialect.quoteLiteral l.table ++ " AND column_name = 'batch'"
  | .mysql => "SHOW COLUMNS FROM " ++ l.table ++ " LIKE 'batch'"

/-- The statement that adds the column for batches. -/
def addBatchColumn (l : Ledger) : String :=
  "ALTER TABLE " ++ l.table ++ " ADD COLUMN batch INT DEFAULT 1 NOT NULL"

/-- The query for the first batch that is not used. -/
def nextBatchQuery (l : Ledger) : String :=
  "SELECT COALESCE(MAX(batch), 0) + 1 AS batch FROM " ++ l.table

/-- The query for the names of all recorded migrations. -/
def namesQuery (l : Ledger) : String := "SELECT migration FROM " ++ l.table

/-- The statement that records a migration. -/
def recordStatement (l : Ledger) : String :=
  "INSERT INTO " ++ l.table ++ " (migration, batch) VALUES (" ++ l.dialect.placeholder 1 ++ ", " ++
    l.dialect.placeholder 2 ++ ")"

/-- The statement that removes a migration. -/
def forgetStatement (l : Ledger) : String :=
  "DELETE FROM " ++ l.table ++ " WHERE migration = " ++ l.dialect.placeholder 1

/-- The query for all rows in the order in which they were added. -/
def entriesQuery (l : Ledger) : String :=
  "SELECT migration, batch, created_at FROM " ++ l.table ++ " ORDER BY id"

/-- Makes sure that the table is there and has a column for batches. -/
def ensure (l : Ledger) : Work Cache Unit := do
  let _ ← Work.execute l.createStatement []
  let columns ← Work.fetch l.batchColumnQuery []
  if columns.isEmpty then
    let _ ← Work.execute l.addBatchColumn []

/-- The batch that an answer to the batch query names. -/
def batchOfRows (l : Ledger) (rows : List Row) : Except Failure Int := do
  match rows with
  | [] => .error (.statementFailed "Batch query returned no rows" (some l.nextBatchQuery))
  | row :: _ =>
    match (← row.byIndex 0).int64? with
    | some batch => .ok batch
    | none =>
      .error (.statementFailed "Batch query returned a non-integer value" (some l.nextBatchQuery))

/-- The batch of this run: one more than the largest recorded, asked for once. -/
def nextBatch (l : Ledger) : Work Cache Int := do
  match (← get).batch with
  | some batch => return batch
  | none =>
    let batch ← Work.ofResult (l.batchOfRows (← Work.fetch l.nextBatchQuery []))
    modify fun cache => { cache with batch := some batch }
    return batch

/-- A name put to others, unless it is among them. -/
def addName (name : String) (names : List String) : List String :=
  if names.contains name then names else names ++ [name]

/-- The names in an answer to the query for names; what is no text does not count. -/
def namesOfRows (rows : List Row) : Except Failure (List String) :=
  rows.foldlM (fun names row => do
    match ← row.byIndex 0 with
    | .text name => .ok (addName name names)
    | _ => .ok names) []

/-- The names of all recorded migrations, asked for once. -/
def applied (l : Ledger) : Work Cache (List String) := do
  match (← get).applied with
  | some names => return names
  | none =>
    let names ← Work.ofResult (namesOfRows (← Work.fetch l.namesQuery []))
    modify fun cache => { cache with applied := some names }
    return names

/-- Whether a migration is recorded. -/
def isApplied (l : Ledger) (migration : String) : Work Cache Bool := do
  return (← l.applied).contains migration

/-- Records a migration in a batch. -/
def record (l : Ledger) (migration : String) (batch : Int) : Work Cache Unit := do
  let _ ← Work.execute l.recordStatement [.text migration, .int64 batch]
  modify fun cache => { cache with applied := cache.applied.map (addName migration) }

/-- Removes a migration, and tells how many rows that were. -/
def forget (l : Ledger) (migration : String) : Work Cache Nat := do
  let removed ← Work.execute l.forgetStatement [.text migration]
  modify fun cache => { cache with applied := cache.applied.map (·.filter (· != migration)) }
  return removed

/-- The ledger entry that a row holds. -/
def entryOfRow (row : Row) : Except Failure LedgerEntry := do
  let migration := match ← row.byName "migration" with
    | .text name => name
    | other => other.display
  let batch := (← row.byName "batch").int64?.getD 1
  let appliedAt := match ← row.byName "created_at" with
    | .instant i => some i
    | _ => none
  return ⟨migration, batch, appliedAt⟩

/-- All rows in the order in which they were added. -/
def entries (l : Ledger) : Work Cache (List LedgerEntry) := do
  Work.ofResult ((← Work.fetch l.entriesQuery []).mapM entryOfRow)

end Ledger

end SchemaSeed.Migration

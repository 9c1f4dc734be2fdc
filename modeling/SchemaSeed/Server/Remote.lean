import SchemaSeed.Server.Cell
import SchemaSeed.Server.LedgerTable

/-!
A connection to a server over a wire. The server answers by rules, then by a ledger table if it has
one, then with nothing. The connection can be lost at any answer, and can be closed once.
-/

set_option autoImplicit false
set_option relaxedAutoImplicit false

namespace SchemaSeed.Server

open SchemaSeed.Sql SchemaSeed.Migration

/-- Columns with their types, and rows of cells as texts. -/
structure CellTable where
  columns : List (String × String)
  rows : List (List (Option String))
  deriving Repr

/-- What a server answers to a statement. -/
inductive Reply where
  | refused (reason : String)
  | rows (table : CellTable)
  | affected (count : Nat)
  deriving Repr

/-- A rule's answer, and whether the connection is gone when it has been sent. -/
structure RemoteAnswer where
  reply : Reply
  losesConnection : Bool := false
  deriving Repr

/-- Where a connection stands. -/
inductive Link where
  | opened
  | lost
  | closed
  deriving DecidableEq, Repr

/-- A statement as a server got it. -/
structure ReceivedStatement where
  sql : String
  parameters : List Parameter
  deriving DecidableEq, Repr

/-- A server and the connection to it. -/
structure Remote where
  dialect : Dialect
  rules : List (Rule RemoteAnswer) := []
  ledger : Option LedgerTable := none
  link : Link := .opened
  /-- What the server got, the latest first. -/
  reversed : List ReceivedStatement := []

namespace Remote

/-- How messages name a kind of server. -/
def productName : Dialect → String
  | .postgres => "PostgreSQL"
  | .mysql => "MySQL"

/-- A server's words, with the code that some servers put before them. -/
def serverWords (d : Dialect) (code : String) (reason : String) : String :=
  "error returned from database: " ++
    match d with
    | .postgres => reason
    | .mysql => code ++ ": " ++ reason

/-- A login that the server refuses. -/
def refusedLogin (d : Dialect) (reason : String) : Failure :=
  .connectionUnavailable ("Failed to connect to " ++ productName d ++ ": " ++
    serverWords d "1045 (28000)" reason)

/-- The reason when nobody answers at an address. -/
def unreachable : String := "the server cannot be reached"

/-- The reason when a connection is gone. -/
def lostConnection : String := "the connection is lost"

/-- The reason when a cell holds no value of its type. -/
def malformedCell : String := "a cell holds no value of its type"

/-- A login at an address where nobody answers. -/
def unreachableLogin (d : Dialect) : Failure :=
  .connectionUnavailable ("Failed to connect to " ++ productName d ++ ": " ++ unreachable)

private def closedFailure (d : Dialect) : Failure :=
  .connectionUnavailable (productName d ++ " connection already closed")

/-- The rows of a table, every cell with its value or with the failure to read it. -/
def rowsOf (d : Dialect) (t : CellTable) : List Row :=
  t.rows.map fun cells =>
    ⟨(t.columns.zip cells).map fun ((name, type), cell) =>
      (name, match Cell.value? d type cell with
        | some value => .ok value
        | none => .error (.statementFailed malformedCell none))⟩

private def batchType (d : Dialect) (next : Bool) : String :=
  match d with
  | .postgres => "INT4"
  | .mysql => if next then "BIGINT" else "INT"

/-- The ledger's answer as a server of a dialect gives it. -/
def ledgerReply (d : Dialect) : LedgerAnswer → Reply
  | .nextBatch batch => .rows ⟨[("batch", batchType d true)], [[some (toString batch)]]⟩
  | .names names => .rows ⟨[("migration", "VARCHAR")], names.map fun name => [some name]⟩
  | .entries entries => .rows
      ⟨[("migration", "VARCHAR"), ("batch", batchType d false), ("created_at", "TIMESTAMP")],
        entries.map fun e =>
          [some e.migration, some (toString e.batch), e.appliedAt.map (·.printPlain)]⟩
  | .batchColumn present =>
    .rows ⟨[("column_name", "VARCHAR")], if present then [[some "batch"]] else []⟩
  | .changed rows => .affected rows

/-- The server's reply to a statement that reaches it. -/
def reply (sql : String) (params : List Value) (r : Remote) : Reply × Remote :=
  let r := { r with reversed := ⟨sql, params.map (Parameter.ofValue r.dialect)⟩ :: r.reversed }
  match Rule.answer? sql r.rules with
  | some (answer, rules) =>
    (answer.reply, { r with rules, link := if answer.losesConnection then .lost else r.link })
  | none =>
    match r.ledger.bind (·.answer? sql params) with
    | some (answer, table) => (ledgerReply r.dialect answer, { r with ledger := some table })
    | none => (.affected 0, r)

/-- Sends a statement if the connection is open, and reads the reply. A failure tells the statement
and, after `attempt`, the reason. -/
def send {α : Type} (attempt : String) (read : Reply → Except String α) (sql : String)
    (params : List Value) (r : Remote) : Except Failure α × Remote :=
  match r.link with
  | .closed => (.error (closedFailure r.dialect), r)
  | .lost => (.error (.statementFailed (attempt ++ lostConnection) (some sql)), r)
  | .opened =>
    let (answer, after) := r.reply sql params
    ((read answer).mapError fun reason => .statementFailed (attempt ++ reason) (some sql), after)

/-- The number of affected rows of a reply. -/
def affectedOf (d : Dialect) : Reply → Except String Nat
  | .refused reason => .error (serverWords d "1064 (42000)" reason)
  | .rows _ => .ok 0
  | .affected count => .ok count

/-- The rows of a reply. -/
def tableOf (d : Dialect) : Reply → Except String (List Row)
  | .refused reason => .error (serverWords d "1064 (42000)" reason)
  | .rows table => .ok (rowsOf d table)
  | .affected _ => .ok []

/-- The connection as a server. Closing always leaves it closed, also when it was lost before. -/
def server : Server Remote where
  execute sql params r := send "Query execution failed: " (affectedOf r.dialect) sql params r
  fetch sql params r := send "Query fetch failed: " (tableOf r.dialect) sql params r
  close r :=
    let after := { r with link := .closed }
    match r.link with
    | .lost =>
      (.error (.connectionUnavailable ("Failed to close " ++ productName r.dialect ++
        " connection: " ++ lostConnection)), after)
    | _ => (.ok (), after)

/-- What the server got, in order. -/
def received (r : Remote) : List ReceivedStatement := r.reversed.reverse

end Remote

end SchemaSeed.Server

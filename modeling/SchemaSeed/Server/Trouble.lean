import SchemaSeed.Failure

/-!
Troubles with a server, sorted by what they mean for the work: either there is no server to work
with, or it has refused a statement.
-/

set_option autoImplicit false
set_option relaxedAutoImplicit false

namespace SchemaSeed.Server

/-- A trouble with a server. -/
inductive Trouble where
  /-- The wire does not carry what is sent. -/
  | wire
  /-- The two sides do not agree on a cipher. -/
  | cipher
  /-- No connection became free in time. -/
  | noFreeConnection
  /-- The connections are closed. -/
  | connectionsClosed
  /-- The address or its options make no sense. -/
  | address
  /-- Anything that the server or the reading of its answer objects to. -/
  | statement
  deriving DecidableEq, Repr

/-- The failure that a trouble is. -/
def Trouble.failure (trouble : Trouble) (reason : String) : Failure :=
  match trouble with
  | .statement => .statementFailed reason none
  | _ => .connectionUnavailable reason

end SchemaSeed.Server

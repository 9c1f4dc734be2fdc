import SchemaSeed.Failure
import SchemaSeed.Settings.Directive
import SchemaSeed.Settings.Fault

/-!
How a command ends: its exit code, and the chain of causes that it tells.
-/

set_option autoImplicit false
set_option relaxedAutoImplicit false

namespace SchemaSeed.Command

open SchemaSeed.Settings

/-- Why a command failed. -/
inductive Fault where
  | work (failure : Failure)
  | setting (fault : SettingFault)
  | filter (fault : DirectiveFault)
  /-- The file of variables gives one a value that no variable can have. -/
  | unusableVariable
  | other (reason : String)
  deriving DecidableEq, Repr

namespace Fault

/-- The text of a fault. -/
def message : Fault → String
  | .work failure => failure.message
  | .setting fault => fault.message
  | .filter fault => fault.message
  | .unusableVariable => "a variable cannot hold the character zero"
  | .other reason => reason

/-- The exit code of a command that does what it should. -/
def success : Nat := 0

/-- The exit code: two for documents and settings that are not as they should be, three if there is
no server to work with, 101 if the variables cannot be set up, one for anything else. -/
def exitCode : Fault → Nat
  | .work (.invalidDocument _) => 2
  | .work (.missingOperator _) => 2
  | .work (.connectionUnavailable _) => 3
  | .work (.unsupportedDialect _) => 3
  | .work _ => 1
  | .setting _ => 2
  | .filter _ => 1
  | .unusableVariable => 101
  | .other _ => 1

/-- The fault and the cause under it, the outer one first. -/
def causes : Fault → List String
  | .work (.file fault) => [Failure.message (.file fault), fault.message]
  | .filter fault => fault.causes
  | fault => [fault.message]

/-- The whole chain, with what surrounds the fault before it, the outermost first. -/
def chain (contexts : List String) (fault : Fault) : String :=
  ": ".intercalate (contexts.reverse ++ fault.causes)

end Fault

end SchemaSeed.Command

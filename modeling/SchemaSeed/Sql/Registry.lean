import SchemaSeed.Sql.Dialect

/-!
The dialects that a program has at hand.
-/

set_option autoImplicit false
set_option relaxedAutoImplicit false

namespace SchemaSeed.Sql

/-- A set of dialects, each once, in ascending order of their names. -/
structure Registry where
  known : List Dialect := []
  deriving DecidableEq, Repr

namespace Registry

/-- The registry of all dialects. -/
def standard : Registry := ⟨[.mysql, .postgres]⟩

/-- The registry with one more dialect. -/
def register (r : Registry) (d : Dialect) : Registry :=
  ⟨[.mysql, .postgres].filter fun k => k = d || r.known.contains k⟩

/-- The names of the dialects. -/
def names (r : Registry) : List String := r.known.map Dialect.name

/-- A dialect, if the registry has it. -/
def get (r : Registry) (d : Dialect) : Except Failure Dialect :=
  if r.known.contains d then .ok d else .error (.unsupportedDialect d.name)

/-- The dialect that a name stands for, if the registry has it. -/
def resolve (r : Registry) (name : String) : Except Failure Dialect := do
  r.get (← Dialect.ofName name)

end Registry

end SchemaSeed.Sql

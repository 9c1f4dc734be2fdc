/-!
What the program can be asked to do.
-/

set_option autoImplicit false
set_option relaxedAutoImplicit false

namespace SchemaSeed.Command

/-- What a command is to do. -/
inductive Request where
  /-- Apply all pending migrations, or one. -/
  | migrate (file : Option String)
  /-- Roll back all applied migrations, or one. -/
  | rollBack (file : Option String) (force : Bool)
  | status
  /-- Run all seeders, or one. -/
  | seed (file : Option String) (force : Bool)
  | makeMigration (title : String)
  | makeSeeder (name : String)
  | makeFactory (name : String)
  /-- Print the statements that a migration, or its rollback, consists of. -/
  | compile (file : String) (rollback : Bool)
  deriving DecidableEq, Repr

/-- A request with what goes for all of them. -/
structure Invocation where
  request : Request
  /-- The name of the kind of database. -/
  database : Option String := none
  /-- The directory that holds all documents. -/
  root : Option String := none
  asJson : Bool := false
  deriving DecidableEq, Repr

/-- What a list of arguments comes to. -/
inductive Intent where
  | perform (invocation : Invocation)
  | help
  | version
  /-- The arguments make no sense together. -/
  | misuse
  deriving DecidableEq, Repr

/-- The words for the commands. -/
inductive Verb where
  | migrate
  | rollBack
  | status
  | seed
  | makeMigration
  | makeSeeder
  | makeFactory
  | compile
  deriving DecidableEq, Repr

namespace Verb

/-- All words. -/
def all : List Verb :=
  [.migrate, .rollBack, .status, .seed, .makeMigration, .makeSeeder, .makeFactory, .compile]

/-- A word as it is written. -/
def text : Verb → String
  | .migrate => "migrate"
  | .rollBack => "migrate:rollback"
  | .status => "migrate:status"
  | .seed => "seed"
  | .makeMigration => "make:migration"
  | .makeSeeder => "make:seeder"
  | .makeFactory => "make:factory"
  | .compile => "compile"

/-- The word that is written so. -/
def ofText? (s : String) : Option Verb := all.find? (·.text == s)

end Verb

end SchemaSeed.Command

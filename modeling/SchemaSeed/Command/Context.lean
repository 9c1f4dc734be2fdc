import SchemaSeed.Command.Fault
import SchemaSeed.Files.Path
import SchemaSeed.Settings.Basic
import SchemaSeed.Sql.Registry

/-!
What every command needs: the settings, the kind of database and the places of the documents.
-/

set_option autoImplicit false
set_option relaxedAutoImplicit false

namespace SchemaSeed.Command

open SchemaSeed.Files SchemaSeed.Sql

/-- The surroundings of a command. -/
structure Context where
  settings : Settings
  dialect : Dialect
  /-- The directory that holds all documents. -/
  root : String
  /-- Whether results are written as JSON. -/
  asJson : Bool := false

namespace Context

/-- The context of a command; what the command does not name comes from the settings. -/
def make (settings : Settings) (database root : Option String) (asJson : Bool) :
    Except Failure Context := do
  let named ← Dialect.ofName (database.getD settings.defaultDatabase)
  let dialect ← Registry.standard.get named
  return ⟨settings, dialect, root.getD settings.databaseDirectory, asJson⟩

/-- The directory of migrations. -/
def migrations (c : Context) : String :=
  Path.join (Path.join c.root "migrations") c.dialect.directory

/-- The directory of seeders. -/
def seeders (c : Context) : String :=
  Path.join (Path.join c.root "seeders") c.dialect.directory

/-- The directory of factories, which is the same for all databases. -/
def factories (c : Context) : String := Path.join c.root "factory"

/-- The table that records migrations. -/
def ledgerTable : String := "migrations"

/-- The URL that a command connects to. -/
def url (c : Context) : Except Fault String :=
  (c.settings.database c.dialect.directory >>= Settings.DatabaseSettings.url).mapError .setting

end Context

end SchemaSeed.Command

import SchemaSeed.Settings.Database
import SchemaSeed.Settings.Environment

/-!
The settings of the program, read from variables, with where each came from.
-/

set_option autoImplicit false
set_option relaxedAutoImplicit false

namespace SchemaSeed

open SchemaSeed.Settings SchemaSeed.Sql SchemaSeed.Number

namespace Settings

/-- Where the value of a setting came from. -/
inductive Source where
  | variable (name : String)
  | default (value : String)
  deriving DecidableEq, Repr

/-- The text of a source. -/
def Source.describe : Source → String
  | .variable name => "Environment variable: " ++ name
  | .default value => "Default value: " ++ value

/-- How the value of a variable is looked up. -/
abbrev Lookup := String → Option String

/-- The lookup to which blank values do not count. -/
def Lookup.filled (lookup : Lookup) : Lookup :=
  fun key => (lookup key).filter fun value => !Text.isBlankText value

/-- The levels of log messages that settings may name. -/
def logLevels : List String := ["error", "warn", "info", "debug", "trace"]

/-- Checks that a text names a level of log messages, in any case. -/
def checkLogLevel (level : String) : Except SettingFault Unit :=
  if logLevels.contains (Text.lowercase level) then .ok ()
  else .error (.invalidValue "log_level" level ("one of: " ++ ", ".intercalate logLevels))

end Settings

/-- The settings of the program. -/
structure Settings where
  environment : Environment := .development
  /-- The kind of database when a command names none. -/
  defaultDatabase : String := "mysql"
  logLevel : String := "info"
  /-- The directory that holds all documents. -/
  databaseDirectory : String := "database"
  postgres : DatabaseSettings := .standard .postgres
  mysql : DatabaseSettings := .standard .mysql
  /-- Where the settings came from, by the names of their variables. -/
  sources : List (String × Settings.Source) := []
  deriving DecidableEq, Repr

namespace Settings

/-- The variables that name the environment; the first that is there counts. -/
def environmentKeys : List String := ["TABULA_ENV", "APP_ENV"]

/-- Reads the environment, with where it came from. -/
def readEnvironment (get : Lookup) : Except SettingFault (Environment × String × Source) :=
  match environmentKeys.findSome? fun key => (get key).map fun value => (key, value) with
  | some (key, value) => do return (← Environment.ofName value, key, .variable key)
  | none => .ok (.development, "TABULA_ENV", .default "development")

/-- Reads a text that has a default, with where it came from. -/
def readText (get : Lookup) (key default : String) : String × String × Source :=
  match get key with
  | some value => (value, key, .variable key)
  | none => (default, key, .default default)

private def databaseFields : List String :=
  ["HOST", "USER", "PASSWORD", "DATABASE", "DATABASE_URL", "PORT"]

/-- Reads the settings for a kind of database. -/
def readDatabase (get : Lookup) (d : Dialect) : Except SettingFault DatabaseSettings := do
  let s := DatabaseSettings.standard d
  let read := fun (field : String) => get (s.key field)
  let port ← match read "PORT" with
    | none => pure s.port
    | some text =>
      match natBelow? 65536 (Text.trim text) with
      | some port => pure port
      | none =>
        throw (.invalidValue (s.key "PORT") text "valid port number (1-65535)")
  return { s with host := read "HOST", user := read "USER", password := read "PASSWORD"
                  database := read "DATABASE", urlOverride := read "DATABASE_URL", port }

/-- The names of all variables that settings are read from. -/
def variableNames : List String :=
  environmentKeys ++ ["DEFAULT_DB_TYPE", "LOG_LEVEL", "DATABASE_DIR"] ++
    [Dialect.postgres, .mysql].flatMap fun d =>
      databaseFields.map fun field => DatabaseSettings.keyStart d ++ "_" ++ field

private def databaseSources (get : Lookup) (d : Dialect) : List (String × Source) :=
  databaseFields.filterMap fun field =>
    let key := DatabaseSettings.keyStart d ++ "_" ++ field
    (get key).map fun _ => (key, .variable key)

/-- Reads the settings from variables; blank values do not count. -/
def read (lookup : Lookup) : Except SettingFault Settings := do
  let get := lookup.filled
  let (environment, environmentSource) ← readEnvironment get
  let (defaultDatabase, databaseSource) := readText get "DEFAULT_DB_TYPE" "mysql"
  let (logLevel, levelSource) := readText get "LOG_LEVEL" "info"
  let (databaseDirectory, directorySource) := readText get "DATABASE_DIR" "database"
  let postgres ← readDatabase get .postgres
  let mysql ← readDatabase get .mysql
  return { environment, defaultDatabase, logLevel, databaseDirectory, postgres, mysql
           sources := [environmentSource, databaseSource, levelSource, directorySource] ++
             databaseSources get .postgres ++ databaseSources get .mysql }

/-- The settings for one kind of database. -/
def forDialect (s : Settings) : Dialect → DatabaseSettings
  | .postgres => s.postgres
  | .mysql => s.mysql

/-- The settings for the kind of database that a name stands for, in any case and with blanks around
it. -/
def database (s : Settings) (kind : String) : Except SettingFault DatabaseSettings :=
  match Text.lowercase (Text.trim kind) with
  | "pg" => .ok s.postgres
  | "postgres" => .ok s.postgres
  | "postgresql" => .ok s.postgres
  | "mysql" => .ok s.mysql
  | _ => .error (.invalidValue "db" kind "pg or mysql")

/-- Checks the settings for a kind of database, whether it is the default or not. -/
def checkDatabase (s : DatabaseSettings) : Except SettingFault Unit := do
  DatabaseSettings.checkPort (s.key "PORT") s.port
  match s.urlOverride with
  | some url => DatabaseSettings.checkUrl (DatabaseSettings.schemes s.dialect) url
  | none => return

/-- Checks that the settings can be used, at least with the default database. -/
def validate (s : Settings) : Except SettingFault Unit := do
  checkLogLevel s.logLevel
  let selected ← s.database s.defaultDatabase
  if Text.isBlankText s.databaseDirectory then throw (.unusable "DATABASE_DIR must not be empty")
  checkDatabase s.postgres
  checkDatabase s.mysql
  let _ ← selected.url

end Settings

end SchemaSeed

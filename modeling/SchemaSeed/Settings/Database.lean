import SchemaSeed.Settings.Fault
import SchemaSeed.Sql.Dialect
import SchemaSeed.Url.Basic

/-!
How a database is reached: by a URL that is given as a whole, or by one that is made of its parts.
-/

set_option autoImplicit false
set_option relaxedAutoImplicit false

namespace SchemaSeed.Settings

open SchemaSeed.Sql

/-- The settings for the connection to one kind of database. -/
structure DatabaseSettings where
  dialect : Dialect
  host : Option String := none
  port : Nat
  user : Option String := none
  password : Option String := none
  database : Option String := none
  /-- A URL that is used as it is instead of the parts. -/
  urlOverride : Option String := none
  deriving DecidableEq, Repr

namespace DatabaseSettings

/-- The settings when nothing is given. -/
def standard (d : Dialect) : DatabaseSettings :=
  match d with
  | .postgres => { dialect := d, port := 5432 }
  | .mysql => { dialect := d, port := 3306 }

/-- What the names of the variables for a kind of database begin with. -/
def keyStart : Dialect → String
  | .postgres => "PG"
  | .mysql => "MYSQL"

/-- The name of the variable for one of the settings. -/
def key (s : DatabaseSettings) (field : String) : String := keyStart s.dialect ++ "_" ++ field

/-- The schemes that URLs for a kind of database may have. -/
def schemes : Dialect → List String
  | .postgres => ["postgres", "postgresql"]
  | .mysql => ["mysql"]

/-- A setting; an empty one counts as not given. -/
def given? (value : Option String) : Option String := value.filter (· ≠ "")

/-- A setting that has to be given. -/
def require (s : DatabaseSettings) (field : String) (value : Option String) :
    Except SettingFault String :=
  match given? value with
  | some v => .ok v
  | none =>
    .error (.missing (s.key field) ("Set " ++ s.key field ++ " or " ++ s.key "DATABASE_URL"))

/-- What a URL was made into, or the fault of the setting that it did not take. -/
def accept {α : Type} (s : DatabaseSettings) (field shown : String) (result : Option α) :
    Except SettingFault α :=
  match result with
  | some a => .ok a
  | none =>
    .error (.invalidValue (s.key field) shown "a value usable in a connection URL")

/-- Puts a setting into a URL if it is given. -/
def change (s : DatabaseSettings) (field shown : String) (value : Option String)
    (set : Url → String → Option Url) (u : Url) : Except SettingFault Url :=
  match given? value with
  | some v => s.accept field shown (set u v)
  | none => .ok u

/-- The URL of the parts. -/
def assembled (s : DatabaseSettings) : Except SettingFault Url := do
  let host ← s.require "HOST" s.host
  let database ← s.require "DATABASE" s.database
  let base := s.dialect.scheme ++ "://" ++ host
  let u ← (Url.parse base).mapError fun fault => .invalidUrl base fault.message
  let u ← s.accept "PORT" (toString s.port) (u.setPort? s.port)
  let u ← s.change "USER" (s.user.getD "") s.user Url.setUsername? u
  let u ← s.change "PASSWORD" "***" s.password Url.setPassword? u
  return u.setPath database

/-- The URL of the database. -/
def url (s : DatabaseSettings) : Except SettingFault String :=
  match s.urlOverride with
  | some url => .ok url
  | none => s.assembled.map Url.print

/-- Checks that a port can be connected to. -/
def checkPort (field : String) (port : Nat) : Except SettingFault Unit :=
  if port = 0 then .error (.invalidValue field (toString port) "port between 1 and 65535")
  else .ok ()

/-- Checks that a text is a URL of one of some schemes, with a host. -/
def checkUrl (schemes : List String) (text : String) : Except SettingFault Unit :=
  match Url.parse text with
  | .error fault => .error (.invalidUrl text fault.message)
  | .ok u =>
    if !schemes.contains u.scheme then
      .error (.invalidUrl text ("scheme must be one of: " ++ ", ".intercalate schemes))
    else if u.host.isEmpty then .error (.invalidUrl text "missing host")
    else .ok ()

end DatabaseSettings

end SchemaSeed.Settings

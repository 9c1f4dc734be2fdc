import SchemaSeed.Command.Arguments
import SchemaSeed.Command.Context
import SchemaSeed.Command.Report
import SchemaSeed.Factory.Generator
import SchemaSeed.Seed.Run
import SchemaSeed.Settings.Logging
import SchemaSeed.Settings.VariableFile

/-!
A run of the program as a function: from what surrounds it and its arguments to what it prints, the
files that it leaves and what has become of the server.

The variables are set up first, then the arguments are read, then the settings. A command that needs
a server logs in last, when nothing else can keep it from its work.
-/

set_option autoImplicit false
set_option relaxedAutoImplicit false

namespace SchemaSeed.Command

open SchemaSeed.Sql SchemaSeed.Files SchemaSeed.Calendar SchemaSeed.Settings SchemaSeed.Migration

/-- The files of a run, and what the clock and chance give to it. -/
structure Desk where
  files : Tree
  now : Instant
  /-- How many milliseconds the work with the server takes. -/
  elapsed : Nat := 0
  chance : Factory.RandomSource

/-- What surrounds a run. -/
structure Surroundings (σ : Type) extends Desk where
  /-- The variables that the run inherits. -/
  inherited : Lookup
  server : Server σ
  /-- Logs in to the server of a kind at a URL. -/
  login : Dialect → String → Except Failure Unit

/-- What a run leaves behind. -/
structure Outcome where
  code : Nat
  /-- What it prints as its result. -/
  output : String := ""
  /-- What it prints about its end. -/
  notes : String := ""
  files : Tree
  /-- The path of a document that it made. -/
  made : Option String := none

/-- What a command does: it prints and maybe makes a document, or it talks to a server and prints. -/
inductive Task where
  | offline (output : String) (made : Option (Tree × String))
  | online (session : Session (Except Failure String))

/-- The name and version. -/
def version : String := "0.3.0"

/-- How the program is used. -/
def usage : String :=
  Report.lines
    (["Usage: tabula [--path PATH] [--json] COMMAND", "", "Commands:"] ++
      Verb.all.map fun verb => "  " ++ verb.text)

namespace Context

/-- The migrations of a command. -/
def collection (c : Context) : Collection := ⟨c.dialect, c.migrations, ledgerTable⟩

/-- The places of a command's seeders and factories. -/
def seedDirectories (c : Context) : Seed.Directories := ⟨c.seeders, c.factories⟩

/-- A command that would touch every file asks first; as nobody is there to answer, it needs the word
for it. -/
def confirm (file : Option String) (force : Bool) : Except Fault Unit :=
  if file.isNone && !force then .error (.other "The input device is not a TTY") else .ok ()

/-- Seeding in production needs the word for it, also for a single file. -/
def checkProduction (c : Context) (force : Bool) : Except Fault Unit :=
  if c.settings.environment = .production ∧ force = false then
    .error (.other ("Environment '" ++ c.settings.environment.name ++
      "' requires an explicit --force flag for seeding"))
  else .ok ()

/-- Where the document of a name is: a file as it is named, or else a file among the migrations. -/
def documentPath (c : Context) (files : Tree) (name : String) : String :=
  if files.isFile name then name else Path.join c.migrations (Path.withJson name)

private def talk {α : Type} (session : Session (Except Failure α)) (report : α → String) : Task :=
  .online ((Except.map report ·) <$> session)

private def creation (kind : String) (result : Except Failure (Tree × String)) : Except Fault Task :=
  match result with
  | .ok made => .ok (.offline (Report.created kind made.2) (some made))
  | .error e => .error (.work e)

/-- The task of a request. -/
def task (c : Context) (desk : Desk) : Request → Except Fault Task
  | .migrate file =>
    .ok (talk (c.collection.apply desk.files file) (Report.applied c.asJson desk.elapsed))
  | .rollBack file force => do
    confirm file force
    return talk (c.collection.rollBack desk.files file) (Report.rolledBack c.asJson desk.elapsed)
  | .status =>
    .ok (talk (c.collection.status desk.files) (Report.statuses c.asJson c.dialect c.migrations))
  | .seed file force => do
    c.checkProduction force
    confirm file force
    let engine : Seed.Engine Factory.RandomSource := ⟨c.dialect, Factory.generator desk.now⟩
    let work := Seed.run engine c.seedDirectories desk.files file
    return talk (Prod.fst <$> work.session desk.chance) (Report.seeded c.asJson)
  | .makeMigration title =>
    creation "migration" (Directory.create desk.files c.migrations desk.now title)
  | .makeSeeder name => creation "seeder" (c.seedDirectories.createSeeder desk.files name)
  | .makeFactory name => creation "factory" (c.seedDirectories.createFactory desk.files name)
  | .compile name rollback => do
    let path := c.documentPath desk.files name
    let direction := if rollback then Direction.down else .up
    let script ← (compileFile c.dialect desk.files path direction).mapError .work
    return .offline (Report.compiled c.asJson path rollback script) none

end Context

namespace Surroundings

variable {σ : Type}

/-- The variables of a run: those that it inherits, and those of the file `.env` in the working
directory. -/
def lookup (s : Surroundings σ) : Except Fault Lookup :=
  match s.files.lookup ".env" with
  | .ok (.file content) =>
    match VariableFile.extend? s.inherited (VariableFile.lines content) with
    | some lookup => .ok lookup
    | none => .error .unusableVariable
  | _ => .ok s.inherited

/-- The context of an invocation. Reports have to be set up before anything else is done. -/
def context (s : Surroundings σ) (i : Invocation) : Except Fault Context := do
  let lookup ← s.lookup
  let settings ← (Settings.read lookup).mapError .setting
  ((Logging.forEnvironment settings.environment settings.logLevel).check
    (lookup "RUST_LOG")).mapError .filter
  (Context.make settings i.database i.root i.asJson).mapError .work

/-- Does a task. The connection is closed when the session is over, and a failure to close it does not
count. -/
def perform (s : Surroundings σ) (c : Context) (state : σ) :
    Task → Except Fault (String × Option (Tree × String)) × σ
  | .offline output made => (.ok (output, made), state)
  | .online session =>
    match c.url with
    | .error fault => (.error fault, state)
    | .ok url =>
      match s.login c.dialect url with
      | .error e => (.error (.work e), state)
      | .ok () =>
        let (result, state) := session.run s.server state
        ((result.map (·, none)).mapError .work, (s.server.close state).2)

private def fail (s : Surroundings σ) (fault : Fault) : Outcome :=
  ⟨fault.exitCode, "", Report.lines ["error: " ++ fault.chain []], s.files, none⟩

/-- The files that a run can read before it has a connection, apart from that of the variables. -/
def documents (s : Surroundings σ) (args : List String) : List String :=
  match Intent.ofArguments args with
  | .perform i =>
    match i.request, s.context i with
    | .compile name _, .ok c => [name, Path.join c.migrations (Path.withJson name)]
    | _, _ => []
  | _ => []

/-- Runs an invocation. -/
def invoke (s : Surroundings σ) (i : Invocation) (state : σ) : Outcome × σ :=
  match s.context i with
  | .error fault => (s.fail fault, state)
  | .ok c =>
    match c.task s.toDesk i.request with
    | .error fault => (s.fail fault, state)
    | .ok task =>
      match s.perform c state task with
      | (.error fault, state) => (s.fail fault, state)
      | (.ok (output, made), state) =>
        (⟨Fault.success, output, "", (made.map Prod.fst).getD s.files, made.map Prod.snd⟩, state)

/-- Runs the program with its arguments. -/
def run (s : Surroundings σ) (args : List String) (state : σ) : Outcome × σ :=
  match s.lookup with
  | .error fault => (s.fail fault, state)
  | .ok _ =>
    match Intent.ofArguments args with
    | .perform invocation => s.invoke invocation state
    | .help => (⟨Fault.success, usage, "", s.files, none⟩, state)
    | .version => (⟨Fault.success, Report.lines ["tabula " ++ version], "", s.files, none⟩, state)
    | .misuse => (⟨2, "", usage, s.files, none⟩, state)

end Surroundings

end SchemaSeed.Command

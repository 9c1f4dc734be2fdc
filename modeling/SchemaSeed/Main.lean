import SchemaSeed.Command.Program
import SchemaSeed.Server.Remote
import Std.Time.DateTime.Timestamp

/-!
The program on a terminal: what surrounds a run is read here, and what the run leaves is written here.
It has no network, so that a command which needs a server ends when it logs in.
-/

set_option autoImplicit false
set_option relaxedAutoImplicit false

namespace SchemaSeed.Main

open SchemaSeed.Command SchemaSeed.Files SchemaSeed.Settings SchemaSeed.Server

/-- The file of variables. -/
def variableFile : String := ".env"

/-- A tree with one more file; a file that cannot be read is left out. -/
def withFile (tree : Tree) (path : String) : IO Tree := do
  try
    let content ← IO.FS.readBinFile path
    return (tree.put path content).toOption.getD tree
  catch _ => return tree

/-- The variables with some names. -/
def variablesNamed (names : List String) : IO Lookup := do
  let values ← names.mapM fun name => do return (name, ← IO.getEnv name)
  return fun key => (values.lookup key).join

/-- The names of the variables that a run can ask for. -/
def namesFor (tree : Tree) : List String :=
  "RUST_LOG" :: variableNames ++
    match tree.lookup variableFile with
    | .ok (.file content) => VariableFile.mentioned content
    | _ => []

/-- A number that cannot be foreseen. -/
def chance : IO Factory.RandomSource := do
  let bytes ← IO.getRandomBytes 8
  return .seeded (bytes.toList.foldl (fun n b => n * 256 + b.toUInt64) 0)

/-- What surrounds a run, with no file but that of the variables. -/
def surroundings : IO (Surroundings Remote) := do
  let files ← withFile {} variableFile
  let inherited ← variablesNamed (namesFor files)
  let time := (← Std.Time.Timestamp.now).val
  return { files, inherited, chance := ← chance
           now := ⟨time.second.val, time.nano.val.toNat⟩
           server := Remote.server
           login := fun d _ => .error (Remote.unreachableLogin d) }

/-- Writes the document that a run made. -/
def keep (o : Outcome) : IO Unit := do
  match o.made.bind fun path => (path, ·) <$> (o.files.readText path).toOption with
  | none => return
  | some (path, text) =>
    IO.FS.createDirAll (Path.parent path)
    IO.FS.writeFile path text

/-- Runs the program and tells the exit code. -/
def run (args : List String) : IO UInt32 := do
  let s ← surroundings
  let files ← (s.documents args).foldlM withFile s.files
  let (o, _) := { s with files }.run args { dialect := .postgres }
  try
    keep o
    IO.print o.output
    IO.eprint o.notes
    return o.code.toUInt32
  catch e =>
    IO.eprintln ("error: " ++ toString e)
    return 1

end SchemaSeed.Main

/-- Runs the program. -/
def main (args : List String) : IO UInt32 := SchemaSeed.Main.run args

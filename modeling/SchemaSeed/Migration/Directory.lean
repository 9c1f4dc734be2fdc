import SchemaSeed.Calendar.Instant
import SchemaSeed.Files.Tree
import SchemaSeed.Migration.Compile
import SchemaSeed.Migration.Reading

/-!
The directory of migration documents. Names start with the time of their creation, so the listing,
in descending order, has the latest first.
-/

set_option autoImplicit false
set_option relaxedAutoImplicit false

namespace SchemaSeed.Migration

open SchemaSeed.Sql SchemaSeed.Files SchemaSeed.Calendar

/-- What a new document holds. -/
def blankDocument : String :=
  "\n".intercalate
    ["\x7b",
      "  \"migrations\": [",
      "    \x7b",
      "      \"action\": \"\",",
      "      \"table\": \"\",",
      "      \"columns\": [],",
      "      \"indexes\": [],",
      "      \"foreignKeys\": []",
      "    \x7d",
      "  ],",
      "  \"rollback\": [",
      "    \x7b",
      "      \"action\": \"\",",
      "      \"table\": \"\",",
      "      \"dropIfExists\": true,",
      "      \"ignoreForeignAndCascade\": true",
      "    \x7d",
      "  ]",
      "\x7d",
      ""]

/-- Reads the document at a path. -/
def Document.load (files : Tree) (path : String) : Except Failure Document :=
  match files.readText path with
  | .error .notFound =>
    .error (.invalidDocument ("migration file " ++ path ++ " not found"))
  | .error fault => .error (.file fault)
  | .ok text =>
    (Reading.ofText (Document.read .text) text).mapError fun e =>
      .invalidDocument (path ++ ": " ++ e.message)

/-- The script of the document at a path. -/
def compileFile (d : Dialect) (files : Tree) (path : String) (direction : Direction) :
    Except Failure Script := do
  (← Document.load files path).compile d direction

namespace Directory

/-- The names of the migration files among the entries of a directory, in descending order. -/
def listing (entries : List Entry) : List String :=
  ((entries.filter fun e => e.isFile && e.name.endsWith ".json").map (·.name)).mergeSort
    fun a b => decide (b ≤ a)

/-- The names of all migration files in descending order. -/
def list (files : Tree) (directory : String) : Except Failure (List String) :=
  if files.isDirectory directory then
    match files.entries directory with
    | .ok entries => .ok (listing entries)
    | .error fault => .error (.file fault)
  else .error (.directoryNotFound directory)

/-- The files of a run: the one that is named, whether it exists or not, or else all. -/
def candidates (files : Tree) (directory : String) (target : Option String) :
    Except Failure (List String) :=
  match target with
  | some name => .ok [Path.withJson name]
  | none => list files directory

/-- The document of a file of the directory. -/
def load (files : Tree) (directory name : String) : Except Failure Document :=
  Document.load files (Path.join directory name)

/-- The name of the file of a new migration: the time, then the title in lower case with underscores
for its spaces. -/
def newName (now : Instant) (title : String) : String :=
  now.printStamp ++ "_" ++
    Text.lowercase ((Text.trim title).map fun c => if c = ' ' then '_' else c) ++ ".json"

/-- Writes a blank document for a new migration, and tells its path. -/
def create (files : Tree) (directory : String) (now : Instant) (title : String) :
    Except Failure (Tree × String) :=
  let path := Path.join directory (newName now title)
  match files.makeDirectory directory >>= (·.write path blankDocument) with
  | .ok files => .ok (files, path)
  | .error fault => .error (.file fault)

end Directory

end SchemaSeed.Migration

import SchemaSeed.Files.Tree
import SchemaSeed.Seed.Document

/-!
The directories of seeders and factories.
-/

set_option autoImplicit false
set_option relaxedAutoImplicit false

namespace SchemaSeed.Seed

open SchemaSeed.Files

/-- What a new seeder holds. -/
def seederTemplate : String :=
  "\n".intercalate
    ["\x7b",
      "  \"seed\": [",
      "    \x7b",
      "      \"table\": \"sites\",",
      "      \"factory\": \"factoryName\",",
      "      \"execution_count\": 10,",
      "      \"custom_query\": null,",
      "      \"custom_query_execution_count\": 0",
      "    \x7d",
      "  ]",
      "\x7d",
      ""]

/-- What a new factory holds. -/
def factoryTemplate : String :=
  "\n".intercalate
    ["\x7b",
      "  \"columns\": [",
      "    \x7b",
      "      \"col_name\": \x7b",
      "        \"fake\": true,",
      "        \"type\": \"number|string|longtext|alphanumeric|float|...\",",
      "        \"custom\": \"\"",
      "      \x7d",
      "    \x7d",
      "  ]",
      "\x7d",
      ""]

/-- Where the documents are. -/
structure Directories where
  seeders : String
  factories : String
  deriving DecidableEq, Repr

namespace Directories

/-- The names of the seeders among the entries of a directory, in ascending order. -/
def listing (entries : List Entry) : List String :=
  ((entries.filter fun e => e.leadsToFile && Path.hasJsonExtension e.name).map (·.name)).mergeSort
    fun a b => decide (a ≤ b)

/-- The seeders of a run: the one that is named, if it exists, or else all in ascending order. -/
def files (d : Directories) (tree : Tree) (target : Option String) :
    Except Failure (List String) :=
  if !tree.isDirectory d.seeders then .error (.directoryNotFound d.seeders)
  else
    match target with
    | some name =>
      let path := Path.join d.seeders (Path.withJson name)
      .ok (if tree.isFile path then [path] else [])
    | none =>
      match tree.entries d.seeders with
      | .error fault => .error (.file fault)
      | .ok entries => .ok ((listing entries).map (Path.join d.seeders))

private def load {α : Type} (tree : Tree) (path : String) (parse : String → Except Failure α) :
    Except Failure α :=
  match tree.readText path with
  | .error fault => .error (.file fault)
  | .ok text => (parse text).mapError fun e => .invalidDocument (path ++ ": " ++ e.message)

/-- The seeder at a path. -/
def loadSeeder (tree : Tree) (path : String) : Except Failure Document := load tree path Document.parse

/-- Where the factory of a name is. -/
def factoryPath (d : Directories) (name : String) : String :=
  Path.join d.factories (name ++ ".json")

/-- The factory of a name, if there is such a file. -/
def loadFactory (d : Directories) (tree : Tree) (name : String) :
    Except Failure (Option Factory.Document) :=
  let path := d.factoryPath name
  if tree.isFile path then some <$> load tree path Factory.Document.parse else .ok none

private def create (directory name template : String) (tree : Tree) :
    Except Failure (Tree × String) :=
  let path := Path.join directory (Text.trim name ++ ".json")
  match tree.makeDirectory directory >>= (·.write path template) with
  | .ok tree => .ok (tree, path)
  | .error fault => .error (.file fault)

/-- Writes a new seeder, and tells its path. -/
def createSeeder (d : Directories) (tree : Tree) (name : String) : Except Failure (Tree × String) :=
  create d.seeders name seederTemplate tree

/-- Writes a new factory, and tells its path. -/
def createFactory (d : Directories) (tree : Tree) (name : String) :
    Except Failure (Tree × String) :=
  create d.factories name factoryTemplate tree

end Directories

end SchemaSeed.Seed

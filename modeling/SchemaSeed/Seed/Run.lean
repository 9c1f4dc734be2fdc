import SchemaSeed.Seed.Directory
import SchemaSeed.Seed.Engine

/-!
Running the seeders of a directory, file by file and job by job. A job whose factory does not exist is
left out.
-/

set_option autoImplicit false
set_option relaxedAutoImplicit false

namespace SchemaSeed.Seed

open SchemaSeed.Sql SchemaSeed.Files

variable {γ : Type}

/-- The factory of a job. An empty name is none. -/
def Spec.factoryName? (s : Spec) : Option String := s.factory.filter (· != "")

/-- Runs one job. -/
def runSpec (e : Engine γ) (d : Directories) (tree : Tree) (spec : Spec) : Work γ Summary := do
  match spec.factoryName? with
  | none => return (← e.run spec none).add { specsRun := 1 }
  | some name =>
    match ← Work.ofResult (d.loadFactory tree name) with
    | none => return { specsSkipped := 1 }
    | some factory => return (← e.run spec (some factory)).add { specsRun := 1 }

/-- Runs jobs one after another. -/
def runSpecs (e : Engine γ) (d : Directories) (tree : Tree) :
    List Spec → Summary → Work γ Summary
  | [], summary => return summary
  | spec :: rest, summary => do
    runSpecs e d tree rest (summary.add (← runSpec e d tree spec))

/-- Runs seeders one after another. -/
def runFiles (e : Engine γ) (d : Directories) (tree : Tree) :
    List String → Summary → Work γ Summary
  | [], summary => return summary
  | path :: rest, summary => do
    let document ← Work.ofResult (Directories.loadSeeder tree path)
    let summary ← runSpecs e d tree document.specs summary
    runFiles e d tree rest (summary.add { files := 1 })

/-- Runs every seeder of the directory, or only the one that is named. -/
def run (e : Engine γ) (d : Directories) (tree : Tree) (target : Option String) :
    Work γ Summary := do
  runFiles e d tree (← Work.ofResult (d.files tree target)) {}

end SchemaSeed.Seed

import SchemaSeed.Migration.Directory
import SchemaSeed.Migration.Ledger

/-!
Runs over a collection of migrations: applying what is pending, rolling back what is applied, and
telling which is which.

All scripts of a run are compiled before the first of them is sent. Each script is sent in a
transaction block of its own, with the change of the ledger as the last statement before the commit.
-/

set_option autoImplicit false
set_option relaxedAutoImplicit false

namespace SchemaSeed.Migration

open SchemaSeed.Sql SchemaSeed.Files SchemaSeed.Calendar

/-- The migrations of a project: the dialect that they are compiled for, the directory that holds
them and the table that records them. -/
structure Collection where
  dialect : Dialect
  directory : String
  table : String := "migrations"
  deriving DecidableEq, Repr

/-- What an applying run did. -/
structure ApplyOutcome where
  applied : List String := []
  skipped : List String := []
  /-- The batch of the applied files; there is none if nothing was pending. -/
  batch : Option Int := none
  deriving DecidableEq, Repr

/-- What a run back did. -/
structure RollbackOutcome where
  rolledBack : List String := []
  skipped : List String := []
  deriving DecidableEq, Repr

/-- Where a migration stands. -/
inductive Status where
  | pending
  | applied (batch : Int) (appliedAt : Option Instant)
  deriving DecidableEq, Repr

/-- A refusal that names no statement gets the one that was sent. -/
def attachStatement (statement : String) : Failure → Failure
  | .statementFailed reason none => .statementFailed reason (some statement)
  | other => other

/-- Sends statements in order, up to the first that is refused. -/
def sendAll {σ : Type} : List String → Work σ Unit
  | [] => pure ()
  | statement :: rest => do
    match ← (Work.execute statement []).attempt with
    | .ok _ => sendAll rest
    | .error e => throw (attachStatement statement e)

/-- Sends a script as one transaction with a last piece of work inside. If anything fails before the
commit, the transaction is rolled back, and the first failure is the outcome. -/
def transact {σ : Type} (script : Script) (last : Work σ Unit) : Work σ Unit := do
  let _ ← Work.execute script.start []
  match ← (sendAll script.statements *> last).attempt with
  | .ok _ =>
    let _ ← Work.execute script.commit []
  | .error e =>
    let _ ← (Work.execute script.rollback []).attempt
    throw e

namespace Collection

/-- The ledger of a collection. -/
def ledger (c : Collection) : Ledger := ⟨c.dialect, c.table⟩

/-- The script of one file; an invalid document names the file. -/
def script (c : Collection) (files : Tree) (direction : Direction) (name : String) :
    Except Failure Script := do
  let document ← Directory.load files c.directory name
  (document.compile c.dialect direction).mapError fun
    | .invalidDocument reason => .invalidDocument (name ++ ": " ++ reason)
    | other => other

/-- The scripts of some files, or the failure of the first that has none. -/
def scripts (c : Collection) (files : Tree) (direction : Direction) (names : List String) :
    Except Failure (List (String × Script)) :=
  names.mapM fun name => (name, ·) <$> c.script files direction name

/-- Splits files into those that the ledger holds and those that it does not, both in order. -/
def split (l : Ledger) : List String → Work Ledger.Cache (List String × List String)
  | [] => pure ([], [])
  | name :: rest => do
    let held ← l.isApplied name
    let (inside, outside) ← split l rest
    return if held then (name :: inside, outside) else (inside, name :: outside)

/-- Sends the script of a file and records it in a batch. -/
def applyScript (l : Ledger) (batch : Int) (file : String × Script) : Work Ledger.Cache Unit :=
  transact file.2 (l.record file.1 batch)

/-- Sends the script of a file and removes it from the ledger. -/
def rollBackScript (l : Ledger) (file : String × Script) : Work Ledger.Cache Unit :=
  transact file.2 (discard (l.forget file.1))

/-- Applies those of some files that the ledger does not hold, all in one batch. -/
def applyFiles (c : Collection) (files : Tree) (names : List String) :
    Work Ledger.Cache ApplyOutcome := do
  c.ledger.ensure
  let (held, pending) ← split c.ledger names
  if pending.isEmpty then return { skipped := held }
  let scripts ← Work.ofResult (c.scripts files .up pending)
  let batch ← c.ledger.nextBatch
  scripts.forM (applyScript c.ledger batch)
  return ⟨pending, held, some batch⟩

/-- Applies all pending migrations, or only the one that is named. Without a directory there is
nothing to apply. -/
def apply (c : Collection) (files : Tree) (target : Option String) :
    Session (Except Failure ApplyOutcome) :=
  if target.isNone && !files.isDirectory c.directory then pure (.ok {})
  else
    match Directory.candidates files c.directory target with
    | .error e => pure (.error e)
    | .ok names => Prod.fst <$> (c.applyFiles files names).session {}

/-- Rolls back those of some files that the ledger holds. -/
def rollBackFiles (c : Collection) (files : Tree) (names : List String) :
    Work Ledger.Cache RollbackOutcome := do
  c.ledger.ensure
  let (held, absent) ← split c.ledger names
  let scripts ← Work.ofResult (c.scripts files .down held)
  scripts.forM (rollBackScript c.ledger)
  return ⟨held, absent⟩

/-- Rolls back all applied migrations, or only the one that is named. -/
def rollBack (c : Collection) (files : Tree) (target : Option String) :
    Session (Except Failure RollbackOutcome) :=
  if !files.isDirectory c.directory then pure (.error (.directoryNotFound c.directory))
  else
    match Directory.candidates files c.directory target with
    | .error e => pure (.error e)
    | .ok names => Prod.fst <$> (c.rollBackFiles files names).session {}

/-- Where a file stands by the entries of the ledger; of several entries the last counts. -/
def statusOf (entries : List LedgerEntry) (name : String) : Status :=
  match entries.reverse.find? (·.migration == name) with
  | some entry => .applied entry.batch entry.appliedAt
  | none => .pending

/-- All migration files with where they stand. -/
def status (c : Collection) (files : Tree) :
    Session (Except Failure (List (String × Status))) :=
  if !files.isDirectory c.directory then pure (.ok [])
  else
    match Directory.list files c.directory with
    | .error e => pure (.error e)
    | .ok names =>
      Prod.fst <$> Work.session (do
        c.ledger.ensure
        let entries ← c.ledger.entries
        return names.map fun name => (name, statusOf entries name)) ({} : Ledger.Cache)

end Collection

end SchemaSeed.Migration

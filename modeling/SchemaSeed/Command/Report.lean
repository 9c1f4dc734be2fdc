import SchemaSeed.Json.Printed
import SchemaSeed.Migration.Run
import SchemaSeed.Seed.Engine

/-!
What commands print about what they did, as lines of text or as a line of JSON.
-/

set_option autoImplicit false
set_option relaxedAutoImplicit false

namespace SchemaSeed.Command.Report

open SchemaSeed.Sql SchemaSeed.Migration

/-- Lines of text, each with its end. -/
def lines (texts : List String) : String := String.join (texts.map (· ++ "\n"))

/-- A line of JSON. -/
def line (json : Json) : String := lines [json.print]

/-- Texts as JSON. -/
def texts (l : List String) : Json := .array (l.map .string)

/-- A number as JSON. -/
def count (n : Nat) : Json := .int n

private def appliedLines (elapsed : Nat) (o : ApplyOutcome) : List String :=
  if o.applied.isEmpty then ["• Nothing to migrate."]
  else
    o.applied.map ("Migrated: " ++ ·) ++
      match o.batch with
      | none => []
      | some batch =>
        [toString o.applied.length ++ " migration(s) applied in batch " ++ toString batch ++
          " (" ++ toString elapsed ++ " ms)"]

/-- The report on an applying run that took so many milliseconds. -/
def applied (asJson : Bool) (elapsed : Nat) (o : ApplyOutcome) : String :=
  if asJson then
    line (.ofMembers
      [("applied", texts o.applied), ("skipped", texts o.skipped),
        ("batch", (o.batch.map Json.int).getD .null), ("execution_time_ms", count elapsed)])
  else lines (appliedLines elapsed o)

private def rolledBackLines (o : RollbackOutcome) : List String :=
  (if o.rolledBack.isEmpty then ["• Nothing to roll back."] else []) ++
    o.rolledBack.map ("Rolled back: " ++ ·) ++
    o.skipped.map fun name => "Skipped: " ++ name ++ " (not applied)"

/-- The report on a run back that took so many milliseconds. -/
def rolledBack (asJson : Bool) (elapsed : Nat) (o : RollbackOutcome) : String :=
  if asJson then
    line (.ofMembers
      [("rolled_back", texts o.rolledBack), ("skipped", texts o.skipped),
        ("execution_time_ms", count elapsed)])
  else lines (rolledBackLines o)

private def statusJson : String × Status → Json
  | (name, .pending) => .ofMembers [("migration", .string name), ("status", .string "pending")]
  | (name, .applied batch appliedAt) => .ofMembers
    [("migration", .string name), ("status", .string "applied"), ("batch", .int batch),
      ("applied_at", (appliedAt.map fun (i : Calendar.Instant) => Json.string i.print).getD .null)]

private def statusLine : String × Status → String
  | (name, .pending) => "  Pending  " ++ name
  | (name, .applied batch _) => "  Applied  " ++ name ++ " (batch " ++ toString batch ++ ")"

/-- The report on where the migrations of a directory stand. -/
def statuses (asJson : Bool) (d : Dialect) (directory : String) (l : List (String × Status)) :
    String :=
  if asJson then line (.array (l.map statusJson))
  else if l.isEmpty then lines ["No migrations found in " ++ directory]
  else lines (("Migration status (" ++ d.name ++ ")") :: l.map statusLine)

private def seededLines (s : Seed.Summary) : List String :=
  ("Seeded: " ++ toString s.files ++ " file(s), " ++ toString s.specsRun ++ " spec(s): " ++
      toString s.rowsInserted ++ " inserted, " ++ toString s.rowsUpdated ++ " updated, " ++
      toString s.customQueries ++ " custom quer" ++ if s.customQueries = 1 then "y" else "ies") ::
    if s.specsSkipped = 0 then []
    else ["Warning: " ++ toString s.specsSkipped ++ " spec(s) skipped, see the log for details"]

/-- The report on a seed run. -/
def seeded (asJson : Bool) (s : Seed.Summary) : String :=
  if asJson then
    line (.ofMembers
      [("files", count s.files), ("specs_run", count s.specsRun),
        ("specs_skipped", count s.specsSkipped), ("rows_inserted", count s.rowsInserted),
        ("rows_updated", count s.rowsUpdated), ("custom_queries", count s.customQueries)])
  else lines (seededLines s)

/-- The report on a document that was made. -/
def created (kind path : String) : String := lines ["Created " ++ kind ++ " " ++ path]

/-- The script of a file. -/
def compiled (asJson : Bool) (path : String) (rollback : Bool) (s : Script) : String :=
  if asJson then
    line (.ofMembers
      [("file", .string path), ("rollback", .bool rollback), ("begin", .string s.start),
        ("statements", texts s.statements), ("commit", .string s.commit)])
  else lines [s.print]

end SchemaSeed.Command.Report

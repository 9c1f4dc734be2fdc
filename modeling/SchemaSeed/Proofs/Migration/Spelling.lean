import Mathlib
import SchemaSeed.Proofs.Migration.Outcome

/-!
A target as it is written. It leads to a file by way of its path, but the ledger is asked about its
text and keeps its text. So a file that is named in another way than in the listing is run again by
whoever names it as the listing does.
-/

set_option autoImplicit false
set_option relaxedAutoImplicit false

namespace SchemaSeed.Migration.Collection

open SchemaSeed.Sql SchemaSeed.Files SchemaSeed.Server

section

variable {c : Collection} {files : Tree} {direction : Direction} {first second : String}

/-- Two paths to one place hold the same document, if they hold any. -/
theorem load_congr {path path' : String} (same : files.resolve path = files.resolve path')
    {document : Document} (loaded : Document.load files path = .ok document) :
    Document.load files path' = .ok document := by
  have text : files.readText path' = files.readText path := by
    unfold Tree.readText Tree.lookup
    rw [same]
  unfold Document.load at loaded ⊢
  rw [text]
  cases read : files.readText path with
  | error fault =>
    rw [read] at loaded
    cases fault <;> cases loaded
  | ok content =>
    rw [read] at loaded
    dsimp only at loaded ⊢
    cases found : Reading.ofText (Document.read .text) content with
    | error e =>
      rw [found] at loaded
      cases loaded
    | ok document' =>
      rw [found] at loaded
      cases loaded
      rfl

/-- Two names that lead to one place have the same script, if they have any. -/
theorem script_congr (same : files.resolve (Path.join c.directory first) =
      files.resolve (Path.join c.directory second)) {script : Script}
    (found : c.script files direction first = .ok script) :
    c.script files direction second = .ok script := by
  obtain ⟨document, loaded, compiled⟩ := script_eq_ok found
  have loaded' : Directory.load files c.directory second = .ok document := load_congr same loaded
  unfold Collection.script
  rw [loaded']
  change (document.compile c.dialect direction).mapError _ = _
  rw [compiled]
  rfl

end

variable {c : Collection} {files : Tree} {entries : List LedgerEntry}

/-- A run over one file that is not recorded sends its script and records it. -/
theorem apply_single (hasBatch : Bool) (calls : List Call) {target : Option String} {text : String}
    (one : c.considered files target = [text]) (unrecorded : text ∉ entries.map (·.migration))
    {script : Script} (found : c.script files .up text = .ok script) :
    let batch := ({ entries } : LedgerTable).nextBatch
    ∃ final, (c.apply files target).run Memory.server.recorded
        (Memory.simulated calls ⟨c.table, entries, hasBatch⟩) =
          (.ok ⟨[text], [], some batch⟩, final) ∧
      Holds c.table (entries ++ [⟨text, batch, none⟩])
        (calls ++ openingCalls c.ledger hasBatch [text] ++
          plain c.ledger.nextBatchQuery :: applyCalls c.ledger batch (text, script)) final := by
  intro batch
  obtain ⟨none, todo⟩ := split_unknown unrecorded
  have compiled : c.scripts files .up
      (pending (entries.map (·.migration)) (c.considered files target)) = .ok [(text, script)] := by
    rw [one, todo]
    exact scripts_eq_ok_iff.mpr (.cons ⟨rfl, found⟩ .nil)
  have met : c.apply files target =
      Prod.fst <$> (c.applyFiles files (c.considered files target)).session {} := by
    rcases c.apply_cases files target with ⟨empty, -⟩ | met
    · rw [one] at empty
      cases empty
    · exact met
  obtain ⟨final, ran, left⟩ := apply_compiled hasBatch calls met compiled
  rw [one, todo, none, if_neg (List.cons_ne_nil _ _)] at ran
  rw [one, todo, if_neg (List.cons_ne_nil _ _), List.flatMap_singleton] at left
  exact ⟨final, ran, left⟩

variable {target name : String}

/-- A target and a listed file that lead to one place. The run with the target has the script of the
file, but it goes by the text of the target: if that is recorded nothing is sent but the opening
calls; if it is not, the script is sent, whether or not the file is recorded by its own name, and the
text is recorded. A later run over the directory applies the file unless its own name was recorded
before or is the text. -/
theorem targets_go_by_text {names : List String} (hasBatch : Bool) (calls : List Call)
    (listed : Directory.list files c.directory = .ok names) (member : name ∈ names)
    (same : files.resolve (Path.join c.directory (Path.withJson target)) =
      files.resolve (Path.join c.directory name)) :
    let text := Path.withJson target
    let start := Memory.simulated calls ⟨c.table, entries, hasBatch⟩
    (text ∈ entries.map (·.migration) →
      ∃ final, (c.apply files (some target)).run Memory.server.recorded start =
          (.ok { skipped := [text] }, final) ∧
        Holds c.table entries (calls ++ openingCalls c.ledger hasBatch [text]) final) ∧
    (text ∉ entries.map (·.migration) → ∀ script, c.script files .up name = .ok script →
      let batch := ({ entries } : LedgerTable).nextBatch
      ∃ final, (c.apply files (some target)).run Memory.server.recorded start =
          (.ok ⟨[text], [], some batch⟩, final) ∧
        Holds c.table (entries ++ [⟨text, batch, none⟩])
          (calls ++ openingCalls c.ledger hasBatch [text] ++
            plain c.ledger.nextBatchQuery :: applyCalls c.ledger batch (text, script)) final ∧
        ∀ outcome final', (c.apply files none).run Memory.server.recorded final =
            (.ok outcome, final') →
          (name ∈ outcome.applied ↔ name ∉ entries.map (·.migration) ∧ name ≠ text)) := by
  intro text start
  have one : c.considered files (some target) = [text] := rfl
  constructor
  · intro recorded
    obtain ⟨all, nothing⟩ := split_known recorded
    have compiled : c.scripts files .up
        (pending (entries.map (·.migration)) (c.considered files (some target))) = .ok [] := by
      rw [one, nothing, scripts_nil]
    obtain ⟨final, ran, left⟩ := apply_compiled hasBatch calls rfl compiled
    rw [one, nothing, all] at ran
    rw [one, nothing, if_pos rfl, List.append_nil, List.map_nil, List.append_nil] at left
    exact ⟨final, ran, left⟩
  · intro unrecorded script found batch
    obtain ⟨final, ran, left⟩ :=
      apply_single hasBatch calls one unrecorded (script_congr same.symm found)
    refine ⟨final, ran, left, fun outcome final' later => ?_⟩
    obtain ⟨hasBatch', rfl⟩ := left
    obtain ⟨rfl, -⟩ := apply_succeeded later
    have candidates : c.considered files none = names := by
      unfold considered Directory.candidates
      dsimp only
      rw [listed]
    rw [candidates]
    simp [pending, member]

/-- A file that drops a table, alone in its directory. -/
def loneFile : Tree where
  files :=
    [(["migrations", "1_a.json"],
      "\x7b\"migrations\": [\x7b\"action\": \"drop\", \"table\": \"users\"\x7d]\x7d".toUTF8)]
  distinct := by decide

/-- The script of the file. -/
private def loneScript : Script := Dialect.postgres.wrap ["DROP TABLE IF EXISTS \"users\";"]

/-- The file has this script, it is the only one, and with a step to the directory itself its path
leads to the same place. -/
private theorem lone_facts :
    sample.script loneFile .up "1_a.json" = .ok loneScript ∧
      loneFile.entries sample.directory = .ok [⟨"1_a.json", true, true⟩] ∧
      loneFile.resolve (Path.join sample.directory (Path.withJson "./1_a.json")) =
        loneFile.resolve (Path.join sample.directory "1_a.json") := by
  decide +kernel

private theorem lone_script : sample.script loneFile .up "1_a.json" = .ok loneScript :=
  lone_facts.1

private theorem lone_listed : Directory.list loneFile sample.directory = .ok ["1_a.json"] := by
  obtain ⟨-, entries, -⟩ := lone_facts
  have kept : [(⟨"1_a.json", true, true⟩ : Entry)].filter
      (fun e => e.isFile && e.name.endsWith ".json") = [⟨"1_a.json", true, true⟩] := by cbv
  rw [Directory.list_of_entries entries]
  unfold Directory.listing
  rw [kept, List.map_singleton, List.mergeSort_singleton]

private theorem lone_dotted :
    loneFile.resolve (Path.join sample.directory (Path.withJson "./1_a.json")) =
      loneFile.resolve (Path.join sample.directory "1_a.json") :=
  lone_facts.2.2

private theorem dotted_text : Path.withJson "./1_a.json" = "./1_a.json" := by cbv

/-- A recorded file is named with a step to the directory itself: it is run again, and recorded once
more. -/
theorem dotted_target_runs_recorded_file :
    let entries : List LedgerEntry := [⟨"1_a.json", 1, none⟩]
    ∃ script final, sample.script loneFile .up "1_a.json" = .ok script ∧
      (sample.apply loneFile (some "./1_a.json")).run Memory.server.recorded
          (Memory.simulated [] ⟨sample.table, entries, true⟩) =
        (.ok ⟨["./1_a.json"], [], some 2⟩, final) ∧
      Holds sample.table [⟨"1_a.json", 1, none⟩, ⟨"./1_a.json", 2, none⟩]
        (openingCalls sample.ledger true ["./1_a.json"] ++ plain sample.ledger.nextBatchQuery ::
          applyCalls sample.ledger 2 ("./1_a.json", script)) final := by
  intro entries
  have unrecorded : Path.withJson "./1_a.json" ∉ entries.map (·.migration) := by
    rw [dotted_text]
    decide
  obtain ⟨final, ran, left, -⟩ :=
    (targets_go_by_text true [] lone_listed (by decide) lone_dotted).2 unrecorded loneScript
      lone_script
  rw [dotted_text] at ran left
  exact ⟨loneScript, final, lone_script, ran, left⟩

/-- A file is named with a step to the directory itself, and then all files are to be applied: its
statement is sent twice. -/
theorem dotted_target_runs_twice :
    let start := Memory.simulated [] ⟨sample.table, [], true⟩
    Directory.list loneFile sample.directory = .ok ["1_a.json"] ∧
      loneFile.resolve (Path.join sample.directory (Path.withJson "./1_a.json")) =
        loneFile.resolve (Path.join sample.directory "1_a.json") ∧
      ∃ middle final,
        (sample.apply loneFile (some "./1_a.json")).run Memory.server.recorded start =
          (.ok ⟨["./1_a.json"], [], some 1⟩, middle) ∧
        (sample.apply loneFile none).run Memory.server.recorded middle =
          (.ok ⟨["1_a.json"], [], some 2⟩, final) ∧
        (final.calls.map Call.sql).count "DROP TABLE IF EXISTS \"users\";" = 2 := by
  intro start
  have script : sample.script loneFile .up "./1_a.json" = .ok loneScript :=
    script_congr (dotted_text ▸ lone_dotted.symm) lone_script
  have one : sample.considered loneFile (some "./1_a.json") = ["./1_a.json"] :=
    congrArg (fun text => [text]) dotted_text
  have all : sample.considered loneFile none = ["1_a.json"] := by
    unfold considered Directory.candidates
    dsimp only
    rw [lone_listed]
  have fresh : "./1_a.json" ∉ ([] : List LedgerEntry).map (·.migration) := List.not_mem_nil
  have other : "1_a.json" ∉ ([⟨"./1_a.json", 1, none⟩] : List LedgerEntry).map (·.migration) := by
    decide
  obtain ⟨middle, ran, hasBatch, rfl⟩ := apply_single true [] one fresh script
  obtain ⟨final, ran', hasBatch', rfl⟩ := apply_single hasBatch _ all other lone_script
  refine ⟨lone_listed, lone_dotted, _, _, ran, ran', ?_⟩
  rw [Memory.calls_simulated]
  cases hasBatch <;> decide

end SchemaSeed.Migration.Collection

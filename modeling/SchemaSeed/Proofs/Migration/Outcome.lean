import Mathlib
import SchemaSeed.Proofs.Migration.Listing
import SchemaSeed.Proofs.Migration.SimulatedRun

/-!
What successful runs have done, when the server refuses nothing: which files they have sent, in
which order and with which calls, and which entries they leave in the ledger.
-/

set_option autoImplicit false
set_option relaxedAutoImplicit false

namespace SchemaSeed.Migration.Collection

open SchemaSeed.Sql SchemaSeed.Files SchemaSeed.Server

/-- The candidates of a run, in order: the file that is named, or else the files of the directory
that end in `.json`, in strictly descending order of the bytes of their names. -/
def IsCandidates (c : Collection) (files : Tree) (target : Option String)
    (names : List String) : Prop :=
  match target with
  | some name => names = [Path.withJson name]
  | none =>
    names.Pairwise (fun a b => Text.bytes b < Text.bytes a) ∧
      ∀ name, name ∈ names ↔
        files.isDirectory c.directory = true ∧ name.endsWith ".json" = true ∧
          ∃ place content, files.resolve c.directory = .ok (files.home ++ place) ∧
            (place ++ [name], content) ∈ files.files

/-- A directory can be listed. -/
theorem list_of_isDirectory {files : Tree} {directory : String}
    (there : files.isDirectory directory = true) :
    ∃ names, Directory.list files directory = .ok names := by
  obtain ⟨entries, found⟩ := Tree.exists_entries_iff.mpr there
  exact ⟨_, Directory.list_of_entries found⟩

theorem considered_isCandidates (c : Collection) (files : Tree) (target : Option String) :
    c.IsCandidates files target (c.considered files target) := by
  cases target with
  | some name => rfl
  | none =>
    unfold IsCandidates considered Directory.candidates
    dsimp only
    by_cases there : files.isDirectory c.directory = true
    · obtain ⟨names, listed⟩ := list_of_isDirectory there
      rw [listed]
      refine ⟨Directory.list_descending listed, fun name => ?_⟩
      rw [Directory.mem_list listed]
      exact ⟨fun found => ⟨there, found⟩, fun found => found.2⟩
    · rw [Directory.list_of_absent (Bool.eq_false_iff.mpr there)]
      exact ⟨List.Pairwise.nil, fun name => by simp [there]⟩

section

variable {c : Collection} {files : Tree} {target : Option String} {entries : List LedgerEntry}
  {hasBatch : Bool} {calls : List Call} {final : Recorded Memory}

variable (hasBatch calls) in
/-- A run that has all scripts sends them, and succeeds. -/
theorem apply_compiled {scripts : List (String × Script)}
    (met : c.apply files target =
      Prod.fst <$> (c.applyFiles files (c.considered files target)).session {})
    (compiled : c.scripts files .up
      (pending (entries.map (·.migration)) (c.considered files target)) = .ok scripts) :
    let todo := pending (entries.map (·.migration)) (c.considered files target)
    let batch := ({ entries } : LedgerTable).nextBatch
    ∃ final, (c.apply files target).run Memory.server.recorded
        (Memory.simulated calls ⟨c.table, entries, hasBatch⟩) =
          (.ok ⟨todo, held (entries.map (·.migration)) (c.considered files target),
            if todo = [] then none else some batch⟩, final) ∧
      Holds c.table (entries ++ todo.map fun name => ⟨name, batch, none⟩)
        (calls ++ openingCalls c.ledger hasBatch (c.considered files target) ++
          if todo = [] then [] else
            plain c.ledger.nextBatchQuery :: scripts.flatMap (applyCalls c.ledger batch))
        final := by
  intro todo batch
  obtain ⟨c', s', ended, after⟩ := applyFiles_compiled c files hasBatch calls compiled
  refine ⟨s', ?_, after⟩
  rw [met, Work.run_fst_session, ended]

variable (hasBatch calls) in
/-- A run that lacks a script fails for that reason, and has sent nothing but its opening calls. -/
theorem apply_uncompiled {e : Failure}
    (met : c.apply files target =
      Prod.fst <$> (c.applyFiles files (c.considered files target)).session {})
    (failed : c.scripts files .up
      (pending (entries.map (·.migration)) (c.considered files target)) = .error e) :
    ∃ final, (c.apply files target).run Memory.server.recorded
        (Memory.simulated calls ⟨c.table, entries, hasBatch⟩) = (.error e, final) ∧
      Holds c.table entries
        (calls ++ openingCalls c.ledger hasBatch (c.considered files target)) final := by
  obtain ⟨c', s', ended, after⟩ := applyFiles_uncompiled c files hasBatch calls failed
  refine ⟨s', ?_, after⟩
  rw [met, Work.run_fst_session, ended]

variable (hasBatch calls) in
/-- A run back that has all scripts sends them, and succeeds. -/
theorem rollBack_compiled {scripts : List (String × Script)}
    (met : c.rollBack files target =
      Prod.fst <$> (c.rollBackFiles files (c.considered files target)).session {})
    (compiled : c.scripts files .down
      (held (entries.map (·.migration)) (c.considered files target)) = .ok scripts) :
    let done := held (entries.map (·.migration)) (c.considered files target)
    ∃ final, (c.rollBack files target).run Memory.server.recorded
        (Memory.simulated calls ⟨c.table, entries, hasBatch⟩) =
          (.ok ⟨done, pending (entries.map (·.migration)) (c.considered files target)⟩, final) ∧
      Holds c.table (entries.filter (·.migration ∉ done))
        (calls ++ openingCalls c.ledger hasBatch (c.considered files target) ++
          scripts.flatMap (rollBackCalls c.ledger)) final := by
  intro done
  obtain ⟨c', s', ended, after⟩ := rollBackFiles_compiled c files hasBatch calls compiled
  refine ⟨s', ?_, after⟩
  rw [met, Work.run_fst_session, ended]

variable (hasBatch calls) in
/-- A run back that lacks a script fails for that reason, and has sent nothing but its opening
calls. -/
theorem rollBack_uncompiled {e : Failure}
    (met : c.rollBack files target =
      Prod.fst <$> (c.rollBackFiles files (c.considered files target)).session {})
    (failed : c.scripts files .down
      (held (entries.map (·.migration)) (c.considered files target)) = .error e) :
    ∃ final, (c.rollBack files target).run Memory.server.recorded
        (Memory.simulated calls ⟨c.table, entries, hasBatch⟩) = (.error e, final) ∧
      Holds c.table entries
        (calls ++ openingCalls c.ledger hasBatch (c.considered files target)) final := by
  obtain ⟨c', s', ended, after⟩ := rollBackFiles_uncompiled c files hasBatch calls failed
  refine ⟨s', ?_, after⟩
  rw [met, Work.run_fst_session, ended]

/-- A successful run has applied what was pending, all in one batch. -/
theorem apply_succeeded {outcome : ApplyOutcome}
    (ran : (c.apply files target).run Memory.server.recorded
      (Memory.simulated calls ⟨c.table, entries, hasBatch⟩) = (.ok outcome, final)) :
    let todo := pending (entries.map (·.migration)) (c.considered files target)
    let batch := ({ entries } : LedgerTable).nextBatch
    outcome = ⟨todo, held (entries.map (·.migration)) (c.considered files target),
      if todo = [] then none else some batch⟩ ∧
    ∃ scripts sent, c.scripts files .up todo = .ok scripts ∧
      Holds c.table (entries ++ todo.map fun name => ⟨name, batch, none⟩) (calls ++ sent) final ∧
      (todo ≠ [] → sent = openingCalls c.ledger hasBatch (c.considered files target) ++
        plain c.ledger.nextBatchQuery :: scripts.flatMap (applyCalls c.ledger batch)) := by
  intro todo batch
  rcases c.apply_cases files target with ⟨empty, same | ⟨e, same⟩⟩ | met
  · have nothing : todo = [] := by
      change pending _ _ = []
      rw [empty, pending_nil]
    rw [same] at ran
    obtain ⟨rfl, rfl⟩ : {} = outcome ∧
        Memory.simulated calls ⟨c.table, entries, hasBatch⟩ = final :=
      ⟨Except.ok.inj (Prod.mk.inj ran).1, (Prod.mk.inj ran).2⟩
    rw [nothing, empty]
    refine ⟨rfl, [], [], rfl, ⟨hasBatch, ?_⟩, fun something => absurd rfl something⟩
    rw [List.append_nil, List.map_nil, List.append_nil]
  · rw [same] at ran
    cases (Prod.mk.inj ran).1
  · cases compiled : c.scripts files .up todo with
    | error e =>
      obtain ⟨s', ended, -⟩ := apply_uncompiled hasBatch calls met compiled
      rw [ended] at ran
      cases (Prod.mk.inj ran).1
    | ok scripts =>
      obtain ⟨s', ended, after⟩ := apply_compiled hasBatch calls met compiled
      rw [ended] at ran
      obtain ⟨result, rfl⟩ := Prod.mk.inj ran
      rw [List.append_assoc] at after
      refine ⟨(Except.ok.inj result).symm, scripts, _, rfl, after, fun something => ?_⟩
      rw [if_neg something]

/-- A successful run back has rolled back what was recorded. -/
theorem rollBack_succeeded {outcome : RollbackOutcome}
    (ran : (c.rollBack files target).run Memory.server.recorded
      (Memory.simulated calls ⟨c.table, entries, hasBatch⟩) = (.ok outcome, final)) :
    let done := held (entries.map (·.migration)) (c.considered files target)
    outcome = ⟨done, pending (entries.map (·.migration)) (c.considered files target)⟩ ∧
    ∃ scripts, c.scripts files .down done = .ok scripts ∧
      Holds c.table (entries.filter (·.migration ∉ done))
        (calls ++ openingCalls c.ledger hasBatch (c.considered files target) ++
          scripts.flatMap (rollBackCalls c.ledger)) final := by
  intro done
  rcases c.rollBack_cases files target with ⟨-, same⟩ | ⟨-, e, same⟩ | met
  · rw [same] at ran
    cases (Prod.mk.inj ran).1
  · rw [same] at ran
    cases (Prod.mk.inj ran).1
  · cases compiled : c.scripts files .down done with
    | error e =>
      obtain ⟨s', ended, -⟩ := rollBack_uncompiled hasBatch calls met compiled
      rw [ended] at ran
      cases (Prod.mk.inj ran).1
    | ok scripts =>
      obtain ⟨s', ended, after⟩ := rollBack_compiled hasBatch calls met compiled
      rw [ended] at ran
      obtain ⟨result, rfl⟩ := Prod.mk.inj ran
      exact ⟨(Except.ok.inj result).symm, scripts, rfl, after⟩

/-- A file together with the script that one section of its document compiles to. -/
def HasScript (c : Collection) (files : Tree) (direction : Direction) (name : String)
    (file : String × Script) : Prop :=
  file.1 = name ∧ ∃ document, Directory.load files c.directory name = .ok document ∧
    document.compile c.dialect direction = .ok file.2

theorem hasScript_of_scripts {direction : Direction} {names : List String}
    {scripts : List (String × Script)} (compiled : c.scripts files direction names = .ok scripts) :
    List.Forall₂ (c.HasScript files direction) names scripts :=
  (scripts_eq_ok_iff.mp compiled).imp fun _ _ found => ⟨found.1, script_eq_ok found.2⟩

private theorem parts_perm (known names : List String) :
    (held known names ++ pending known names).Perm names := by
  unfold held pending
  simp only [decide_not]
  exact List.filter_append_perm _ names

/-- A successful run skips the candidates that the ledger holds and applies the others, both in
their order. It adds one row for each applied file, all with one batch that is greater than all
before; the batches are numbers of 64 bits, and none of them is the greatest one. If anything was
pending, it has looked at the table, asked for the names and for the batch, and sent one transaction
for each applied file, with the statements that the document compiles to and the insertion of the
row. -/
theorem apply_outcome {outcome : ApplyOutcome}
    (small : ∀ e ∈ entries, -2 ^ 63 ≤ e.batch ∧ e.batch < 2 ^ 63 - 1)
    (ran : (c.apply files target).run Memory.server.recorded
      (Memory.simulated [] ⟨c.table, entries, hasBatch⟩) = (.ok outcome, final)) :
    let batch := LedgerTable.freshBatch entries
    ∃ names, c.IsCandidates files target names ∧
      outcome.skipped = names.filter (· ∈ entries.map (·.migration)) ∧
      outcome.applied = names.filter (· ∉ entries.map (·.migration)) ∧
      (outcome.skipped ++ outcome.applied).Perm names ∧
      final.inner.ledger.map (·.entries) =
        some (entries ++ outcome.applied.map fun name => ⟨name, batch, none⟩) ∧
      (∀ e ∈ entries, e.batch < batch) ∧
      outcome.batch = (if outcome.applied = [] then none else some batch) ∧
      (outcome.applied ≠ [] → ∃ scripts,
        List.Forall₂ (c.HasScript files .up) outcome.applied scripts ∧
        final.calls = c.ledger.tableCheck hasBatch ++ [plain c.ledger.namesQuery] ++
          plain c.ledger.nextBatchQuery :: scripts.flatMap (applyCalls c.ledger batch)) := by
  intro batch
  obtain ⟨rfl, scripts, sent, compiled, ⟨hasBatch', rfl⟩, all⟩ := apply_succeeded ran
  rw [LedgerTable.nextBatch_eq small] at all ⊢
  refine ⟨c.considered files target, c.considered_isCandidates files target, rfl, rfl, ?_, rfl,
    LedgerTable.batch_lt_freshBatch, rfl, fun something => ⟨scripts, ?_, ?_⟩⟩
  · exact parts_perm _ _
  · exact hasScript_of_scripts compiled
  · have names : c.considered files target ≠ [] := by
      intro empty
      rw [empty] at something
      exact something rfl
    rw [List.nil_append, Memory.calls_simulated, all something]
    unfold openingCalls Ledger.nameCheck
    rw [if_neg names]

/-- A file is applied beside another one that is no longer there, to a table without batches. -/
theorem one_pending_file_applied :
    let entries : List LedgerEntry := [⟨"0_z.json", 4, none⟩]
    (∀ e ∈ entries, -2 ^ 63 ≤ e.batch ∧ e.batch < 2 ^ 63 - 1) ∧
      ∃ final, (sample.apply sampleFiles (some "1_a.json")).run Memory.server.recorded
          (Memory.simulated [] ⟨"migrations", entries, false⟩) =
            (.ok ⟨["1_a.json"], [], some 5⟩, final) ∧
        final.inner.ledger.map (·.entries) =
          some [⟨"0_z.json", 4, none⟩, ⟨"1_a.json", 5, none⟩] := by
  intro entries
  have small : ∀ e ∈ entries, -2 ^ 63 ≤ e.batch ∧ e.batch < 2 ^ 63 - 1 := by decide
  obtain ⟨statement, -, found⟩ := sample_scripts .up
  have compiled : sample.scripts sampleFiles .up (pending (entries.map (·.migration))
      (sample.considered sampleFiles (some "1_a.json"))) =
        .ok [("1_a.json", sample.dialect.wrap [statement])] := by
    rw [sample_considered]
    exact found
  obtain ⟨final, ran, -⟩ := apply_compiled false [] rfl compiled
  rw [sample_considered] at ran
  obtain ⟨names, -, -, -, -, rows, -⟩ := apply_outcome small ran
  exact ⟨small, final, ran, rows⟩

private theorem removed_rows (batch : Int) {names : List String}
    (absent : ∀ e ∈ entries, e.migration ∉ names) :
    let todo := pending (entries.map (·.migration)) names
    let after := entries ++ todo.map fun name => (⟨name, batch, none⟩ : LedgerEntry)
    after.filter (·.migration ∉ held (after.map (·.migration)) names) = entries := by
  intro todo after
  have old : entries.filter (·.migration ∉ held (after.map (·.migration)) names) = entries := by
    refine List.filter_eq_self.mpr fun e member => ?_
    have other : e.migration ∉ held (after.map (·.migration)) names := fun found =>
      absent e member (List.mem_filter.mp found).1
    exact decide_eq_true other
  have new : (todo.map fun name => (⟨name, batch, none⟩ : LedgerEntry)).filter
      (·.migration ∉ held (after.map (·.migration)) names) = [] := by
    refine List.filter_eq_nil_iff.mpr fun e member => ?_
    obtain ⟨name, listed, rfl⟩ := List.mem_map.mp member
    have row : name ∈ after.map (·.migration) :=
      List.mem_map.mpr ⟨_, List.mem_append_right _ member, rfl⟩
    have found : name ∈ held (after.map (·.migration)) names :=
      List.mem_filter.mpr ⟨(List.mem_filter.mp listed).1, decide_eq_true row⟩
    simpa using found
  calc after.filter (·.migration ∉ held (after.map (·.migration)) names)
      = entries.filter (·.migration ∉ held (after.map (·.migration)) names) ++
          (todo.map fun name => (⟨name, batch, none⟩ : LedgerEntry)).filter
            (·.migration ∉ held (after.map (·.migration)) names) := List.filter_append ..
    _ = entries := by rw [old, new, List.append_nil]

/-- A successful run back rolls back the candidates that the ledger holds and skips the others, both
in their order. It removes all rows of the files that it rolled back and no other row, and it has
sent one transaction for each of them, with the statements that the document compiles to for the way
back and the removal of the rows. So, after a successful run over files of which the ledger held
none, a successful run back over the same files leaves the ledger as it was. -/
theorem rollBack_outcome :
    (∀ outcome, (c.rollBack files target).run Memory.server.recorded
        (Memory.simulated [] ⟨c.table, entries, hasBatch⟩) = (.ok outcome, final) →
      ∃ names scripts, c.IsCandidates files target names ∧
        outcome.rolledBack = names.filter (· ∈ entries.map (·.migration)) ∧
        outcome.skipped = names.filter (· ∉ entries.map (·.migration)) ∧
        final.inner.ledger.map (·.entries) =
          some (entries.filter (·.migration ∉ outcome.rolledBack)) ∧
        List.Forall₂ (c.HasScript files .down) outcome.rolledBack scripts ∧
        final.calls = c.ledger.tableCheck hasBatch ++ c.ledger.nameCheck names ++
          scripts.flatMap (rollBackCalls c.ledger)) ∧
    (∀ applied undone between,
      (∀ names, c.IsCandidates files target names → ∀ e ∈ entries, e.migration ∉ names) →
      (c.apply files target).run Memory.server.recorded
        (Memory.simulated [] ⟨c.table, entries, hasBatch⟩) = (.ok applied, between) →
      (c.rollBack files target).run Memory.server.recorded between = (.ok undone, final) →
      final.inner.ledger.map (·.entries) = some entries) := by
  constructor
  · intro outcome ran
    obtain ⟨rfl, scripts, compiled, ⟨hasBatch', rfl⟩⟩ := rollBack_succeeded ran
    refine ⟨c.considered files target, scripts, c.considered_isCandidates files target, rfl, rfl,
      rfl, hasScript_of_scripts compiled, ?_⟩
    rw [List.nil_append, Memory.calls_simulated]
    rfl
  · intro applied undone between new ran back
    have absent : ∀ e ∈ entries, e.migration ∉ c.considered files target :=
      new _ (c.considered_isCandidates files target)
    obtain ⟨-, -, sent, -, ⟨hasBatch', rfl⟩, -⟩ := apply_succeeded ran
    obtain ⟨-, scripts, -, ⟨hasBatch'', rfl⟩⟩ := rollBack_succeeded back
    exact congrArg some (removed_rows _ absent)

/-- The only file in the ledger is rolled back; and a file is applied and rolled back beside one
that is no longer there. -/
theorem one_file_rolled_back :
    (∃ final, (sample.rollBack sampleFiles (some "1_a.json")).run Memory.server.recorded
        (Memory.simulated [] ⟨"migrations", [⟨"1_a.json", 1, none⟩], false⟩) =
          (.ok ⟨["1_a.json"], []⟩, final) ∧
      final.inner.ledger.map (·.entries) = some []) ∧
    ∃ between final, (sample.apply sampleFiles (some "1_a.json")).run Memory.server.recorded
        (Memory.simulated [] ⟨"migrations", [⟨"0_z.json", 4, none⟩], false⟩) =
          (.ok ⟨["1_a.json"], [], some 5⟩, between) ∧
      (sample.rollBack sampleFiles (some "1_a.json")).run Memory.server.recorded between =
        (.ok ⟨["1_a.json"], []⟩, final) ∧
      final.inner.ledger.map (·.entries) = some [⟨"0_z.json", 4, none⟩] := by
  have met : sample.rollBack sampleFiles (some "1_a.json") = Prod.fst <$>
      (sample.rollBackFiles sampleFiles (sample.considered sampleFiles (some "1_a.json"))).session
        {} := by
    unfold rollBack
    rw [sample_isDirectory]
    rfl
  obtain ⟨up, -, forward⟩ := sample_scripts .up
  obtain ⟨down, -, backward⟩ := sample_scripts .down
  constructor
  · have held : sample.scripts sampleFiles .down
        (held ([(⟨"1_a.json", 1, none⟩ : LedgerEntry)].map (·.migration))
          (sample.considered sampleFiles (some "1_a.json"))) =
          .ok [("1_a.json", sample.dialect.wrap [down])] := by
      rw [sample_considered]
      exact backward
    obtain ⟨final, ran, -⟩ := rollBack_compiled false [] met held
    rw [sample_considered] at ran
    obtain ⟨names, scripts, -, -, -, removed, -⟩ := rollBack_outcome.1 _ ran
    exact ⟨final, ran, removed⟩
  · let before : List LedgerEntry := [⟨"0_z.json", 4, none⟩]
    let after : List LedgerEntry := [⟨"0_z.json", 4, none⟩, ⟨"1_a.json", 5, none⟩]
    have pending : sample.scripts sampleFiles .up (pending (before.map (·.migration))
        (sample.considered sampleFiles (some "1_a.json"))) =
          .ok [("1_a.json", sample.dialect.wrap [up])] := by
      rw [sample_considered]
      exact forward
    have held : sample.scripts sampleFiles .down (held (after.map (·.migration))
        (sample.considered sampleFiles (some "1_a.json"))) =
          .ok [("1_a.json", sample.dialect.wrap [down])] := by
      rw [sample_considered]
      exact backward
    have absent : ∀ names, sample.IsCandidates sampleFiles (some "1_a.json") names →
        ∀ e ∈ before, e.migration ∉ names := by
      intro names candidates
      have named := sample.considered_isCandidates sampleFiles (some "1_a.json")
      obtain rfl : names = ["1_a.json"] := candidates.trans (named.symm.trans sample_considered)
      decide
    obtain ⟨between, ran, ⟨hasBatch, same⟩⟩ := apply_compiled false [] rfl pending
    rw [sample_considered] at ran same
    have there : between = Memory.simulated between.calls ⟨"migrations", after, hasBatch⟩ := by
      rw [same, Memory.calls_simulated]
      rfl
    obtain ⟨final, back, -⟩ := rollBack_compiled hasBatch between.calls met held
    rw [sample_considered] at back
    have back : (sample.rollBack sampleFiles (some "1_a.json")).run Memory.server.recorded between =
        (.ok ⟨["1_a.json"], []⟩, final) := by
      rw [there]
      exact back
    exact ⟨between, final, ran, back, rollBack_outcome.2 _ _ _ absent ran back⟩

end

end SchemaSeed.Migration.Collection

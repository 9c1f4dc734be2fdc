import Mathlib
import SchemaSeed.Proofs.Migration.Consultation

/-!
Where migrations stand. The report is made from the entries of the ledger, and the runs go by the
names in it; both tell the same of every file, before a run and after it.
-/

set_option autoImplicit false
set_option relaxedAutoImplicit false

namespace SchemaSeed.Migration

open SchemaSeed.Sql SchemaSeed.Files SchemaSeed.Server

/-- Whether a migration is applied. -/
def Status.isApplied : Status → Bool
  | .pending => false
  | .applied .. => true

namespace Ledger

/-- The rows that a table gives for its entries are read back as these entries. -/
private theorem entries_read (entries : List LedgerEntry) :
    (Memory.ledgerRows (.entries entries)).mapM entryOfRow = .ok entries := by
  refine Traversal.mapM_eq_ok_iff.mpr ?_
  unfold Memory.ledgerRows
  rw [List.forall₂_map_left_iff]
  refine List.forall₂_same.mpr fun entry _ => ?_
  obtain ⟨migration, batch, appliedAt⟩ := entry
  cases appliedAt with
  | none => rfl
  | some instant => rfl

theorem runOn_entries_simulated {l : Ledger} {entries : List LedgerEntry} {calls : List Call}
    {s : Recorded Memory} (here : Holds l.table entries calls s) (c : Cache) :
    Ends l l.entries c s (.ok entries) entries (calls ++ [plain l.entriesQuery]) := by
  obtain ⟨hasBatch, rfl⟩ := here
  have asked := Memory.fetch_simulated calls _ _ _
    (LedgerTable.answer_entriesQuery l ⟨l.table, entries, hasBatch⟩)
  refine ⟨c, _, ?_, hasBatch, rfl⟩
  unfold Ledger.entries
  rw [Work.runOn_bind, Work.runOn_fetch, asked]
  dsimp only
  rw [entries_read, Work.runOn_ofResult]
  rfl

/-- A ledger that nothing is known of yet tells by its names whether it holds a migration. -/
theorem runOn_isApplied_simulated {l : Ledger} {entries : List LedgerEntry} {calls : List Call}
    {s : Recorded Memory} (here : Holds l.table entries calls s) (name : String) :
    (Work.runOn Memory.server.recorded (l.isApplied name) {} s).1.1 =
      .ok (decide (name ∈ entries.map (·.migration))) := by
  obtain ⟨hasBatch, rfl⟩ := here
  have asked := Memory.fetch_simulated calls _ _ _
    (LedgerTable.answer_namesQuery l ⟨l.table, entries, hasBatch⟩)
  obtain ⟨known, found, members⟩ := namesOfRows_texts (Memory.ledgerRows_names _)
  unfold isApplied
  rw [Work.runOn_bind_ok (runOn_applied_ok asked found none), Work.runOn_pure]
  simp only [List.contains_eq_mem, members]

end Ledger

namespace Collection

section

variable {entries : List LedgerEntry} {name : String}

/-- The entry that is found from the end is the last one for a name. -/
private theorem last_iff {entry : LedgerEntry} :
    entries.reverse.find? (·.migration == name) = some entry ↔
      entry.migration = name ∧ ∃ before after, entries = before ++ entry :: after ∧
        ∀ later ∈ after, later.migration ≠ name := by
  rw [Traversal.find?_reverse_eq_some_iff]
  simp

/-- A migration stands as its last entry says. -/
theorem statusOf_eq_applied_iff {batch : Int} {time : Option Calendar.Instant} :
    statusOf entries name = .applied batch time ↔
      ∃ before after, entries = before ++ ⟨name, batch, time⟩ :: after ∧
        ∀ later ∈ after, later.migration ≠ name := by
  unfold statusOf
  constructor
  · intro stands
    split at stands
    · rename_i entry found
      obtain ⟨rfl, parts⟩ := last_iff.mp found
      obtain ⟨rfl, rfl⟩ := Status.applied.inj stands
      exact parts
    · cases stands
  · intro parts
    rw [last_iff.mpr ⟨rfl, parts⟩]

/-- A migration is applied if it has an entry. -/
theorem isApplied_statusOf :
    (statusOf entries name).isApplied = decide (name ∈ entries.map (·.migration)) := by
  unfold statusOf
  split
  · rename_i entry found
    have named : entry.migration = name := by simpa using List.find?_some found
    have member : entry ∈ entries := List.mem_reverse.mp (List.mem_of_find?_eq_some found)
    exact (decide_eq_true (named ▸ List.mem_map_of_mem member)).symm
  · rename_i missing
    refine (decide_eq_false fun listed => ?_).symm
    obtain ⟨entry, member, named⟩ := List.mem_map.mp listed
    have other := List.find?_eq_none.mp missing entry (List.mem_reverse.mpr member)
    exact other (beq_iff_eq.mpr named)

/-- A migration that a run has just recorded stands in the batch of the run. -/
theorem statusOf_recorded {todo : List String} (member : name ∈ todo) (batch : Int) :
    statusOf (entries ++ todo.map fun name => ⟨name, batch, none⟩) name = .applied batch none := by
  have found : (todo.map fun name => (⟨name, batch, none⟩ : LedgerEntry)).reverse.find?
      (·.migration == name) = some ⟨name, batch, none⟩ := by
    cases last : (todo.map fun name => (⟨name, batch, none⟩ : LedgerEntry)).reverse.find?
        (·.migration == name) with
    | none =>
      have row := List.mem_reverse.mpr (List.mem_map_of_mem
        (f := fun name => (⟨name, batch, none⟩ : LedgerEntry)) member)
      have other := List.find?_eq_none.mp last _ row
      exact absurd (beq_self_eq_true name) other
    | some entry =>
      have named : entry.migration = name := by simpa using List.find?_some last
      obtain ⟨other, -, rfl⟩ :=
        List.mem_map.mp (List.mem_reverse.mp (List.mem_of_find?_eq_some last))
      obtain rfl : other = name := named
      rfl
  unfold statusOf
  rw [List.reverse_append, List.find?_append, found]
  rfl

/-- The report for some files. -/
def reportOf (entries : List LedgerEntry) (names : List String) : List (String × Status) :=
  names.map fun name => (name, statusOf entries name)

theorem mem_reportOf {names : List String} {standing : Status} :
    (name, standing) ∈ reportOf entries names ↔
      name ∈ names ∧ standing = statusOf entries name := by
  unfold reportOf
  rw [List.mem_map]
  constructor
  · rintro ⟨other, member, same⟩
    obtain ⟨rfl, rfl⟩ := Prod.mk.inj same
    exact ⟨member, rfl⟩
  · rintro ⟨member, rfl⟩
    exact ⟨name, member, rfl⟩

@[simp] theorem names_reportOf (names : List String) :
    (reportOf entries names).map Prod.fst = names := by
  unfold reportOf
  rw [List.map_map]
  exact List.map_id names

/-- The files that the report calls applied are those that a run finds in the ledger. -/
theorem applied_reportOf (names : List String) :
    ((reportOf entries names).filter (·.2.isApplied)).map Prod.fst =
      held (entries.map (·.migration)) names := by
  unfold reportOf held
  rw [List.filter_map, List.map_map]
  simp only [Function.comp_def, isApplied_statusOf, List.map_id']

/-- The others are those that it does not find there. -/
theorem pending_reportOf (names : List String) :
    ((reportOf entries names).filter (!·.2.isApplied)).map Prod.fst =
      pending (entries.map (·.migration)) names := by
  unfold reportOf pending
  rw [List.filter_map, List.map_map]
  simp only [Function.comp_def, isApplied_statusOf, List.map_id', decide_not]

end

section

variable {c : Collection} {files : Tree} {entries : List LedgerEntry} {name : String}
  {calls : List Call}

variable (entries) in
/-- The report on a directory that exists, over a ledger that refuses nothing. -/
theorem status_simulated (there : files.isDirectory c.directory = true) (hasBatch : Bool)
    (calls : List Call) :
    ∃ final, (c.status files).run Memory.server.recorded
        (Memory.simulated calls ⟨c.table, entries, hasBatch⟩) =
          (.ok (reportOf entries (c.considered files none)), final) ∧
      Holds c.table entries
        (calls ++ c.ledger.tableCheck hasBatch ++ [plain c.ledger.entriesQuery]) final := by
  obtain ⟨names, listed⟩ := list_of_isDirectory there
  have considered : c.considered files none = names := by
    unfold Collection.considered Directory.candidates
    dsimp only
    rw [listed]
  obtain ⟨s₀, ensured, ready⟩ := Ledger.runOn_ensure_simulated (l := c.ledger) entries hasBatch
    calls {}
  obtain ⟨c₁, s₁, read, after⟩ := Ledger.runOn_entries_simulated ready {}
  change Work.runOn Memory.server.recorded c.ledger.ensure {}
    (Memory.simulated calls ⟨c.table, entries, hasBatch⟩) = _ at ensured
  refine ⟨s₁, ?_, after⟩
  unfold status
  rw [there, listed, considered]
  refine (Work.run_fst_session Memory.server.recorded _ _ _).trans ?_
  rw [Work.runOn_bind_ok ensured, Work.runOn_bind_ok read]
  rfl

variable {hasBatch : Bool}

/-- Only a file that the ledger holds is all that a run over it skips. -/
theorem apply_named_skips_iff (ending : name.endsWith ".json" = true) :
    name ∈ entries.map (·.migration) ↔
      ∃ final, (c.apply files (some name)).run Memory.server.recorded
        (Memory.simulated calls ⟨c.table, entries, hasBatch⟩) =
          (.ok { skipped := [name] }, final) := by
  have considered : c.considered files (some name) = [name] := by
    change [Path.withJson name] = [name]
    rw [Path.withJson, if_pos ending]
  constructor
  · intro listed
    obtain ⟨all, nothing⟩ := split_known listed
    have compiled : c.scripts files .up
        (pending (entries.map (·.migration)) (c.considered files (some name))) = .ok [] := by
      rw [considered, nothing, scripts_nil]
    obtain ⟨final, ran, -⟩ := apply_compiled hasBatch calls rfl compiled
    rw [considered, nothing, all] at ran
    exact ⟨final, ran⟩
  · rintro ⟨final, ran⟩
    obtain ⟨same, -⟩ := apply_succeeded ran
    rw [considered] at same
    have nothing : [] = pending (entries.map (·.migration)) [name] :=
      congrArg ApplyOutcome.applied same
    by_contra missing
    rw [(split_unknown missing).2] at nothing
    cases nothing

/-- Only a file that the ledger does not hold is all that a run back over it skips. -/
theorem rollBack_named_skips_iff (there : files.isDirectory c.directory = true)
    (ending : name.endsWith ".json" = true) :
    name ∉ entries.map (·.migration) ↔
      ∃ final, (c.rollBack files (some name)).run Memory.server.recorded
        (Memory.simulated calls ⟨c.table, entries, hasBatch⟩) =
          (.ok { skipped := [name] }, final) := by
  have considered : c.considered files (some name) = [name] := by
    change [Path.withJson name] = [name]
    rw [Path.withJson, if_pos ending]
  constructor
  · intro missing
    obtain ⟨nothing, all⟩ := split_unknown missing
    have met : c.rollBack files (some name) =
        Prod.fst <$> (c.rollBackFiles files (c.considered files (some name))).session {} := by
      unfold rollBack
      rw [there]
      rfl
    have compiled : c.scripts files .down
        (held (entries.map (·.migration)) (c.considered files (some name))) = .ok [] := by
      rw [considered, nothing, scripts_nil]
    obtain ⟨final, ran, -⟩ := rollBack_compiled hasBatch calls met compiled
    rw [considered, nothing, all] at ran
    exact ⟨final, ran⟩
  · rintro ⟨final, ran⟩ listed
    obtain ⟨same, -⟩ := rollBack_succeeded ran
    rw [considered] at same
    have nothing : [] = held (entries.map (·.migration)) [name] :=
      congrArg RollbackOutcome.rolledBack same
    rw [(split_known listed).1] at nothing
    cases nothing

/-- The report tells of each file of the directory where it stands, in the order in which a run
visits them. It calls a file applied exactly if a ledger that nothing is known of yet holds it, which
is to say: an applying run skips it whatever it holds, and a run back does not skip it. The batch and
the time of an applied file are those of its last row. Reporting changes no row. After a successful
run over all files every file is applied, and those that the run has applied have its batch. -/
theorem status_agrees_with_runs (there : files.isDirectory c.directory = true) :
    let server := Memory.server.recorded
    let start := Memory.simulated [] ⟨c.table, entries, hasBatch⟩
    ∃ names report final, c.IsCandidates files none names ∧
      (c.status files).run server start = (.ok report, final) ∧
      final.inner.ledger.map (·.entries) = some entries ∧
      report.map Prod.fst = names ∧
      (∀ name standing, (name, standing) ∈ report →
        (Work.runOn server (c.ledger.isApplied name) {} start).1.1 = .ok standing.isApplied ∧
        (standing.isApplied = true ↔ ∀ change, ∃ after,
          (c.apply (files.rewrite change) (some name)).run server start =
            (.ok { skipped := [name] }, after)) ∧
        (standing.isApplied = false ↔ ∀ change, ∃ after,
          (c.rollBack (files.rewrite change) (some name)).run server start =
            (.ok { skipped := [name] }, after)) ∧
        ∀ batch time, standing = .applied batch time ↔
          ∃ earlier later, entries = earlier ++ ⟨name, batch, time⟩ :: later ∧
            ∀ entry ∈ later, entry.migration ≠ name) ∧
      (∀ outcome after, (c.apply files none).run server start = (.ok outcome, after) →
        outcome.skipped = (report.filter (·.2.isApplied)).map Prod.fst ∧
        outcome.applied = (report.filter (!·.2.isApplied)).map Prod.fst) ∧
      (∀ outcome after, (c.rollBack files none).run server start = (.ok outcome, after) →
        outcome.rolledBack = (report.filter (·.2.isApplied)).map Prod.fst ∧
        outcome.skipped = (report.filter (!·.2.isApplied)).map Prod.fst) ∧
      ((∀ name ∈ names, '/' ∉ name.toList) → ∀ change,
        ((∀ place content, change place content ≠ content → ∃ name standing directory,
            (name, standing) ∈ report ∧ standing.isApplied = true ∧
            files.resolve c.directory = .ok (files.home ++ directory) ∧
            place = directory ++ [name]) →
          (c.apply (files.rewrite change) none).run server start =
            (c.apply files none).run server start)) ∧
      (∀ outcome after, (c.apply files none).run server start = (.ok outcome, after) →
        ∃ report' final', (c.status files).run server after = (.ok report', final') ∧
          report'.map Prod.fst = names ∧
          ∀ name standing, (name, standing) ∈ report' → ∃ batch time,
            standing = .applied batch time ∧
              (name ∈ outcome.applied → outcome.batch = some batch)) := by
  intro server start
  let names := c.considered files none
  obtain ⟨final, ran, hasBatch', rfl⟩ := status_simulated entries there hasBatch []
  refine ⟨names, reportOf entries names, _, c.considered_isCandidates files none, ran, rfl,
    names_reportOf names, ?_, ?_, ?_, ?_, ?_⟩
  · intro name standing line
    obtain ⟨listed, rfl⟩ := mem_reportOf.mp line
    have ending := endsWith_of_considered listed
    have known : ∀ change, (files.rewrite change).isDirectory c.directory = true := fun change =>
      (files.isDirectory_rewrite change c.directory).trans there
    refine ⟨?_, ?_, ?_, fun batch time => statusOf_eq_applied_iff⟩
    · rw [isApplied_statusOf]
      exact Ledger.runOn_isApplied_simulated (l := c.ledger) ⟨hasBatch, rfl⟩ name
    · rw [isApplied_statusOf, decide_eq_true_iff]
      constructor
      · intro held change
        exact (apply_named_skips_iff ending).mp held
      · intro skips
        exact (apply_named_skips_iff ending).mpr (skips fun _ content => content)
    · rw [isApplied_statusOf, decide_eq_false_iff_not]
      constructor
      · intro missing change
        exact (rollBack_named_skips_iff (known change) ending).mp missing
      · intro skips
        exact (rollBack_named_skips_iff (known _) ending).mpr (skips fun _ content => content)
  · intro outcome after ran
    obtain ⟨rfl, -⟩ := apply_succeeded ran
    exact ⟨(applied_reportOf names).symm, (pending_reportOf names).symm⟩
  · intro outcome after ran
    obtain ⟨rfl, -⟩ := rollBack_succeeded ran
    exact ⟨(applied_reportOf names).symm, (pending_reportOf names).symm⟩
  · intro plain change only
    refine apply_rewrite change hasBatch [] fun place content changed => ?_
    obtain ⟨name, standing, directory, line, applied, found, rfl⟩ := only place content changed
    obtain ⟨listed, rfl⟩ := mem_reportOf.mp line
    rw [isApplied_statusOf] at applied
    refine spares_of_not_mem (fun other member => (List.mem_filter.mp member).1)
      (fun other member => plain other (List.mem_filter.mp member).1) found fun todo => ?_
    exact of_decide_eq_true (List.mem_filter.mp todo).2 (of_decide_eq_true applied)
  · intro outcome after ran
    obtain ⟨rfl, -, sent, -, ⟨hasBatch'', rfl⟩, -⟩ := apply_succeeded ran
    obtain ⟨final', ran', -⟩ := status_simulated
      (entries ++ (pending (entries.map (·.migration)) names).map fun name =>
        ⟨name, ({ entries } : LedgerTable).nextBatch, none⟩) there hasBatch'' ([] ++ sent)
    refine ⟨_, final', ran', names_reportOf names, fun name standing line => ?_⟩
    obtain ⟨listed, rfl⟩ := mem_reportOf.mp line
    by_cases todo : name ∈ pending (entries.map (·.migration)) names
    · refine ⟨_, none, statusOf_recorded todo _, fun _ => ?_⟩
      exact if_neg (List.ne_nil_of_mem todo)
    · have held : name ∈ entries.map (·.migration) := by
        by_contra missing
        exact todo (List.mem_filter.mpr ⟨listed, decide_eq_true missing⟩)
      cases stands : statusOf (entries ++ (pending (entries.map (·.migration)) names).map
          fun name => ⟨name, ({ entries } : LedgerTable).nextBatch, none⟩) name with
      | pending =>
        have missing := isApplied_statusOf.symm.trans (congrArg Status.isApplied stands)
        refine absurd ?_ (of_decide_eq_false missing)
        rw [List.map_append]
        exact List.mem_append_left _ held
      | applied batch time => exact ⟨batch, time, rfl, fun applied => absurd applied todo⟩

/-- One file has two rows, another one has none, and a row is left of a file that is gone. -/
theorem last_row_reported :
    let entries : List LedgerEntry :=
      [⟨"1_a.json", 1, none⟩, ⟨"0_z.json", 4, none⟩, ⟨"1_a.json", 3, none⟩]
    sampleFiles.isDirectory sample.directory = true ∧
      ∃ report final, (sample.status sampleFiles).run Memory.server.recorded
          (Memory.simulated [] ⟨"migrations", entries, false⟩) = (.ok report, final) ∧
        ("1_a.json", Status.applied 3 none) ∈ report ∧ ("2_b.json", Status.pending) ∈ report := by
  intro entries
  obtain ⟨names, report, final, candidates, ran, -, listed, told, -⟩ :=
    @status_agrees_with_runs sample sampleFiles entries false sample_isDirectory
  have line (name : String) {content : ByteArray} (ending : name.endsWith ".json" = true)
      (file : (["migrations"] ++ [name], content) ∈ sampleFiles.files) :
      ∃ standing, (name, standing) ∈ report := by
    have member : name ∈ report.map Prod.fst := by
      rw [listed]
      exact (candidates.2 name).mpr
        ⟨sample_isDirectory, ending, ["migrations"], content, sample_resolve, file⟩
    obtain ⟨⟨other, standing⟩, found, rfl⟩ := List.mem_map.mp member
    exact ⟨standing, found⟩
  obtain ⟨first, found⟩ := line "1_a.json" (by decide +kernel) (.head _)
  obtain ⟨second, found'⟩ := line "2_b.json" (by decide +kernel) (.tail _ (.head _))
  obtain rfl : first = .applied 3 none :=
    ((told _ _ found).2.2.2 3 none).mpr
      ⟨[⟨"1_a.json", 1, none⟩, ⟨"0_z.json", 4, none⟩], [], rfl, by simp⟩
  refine ⟨sample_isDirectory, report, final, ran, found, ?_⟩
  cases second with
  | pending => exact found'
  | applied batch time =>
    obtain ⟨earlier, later, parts, -⟩ := ((told _ _ found').2.2.2 batch time).mp rfl
    have member : (⟨"2_b.json", batch, time⟩ : LedgerEntry) ∈ entries := by
      rw [parts]
      simp
    simp [entries] at member

end

end Collection

end SchemaSeed.Migration

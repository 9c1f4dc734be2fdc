import Mathlib
import SchemaSeed.Proofs.Migration.ScheduledRun
import SchemaSeed.Proofs.Migration.Outcome

/-!
The history of a ledger over many runs, forwards and backwards, whichever of their calls are
refused. A run first finds out which of its files are due to change, and then changes each of them
once, so the others stay due; and each change comes right after the statements of its file.
-/

set_option autoImplicit false
set_option relaxedAutoImplicit false

namespace SchemaSeed.Migration

open SchemaSeed.Sql SchemaSeed.Files SchemaSeed.Server

variable {α : Type}

namespace Collection

variable (c : Collection) (files : Tree)

/-- Every change of the ledger among some events comes right after the start of a transaction and
the statements that the document of its file compiles to, all of them accepted. -/
def Prepared (events : List Event) : Prop :=
  ∀ ⦃before e after direction name⦄, events = before ++ e :: after →
    e.change? c.table = some (direction, name) →
    ∃ earlier opened document script,
      Directory.load files c.directory name = .ok document ∧
      document.compile c.dialect direction = .ok script ∧
      before = earlier ++ opened ∧
      opened.map Event.call =
        plain (c.dialect.beginKeyword ++ ";") :: script.statements.map plain ∧
      ∀ e ∈ opened, e.accepted = true

/-- What is entered between two states is a history: the names are led from one list to another, and
every change is prepared. -/
def Accounts (names : List String) (s s' : Journaled) : Prop :=
  ∃ events final, s'.journal = s.journal ++ events ∧ Stands c.ledger final s' ∧
    Leads c.table names events final ∧ c.Prepared files events

variable {c files} {names : List String} {events later : List Event}

theorem Prepared.append (first : c.Prepared files events) (second : c.Prepared files later) :
    c.Prepared files (events ++ later) := by
  intro before e after direction name parts change
  rcases Traversal.split_append parts with ⟨rest, here, -⟩ | ⟨rest, rfl, there⟩
  · exact first here change
  · obtain ⟨earlier, opened, document, script, loaded, compiled, rfl, sent⟩ := second there change
    exact ⟨events ++ earlier, opened, document, script, loaded, compiled,
      (List.append_assoc ..).symm, sent⟩

theorem prepared_of_quiet (quiet : Quiet c.table names events) : c.Prepared files events := by
  rintro before e after direction name rfl change
  have none := (quiet e (by simp)).1
  rw [change] at none
  cases none

/-- In a transaction the change comes after the statements of the file. -/
theorem prepared_of_sent {direction : Direction} {name : String} {script : Script}
    {final : List String} (found : c.script files direction name = .ok script)
    (sent : Sent c.ledger script.statements direction name names events final) :
    c.Prepared files events := by
  cases sent with
  | unchanged quiet => exact prepared_of_quiet quiet
  | @changed opened rest e before calls accepted change after quiet =>
    obtain ⟨document, loaded, compiled⟩ := script_eq_ok found
    intro before' e' after' direction' name' parts change'
    -- the events before and after the one change ask for none
    have once : ∀ e' ∈ opened ++ rest, e'.change? c.table = none :=
      List.forall_mem_append.mpr ⟨fun e' member => (before e' member).1,
        fun e' member => (quiet e' member).1⟩
    rcases Traversal.split_append parts with ⟨others, rfl, -⟩ | ⟨others, rfl, tail⟩
    · have none := once e' (by simp)
      rw [change'] at none
      cases none
    · cases others with
      | nil =>
        obtain ⟨rfl, -⟩ := List.cons.inj tail
        obtain ⟨rfl, rfl⟩ := Prod.mk.inj (Option.some.inj (change'.symm.trans change))
        exact ⟨[], opened, document, script, loaded, compiled, List.append_nil _, calls, accepted⟩
      | cons first others =>
        obtain ⟨-, rfl⟩ := List.cons.inj tail
        have none := once e' (by simp)
        rw [change'] at none
        cases none

section

variable {s s₁ s' : Journaled}

theorem Accounts.refl (here : Stands c.ledger names s) : c.Accounts files names s s :=
  ⟨[], names, (List.append_nil _).symm, here, .nil names, by simp [Prepared]⟩

/-- A history that starts where some events have led goes on from them. -/
theorem Accounts.after {middle : List String} (entered : s₁.journal = s.journal ++ events)
    (leads : Leads c.table names events middle) (prepared : c.Prepared files events)
    (rest : c.Accounts files middle s₁ s') : c.Accounts files names s s' := by
  obtain ⟨later, final, entered', there, leads', prepared'⟩ := rest
  exact ⟨events ++ later, final, by rw [entered', entered, List.append_assoc], there,
    leads.append leads', prepared.append prepared'⟩

/-- What leaves the ledger alone may come before a history. -/
theorem Accounts.of_calm (calm : Calm c.ledger s s₁) (here : Stands c.ledger names s)
    (rest : Stands c.ledger names s₁ → c.Accounts files names s₁ s') :
    c.Accounts files names s s' := by
  obtain ⟨events, entered, there, quiet⟩ := calm here
  exact (rest there).after entered quiet.leads (prepared_of_quiet quiet)

/-- Going over files that are all due to change is a history: the file that is met first changes its
own name only, so the others stay due. -/
theorem accounts_forM (direction : Direction) {step : String × Script → Work Ledger.Cache Unit}
    (step_eq : ∀ file, ∃ last, Changes c.ledger direction file.1 last ∧
      step file = transact file.2 last)
    {scripts : List (String × Script)}
    (compiled : ∀ file ∈ scripts, c.script files direction file.1 = .ok file.2)
    (distinct : (scripts.map Prod.fst).Nodup)
    (due : ∀ file ∈ scripts, Due direction names file.1)
    {k k' : Ledger.Cache} {r : Except Failure PUnit}
    (ran : Work.runOn Journaled.server (scripts.forM step) k s = ((r, k'), s'))
    (here : Stands c.ledger names s) : c.Accounts files names s s' := by
  induction scripts generalizing names s k with
  | nil =>
    obtain ⟨-, rfl⟩ : (.ok ⟨⟩ = r ∧ k = k') ∧ s = s' := by simpa using ran
    exact .refl here
  | cons file rest ih =>
    obtain ⟨fresh, distinct⟩ := List.nodup_cons.mp distinct
    obtain ⟨found, compiled⟩ := List.forall_mem_cons.mp compiled
    obtain ⟨first, due⟩ := List.forall_mem_cons.mp due
    obtain ⟨last, changes, same⟩ := step_eq file
    obtain ⟨statements, script_eq, schema⟩ := script_schema found
    have ended {k₁ : Ledger.Cache} {s₁ : Journaled} {r : Except Failure Unit}
        (ran : Work.runOn Journaled.server (step file) k s = ((r, k₁), s₁)) :
        ∃ events middle, s₁.journal = s.journal ++ events ∧ Stands c.ledger middle s₁ ∧
          Leads c.table names events middle ∧ c.Prepared files events ∧
          ∀ a, r = .ok a → middle = changed direction file.1 names := by
      rw [same, script_eq] at ran
      obtain ⟨events, middle, entered, there, sent, done⟩ := transact_enters schema changes ran here
      refine ⟨events, middle, entered, there, sent.leads first, ?_, done⟩
      rw [script_eq] at found
      exact prepared_of_sent found sent
    rw [List.forM_eq_forM, List.forM_cons] at ran
    rcases Work.runOn_bind_cases ran with ⟨f, failed, -⟩ | ⟨a, k₁, s₁, done, ran⟩
    · obtain ⟨events, middle, entered, there, leads, prepared, -⟩ := ended failed
      exact ⟨events, middle, entered, there, leads, prepared⟩
    · obtain ⟨events, middle, entered, there, leads, prepared, all⟩ := ended done
      obtain rfl := all a rfl
      have others : ∀ file' ∈ rest, Due direction (changed direction file.1 names) file'.1 :=
        fun file' member => (due file' member).of_changed fun equal =>
          fresh (List.mem_map.mpr ⟨file', member, equal⟩)
      exact (ih compiled distinct others ran there).after entered leads prepared

/-- A run first leaves the ledger alone, and then goes on with the files as they stand in it. -/
theorem accounts_opening {considered : List String}
    {k : List String × List String → Work Ledger.Cache α} {cache : Ledger.Cache}
    {r : Except Failure α}
    (ran : Work.runOn Journaled.server (do
      c.ledger.ensure
      let parts ← split c.ledger considered
      k parts) {} s = ((r, cache), s'))
    (here : Stands c.ledger names s)
    (rest : ∀ {k₁ : Ledger.Cache} {s₁ : Journaled}, Stands c.ledger names s₁ →
      Work.runOn Journaled.server (k (held names considered, pending names considered)) k₁ s₁ =
        ((r, cache), s') → c.Accounts files names s₁ s') :
    c.Accounts files names s s' := by
  rcases Work.runOn_bind_cases ran with ⟨f, failed, -⟩ | ⟨_, k₁, s₁, ensured, ran⟩
  · exact .of_calm (calm_ensure failed) here .refl
  refine .of_calm (calm_ensure ensured) here fun there => ?_
  obtain rfl := runOn_ensure_cache ensured
  rcases Work.runOn_bind_cases ran with ⟨f, failed, -⟩ | ⟨parts, k₂, s₂, split_, ran⟩
  · obtain ⟨⟨events, entered, there, quiet⟩, -⟩ := split_stands failed there
    exact (Accounts.refl there).after entered quiet.leads (prepared_of_quiet quiet)
  · obtain ⟨⟨events, entered, there, quiet⟩, found⟩ := split_stands split_ there
    obtain rfl := found parts rfl
    exact (rest there ran).after entered quiet.leads (prepared_of_quiet quiet)

end

/-- What runs over the files of a collection does is a history. -/
theorem accounts_applyFiles {considered : List String} (distinct : considered.Nodup)
    {s s' : Journaled} {k : Ledger.Cache} {r : Except Failure ApplyOutcome}
    (ran : Work.runOn Journaled.server (c.applyFiles files considered) {} s = ((r, k), s'))
    (here : Stands c.ledger names s) : c.Accounts files names s s' := by
  refine accounts_opening ran here fun {k₁ s₁} here ran => ?_
  dsimp only at ran
  by_cases nothing : (pending names considered).isEmpty = true
  · rw [if_pos nothing] at ran
    obtain ⟨-, rfl⟩ : _ ∧ s₁ = s' := by simpa using ran
    exact .refl here
  rw [if_neg nothing] at ran
  rcases Work.runOn_bind_cases ran with ⟨f, failed, -⟩ | ⟨scripts, k₂, s₂, answer, ran⟩
  · obtain ⟨-, rfl⟩ : _ ∧ s₁ = s' := by simpa using failed
    exact .refl here
  obtain ⟨⟨compiled, -⟩, rfl⟩ : (c.scripts files .up (pending names considered) = .ok scripts ∧
      _) ∧ s₁ = s₂ := by simpa using answer
  rcases Work.runOn_bind_cases ran with ⟨f, failed, -⟩ | ⟨batch, k₃, s₃, numbered, ran⟩
  · exact .of_calm (calm_nextBatch failed) here .refl
  refine .of_calm (calm_nextBatch numbered) here fun here => ?_
  have looped {r : Except Failure PUnit} {k k' : Ledger.Cache} {s' : Journaled}
      (ran : Work.runOn Journaled.server (scripts.forM (applyScript c.ledger batch)) k s₃ =
        ((r, k'), s')) : c.Accounts files names s₃ s' := by
    refine accounts_forM .up
      (fun file => ⟨_, changes_record file.1 batch, rfl⟩) (script_of_mem compiled) ?_ ?_ ran here
    · rw [names_of_scripts compiled]
      exact distinct.filter _
    · intro file member
      have listed : file.1 ∈ pending names considered := by
        rw [← names_of_scripts compiled]
        exact List.mem_map_of_mem member
      have absent : file.1 ∉ names := by simpa using (List.mem_filter.mp listed).2
      exact iff_of_true rfl absent
  rcases Work.runOn_bind_cases ran with ⟨f, failed, -⟩ | ⟨_, k₄, s₄, done, ran⟩
  · exact looped failed
  · obtain ⟨-, rfl⟩ : _ ∧ s₄ = s' := by simpa using ran
    exact looped done

theorem accounts_rollBackFiles {considered : List String} (distinct : considered.Nodup)
    {s s' : Journaled} {k : Ledger.Cache} {r : Except Failure RollbackOutcome}
    (ran : Work.runOn Journaled.server (c.rollBackFiles files considered) {} s = ((r, k), s'))
    (here : Stands c.ledger names s) : c.Accounts files names s s' := by
  refine accounts_opening ran here fun {k₁ s₁} here ran => ?_
  dsimp only at ran
  rcases Work.runOn_bind_cases ran with ⟨f, failed, -⟩ | ⟨scripts, k₂, s₂, answer, ran⟩
  · obtain ⟨-, rfl⟩ : _ ∧ s₁ = s' := by simpa using failed
    exact .refl here
  obtain ⟨⟨compiled, -⟩, rfl⟩ : (c.scripts files .down (held names considered) = .ok scripts ∧
      _) ∧ s₁ = s₂ := by simpa using answer
  have looped {r : Except Failure PUnit} {k k' : Ledger.Cache} {s' : Journaled}
      (ran : Work.runOn Journaled.server (scripts.forM (rollBackScript c.ledger)) k s₁ =
        ((r, k'), s')) : c.Accounts files names s₁ s' := by
    refine accounts_forM .down
      (fun file => ⟨_, changes_forget file.1, rfl⟩) (script_of_mem compiled) ?_ ?_ ran here
    · rw [names_of_scripts compiled]
      exact distinct.filter _
    · intro file member
      have listed : file.1 ∈ held names considered := by
        rw [← names_of_scripts compiled]
        exact List.mem_map_of_mem member
      have there : file.1 ∈ names := by simpa using (List.mem_filter.mp listed).2
      exact iff_of_false (by decide) (not_not_intro there)
  rcases Work.runOn_bind_cases ran with ⟨f, failed, -⟩ | ⟨_, k₄, s₄, done, ran⟩
  · exact looped failed
  · obtain ⟨-, rfl⟩ : _ ∧ s₄ = s' := by simpa using ran
    exact looped done

/-- No file is considered twice. -/
theorem considered_nodup (c : Collection) (files : Tree) (target : Option String) :
    (c.considered files target).Nodup := by
  have candidates := c.considered_isCandidates files target
  cases target with
  | some name =>
    rw [show c.considered files (some name) = [Path.withJson name] from candidates]
    exact List.nodup_singleton _
  | none =>
    refine candidates.1.imp ?_
    rintro a _ descending rfl
    exact List.lt_irrefl _ descending

end Collection

/-- A run over a collection, forwards or backwards: the files as it finds them, the one file that it
is told to look at, if any, and for its calls, in order, the failure that a call is refused with, if
it is. -/
structure MigrationRun where
  direction : Direction
  files : Tree
  target : Option String := none
  refusals : List (Option Failure) := []

namespace Collection

variable (c : Collection)

/-- The connection after a run, with a journal of the calls of that run. -/
def after (run : MigrationRun) (memory : Memory) : Journaled :=
  let start : Journaled := { refusals := run.refusals, memory }
  match run.direction with
  | .up => ((c.apply run.files run.target).run Journaled.server start).2
  | .down => ((c.rollBack run.files run.target).run Journaled.server start).2

/-- The journals of runs one after the other. -/
def journals : List MigrationRun → Memory → List (List Event)
  | [], _ => []
  | run :: rest, memory =>
    let done := c.after run memory
    done.journal :: journals rest done.memory

variable {c} {names : List String}

/-- What a run does is a history. -/
theorem accounts_after (run : MigrationRun) {memory : Memory}
    (here : Stands c.ledger names { refusals := run.refusals, memory }) :
    c.Accounts run.files names { refusals := run.refusals, memory } (c.after run memory) := by
  have distinct := c.considered_nodup run.files run.target
  unfold after
  cases run.direction with
  | up =>
    dsimp only
    rcases c.apply_cases run.files run.target with ⟨-, same | ⟨e, same⟩⟩ | same
    · rw [same]
      exact .refl here
    · rw [same]
      exact .refl here
    · rw [same, Work.run_fst_session]
      exact accounts_applyFiles distinct rfl here
  | down =>
    dsimp only
    rcases c.rollBack_cases run.files run.target with ⟨-, same⟩ | ⟨-, e, same⟩ | same
    · rw [same]
      exact .refl here
    · rw [same]
      exact .refl here
    · rw [same, Work.run_fst_session]
      exact accounts_rollBackFiles distinct rfl here

/-- Runs one after the other are histories that go on from each other. -/
theorem journals_lead (runs : List MigrationRun) {memory : Memory}
    (here : ∀ refusals, Stands c.ledger names { refusals, memory }) :
    (∃ final, Leads c.table names (c.journals runs memory).flatten final) ∧
      List.Forall₂ (fun run events => c.Prepared run.files events) runs (c.journals runs memory) := by
  induction runs generalizing names memory with
  | nil => exact ⟨⟨names, .nil names⟩, .nil⟩
  | cons run rest ih =>
    obtain ⟨events, middle, entered, ⟨t, shows_, there⟩, leads, prepared⟩ :=
      accounts_after run (here run.refusals)
    rw [List.nil_append] at entered
    obtain ⟨⟨final, later⟩, others⟩ := ih fun refusals => ⟨t, shows_, there⟩
    unfold journals
    dsimp only
    rw [entered]
    exact ⟨⟨final, leads.append later⟩, .cons prepared others⟩

section

variable {files : Tree} {file : String} {entries rows : List LedgerEntry}
  {refusals left : List (Option Failure)} {made : List Direction}

/-- Where a run over one file ends, a connection ends that it starts on. -/
theorem after_of_applyFiles {target : String} {r : Except Failure ApplyOutcome}
    (considered : c.considered files (some target) = [file])
    (ran : Reaches c.ledger file (c.applyFiles files [file]) {} entries refusals r rows left made) :
    ∃ events, c.after ⟨.up, files, some target, refusals⟩
        { ledger := some ⟨c.table, entries, true⟩ } =
      ⟨left, { ledger := some ⟨c.table, rows, true⟩ }, events⟩ ∧
      changesOf c.table file events = made := by
  obtain ⟨cache, events, ended, changes⟩ := ran []
  refine ⟨events, ?_, changes⟩
  rcases c.apply_cases files (some target) with ⟨nothing, -⟩ | same
  · rw [considered] at nothing
    cases nothing
  · unfold after
    dsimp only
    rw [same, Work.run_fst_session, considered]
    exact congrArg Prod.snd ended

theorem after_of_rollBackFiles {target : String} {r : Except Failure RollbackOutcome}
    (directory : files.isDirectory c.directory = true)
    (considered : c.considered files (some target) = [file])
    (ran : Reaches c.ledger file (c.rollBackFiles files [file]) {} entries refusals r rows left
      made) :
    ∃ events, c.after ⟨.down, files, some target, refusals⟩
        { ledger := some ⟨c.table, entries, true⟩ } =
      ⟨left, { ledger := some ⟨c.table, rows, true⟩ }, events⟩ ∧
      changesOf c.table file events = made := by
  obtain ⟨cache, events, ended, changes⟩ := ran []
  refine ⟨events, ?_, changes⟩
  rcases c.rollBack_cases files (some target) with ⟨missing, -⟩ | ⟨nothing, -⟩ | same
  · rw [directory] at missing
    cases missing
  · rw [considered] at nothing
    cases nothing
  · unfold after
    dsimp only
    rw [same, Work.run_fst_session, considered]
    exact congrArg Prod.snd ended

end

/-- Over any runs, forwards and backwards, each with its own files and its own refused calls, from a
ledger with distinct names: the names are distinct after every call; the changes of the ledger for
one name alternate, and the first of them adds the name exactly if it was absent; and every change
comes right after the start of a transaction and all statements that the file compiles to, each of
them accepted. -/
theorem ledger_history (c : Collection) (runs : List MigrationRun) (entries : List LedgerEntry)
    (hasBatch : Bool) (distinct : (entries.map (·.migration)).Nodup) :
    let journals := c.journals runs { ledger := some ⟨c.table, entries, hasBatch⟩ }
    (∀ e ∈ journals.flatten, e.names.Nodup) ∧
      (∀ name, (changesOf c.table name journals.flatten).IsChain (· ≠ ·) ∧
        ∀ first ∈ (changesOf c.table name journals.flatten).head?,
          first = .up ↔ name ∉ entries.map (·.migration)) ∧
      List.Forall₂ (fun run events => c.Prepared run.files events) runs journals := by
  intro journals
  have here (refusals : List (Option Failure)) :
      Stands c.ledger (entries.map (·.migration))
        { refusals, memory := { ledger := some ⟨c.table, entries, hasBatch⟩ } } :=
    ⟨⟨c.table, entries, hasBatch⟩, rfl, rfl, rfl⟩
  obtain ⟨⟨final, leads⟩, prepared⟩ := journals_lead runs here
  exact ⟨(leads.nodup distinct).1, leads.alternate, prepared⟩

/-- The connection is lost at a statement of a file, then at the commit of the next attempt, and a
run back follows: the file is added once and removed once. -/
theorem attempts_and_return :
    let lost : Option Failure := some (.statementFailed "connection lost" none)
    let runs : List MigrationRun :=
      [⟨.up, sampleFiles, some "1_a.json", [none, none, none, none, none, lost]⟩,
        ⟨.up, sampleFiles, some "1_a.json", [none, none, none, none, none, none, none, lost]⟩,
        ⟨.down, sampleFiles, some "1_a.json", []⟩]
    let entries : List LedgerEntry := [⟨"0_z.json", 4, none⟩]
    let journals := sample.journals runs { ledger := some ⟨sample.table, entries, true⟩ }
    (entries.map (·.migration)).Nodup ∧
      changesOf sample.table "1_a.json" journals.flatten = [.up, .down] ∧
      (∀ e ∈ journals.flatten, e.names.Nodup) ∧
      List.Forall₂ (fun run events => sample.Prepared run.files events) runs journals := by
  intro lost runs entries journals
  have distinct : (entries.map (·.migration)).Nodup := by decide
  obtain ⟨kept, -, prepared⟩ := ledger_history sample runs entries true distinct
  refine ⟨distinct, ?_, kept, prepared⟩
  have apart : ∀ change ∈ ["INSERT INTO ", "DELETE FROM ", "ALTER "], Apart "DROP " change := by
    decide
  obtain ⟨up, start, forward⟩ := sample_scripts .up
  obtain ⟨down, start', backward⟩ := sample_scripts .down
  have absent : "1_a.json" ∉ entries.map (·.migration) := by decide
  let row : LedgerEntry :=
    ⟨"1_a.json", LedgerTable.nextBatch ⟨sample.table, entries, true⟩, none⟩
  have present : "1_a.json" ∈ (entries ++ [row]).map (·.migration) := by simp [row]
  obtain ⟨first, broken, unchanged⟩ := after_of_applyFiles sample_considered
    (reaches_applyFiles absent forward fun _ =>
      reaches_transact_cut (.statementFailed "connection lost" none))
  obtain ⟨second, recorded, forwards⟩ := after_of_applyFiles sample_considered
    (reaches_applyFiles absent forward fun _ =>
      reaches_record_uncommitted start apart _ (.statementFailed "connection lost" none))
  obtain ⟨third, removed, back⟩ := after_of_rollBackFiles sample_isDirectory sample_considered
    (reaches_rollBackFiles present backward fun _ => reaches_forget_committed start' apart)
  have whole : journals = [first, second, third] := by
    simp only [journals, runs, lost, Collection.journals, broken, recorded]
    rw [removed]
  rw [whole]
  simp only [List.flatten_cons, List.flatten_nil, List.append_nil, changesOf_append, unchanged,
    forwards, back]
  rfl

end Collection

end SchemaSeed.Migration

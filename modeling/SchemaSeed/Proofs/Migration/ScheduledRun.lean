import Mathlib
import SchemaSeed.Proofs.Migration.JournaledRun

/-!
Runs against a connection of which it is known beforehand which of the coming calls it refuses:
what is left of the refusals, which rows the ledger holds afterwards, and which changes were made for
one name.
-/

set_option autoImplicit false
set_option relaxedAutoImplicit false

namespace SchemaSeed.Migration

open SchemaSeed.Sql SchemaSeed.Files SchemaSeed.Server

variable {α β : Type}

/-- Work on a connection with some rows in its ledger and some refusals to come: how it ends, the
rows and the refusals that it leaves, and the changes that it makes for one name. -/
def Reaches (l : Ledger) (name : String) (work : Work Ledger.Cache α) (c : Ledger.Cache)
    (entries : List LedgerEntry) (refusals : List (Option Failure)) (r : Except Failure α)
    (after : List LedgerEntry) (left : List (Option Failure)) (made : List Direction) : Prop :=
  ∀ journal, ∃ c' events,
    Work.runOn Journaled.server work c
        ⟨refusals, { ledger := some ⟨l.table, entries, true⟩ }, journal⟩ =
      ((r, c'), ⟨left, { ledger := some ⟨l.table, after, true⟩ }, journal ++ events⟩) ∧
    changesOf l.table name events = made

section

variable {l : Ledger} {name : String} {c : Ledger.Cache} {entries middle after : List LedgerEntry}
  {refusals between left : List (Option Failure)} {made made' : List Direction}

theorem reaches_pure (a : α) :
    Reaches l name (pure a) c entries refusals (.ok a) entries refusals [] :=
  fun journal => ⟨c, [], by rw [List.append_nil, Work.runOn_pure], rfl⟩

theorem reaches_throw (e : Failure) :
    Reaches l name (throw e : Work Ledger.Cache α) c entries refusals (.error e) entries refusals
      [] :=
  fun journal => ⟨c, [], by rw [List.append_nil, Work.runOn_throw], rfl⟩

theorem reaches_modify (f : Ledger.Cache → Ledger.Cache) :
    Reaches l name (modify f : Work Ledger.Cache PUnit) c entries refusals (.ok ⟨⟩) entries refusals
      [] :=
  fun journal => ⟨f c, [], by rw [List.append_nil, Work.runOn_modify], rfl⟩

theorem reaches_bind {x : Work Ledger.Cache α} {k : α → Work Ledger.Cache β} {a : α}
    {r : Except Failure β} (first : Reaches l name x c entries refusals (.ok a) middle between made)
    (rest : ∀ c', Reaches l name (k a) c' middle between r after left made') :
    Reaches l name (x >>= k) c entries refusals r after left (made ++ made') := by
  intro journal
  obtain ⟨c₁, events, ran, rfl⟩ := first journal
  obtain ⟨c₂, later, ended, rfl⟩ := rest c₁ (journal ++ events)
  refine ⟨c₂, events ++ later, ?_, changesOf_append ..⟩
  rw [Work.runOn_bind_ok ran, ended, List.append_assoc]

theorem reaches_bind_error {x : Work Ledger.Cache α} {e : Failure}
    (first : Reaches l name x c entries refusals (.error e) after left made)
    (k : α → Work Ledger.Cache β) :
    Reaches l name (x >>= k) c entries refusals (.error e) after left made := by
  intro journal
  obtain ⟨c₁, events, ran, changes⟩ := first journal
  exact ⟨c₁, events, Work.runOn_bind_error ran k, changes⟩

theorem reaches_attempt {x : Work Ledger.Cache α} {r : Except Failure α}
    (first : Reaches l name x c entries refusals r after left made) :
    Reaches l name x.attempt c entries refusals (.ok r) after left made := by
  intro journal
  obtain ⟨c₁, events, ran, changes⟩ := first journal
  exact ⟨c₁, events, Work.runOn_attempt ran, changes⟩

section

variable (willing : refusals.head?.join = none)

include willing

theorem reaches_execute {sql : String} {params : List Value}
    (effect : LedgerTable.after ⟨l.table, entries, true⟩ sql params = ⟨l.table, after, true⟩)
    (changes : ∀ names, changesOf l.table name [⟨⟨sql, params⟩, true, names⟩] = made) :
    Reaches l name (Work.execute sql params) c entries refusals (.ok 1) after refusals.tail made := by
  intro journal
  refine ⟨c, _, ?_, changes (after.map (·.migration))⟩
  rw [Work.runOn_execute, Journaled.execute_passed willing, effect]
  rfl

theorem reaches_kept {words sql : String} (start : StartsWith words sql)
    (apart : ∀ change ∈ ["INSERT INTO ", "DELETE FROM ", "ALTER "], Apart words change) :
    Reaches l name (Work.execute sql []) c entries refusals (.ok 1) entries refusals.tail [] := by
  have none : LedgerTable.change? l.table ⟨sql, []⟩ = none :=
    LedgerTable.change_other [] (start.not_of_apart (apart _ (by simp)))
      (start.not_of_apart (apart _ (by simp)))
  exact reaches_execute willing (LedgerTable.after_kept _ [] start apart) fun _ =>
    changesOf_quiet none true

theorem reaches_fetch {sql : String} {answer : LedgerAnswer}
    (query : sql ∈ [l.batchColumnQuery, l.namesQuery, l.nextBatchQuery])
    (found : LedgerTable.answer? ⟨l.table, entries, true⟩ sql [] =
      some (answer, ⟨l.table, entries, true⟩)) :
    Reaches l name (Work.fetch sql []) c entries refusals (.ok (Memory.ledgerRows answer)) entries
      refusals.tail [] := by
  intro journal
  have none := LedgerTable.change_query l query
  refine ⟨c, [⟨⟨sql, []⟩, true, entries.map (·.migration)⟩], ?_, changesOf_quiet none true⟩
  rw [Work.runOn_fetch, Journaled.fetch_passed willing found]
  rfl

theorem reaches_record (batch : Int) :
    Reaches l name (l.record name batch) c entries refusals (.ok ())
      (entries ++ [⟨name, batch, none⟩]) refusals.tail [.up] := by
  have insertion := reaches_execute (c := c) willing
    (LedgerTable.after_record ⟨l.table, entries, true⟩ rfl name batch)
    fun _ => changesOf_made (LedgerTable.change_record l name batch)
  exact reaches_bind insertion fun _ => reaches_modify _

theorem reaches_forget :
    Reaches l name (discard (l.forget name)) c entries refusals (.ok ())
      (entries.filter (·.migration != name)) refusals.tail [.down] := by
  have deletion := reaches_execute (c := c) willing
    (LedgerTable.after_forget ⟨l.table, entries, true⟩ rfl name)
    fun _ => changesOf_made (LedgerTable.change_forget l name)
  have removal : Reaches l name (l.forget name) c entries refusals (.ok 1)
      (entries.filter (·.migration != name)) refusals.tail [.down] :=
    reaches_bind deletion fun _ => reaches_bind (reaches_modify _) fun _ => reaches_pure 1
  exact reaches_bind removal fun _ => reaches_pure ()

end

/-- A call that is to be refused changes nothing. -/
theorem reaches_refused {sql : String} {params : List Value} (e : Failure) :
    Reaches l name (Work.execute sql params) c entries (some e :: refusals) (.error e) entries
      refusals [] :=
  fun _ => ⟨c, [⟨⟨sql, params⟩, false, entries.map (·.migration)⟩], rfl, rfl⟩

theorem reaches_ensure (first : refusals.head?.join = none)
    (second : refusals.tail.head?.join = none) :
    Reaches l name l.ensure c entries refusals (.ok ()) entries refusals.tail.tail [] := by
  have there : (Memory.ledgerRows (.batchColumn true)).isEmpty = false := rfl
  refine reaches_bind (reaches_kept first l.createStatement_start (by decide)) fun _ => reaches_bind
    (reaches_fetch second (by simp) (LedgerTable.answer_batchColumnQuery l _)) fun _ => ?_
  rw [there]
  exact reaches_pure ()

/-- Before a run turns to its files, it makes sure of its table and asks for the names. -/
theorem reaches_opening {file : String} {k : List String × List String → Work Ledger.Cache α}
    {r : Except Failure α} (first : refusals.head?.join = none)
    (second : refusals.tail.head?.join = none) (third : refusals.tail.tail.head?.join = none)
    (later : ∀ known, Reaches l name (k (Collection.held (entries.map (·.migration)) [file],
      Collection.pending (entries.map (·.migration)) [file])) ⟨none, known⟩ entries
      refusals.tail.tail.tail r after left made) :
    Reaches l name (do
      l.ensure
      let parts ← Collection.split l [file]
      k parts) {} entries refusals r after left made := by
  intro journal
  have ensure : Reaches l name l.ensure {} entries refusals (.ok ()) entries refusals.tail.tail [] :=
    reaches_ensure first second
  obtain ⟨c₁, opened, ensured, quiet⟩ := ensure journal
  obtain rfl := runOn_ensure_cache ensured
  obtain ⟨known, found, members⟩ :=
    Ledger.namesOfRows_texts (Memory.ledgerRows_names (entries.map (·.migration)))
  obtain ⟨c₂, events, ended, rfl⟩ := later (some known)
    (journal ++ opened ++ [⟨⟨l.namesQuery, []⟩, true, entries.map (·.migration)⟩])
  have none : LedgerTable.change? l.table ⟨l.namesQuery, []⟩ = none :=
    LedgerTable.change_query l (by simp)
  refine ⟨c₂, opened ++ ([⟨⟨l.namesQuery, []⟩, true, entries.map (·.migration)⟩] ++ events), ?_, ?_⟩
  · have answered := LedgerTable.answer_namesQuery l ⟨l.table, entries, true⟩
    have asked {journal : List Event} := Ledger.runOn_applied_ok
      (@Journaled.fetch_passed _ refusals.tail.tail journal _ _ _ _ third answered) found Option.none
    rw [Work.runOn_bind_ok ensured, Collection.split_cons, bind_assoc, Work.runOn_bind_ok asked,
      pure_bind, Collection.held_congr members, Collection.pending_congr members]
    simp only [List.append_assoc] at ended ⊢
    exact ended
  · rw [changesOf_append, changesOf_append, quiet, changesOf_quiet none]
    rfl

/-- A run that does not know its batch asks for it. -/
theorem reaches_nextBatch {known : Option (List String)} (willing : refusals.head?.join = none) :
    Reaches l name l.nextBatch ⟨none, known⟩ entries refusals
      (.ok (LedgerTable.nextBatch ⟨l.table, entries, true⟩)) entries refusals.tail [] :=
  have asked : Reaches l name (Work.fetch l.nextBatchQuery []) ⟨none, known⟩ entries refusals _
      entries refusals.tail [] :=
    reaches_fetch willing (by simp) (LedgerTable.answer_nextBatchQuery l _)
  reaches_bind asked fun _ => reaches_bind (reaches_pure _) fun _ =>
    reaches_bind (reaches_modify _) fun _ => reaches_pure _

/-- The statements around a transaction leave the ledger alone. -/
theorem reaches_around (d : Dialect) (willing : refusals.head?.join = none) :
    ∀ sql ∈ [d.beginKeyword ++ ";", "COMMIT;", "ROLLBACK;"],
      Reaches l name (Work.execute sql []) c entries refusals (.ok 1) entries refusals.tail [] := by
  intro sql member
  cases d <;> fin_cases member <;> exact reaches_kept willing (List.prefix_refl _) (by decide)

variable {statements : List String} {last : Work Ledger.Cache Unit}

theorem reaches_sendAll {words sql : String} (willing : refusals.head?.join = none)
    (start : StartsWith words sql)
    (apart : ∀ change ∈ ["INSERT INTO ", "DELETE FROM ", "ALTER "], Apart words change) :
    Reaches l name (sendAll [sql]) c entries refusals (.ok ()) entries refusals.tail [] :=
  reaches_bind (reaches_attempt (reaches_kept willing start apart)) fun _ => reaches_pure ()

/-- If all that is inside a transaction succeeds, its commit is the end of it. -/
theorem reaches_commit {r : Except Failure Unit} (willing : refusals.head?.join = none)
    (body : ∀ c, Reaches l name (sendAll statements *> last) c entries refusals.tail (.ok ()) after
      between made)
    (commit : ∀ c, Reaches l name (discard (Work.execute "COMMIT;" [])) c after between r after left
      []) :
    Reaches l name (transact (l.dialect.wrap statements) last) c entries refusals r after left
      made := by
  have start : Reaches l name (Work.execute (l.dialect.beginKeyword ++ ";") []) c entries refusals
      (.ok 1) entries refusals.tail [] := reaches_around l.dialect willing _ (by simp)
  have all : made = [] ++ (made ++ []) := (List.append_nil made).symm
  rw [all]
  exact reaches_bind start fun c => reaches_bind (reaches_attempt (body c)) commit

/-- If something inside a transaction fails, the transaction is rolled back. -/
theorem reaches_rollback {e : Failure} (willing : refusals.head?.join = none)
    (body : ∀ c, Reaches l name (sendAll statements *> last) c entries refusals.tail (.error e) after
      between made)
    (undone : ∀ c, Reaches l name (Work.execute "ROLLBACK;" []) c after between (.ok 1) after left
      []) :
    Reaches l name (transact (l.dialect.wrap statements) last) c entries refusals (.error e) after
      left made := by
  have start : Reaches l name (Work.execute (l.dialect.beginKeyword ++ ";") []) c entries refusals
      (.ok 1) entries refusals.tail [] := reaches_around l.dialect willing _ (by simp)
  have all : made = [] ++ (made ++ ([] ++ [])) := (List.append_nil made).symm
  rw [all]
  exact reaches_bind start fun c => reaches_bind (reaches_attempt (body c)) fun c =>
    reaches_bind (reaches_attempt (undone c)) fun _ => reaches_throw e

section

variable {words sql : String} (start : StartsWith words sql)
  (apart : ∀ change ∈ ["INSERT INTO ", "DELETE FROM ", "ALTER "], Apart words change)

/-- The only statement of a transaction is refused. -/
theorem reaches_transact_cut (e : Failure) :
    Reaches l name (transact (l.dialect.wrap [sql]) last) c entries [none, some e]
      (.error (attachStatement sql e)) entries [] [] := by
  have broken (c : Ledger.Cache) : Reaches l name (sendAll [sql] *> last) c entries [some e]
      (.error (attachStatement sql e)) entries [] [] :=
    reaches_bind_error (reaches_bind (reaches_attempt (reaches_refused e)) fun _ => reaches_throw _) _
  exact reaches_rollback rfl broken fun _ => reaches_around l.dialect rfl _ (by simp)

include start apart

/-- A migration is recorded, and the commit is refused. -/
theorem reaches_record_uncommitted (batch : Int) (e : Failure) :
    Reaches l name (transact (l.dialect.wrap [sql]) (l.record name batch)) c entries
      [none, none, none, some e] (.error e) (entries ++ [⟨name, batch, none⟩]) [] [.up] := by
  refine reaches_commit rfl (fun c => ?_) fun c => reaches_bind_error (reaches_refused e) _
  exact reaches_bind (reaches_sendAll rfl start apart) fun c => reaches_record rfl batch

/-- A migration is removed, and nothing is refused. -/
theorem reaches_forget_committed :
    Reaches l name (transact (l.dialect.wrap [sql]) (discard (l.forget name))) c entries [] (.ok ())
      (entries.filter (·.migration != name)) [] [.down] := by
  have removed (c : Ledger.Cache) : Reaches l name (sendAll [sql] *> discard (l.forget name)) c
      entries [] (.ok ()) (entries.filter (·.migration != name)) [] [.down] :=
    reaches_bind (reaches_sendAll rfl start apart) fun c => reaches_forget rfl
  have commit (c : Ledger.Cache) : Reaches l name (Work.execute "COMMIT;" []) c
      (entries.filter (·.migration != name)) [] (.ok 1) (entries.filter (·.migration != name)) []
      [] := reaches_around l.dialect rfl _ (by simp)
  exact reaches_commit rfl removed fun c => reaches_bind (commit c) fun _ => reaches_pure ()

end

/-- A loop over one item ends as its only round does. -/
theorem reaches_forM {ι : Type} {step : ι → Work Ledger.Cache Unit} {i : ι}
    {r : Except Failure Unit} (only : Reaches l name (step i) c entries refusals r after left made)
    (a : α) :
    Reaches l name (do [i].forM step; pure a) c entries refusals (r.map fun _ => a) after left
      made := by
  have none : made = made ++ ([] ++ []) := by simp
  rw [List.forM_eq_forM, List.forM_cons, List.forM_nil, bind_assoc]
  cases r with
  | error e => exact reaches_bind_error only _
  | ok _ =>
    rw [none]
    exact reaches_bind only fun _ => reaches_bind (reaches_pure _) fun _ => reaches_pure a

end

namespace Collection

section

variable {c : Collection} {files : Tree} {file : String} {script : Script}
  {entries after : List LedgerEntry} {refusals left : List (Option Failure)}
  {made : List Direction} {r : Except Failure Unit}

/-- A run over one file that is pending and has a script. -/
theorem reaches_applyFiles (absent : file ∉ entries.map (·.migration))
    (compiled : c.scripts files .up [file] = .ok [(file, script)])
    (sent : ∀ cache, Reaches c.ledger file
      (transact script (c.ledger.record file (LedgerTable.nextBatch ⟨c.table, entries, true⟩))) cache
      entries refusals r after left made) :
    Reaches c.ledger file (c.applyFiles files [file]) {} entries
      (none :: none :: none :: none :: refusals)
      (r.map fun _ => ⟨[file], [], some (LedgerTable.nextBatch ⟨c.table, entries, true⟩)⟩) after left
      made := by
  refine reaches_opening rfl rfl rfl fun known => ?_
  dsimp only
  rw [(split_unknown absent).1, (split_unknown absent).2, if_neg (by simp), compiled,
    Work.ofResult_ok_bind]
  exact reaches_bind (reaches_nextBatch rfl) fun cache => reaches_forM (sent cache) _

/-- A run back over one file that is held and has a script, if no call is refused. -/
theorem reaches_rollBackFiles (there : file ∈ entries.map (·.migration))
    (compiled : c.scripts files .down [file] = .ok [(file, script)])
    (sent : ∀ cache, Reaches c.ledger file (transact script (discard (c.ledger.forget file))) cache
      entries [] r after left made) :
    Reaches c.ledger file (c.rollBackFiles files [file]) {} entries [] (r.map fun _ => ⟨[file], []⟩)
      after left made := by
  refine reaches_opening rfl rfl rfl fun known => ?_
  dsimp only
  rw [(split_known there).1, (split_known there).2, compiled, Work.ofResult_ok_bind]
  exact reaches_forM (sent _) _

end

end Collection

end SchemaSeed.Migration

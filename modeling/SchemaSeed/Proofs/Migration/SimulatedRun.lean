import Mathlib
import SchemaSeed.Proofs.Migration.Pending
import SchemaSeed.Proofs.Migration.Scripts
import SchemaSeed.Proofs.Server.SimulatedLedger

/-!
Runs against a connection in memory that holds a ledger and refuses nothing: which calls each part
of a run sends, and which entries it leaves.
-/

set_option autoImplicit false
set_option relaxedAutoImplicit false

namespace SchemaSeed.Migration

open SchemaSeed.Sql SchemaSeed.Files SchemaSeed.Server

variable {α β : Type}

/-- A connection that refuses nothing, with the entries of a ledger, after some calls. -/
def Holds (table : String) (entries : List LedgerEntry) (calls : List Call) (s : Recorded Memory) :
    Prop :=
  ∃ hasBatch, s = Memory.simulated calls ⟨table, entries, hasBatch⟩

/-- The outcome of work on such a connection, the entries that it leaves, and all calls until
then. -/
def Ends (l : Ledger) (work : Work Ledger.Cache α) (c : Ledger.Cache) (s : Recorded Memory)
    (r : Except Failure α) (entries : List LedgerEntry) (calls : List Call) : Prop :=
  ∃ c' s', Work.runOn Memory.server.recorded work c s = ((r, c'), s') ∧
    Holds l.table entries calls s'

/-- Work that succeeds with a value against any such connection; it sends some calls and changes the
entries in one way. -/
def Does (l : Ledger) (sent : List Call) (change : List LedgerEntry → List LedgerEntry)
    (work : Work Ledger.Cache α) (a : α) : Prop :=
  ∀ ⦃entries : List LedgerEntry⦄ ⦃calls : List Call⦄ ⦃s : Recorded Memory⦄,
    Holds l.table entries calls s → ∀ c : Ledger.Cache,
      Ends l work c s (.ok a) (change entries) (calls ++ sent)

/-- A statement without parameters. -/
def plain (sql : String) : Call := ⟨sql, []⟩

/-- The calls of a transaction: its start, some statements, one last call and the commit. -/
def Ledger.block (l : Ledger) (statements : List String) (last : Call) : List Call :=
  [plain (l.dialect.beginKeyword ++ ";")] ++ (statements.map plain ++ [last] ++ [plain "COMMIT;"])

namespace Does

variable {l : Ledger}

theorem pure (a : α) : Does l [] id (Pure.pure a) a := by
  intro entries calls s here c
  exact ⟨c, s, rfl, by simpa using here⟩

theorem modify (f : Ledger.Cache → Ledger.Cache) :
    Does l [] id (MonadState.modifyGet fun c => (⟨⟩, f c)) PUnit.unit := by
  intro entries calls s here c
  exact ⟨f c, s, rfl, by simpa using here⟩

theorem bind {first second : List Call} {f g : List LedgerEntry → List LedgerEntry}
    {x : Work Ledger.Cache α} {k : α → Work Ledger.Cache β} {a : α} {b : β}
    (one : Does l first f x a) (two : Does l second g (k a) b) :
    Does l (first ++ second) (g ∘ f) (x >>= k) b := by
  intro entries calls s here c
  obtain ⟨c₁, s₁, ran, between⟩ := one here c
  obtain ⟨c₂, s₂, ran₂, after⟩ := two between c₁
  refine ⟨c₂, s₂, ?_, ?_⟩
  · rw [Work.runOn_bind_ok ran, ran₂]
  · rw [← List.append_assoc]
    exact after

/-- What sends nothing and changes nothing may follow. -/
theorem silent {sent : List Call} {change : List LedgerEntry → List LedgerEntry}
    {x : Work Ledger.Cache α} {k : α → Work Ledger.Cache β} {a : α} {b : β}
    (one : Does l sent change x a) (rest : Does l [] id (k a) b) :
    Does l sent change (x >>= k) b := by
  have both := bind one rest
  rw [List.append_nil] at both
  exact both

theorem execute {sql : String} {params : List Value}
    {change : List LedgerEntry → List LedgerEntry}
    (effect : ∀ t : LedgerTable, t.table = l.table →
      ∃ hasBatch, t.after sql params = ⟨t.table, change t.entries, hasBatch⟩) :
    Does l [⟨sql, params⟩] change (Work.execute sql params) 1 := by
  rintro entries calls s ⟨hasBatch, rfl⟩ c
  obtain ⟨hasBatch', changed⟩ := effect ⟨l.table, entries, hasBatch⟩ rfl
  refine ⟨c, _, ?_, hasBatch', rfl⟩
  rw [Work.runOn_execute, Memory.execute_simulated, changed]

theorem other {sql : String} (insertion : ¬ StartsWith "INSERT INTO " sql)
    (deletion : ¬ StartsWith "DELETE FROM " sql) : Does l [plain sql] id (Work.execute sql []) 1 :=
  execute fun t _ =>
    have ⟨hasBatch, same, _⟩ := t.after_other [] insertion deletion
    ⟨hasBatch, same⟩

theorem schema {sql : String} (schema : IsSchemaStatement sql) :
    Does l [plain sql] id (Work.execute sql []) 1 :=
  other (schema.not_startsWith (by decide) (by decide) (by decide))
    (schema.not_startsWith (by decide) (by decide) (by decide))

/-- The statements of a script are sent one by one. -/
theorem sendAll {statements : List String} (schema : ∀ sql ∈ statements, IsSchemaStatement sql) :
    Does l (statements.map plain) id (sendAll statements) () := by
  induction statements with
  | nil => exact pure ()
  | cons sql rest ih =>
    intro entries calls s here c
    obtain ⟨c₁, s₁, sent, between⟩ := Does.schema (schema sql List.mem_cons_self) here c
    obtain ⟨c₂, s₂, others, after⟩ :=
      ih (fun sql member => schema sql (List.mem_cons_of_mem _ member)) between c₁
    refine ⟨c₂, s₂, ?_, ?_⟩
    · unfold Migration.sendAll
      rw [Work.runOn_bind_ok (Work.runOn_attempt sent)]
      exact others
    · rw [List.append_assoc] at after
      exact after

/-- A transaction sends its statements and the last call between its start and the commit. -/
theorem transact {statements : List String} {last : Work Ledger.Cache Unit} {call : Call}
    {change : List LedgerEntry → List LedgerEntry}
    (schema : ∀ sql ∈ statements, IsSchemaStatement sql) (final : Does l [call] change last ()) :
    Does l (l.block statements call) change (transact (l.dialect.wrap statements) last) () := by
  have start : Does l [plain (l.dialect.beginKeyword ++ ";")] id
      (Work.execute (l.dialect.beginKeyword ++ ";") []) 1 := by
    cases l.dialect <;> exact other (by decide) (by decide)
  have commit : Does l [plain "COMMIT;"] id (Work.execute "COMMIT;" []) 1 :=
    other (by decide) (by decide)
  have body : Does l (statements.map plain ++ [call]) change
      (Migration.sendAll statements *> last) () := bind (sendAll schema) final
  refine bind start ?_
  intro entries calls s here c
  obtain ⟨c₁, s₁, ran, between⟩ := body here c
  obtain ⟨c₂, s₂, ended, after⟩ := commit between c₁
  refine ⟨c₂, s₂, ?_, ?_⟩
  · dsimp only [Dialect.wrap]
    rw [Work.runOn_bind_ok (Work.runOn_attempt ran)]
    exact Work.runOn_bind_ok ended _
  · rw [List.append_assoc] at after
    exact after

theorem record (name : String) (batch : Int) :
    Does l [⟨l.recordStatement, [.text name, .int64 batch]⟩] (· ++ [⟨name, batch, none⟩])
      (l.record name batch) () := by
  have insertion : Does l [⟨l.recordStatement, [.text name, .int64 batch]⟩]
      (· ++ [⟨name, batch, none⟩])
      (Work.execute l.recordStatement [.text name, .int64 batch]) 1 :=
    execute fun t named => ⟨t.hasBatch, t.after_record named name batch⟩
  unfold Ledger.record
  refine silent insertion ?_
  exact modify _

theorem forget (name : String) :
    Does l [⟨l.forgetStatement, [.text name]⟩] (·.filter (·.migration != name))
      (discard (l.forget name)) () := by
  have deletion : Does l [⟨l.forgetStatement, [.text name]⟩] (·.filter (·.migration != name))
      (Work.execute l.forgetStatement [.text name]) 1 :=
    execute fun t named => ⟨t.hasBatch, t.after_forget named name⟩
  have removal : Does l [⟨l.forgetStatement, [.text name]⟩] (·.filter (·.migration != name))
      (l.forget name) 1 := by
    unfold Ledger.forget
    refine silent deletion ?_
    exact silent (modify _) (pure 1)
  exact silent (k := fun _ => Pure.pure ()) removal (pure ())

/-- A loop sends the calls of its rounds in order. -/
theorem forM {ι : Type} {step : ι → Work Ledger.Cache Unit} {calls : ι → List Call}
    {effect : List LedgerEntry → ι → List LedgerEntry} {items : List ι}
    (each : ∀ i ∈ items, Does l (calls i) (effect · i) (step i) ()) :
    Does l (items.flatMap calls) (items.foldl effect ·) (items.forM step) PUnit.unit := by
  induction items with
  | nil => exact pure _
  | cons i rest ih =>
    have one := each i List.mem_cons_self
    have others := ih fun j member => each j (List.mem_cons_of_mem _ member)
    rw [List.forM_eq_forM, List.forM_cons]
    exact bind (k := fun _ => rest.forM step) one others

end Does

namespace Ledger

variable {l : Ledger}

/-- The calls that make sure of the ledger table; the last one only if the column is missing. -/
def tableCheck (l : Ledger) (hasBatch : Bool) : List Call :=
  [plain l.createStatement, plain l.batchColumnQuery] ++
    if hasBatch then [] else [plain l.addBatchColumn]

/-- The call that asks for the names in the ledger, if there is a file to look for. -/
def nameCheck (l : Ledger) (names : List String) : List Call :=
  if names = [] then [] else [plain l.namesQuery]

theorem runOn_ensure_simulated (entries : List LedgerEntry) (hasBatch : Bool) (calls : List Call)
    (c : Cache) :
    ∃ s', Work.runOn Memory.server.recorded l.ensure c
        (Memory.simulated calls ⟨l.table, entries, hasBatch⟩) = ((.ok (), c), s') ∧
      Holds l.table entries (calls ++ l.tableCheck hasBatch) s' := by
  have created : (LedgerTable.after ⟨l.table, entries, hasBatch⟩ l.createStatement []) =
      ⟨l.table, entries, hasBatch⟩ :=
    LedgerTable.after_kept _ [] l.createStatement_start (by decide)
  unfold ensure
  simp only [Work.runOn_bind, Work.runOn_execute, Memory.execute_simulated, created,
    Work.runOn_fetch, Memory.fetch_simulated _ _ _ _ (LedgerTable.answer_batchColumnQuery l _)]
  cases hasBatch with
  | true =>
    refine ⟨_, rfl, true, ?_⟩
    simp [tableCheck, plain]
  | false =>
    obtain ⟨hasBatch', same, -⟩ := LedgerTable.after_other ⟨l.table, entries, false⟩ []
      (l.addBatchColumn_schema.not_startsWith (by decide) (by decide) (by decide))
      (l.addBatchColumn_schema.not_startsWith (by decide) (by decide) (by decide))
    have missing : (Memory.ledgerRows (.batchColumn false)).isEmpty = true := rfl
    rw [if_pos missing, Work.runOn_bind, Work.runOn_execute, Memory.execute_simulated, same]
    refine ⟨_, rfl, hasBatch', ?_⟩
    simp [tableCheck, plain]

/-- The names are looked for once, and the batch is not yet known afterwards. -/
theorem runOn_split_simulated {entries : List LedgerEntry} {calls : List Call}
    {s : Recorded Memory} (here : Holds l.table entries calls s) (names : List String) :
    ∃ known s', Work.runOn Memory.server.recorded (Collection.split l names) {} s =
        ((.ok (Collection.held (entries.map (·.migration)) names,
          Collection.pending (entries.map (·.migration)) names), ⟨none, known⟩), s') ∧
      Holds l.table entries (calls ++ l.nameCheck names) s' := by
  cases names with
  | nil => exact ⟨none, s, rfl, by simpa [nameCheck] using here⟩
  | cons name rest =>
    obtain ⟨hasBatch, rfl⟩ := here
    have asked := Memory.fetch_simulated calls _ _ _
      (LedgerTable.answer_namesQuery l ⟨l.table, entries, hasBatch⟩)
    obtain ⟨known, found, members⟩ := namesOfRows_texts (Memory.ledgerRows_names _)
    have check : l.nameCheck (name :: rest) = [plain l.namesQuery] := if_neg (List.cons_ne_nil _ _)
    rw [check]
    refine ⟨some known, _, ?_, hasBatch, rfl⟩
    rw [Collection.split_cons, Work.runOn_bind_ok (runOn_applied_ok asked found none),
      Work.runOn_pure, Collection.held_congr members, Collection.pending_congr members]
    rfl

/-- The batch is asked for as long as it is not known. -/
theorem runOn_nextBatch_simulated {entries : List LedgerEntry} {calls : List Call}
    {s : Recorded Memory} (here : Holds l.table entries calls s) (known : Option (List String)) :
    Ends l l.nextBatch ⟨none, known⟩ s (.ok ({ entries } : LedgerTable).nextBatch) entries
      (calls ++ [plain l.nextBatchQuery]) := by
  obtain ⟨hasBatch, rfl⟩ := here
  have asked := Memory.fetch_simulated calls _ _ _
    (LedgerTable.answer_nextBatchQuery l ⟨l.table, entries, hasBatch⟩)
  refine ⟨⟨some ({ entries } : LedgerTable).nextBatch, known⟩, _, ?_, hasBatch, rfl⟩
  unfold nextBatch
  rw [Work.runOn_bind, Work.runOn_get]
  dsimp only
  rw [Work.runOn_bind, Work.runOn_fetch, asked]
  rfl

end Ledger

namespace Collection

variable (c : Collection) (files : Tree)

/-- The calls that apply a file. -/
def applyCalls (l : Ledger) (batch : Int) (file : String × Script) : List Call :=
  l.block file.2.statements ⟨l.recordStatement, [.text file.1, .int64 batch]⟩

/-- The calls that roll a file back. -/
def rollBackCalls (l : Ledger) (file : String × Script) : List Call :=
  l.block file.2.statements ⟨l.forgetStatement, [.text file.1]⟩

theorem does_applyScript {name : String} {script : Script} (batch : Int)
    (found : c.script files .up name = .ok script) :
    Does c.ledger (applyCalls c.ledger batch (name, script)) (· ++ [⟨name, batch, none⟩])
      (applyScript c.ledger batch (name, script)) () := by
  obtain ⟨statements, rfl, schema⟩ := script_schema found
  exact Does.transact schema (Does.record name batch)

theorem does_rollBackScript {name : String} {script : Script}
    (found : c.script files .down name = .ok script) :
    Does c.ledger (rollBackCalls c.ledger (name, script)) (·.filter (·.migration != name))
      (rollBackScript c.ledger (name, script)) () := by
  obtain ⟨statements, rfl, schema⟩ := script_schema found
  exact Does.transact schema (Does.forget name)

section

variable (entries : List LedgerEntry) (hasBatch : Bool) (calls : List Call) (names : List String)

/-- The calls with which every run over some files starts. -/
def openingCalls (l : Ledger) (hasBatch : Bool) (names : List String) : List Call :=
  l.tableCheck hasBatch ++ l.nameCheck names

/-- A run looks at its table and at its ledger, and goes on with what it has found. -/
theorem opening_simulated (l : Ledger) :
    ∃ known s₁, Holds l.table entries (calls ++ openingCalls l hasBatch names) s₁ ∧
      ∀ {β : Type} (k : List String × List String → Work Ledger.Cache β),
        Work.runOn Memory.server.recorded (do
            l.ensure
            let parts ← split l names
            k parts) {} (Memory.simulated calls ⟨l.table, entries, hasBatch⟩) =
          Work.runOn Memory.server.recorded (k (held (entries.map (·.migration)) names,
            pending (entries.map (·.migration)) names)) ⟨none, known⟩ s₁ := by
  obtain ⟨s₀, ensured, ready⟩ := Ledger.runOn_ensure_simulated (l := l) entries hasBatch calls {}
  obtain ⟨known, s₁, parted, found⟩ := Ledger.runOn_split_simulated ready names
  rw [List.append_assoc] at found
  refine ⟨known, s₁, found, fun k => ?_⟩
  rw [Work.runOn_bind_ok ensured, Work.runOn_bind_ok parted]

variable {entries hasBatch calls names}

theorem ends_after_opening {l : Ledger} {k : List String × List String → Work Ledger.Cache α}
    {r : Except Failure α} {entries' : List LedgerEntry} {calls' : List Call}
    (rest : ∀ known s₁, Holds l.table entries (calls ++ openingCalls l hasBatch names) s₁ →
      Ends l (k (held (entries.map (·.migration)) names,
        pending (entries.map (·.migration)) names)) ⟨none, known⟩ s₁ r entries' calls') :
    Ends l (do
      l.ensure
      let parts ← split l names
      k parts) {} (Memory.simulated calls ⟨l.table, entries, hasBatch⟩) r entries' calls' := by
  obtain ⟨known, s₁, found, same⟩ := opening_simulated entries hasBatch calls names l
  obtain ⟨c', s', ended, after⟩ := rest known s₁ found
  exact ⟨c', s', (same k).trans ended, after⟩

variable (hasBatch calls)

/-- A run that lacks a script ends before it sends anything but its opening calls. -/
theorem applyFiles_uncompiled {e : Failure}
    (failed : c.scripts files .up (pending (entries.map (·.migration)) names) = .error e) :
    Ends c.ledger (c.applyFiles files names) {}
      (Memory.simulated calls ⟨c.table, entries, hasBatch⟩) (.error e) entries
      (calls ++ openingCalls c.ledger hasBatch names) := by
  refine ends_after_opening (l := c.ledger) fun known s₁ found => ?_
  have something : ¬ (pending (entries.map (·.migration)) names).isEmpty = true := by
    intro nothing
    rw [List.isEmpty_iff.mp nothing, scripts_nil] at failed
    cases failed
  refine ⟨⟨none, known⟩, s₁, ?_, found⟩
  dsimp only
  rw [if_neg something, failed]
  exact Work.runOn_bind_error (Work.runOn_ofResult _ _ _ _) _

private theorem recordings (scripts : List (String × Script)) (batch : Int)
    (entries : List LedgerEntry) :
    scripts.foldl (fun es file => es ++ [⟨file.1, batch, none⟩]) entries =
      entries ++ (scripts.map Prod.fst).map fun name => ⟨name, batch, none⟩ := by
  induction scripts generalizing entries with
  | nil => simp
  | cons file rest ih => simp [ih]

private theorem removals (scripts : List (String × Script)) (entries : List LedgerEntry) :
    scripts.foldl (fun es file => es.filter (·.migration != file.1)) entries =
      entries.filter (·.migration ∉ scripts.map Prod.fst) := by
  induction scripts generalizing entries with
  | nil => simp
  | cons file rest ih =>
    rw [List.foldl_cons, ih, List.filter_filter]
    refine List.filter_congr fun entry _ => ?_
    rw [List.map_cons]
    by_cases same : entry.migration = file.1
    · simp [same]
    · simp only [List.mem_cons, same, false_or, bne_iff_ne.mpr same, Bool.and_true]

/-- A run that has all scripts sends them, and records their files in one batch. -/
theorem applyFiles_compiled {scripts : List (String × Script)}
    (compiled : c.scripts files .up (pending (entries.map (·.migration)) names) = .ok scripts) :
    let todo := pending (entries.map (·.migration)) names
    let batch := ({ entries } : LedgerTable).nextBatch
    Ends c.ledger (c.applyFiles files names) {}
      (Memory.simulated calls ⟨c.table, entries, hasBatch⟩)
      (.ok ⟨todo, held (entries.map (·.migration)) names, if todo = [] then none else some batch⟩)
      (entries ++ todo.map fun name => ⟨name, batch, none⟩)
      (calls ++ openingCalls c.ledger hasBatch names ++ if todo = [] then [] else
        plain c.ledger.nextBatchQuery :: scripts.flatMap (applyCalls c.ledger batch)) := by
  intro todo batch
  refine ends_after_opening (l := c.ledger) fun known s₁ found => ?_
  dsimp only
  by_cases nothing : todo = []
  · have empty : (pending (entries.map (·.migration)) names).isEmpty = true :=
      List.isEmpty_iff.mpr nothing
    rw [if_pos empty, if_pos nothing, if_pos nothing, nothing, List.map_nil, List.append_nil,
      List.append_nil]
    exact ⟨_, s₁, rfl, found⟩
  · have something : ¬ (pending (entries.map (·.migration)) names).isEmpty = true :=
      mt List.isEmpty_iff.mp nothing
    rw [if_neg something, if_neg nothing, if_neg nothing, compiled]
    have each : ∀ file ∈ scripts, Does c.ledger (applyCalls c.ledger batch file)
        ((fun es file => es ++ [⟨file.1, batch, none⟩]) · file)
        (applyScript c.ledger batch file) () := fun file member =>
      does_applyScript c files batch (script_of_mem compiled file member)
    obtain ⟨c₂, s₂, numbered, counted⟩ := Ledger.runOn_nextBatch_simulated found known
    obtain ⟨c₃, s₃, looped, after⟩ := Does.forM each counted c₂
    refine ⟨c₃, s₃, ?_, ?_⟩
    · rw [Work.runOn_bind_ok (Work.runOn_ofResult _ _ _ _), Work.runOn_bind_ok numbered,
        Work.runOn_bind_ok looped, Work.runOn_pure]
    · dsimp only at after
      rw [recordings, names_of_scripts compiled, List.append_assoc] at after
      exact after

/-- A run back that lacks a script ends before it sends anything but its opening calls. -/
theorem rollBackFiles_uncompiled {e : Failure}
    (failed : c.scripts files .down (held (entries.map (·.migration)) names) = .error e) :
    Ends c.ledger (c.rollBackFiles files names) {}
      (Memory.simulated calls ⟨c.table, entries, hasBatch⟩) (.error e) entries
      (calls ++ openingCalls c.ledger hasBatch names) := by
  refine ends_after_opening (l := c.ledger) fun known s₁ found => ?_
  refine ⟨⟨none, known⟩, s₁, ?_, found⟩
  dsimp only
  rw [failed]
  exact Work.runOn_bind_error (Work.runOn_ofResult _ _ _ _) _

/-- A run back that has all scripts sends them, and removes the rows of their files. -/
theorem rollBackFiles_compiled {scripts : List (String × Script)}
    (compiled : c.scripts files .down (held (entries.map (·.migration)) names) = .ok scripts) :
    let done := held (entries.map (·.migration)) names
    Ends c.ledger (c.rollBackFiles files names) {}
      (Memory.simulated calls ⟨c.table, entries, hasBatch⟩)
      (.ok ⟨done, pending (entries.map (·.migration)) names⟩)
      (entries.filter (·.migration ∉ done))
      (calls ++ openingCalls c.ledger hasBatch names ++
        scripts.flatMap (rollBackCalls c.ledger)) := by
  intro done
  refine ends_after_opening (l := c.ledger) fun known s₁ found => ?_
  dsimp only
  rw [compiled]
  have each : ∀ file ∈ scripts, Does c.ledger (rollBackCalls c.ledger file)
      ((fun es file => es.filter (·.migration != file.1)) · file)
      (rollBackScript c.ledger file) () := fun file member =>
    does_rollBackScript c files (script_of_mem compiled file member)
  obtain ⟨c₂, s₂, looped, after⟩ := Does.forM each found ⟨none, known⟩
  refine ⟨c₂, s₂, ?_, ?_⟩
  · rw [Work.runOn_bind_ok (Work.runOn_ofResult _ _ _ _), Work.runOn_bind_ok looped,
      Work.runOn_pure]
  · dsimp only at after
    rw [removals, names_of_scripts compiled] at after
    exact after

end

/-- The file that the runs of the example are told to look at. -/
theorem sample_considered : sample.considered sampleFiles (some "1_a.json") = ["1_a.json"] := by
  decide +kernel

end Collection

end SchemaSeed.Migration

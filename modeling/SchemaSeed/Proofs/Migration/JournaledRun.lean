import Mathlib
import SchemaSeed.Proofs.Migration.Alternation
import SchemaSeed.Proofs.Migration.Pending

/-!
Runs against a connection with a journal, whichever of their calls are refused: which events each
part of a run enters, and what it leaves in the ledger.
-/

set_option autoImplicit false
set_option relaxedAutoImplicit false

namespace SchemaSeed.Migration

open SchemaSeed.Sql SchemaSeed.Server

variable {α : Type}

/-- A server whose ledger holds rows for some names. -/
def Stands (l : Ledger) (names : List String) (s : Journaled) : Prop :=
  ∃ t, s.Shows t ∧ t.table = l.table ∧ t.names = names

/-- What goes on between two states leaves the ledger alone. -/
def Calm (l : Ledger) (s s' : Journaled) : Prop :=
  ∀ ⦃names : List String⦄, Stands l names s →
    ∃ events, s'.journal = s.journal ++ events ∧ Stands l names s' ∧ Quiet l.table names events

section

variable (l : Ledger)

instance : Std.Refl (Calm l) :=
  ⟨fun _ _ here => ⟨[], (List.append_nil _).symm, here, by simp [Quiet]⟩⟩

instance : IsTrans Journaled (Calm l) where
  trans s₁ s₂ s₃ first second names here := by
    obtain ⟨events, entered, there, quiet⟩ := first here
    obtain ⟨later, entered', end_, quiet'⟩ := second there
    exact ⟨events ++ later, by rw [entered', entered, List.append_assoc], end_,
      quiet.append quiet'⟩

variable {l} {s s' : Journaled} {names : List String}

/-- A statement that asks for no change is entered, and leaves the names as they are. -/
theorem execute_quiet {sql : String} {params : List Value} {r : Except Failure Nat}
    (none : LedgerTable.change? l.table ⟨sql, params⟩ = none)
    (met : Journaled.server.execute sql params s = (r, s')) (here : Stands l names s) :
    s'.journal = s.journal ++ [⟨⟨sql, params⟩, r.isOk, names⟩] ∧ Stands l names s' := by
  obtain ⟨t, shows_, named, rfl⟩ := here
  obtain ⟨t', after, entered, ⟨-, rfl⟩ | ⟨-, rfl⟩⟩ := Journaled.execute_shows met shows_
  · exact ⟨entered, t', after, named, rfl⟩
  · obtain ⟨table, same⟩ := t.after_of_change_none (named ▸ none)
    exact ⟨same ▸ entered, _, after, table.trans named, same⟩

theorem fetch_quiet {sql : String} {params : List Value} {r : Except Failure (List Row)}
    (none : LedgerTable.change? l.table ⟨sql, params⟩ = none)
    (met : Journaled.server.fetch sql params s = (r, s')) (here : Stands l names s) :
    s'.journal = s.journal ++ [⟨⟨sql, params⟩, r.isOk, names⟩] ∧ Stands l names s' := by
  obtain ⟨t, shows_, named, rfl⟩ := here
  obtain ⟨t', after, entered, ⟨-, rfl⟩ | ⟨-, rfl⟩⟩ := Journaled.fetch_shows met shows_
  · exact ⟨entered, t', after, named, rfl⟩
  · obtain ⟨table, same⟩ := t.after_of_change_none (named ▸ none)
    exact ⟨same ▸ entered, _, after, table.trans named, same⟩

private theorem quiet_singleton (names : List String) {call : Call}
    (none : LedgerTable.change? l.table call = none) (accepted : Bool) :
    Quiet l.table names [⟨call, accepted, names⟩] := by
  intro e member
  obtain rfl := List.mem_singleton.mp member
  exact ⟨by unfold Event.change?; rw [none, ite_self], rfl⟩

theorem calm_execute {sql : String} {params : List Value}
    (none : LedgerTable.change? l.table ⟨sql, params⟩ = none) :
    Work.Steps Journaled.server (Calm l) (Work.execute sql params : Work Ledger.Cache Nat) :=
  Work.steps_execute fun _ _ here =>
    have ⟨entered, there⟩ := execute_quiet none rfl here
    ⟨_, entered, there, quiet_singleton _ none _⟩

theorem calm_fetch {sql : String} {params : List Value}
    (none : LedgerTable.change? l.table ⟨sql, params⟩ = none) :
    Work.Steps Journaled.server (Calm l) (Work.fetch sql params : Work Ledger.Cache (List Row)) :=
  Work.steps_fetch fun _ _ here =>
    have ⟨entered, there⟩ := fetch_quiet none rfl here
    ⟨_, entered, there, quiet_singleton _ none _⟩

/-- What a run does before it looks at its files leaves the ledger alone. -/
theorem calm_ensure : Work.Steps Journaled.server (Calm l) l.ensure := by
  refine Work.steps_bind (calm_execute (LedgerTable.change_schema _ l.createStatement_schema))
    fun _ => Work.steps_bind (calm_fetch (LedgerTable.change_query l (by simp))) fun columns => ?_
  by_cases missing : columns.isEmpty = true
  · rw [if_pos missing]
    exact Work.steps_bind (calm_execute (LedgerTable.change_schema _ l.addBatchColumn_schema))
      fun _ => Work.steps_pure ()
  · rw [if_neg missing]
    exact Work.steps_pure ()

theorem calm_nextBatch : Work.Steps Journaled.server (Calm l) l.nextBatch := by
  refine Work.steps_bind Work.steps_get fun cache => ?_
  cases cache.batch with
  | some batch => exact Work.steps_pure batch
  | none =>
    refine Work.steps_bind (calm_fetch (LedgerTable.change_query l (by simp))) fun rows => ?_
    refine Work.steps_bind (Work.steps_ofResult _) fun batch => ?_
    exact Work.steps_bind (Work.steps_modify _) fun _ => Work.steps_pure batch

/-- The names that are answered are those of the rows, and asking for them leaves them alone. -/
theorem split_stands {files : List String} {c' : Ledger.Cache}
    {r : Except Failure (List String × List String)}
    (ran : Work.runOn Journaled.server (Collection.split l files) {} s = ((r, c'), s'))
    (here : Stands l names s) :
    (∃ events, s'.journal = s.journal ++ events ∧ Stands l names s' ∧
      Quiet l.table names events) ∧
      ∀ parts, r = .ok parts →
        parts = (Collection.held names files, Collection.pending names files) := by
  cases files with
  | nil =>
    obtain ⟨⟨rfl, -⟩, rfl⟩ : (.ok ([], []) = r ∧ {} = c') ∧ s = s' := by
      simpa [Collection.split] using ran
    exact ⟨Std.Refl.refl (r := Calm l) s here, fun parts found => (Except.ok.inj found).symm⟩
  | cons file rest =>
    have none : LedgerTable.change? l.table ⟨l.namesQuery, []⟩ = none :=
      LedgerTable.change_query l (by simp)
    rw [Collection.split_cons] at ran
    rcases asked : Journaled.server.fetch l.namesQuery [] s with ⟨answer, s₁⟩
    obtain ⟨entered, there⟩ := fetch_quiet none asked here
    have calm : ∃ events, s₁.journal = s.journal ++ events ∧ Stands l names s₁ ∧
        Quiet l.table names events := ⟨_, entered, there, quiet_singleton _ none _⟩
    obtain ⟨t, shows_, named, rfl⟩ := here
    obtain ⟨t', -, -, ⟨⟨e, rfl⟩, -⟩ | ⟨rfl, -⟩⟩ := Journaled.fetch_shows asked shows_
    · rw [Work.runOn_bind_error (Ledger.runOn_applied_error asked _)] at ran
      obtain ⟨⟨rfl, -⟩, rfl⟩ : (.error e = r ∧ _ = c') ∧ s₁ = s' := by simpa using ran
      exact ⟨calm, by simp⟩
    · have answered := Memory.respond_query t l.namesQuery [] (LedgerTable.answer_namesQuery l t)
      rw [answered] at asked
      obtain ⟨known, found, members⟩ :=
        Ledger.namesOfRows_texts (Memory.ledgerRows_names t.names)
      rw [Work.runOn_bind_ok (Ledger.runOn_applied_ok asked found _)] at ran
      obtain ⟨⟨rfl, -⟩, rfl⟩ : (.ok (Collection.held known (file :: rest),
          Collection.pending known (file :: rest)) = r ∧ _ = c') ∧ s₁ = s' := by
        simpa using ran
      refine ⟨calm, fun parts done => ?_⟩
      rw [← Except.ok.inj done, Collection.held_congr members, Collection.pending_congr members]

/-- The statements of a script are entered up to the first that is refused, and leave the ledger
alone. -/
theorem sendAll_enters {statements : List String} {c c' : Ledger.Cache} {r : Except Failure Unit}
    (schema : ∀ sql ∈ statements, IsSchemaStatement sql)
    (ran : Work.runOn Journaled.server (sendAll statements) c s = ((r, c'), s'))
    (here : Stands l names s) :
    ∃ events, s'.journal = s.journal ++ events ∧ Stands l names s' ∧ Quiet l.table names events ∧
      ∀ a, r = .ok a →
        events.map Event.call = statements.map plain ∧ ∀ e ∈ events, e.accepted = true := by
  induction statements generalizing s c with
  | nil =>
    obtain ⟨-, rfl⟩ : (.ok () = r ∧ c = c') ∧ s = s' := by simpa [sendAll] using ran
    exact ⟨[], (List.append_nil _).symm, here, by simp [Quiet], by simp⟩
  | cons sql rest ih =>
    have none : LedgerTable.change? l.table ⟨sql, []⟩ = none :=
      LedgerTable.change_schema [] (schema sql List.mem_cons_self)
    rcases sent : Work.runOn Journaled.server (Work.execute sql []) c s with ⟨⟨answer, c₁⟩, s₁⟩
    obtain ⟨answered, rfl⟩ := Work.of_runOn_execute sent
    obtain ⟨entered, there⟩ := execute_quiet none answered here
    have one := quiet_singleton names none answer.isOk
    unfold sendAll at ran
    rw [Work.runOn_bind_ok (Work.runOn_attempt sent)] at ran
    cases answer with
    | error e =>
      obtain ⟨⟨rfl, -⟩, rfl⟩ : (.error (attachStatement sql e) = r ∧ c = c') ∧ s₁ = s' := by
        simpa using ran
      exact ⟨_, entered, there, one, by simp⟩
    | ok n =>
      obtain ⟨events, entered', end_, quiet, all⟩ :=
        ih (fun sql member => schema sql (List.mem_cons_of_mem _ member)) ran there
      refine ⟨_, by rw [entered', entered, List.append_assoc], end_, one.append quiet, ?_⟩
      intro a done
      obtain ⟨calls, accepted⟩ := all a done
      exact ⟨by rw [List.map_append, calls]; rfl,
        List.forall_mem_append.mpr ⟨by simp [Except.isOk, Except.toBool], accepted⟩⟩

/-- Work that sends one call, which asks for a change of the ledger: the change is made if the call
is accepted. -/
def Changes (l : Ledger) (direction : Direction) (name : String) (work : Work Ledger.Cache α) :
    Prop :=
  ∀ ⦃c c' : Ledger.Cache⦄ ⦃s s' : Journaled⦄ ⦃r : Except Failure α⦄ ⦃names : List String⦄,
    Work.runOn Journaled.server work c s = ((r, c'), s') → Stands l names s →
      ∃ e, s'.journal = s.journal ++ [e] ∧
        ((∃ f, r = .error f) ∧ Stands l names s' ∧ e.change? l.table = none ∧ e.names = names ∨
          (∃ a, r = .ok a) ∧ Stands l (changed direction name names) s' ∧
            e.change? l.table = some (direction, name) ∧ e.names = changed direction name names)

variable {direction : Direction} {name : String}

theorem changes_execute {sql : String} {params : List Value}
    (change : LedgerTable.change? l.table ⟨sql, params⟩ = some (direction, name))
    (effect : ∀ t : LedgerTable, t.table = l.table → (t.after sql params).table = t.table ∧
      (t.after sql params).names = changed direction name t.names) :
    Changes l direction name (Work.execute sql params) := by
  intro c c' s s' r names ran here
  obtain ⟨answered, rfl⟩ := Work.of_runOn_execute ran
  obtain ⟨t, shows_, named, rfl⟩ := here
  obtain ⟨t', after, entered, ⟨⟨f, rfl⟩, rfl⟩ | ⟨rfl, rfl⟩⟩ :=
    Journaled.execute_shows answered shows_
  · exact ⟨_, entered, .inl ⟨⟨f, rfl⟩, ⟨t', after, named, rfl⟩, rfl, rfl⟩⟩
  · obtain ⟨table, same⟩ := effect t named
    exact ⟨_, entered, .inr ⟨⟨1, rfl⟩, ⟨_, after, table.trans named, same⟩, change, same⟩⟩

/-- What meets no server may follow a change. -/
theorem Changes.bind {β : Type} {x : Work Ledger.Cache α} {k : α → Work Ledger.Cache β}
    (first : Changes l direction name x)
    (rest : ∀ a c s, ∃ b c', Work.runOn Journaled.server (k a) c s = ((.ok b, c'), s)) :
    Changes l direction name (x >>= k) := by
  intro c c' s s' r names ran here
  rcases Work.runOn_bind_cases ran with ⟨f, failed, rfl⟩ | ⟨a, c₁, s₁, done, ran⟩
  · obtain ⟨e, entered, ⟨-, kept⟩ | ⟨⟨a, nonsense⟩, -⟩⟩ := first failed here
    · exact ⟨e, entered, .inl ⟨⟨f, rfl⟩, kept⟩⟩
    · cases nonsense
  · obtain ⟨e, entered, ⟨⟨f, nonsense⟩, -⟩ | ⟨-, made⟩⟩ := first done here
    · cases nonsense
    · obtain ⟨b, c₂, same⟩ := rest a c₁ s₁
      obtain ⟨⟨rfl, -⟩, rfl⟩ : (.ok b = r ∧ c₂ = c') ∧ s₁ = s' := by simpa using same.symm.trans ran
      exact ⟨e, entered, .inr ⟨⟨b, rfl⟩, made⟩⟩

theorem changes_record (name : String) (batch : Int) :
    Changes l .up name (l.record name batch) := by
  have insertion : Changes l .up name
      (Work.execute l.recordStatement [.text name, .int64 batch]) := by
    refine changes_execute (LedgerTable.change_record l name batch) fun t named => ?_
    rw [t.after_record named]
    exact ⟨rfl, List.map_append⟩
  exact insertion.bind fun _ c s => ⟨_, _, Work.runOn_modify _ c s _⟩

theorem changes_forget (name : String) : Changes l .down name (discard (l.forget name)) := by
  have deletion : Changes l .down name (Work.execute l.forgetStatement [.text name]) := by
    refine changes_execute (LedgerTable.change_forget l name) fun t named => ?_
    rw [t.after_forget named]
    refine ⟨rfl, ?_⟩
    simp only [LedgerTable.names, changed, List.filter_map]
    rfl
  have removal : Changes l .down name (l.forget name) :=
    deletion.bind fun removed c s => ⟨removed, _, rfl⟩
  exact removal.bind fun _ c s => ⟨(), c, rfl⟩

/-- The statements of a script and the change of the ledger after them: if the change was made, the
statements before it were accepted. -/
private theorem body_enters {statements : List String} {last : Work Ledger.Cache Unit}
    {c c' : Ledger.Cache} {r : Except Failure Unit}
    (schema : ∀ sql ∈ statements, IsSchemaStatement sql) (final : Changes l direction name last)
    (ran : Work.runOn Journaled.server (sendAll statements *> last) c s = ((r, c'), s'))
    (here : Stands l names s) :
    ∃ events, s'.journal = s.journal ++ events ∧
      ((∃ f, r = .error f) ∧ Stands l names s' ∧ Quiet l.table names events ∨
        (∃ a, r = .ok a) ∧ Stands l (changed direction name names) s' ∧
          ∃ sent e, events = sent ++ [e] ∧ Quiet l.table names sent ∧
            sent.map Event.call = statements.map plain ∧ (∀ e ∈ sent, e.accepted = true) ∧
            e.change? l.table = some (direction, name) ∧
            e.names = changed direction name names) := by
  rcases Work.runOn_bind_cases ran with ⟨f, failed, rfl⟩ | ⟨a, c₁, s₁, done, ran⟩
  · obtain ⟨events, entered, there, quiet, -⟩ := sendAll_enters schema failed here
    exact ⟨events, entered, .inl ⟨⟨f, rfl⟩, there, quiet⟩⟩
  · obtain ⟨sent, entered, there, quiet, all⟩ := sendAll_enters schema done here
    obtain ⟨calls, accepted⟩ := all a rfl
    obtain ⟨e, entered', ⟨failed, kept, none, same⟩ | ⟨ok, made, change, after⟩⟩ := final ran there
    · refine ⟨sent ++ [e], by rw [entered', entered, List.append_assoc], .inl ⟨failed, kept, ?_⟩⟩
      exact quiet.append (List.forall_mem_singleton.mpr ⟨none, same⟩)
    · exact ⟨sent ++ [e], by rw [entered', entered, List.append_assoc],
        .inr ⟨ok, made, sent, e, rfl, quiet, calls, accepted, change, after⟩⟩

/-- A transaction enters its start and its statements, and then the change of the ledger, or it
stops before that. If it succeeds, the change was made. -/
theorem transact_enters {statements : List String} {last : Work Ledger.Cache Unit}
    {c c' : Ledger.Cache} {r : Except Failure Unit}
    (schema : ∀ sql ∈ statements, IsSchemaStatement sql) (final : Changes l direction name last)
    (ran : Work.runOn Journaled.server (transact (l.dialect.wrap statements) last) c s =
      ((r, c'), s'))
    (here : Stands l names s) :
    ∃ events names', s'.journal = s.journal ++ events ∧ Stands l names' s' ∧
      Sent l statements direction name names events names' ∧
      ∀ a, r = .ok a → names' = changed direction name names := by
  have around (d : Dialect) : ∀ sql ∈ [d.beginKeyword ++ ";", "COMMIT;", "ROLLBACK;"],
      LedgerTable.change? l.table ⟨sql, []⟩ = none := by
    intro sql member
    cases d <;> fin_cases member <;> exact LedgerTable.change_other [] (by decide) (by decide)
  have start := around l.dialect (l.dialect.beginKeyword ++ ";") (by simp)
  have commit := around l.dialect "COMMIT;" (by simp)
  have rollback := around l.dialect "ROLLBACK;" (by simp)
  unfold transact at ran
  dsimp only [Dialect.wrap] at ran
  rcases Work.runOn_bind_cases ran with ⟨f, refused, rfl⟩ | ⟨n, c₁, s₁, started, ran⟩
  · obtain ⟨entered, there⟩ := execute_quiet start (Work.of_runOn_execute refused).1 here
    exact ⟨_, names, entered, there, .unchanged (quiet_singleton _ start _), by simp⟩
  obtain ⟨answered, rfl⟩ := Work.of_runOn_execute started
  obtain ⟨entered, there⟩ := execute_quiet start answered here
  have opening := quiet_singleton names start true
  rcases body : Work.runOn Journaled.server (sendAll statements *> last) c s₁ with
    ⟨⟨answer, c₂⟩, s₂⟩
  rw [Work.runOn_bind_ok (Work.runOn_attempt body)] at ran
  obtain ⟨events, entered₂, ⟨⟨f, rfl⟩, there₂, quiet⟩ |
    ⟨⟨a, rfl⟩, made, sent, e, rfl, quiet, calls, accepted, change, after⟩⟩ :=
    body_enters schema final body there
  · -- the transaction is rolled back, and the rollback may be refused as well
    rcases undo : Work.runOn Journaled.server (Work.execute "ROLLBACK;" []) c₂ s₂ with
      ⟨⟨answer, c₃⟩, s₃⟩
    obtain ⟨undone, rfl⟩ := Work.of_runOn_execute undo
    dsimp only at ran
    rw [Work.runOn_bind_ok (Work.runOn_attempt undo)] at ran
    obtain ⟨⟨rfl, -⟩, rfl⟩ : (.error f = r ∧ c₂ = c') ∧ s₃ = s' := by simpa using ran
    obtain ⟨entered₃, there₃⟩ := execute_quiet rollback undone there₂
    refine ⟨_, names, ?_, there₃,
      .unchanged ((opening.append quiet).append (quiet_singleton _ rollback answer.isOk)), by simp⟩
    rw [entered₃, entered₂, entered]
    simp only [List.append_assoc]
    rfl
  · -- the change stays, whether or not the commit is accepted
    have committed : ∃ accepted, s'.journal = s₂.journal ++ [⟨plain "COMMIT;", accepted, e.names⟩] ∧
        Stands l e.names s' := by
      rw [← after] at made
      dsimp only at ran
      rcases Work.runOn_bind_cases ran with ⟨f, refused, rfl⟩ | ⟨n, c₃, s₃, published, ran⟩
      · exact ⟨_, execute_quiet commit (Work.of_runOn_execute refused).1 made⟩
      · obtain ⟨-, rfl⟩ : (.ok () = r ∧ c₃ = c') ∧ s₃ = s' := by simpa using ran
        exact ⟨_, execute_quiet commit (Work.of_runOn_execute published).1 made⟩
    obtain ⟨answer, entered₃, there₃⟩ := committed
    have block : Sent l statements direction name names
        (([⟨⟨l.dialect.beginKeyword ++ ";", []⟩, true, names⟩] ++ sent) ++
          e :: [⟨plain "COMMIT;", answer, e.names⟩]) e.names := by
      refine .changed (opening.append quiet) ?_ ?_ change after (quiet_singleton _ commit answer)
      · rw [List.map_append, calls]
        rfl
      · exact List.forall_mem_append.mpr ⟨by simp, accepted⟩
    refine ⟨_, e.names, ?_, there₃, block, fun _ _ => after⟩
    rw [entered₃, entered₂, entered]
    simp only [List.append_assoc]
    rfl

/-- Making sure of the table does not touch what a run knows of the ledger. -/
theorem runOn_ensure_cache {σ : Type} {server : Server σ} {s s' : σ} {c c' : Ledger.Cache}
    {r : Except Failure Unit} (ran : Work.runOn server l.ensure c s = ((r, c'), s')) : c = c' := by
  have sent {sql : String} {c c' : Ledger.Cache} {s s' : σ} {r : Except Failure Nat}
      (ran : Work.runOn server (Work.execute sql []) c s = ((r, c'), s')) : c = c' :=
    (Work.of_runOn_execute ran).2
  unfold Ledger.ensure at ran
  rcases Work.runOn_bind_cases ran with ⟨f, failed, -⟩ | ⟨n, c₁, s₁, created, ran⟩
  · exact sent failed
  obtain rfl := sent created
  rcases Work.runOn_bind_cases ran with ⟨f, failed, -⟩ | ⟨columns, c₂, s₂, asked, ran⟩
  · exact (Prod.mk.inj (Prod.mk.inj failed).1).2
  obtain rfl : c = c₂ := (Prod.mk.inj (Prod.mk.inj asked).1).2
  by_cases missing : columns.isEmpty = true
  · rw [if_pos missing] at ran
    rcases Work.runOn_bind_cases ran with ⟨f, failed, -⟩ | ⟨n, c₃, s₃, repaired, ran⟩
    · exact sent failed
    · obtain rfl := sent repaired
      exact (Prod.mk.inj (Prod.mk.inj ran).1).2
  · rw [if_neg missing] at ran
    exact (Prod.mk.inj (Prod.mk.inj ran).1).2

end

end SchemaSeed.Migration

import Mathlib
import SchemaSeed.Proofs.Migration.JournaledRun

/-!
What a ledger remembers agrees with its table, whatever is asked of it and whichever calls are
refused, as long as nobody else writes the table. What one operation does is told by whether the
answer is remembered already, and otherwise by whether its call is accepted.
-/

set_option autoImplicit false
set_option relaxedAutoImplicit false

namespace SchemaSeed.Migration

open SchemaSeed.Sql SchemaSeed.Server

variable {α β : Type}

namespace Ledger

/-- Something that a ledger can be asked for. -/
inductive Action where
  | ensure
  | applied
  | isApplied (name : String)
  | record (name : String) (batch : Int)
  | forget (name : String)
  | nextBatch
  | entries

/-- What an operation answers. -/
inductive Reply where
  | done
  | names (names : List String)
  | held (held : Bool)
  | removed (rows : Nat)
  | batch (batch : Int)
  | entries (entries : List LedgerEntry)

/-- The work of an operation, with its answer as a reply. -/
def perform (l : Ledger) : Action → Work Cache Reply
  | .ensure => do let _ ← l.ensure; return .done
  | .applied => do return .names (← l.applied)
  | .isApplied name => do return .held (← l.isApplied name)
  | .record name batch => do let _ ← l.record name batch; return .done
  | .forget name => do return .removed (← l.forget name)
  | .nextBatch => do return .batch (← l.nextBatch)
  | .entries => do return .entries (← l.entries)

/-- An operation that is asked for, with the failure that each of its calls is refused with, if it
is. -/
structure Request where
  action : Action
  refusals : List (Option Failure) := []

/-- An operation that was performed: its reply, its calls as the server met them, and the server
after it. -/
structure Step where
  action : Action
  reply : Except Failure Reply
  events : List Event
  memory : Memory

/-- Performs an operation. -/
def meet (l : Ledger) (request : Request) (k : Cache) (memory : Memory) : Step × Cache :=
  let ((reply, k'), s) := Work.runOn Journaled.server (l.perform request.action) k
    { refusals := request.refusals, memory }
  (⟨request.action, reply, s.journal, s.memory⟩, k')

/-- Performs operations one after the other. -/
def steps (l : Ledger) : List Request → Cache → Memory → List Step
  | [], _, _ => []
  | request :: rest, k, memory =>
    let (step, k') := l.meet request k memory
    step :: steps l rest k' step.memory

/-- What an operation tells by the names in the ledger, if it tells of nothing else. -/
def Action.tells? : Action → Option (List String → Reply)
  | .applied => some .names
  | .isApplied name => some fun names => .held (names.contains name)
  | _ => none

/-- The call of an operation that changes the names in the ledger, and the change. -/
def Action.writes? (l : Ledger) : Action → Option (Call × (List String → List String))
  | .record name batch =>
    some (⟨l.recordStatement, [.text name, .int64 batch]⟩, addName name)
  | .forget name => some (⟨l.forgetStatement, [.text name]⟩, (·.filter (· != name)))
  | _ => none

/-- What an operation does to a cache and to the names in the ledger, by the answer to its call. -/
inductive Performs (l : Ledger) :
    Action → Cache → List String → Except Failure Reply → List Event → Cache → List String → Prop
  | known {act : Action} {tell : List String → Reply} {k : Cache} {names known : List String} :
      act.tells? = some tell → k.applied = some known →
        Performs l act k names (.ok (tell known)) [] k names
  | read {act : Action} {tell : List String → Reply} {k : Cache} {names known : List String} :
      act.tells? = some tell → k.applied = none → (∀ name, name ∈ known ↔ name ∈ names) →
        Performs l act k names (.ok (tell known)) [⟨plain l.namesQuery, true, names⟩]
          { k with applied := some known } names
  | unread {act : Action} {tell : List String → Reply} {k : Cache} {names : List String}
      {e : Failure} : act.tells? = some tell → k.applied = none →
        Performs l act k names (.error e) [⟨plain l.namesQuery, false, names⟩] k names
  | written {act : Action} {call : Call} {change : List String → List String} {k : Cache}
      {names names' : List String} {reply : Reply} : act.writes? l = some (call, change) →
      (∀ known : List String, (∀ name, name ∈ known ↔ name ∈ names) →
        ∀ name, name ∈ change known ↔ name ∈ names') →
        Performs l act k names (.ok reply) [⟨call, true, names'⟩]
          { k with applied := k.applied.map change } names'
  | unwritten {act : Action} {call : Call} {change : List String → List String} {k : Cache}
      {names : List String} {e : Failure} : act.writes? l = some (call, change) →
        Performs l act k names (.error e) [⟨call, false, names⟩] k names
  | numbered {k : Cache} {names : List String} {batch : Int} : k.batch = some batch →
      Performs l .nextBatch k names (.ok (.batch batch)) [] k names
  | asked {k : Cache} {names : List String} {batch : Int} : k.batch = none →
      Performs l .nextBatch k names (.ok (.batch batch)) [⟨plain l.nextBatchQuery, true, names⟩]
        { k with batch := some batch } names
  | unasked {k : Cache} {names : List String} {e : Failure} : k.batch = none →
      Performs l .nextBatch k names (.error e) [⟨plain l.nextBatchQuery, false, names⟩] k names
  | aside {act : Action} {k : Cache} {names : List String} {r : Except Failure Reply}
      {events : List Event} : act.tells? = none → act.writes? l = none → act ≠ .nextBatch →
      (∀ e ∈ events, e.call ≠ plain l.namesQuery ∧ e.call ≠ plain l.nextBatchQuery) →
        Performs l act k names r events k names

section

variable {l : Ledger} {k k' : Cache} {s s' : Journaled} {names : List String}

/-- Asking for the names sends the query unless they are known. -/
private theorem performs_reading {act : Action} {tell : List String → Reply}
    {r : Except Failure (List String)} (tells : act.tells? = some tell)
    (ran : Work.runOn Journaled.server l.applied k s = ((r, k'), s')) (here : Stands l names s) :
    ∃ events, s'.journal = s.journal ++ events ∧ Stands l names s' ∧
      l.Performs act k names (r.map tell) events k' names := by
  rcases k with ⟨batch, _ | known⟩
  · rcases asked : Journaled.server.fetch l.namesQuery [] s with ⟨answer, s₁⟩
    have none : LedgerTable.change? l.table ⟨l.namesQuery, []⟩ = none :=
      LedgerTable.change_query l (by simp)
    obtain ⟨entered, there⟩ := fetch_quiet none asked here
    obtain ⟨t, shows_, named, rfl⟩ := here
    obtain ⟨t', -, -, ⟨⟨e, rfl⟩, -⟩ | ⟨rfl, -⟩⟩ := Journaled.fetch_shows asked shows_
    · rw [runOn_applied_error asked] at ran
      obtain ⟨⟨rfl, rfl⟩, rfl⟩ : (.error e = r ∧ ⟨batch, Option.none⟩ = k') ∧ s₁ = s' := by
        simpa using ran
      exact ⟨_, entered, there, .unread tells rfl⟩
    · have answered := Memory.respond_query t l.namesQuery [] (LedgerTable.answer_namesQuery l t)
      rw [answered] at asked entered
      obtain ⟨known, found, members⟩ := namesOfRows_texts (Memory.ledgerRows_names t.names)
      rw [runOn_applied_ok asked found] at ran
      obtain ⟨⟨rfl, rfl⟩, rfl⟩ : (.ok known = r ∧ ⟨batch, some known⟩ = k') ∧ s₁ = s' := by
        simpa using ran
      exact ⟨_, entered, there, .read tells rfl members⟩
  · have same : ((Except.ok known, ({ batch, applied := some known } : Cache)), s) =
        ((r, k'), s') := ran
    cases same
    exact ⟨[], (List.append_nil _).symm, here, .known tells rfl⟩

/-- An operation that changes the names sends its call, and then brings the cache up to date. -/
private theorem perform_of_writes {act : Action} {call : Call}
    {change : List String → List String} (writes : act.writes? l = some (call, change)) :
    ∃ reply : Nat → Reply, l.perform act = (do
      let rows ← Work.execute call.sql call.params
      modify fun cache => { cache with applied := cache.applied.map change }
      return reply rows) := by
  cases act with
  | record name batch =>
    cases writes
    refine ⟨fun _ => .done, ?_⟩
    unfold perform record
    simp only [bind_assoc]
  | forget name =>
    cases writes
    refine ⟨.removed, ?_⟩
    unfold perform forget
    simp only [bind_assoc, pure_bind]
  | _ => cases writes

/-- An operation that changes the names leaves the cache alone if its call is refused. -/
private theorem write_cases {act : Action} {call : Call} {change : List String → List String}
    (writes : act.writes? l = some (call, change)) {r : Except Failure Reply}
    (ran : Work.runOn Journaled.server (l.perform act) k s = ((r, k'), s')) :
    (∃ e, Journaled.server.execute call.sql call.params s = (.error e, s') ∧ r = .error e ∧
      k' = k) ∨
      ∃ n reply, Journaled.server.execute call.sql call.params s = (.ok n, s') ∧ r = .ok reply ∧
        k' = { k with applied := k.applied.map change } := by
  obtain ⟨reply, work⟩ := perform_of_writes writes
  rw [work] at ran
  rcases Work.runOn_bind_cases ran with ⟨e, refused, rfl⟩ | ⟨n, k₁, s₁, accepted, ran⟩
  · obtain ⟨met, rfl⟩ := Work.of_runOn_execute refused
    exact .inl ⟨e, met, rfl, rfl⟩
  · obtain ⟨met, rfl⟩ := Work.of_runOn_execute accepted
    have same : ((Except.ok (reply n), { k with applied := k.applied.map change }), s₁) =
        ((r, k'), s') := ran
    cases same
    exact .inr ⟨n, reply n, met, rfl, rfl⟩

/-- The table after a call that changes the names holds the names that a cache then has. -/
private theorem after_write {act : Action} {call : Call} {change : List String → List String}
    (writes : act.writes? l = some (call, change)) {t : LedgerTable} (named : t.table = l.table) :
    (t.after call.sql call.params).table = l.table ∧
      ∀ known : List String, (∀ name, name ∈ known ↔ name ∈ t.names) →
        ∀ name, name ∈ change known ↔ name ∈ (t.after call.sql call.params).names := by
  cases act with
  | record name batch =>
    cases writes
    dsimp only
    rw [LedgerTable.after_record t named]
    refine ⟨named, fun known members other => ?_⟩
    rw [mem_addName, members]
    simp [LedgerTable.names, eq_comm]
  | forget name =>
    cases writes
    dsimp only
    rw [LedgerTable.after_forget t named]
    refine ⟨named, fun known members other => ?_⟩
    have kept : (t.entries.filter (·.migration != name)).map (·.migration) =
        t.names.filter (· != name) := by
      unfold LedgerTable.names
      rw [List.filter_map]
      rfl
    rw [LedgerTable.names, kept, List.mem_filter, List.mem_filter, members]
  | _ => cases writes

/-- A call that changes the names brings the cache up to date if it is accepted. -/
private theorem performs_writing {act : Action} {call : Call}
    {change : List String → List String} (writes : act.writes? l = some (call, change))
    {r : Except Failure Reply}
    (ran : Work.runOn Journaled.server (l.perform act) k s = ((r, k'), s'))
    (here : Stands l names s) :
    ∃ events names', s'.journal = s.journal ++ events ∧ Stands l names' s' ∧
      l.Performs act k names r events k' names' := by
  obtain ⟨t, shows_, named, rfl⟩ := here
  rcases write_cases writes ran with ⟨e, met, rfl, rfl⟩ | ⟨n, reply, met, rfl, rfl⟩
  · obtain ⟨t', there, entered, ⟨-, rfl⟩ | ⟨impossible, -⟩⟩ := Journaled.execute_shows met shows_
    · exact ⟨_, _, entered, ⟨t', there, named, rfl⟩, .unwritten writes⟩
    · cases impossible
  · obtain ⟨t', there, entered, ⟨⟨e, impossible⟩, -⟩ | ⟨-, rfl⟩⟩ :=
      Journaled.execute_shows met shows_
    · cases impossible
    · obtain ⟨table, members⟩ := after_write writes named
      exact ⟨_, _, entered, ⟨_, there, table, rfl⟩, .written writes members⟩

/-- A change of the names that is refused changes nothing. -/
theorem refused_write {act : Action} {call : Call} {change : List String → List String}
    (writes : act.writes? l = some (call, change)) {e : Failure} {t : LedgerTable}
    (ran : Work.runOn Journaled.server (l.perform act) k s = ((.error e, k'), s'))
    (here : s.Shows t) : k' = k ∧ s'.Shows t := by
  rcases write_cases writes ran with ⟨e', met, -, kept⟩ | ⟨n, reply, -, impossible, -⟩
  · obtain ⟨t', there, -, ⟨-, rfl⟩ | ⟨impossible, -⟩⟩ := Journaled.execute_shows met here
    · exact ⟨kept, there⟩
    · cases impossible
  · cases impossible

/-- The batch is asked for unless it is known. -/
private theorem performs_nextBatch {r : Except Failure Int}
    (ran : Work.runOn Journaled.server l.nextBatch k s = ((r, k'), s')) (here : Stands l names s) :
    ∃ events, s'.journal = s.journal ++ events ∧ Stands l names s' ∧
      l.Performs .nextBatch k names (r.map .batch) events k' names := by
  rcases k with ⟨_ | batch, known⟩
  · have quiet : LedgerTable.change? l.table ⟨l.nextBatchQuery, []⟩ = none :=
      LedgerTable.change_query l (by simp)
    unfold nextBatch at ran
    rw [Work.runOn_bind, Work.runOn_get] at ran
    dsimp only at ran
    rcases asked : Journaled.server.fetch l.nextBatchQuery [] s with ⟨answer, s₁⟩
    obtain ⟨entered, there⟩ := fetch_quiet quiet asked here
    obtain ⟨t, shows_, named, rfl⟩ := here
    rw [Work.runOn_bind, Work.runOn_fetch, asked] at ran
    obtain ⟨t', -, -, ⟨⟨e, rfl⟩, -⟩ | ⟨rfl, -⟩⟩ := Journaled.fetch_shows asked shows_
    · obtain ⟨⟨rfl, rfl⟩, rfl⟩ : (.error e = r ∧ ⟨none, known⟩ = k') ∧ s₁ = s' := by
        simpa using ran
      exact ⟨_, entered, there, .unasked rfl⟩
    · have answered :=
        Memory.respond_query t l.nextBatchQuery [] (LedgerTable.answer_nextBatchQuery l t)
      rw [answered] at ran entered
      have same : ((Except.ok t.nextBatch, ({ batch := some t.nextBatch, applied := known } : Cache)),
          s₁) = ((r, k'), s') := ran
      cases same
      exact ⟨_, entered, there, .asked rfl⟩
  · have same : ((Except.ok batch, ({ batch := some batch, applied := known } : Cache)), s) =
        ((r, k'), s') := ran
    cases same
    exact ⟨[], (List.append_nil _).symm, here, .numbered rfl⟩

/-- What changes nothing, and asks neither for the names nor for the batch. -/
def Aside (l : Ledger) (s s' : Journaled) : Prop :=
  ∀ ⦃names : List String⦄, Stands l names s →
    ∃ events, s'.journal = s.journal ++ events ∧ Stands l names s' ∧
      ∀ e ∈ events, e.call ≠ plain l.namesQuery ∧ e.call ≠ plain l.nextBatchQuery

instance : Std.Refl (Aside l) :=
  ⟨fun _ _ here => ⟨[], (List.append_nil _).symm, here, List.forall_mem_nil _⟩⟩

instance : IsTrans Journaled (Aside l) where
  trans s₁ s₂ s₃ first second names here := by
    obtain ⟨events, entered, there, others⟩ := first here
    obtain ⟨later, entered', final, others'⟩ := second there
    exact ⟨events ++ later, by rw [entered', entered, List.append_assoc], final,
      List.forall_mem_append.mpr ⟨others, others'⟩⟩

/-- A call that asks for no change and for something else. -/
def Other (l : Ledger) (sql : String) : Prop :=
  LedgerTable.change? l.table ⟨sql, []⟩ = none ∧ sql ≠ l.namesQuery ∧ sql ≠ l.nextBatchQuery

theorem Other.of_start {words sql : String} (start : StartsWith words sql)
    (insertion : Apart words "INSERT INTO ") (deletion : Apart words "DELETE FROM ")
    (names : Apart "SELECT migration FROM" words) (batch : Apart "SELECT COALESCE" words) :
    l.Other sql :=
  ⟨LedgerTable.change_other [] (start.not_of_apart insertion) (start.not_of_apart deletion),
    start.ne (l.namesQuery_start.not_of_apart names),
    start.ne (l.nextBatchQuery_start.not_of_apart batch)⟩

theorem Other.of_schema {sql : String} (schema : IsSchemaStatement sql) : l.Other sql := by
  rcases schema with start | start | start
  · exact .of_start start (by decide) (by decide) (by decide) (by decide)
  · exact .of_start start (by decide) (by decide) (by decide) (by decide)
  · exact .of_start start (by decide) (by decide) (by decide) (by decide)

theorem other_entriesQuery (l : Ledger) : l.Other l.entriesQuery := by
  have start : StartsWith "SELECT migration, batch" l.entriesQuery :=
    (StartsWith.append (by decide) _).append _
  exact .of_start start (by decide) (by decide) (by decide) (by decide)

theorem other_batchColumnQuery (l : Ledger) : l.Other l.batchColumnQuery := by
  have apart {words : String} (first : Apart "SELECT column_name" words)
      (second : Apart "SHOW COLUMNS" words) {other : String} (start : StartsWith words other) :
      l.batchColumnQuery ≠ other :=
    (start.ne (LedgerTable.batchColumnQuery_other l first second)).symm
  exact ⟨LedgerTable.change_query l (by simp), apart (by decide) (by decide) l.namesQuery_start,
    apart (by decide) (by decide) l.nextBatchQuery_start⟩

private theorem aside_execute {sql : String} (other : l.Other sql) :
    Work.Steps Journaled.server (Aside l) (Work.execute sql [] : Work Cache Nat) :=
  Work.steps_execute fun _ _ here =>
    have ⟨entered, there⟩ := execute_quiet other.1 rfl here
    ⟨_, entered, there, List.forall_mem_singleton.mpr
      ⟨fun same => other.2.1 (congrArg Call.sql same),
        fun same => other.2.2 (congrArg Call.sql same)⟩⟩

private theorem aside_fetch {sql : String} (other : l.Other sql) :
    Work.Steps Journaled.server (Aside l) (Work.fetch sql [] : Work Cache (List Row)) :=
  Work.steps_fetch fun _ _ here =>
    have ⟨entered, there⟩ := fetch_quiet other.1 rfl here
    ⟨_, entered, there, List.forall_mem_singleton.mpr
      ⟨fun same => other.2.1 (congrArg Call.sql same),
        fun same => other.2.2 (congrArg Call.sql same)⟩⟩

private theorem aside_ensure : Work.Steps Journaled.server (Aside l) l.ensure := by
  refine Work.steps_bind (aside_execute (.of_schema l.createStatement_schema)) fun _ => ?_
  refine Work.steps_bind (aside_fetch (other_batchColumnQuery l)) fun columns => ?_
  by_cases missing : columns.isEmpty = true
  · rw [if_pos missing]
    exact Work.steps_bind (aside_execute (.of_schema l.addBatchColumn_schema))
      fun _ => Work.steps_pure ()
  · rw [if_neg missing]
    exact Work.steps_pure ()

private theorem aside_entries : Work.Steps Journaled.server (Aside l) l.entries :=
  Work.steps_bind (aside_fetch (other_entriesQuery l)) fun _ => Work.steps_ofResult _

/-- What an operation that is not about names or the batch does. -/
private theorem performs_aside {act : Action} {work : Work Cache α} {reply : α → Reply}
    {r : Except Failure α} (untold : act.tells? = none) (unwritten : act.writes? l = none)
    (other : act ≠ .nextBatch) (aside : Work.Steps Journaled.server (Aside l) work)
    (kept : k' = k) (ran : Work.runOn Journaled.server work k s = ((r, k'), s'))
    (here : Stands l names s) :
    ∃ events names', s'.journal = s.journal ++ events ∧ Stands l names' s' ∧
      l.Performs act k names (r.map reply) events k' names' := by
  obtain ⟨events, entered, there, others⟩ := aside ran here
  subst kept
  exact ⟨events, names, entered, there, .aside untold unwritten other others⟩

private theorem runOn_entries_cache {r : Except Failure (List LedgerEntry)}
    (ran : Work.runOn Journaled.server l.entries k s = ((r, k'), s')) : k' = k := by
  rcases Work.runOn_bind_cases ran with ⟨e, failed, -⟩ | ⟨rows, k₁, s₁, fetched, ran⟩
  · obtain ⟨⟨-, rfl⟩, -⟩ : (_ ∧ k = k') ∧ _ = s' := by simpa using failed
    rfl
  · obtain ⟨⟨-, rfl⟩, -⟩ : (_ ∧ k = k₁) ∧ _ = s₁ := by simpa using fetched
    obtain ⟨⟨-, rfl⟩, -⟩ : (_ ∧ k = k') ∧ s₁ = s' := by simpa using ran
    rfl

/-- What an operation does is told by what is known and by the answers to its calls. -/
theorem performs {act : Action} {r : Except Failure Reply}
    (ran : Work.runOn Journaled.server (l.perform act) k s = ((r, k'), s'))
    (here : Stands l names s) :
    ∃ events names', s'.journal = s.journal ++ events ∧ Stands l names' s' ∧
      l.Performs act k names r events k' names' := by
  cases act with
  | ensure =>
    obtain ⟨r, ensured, rfl⟩ := Work.of_runOn_map ran
    exact performs_aside rfl rfl nofun aside_ensure (runOn_ensure_cache ensured).symm ensured here
  | applied =>
    obtain ⟨r, asked, rfl⟩ := Work.of_runOn_map ran
    have tells : Action.applied.tells? = some .names := rfl
    obtain ⟨events, done⟩ := performs_reading tells asked here
    exact ⟨events, names, done⟩
  | isApplied name =>
    obtain ⟨_, held, rfl⟩ := Work.of_runOn_map ran
    obtain ⟨r, asked, rfl⟩ := Work.of_runOn_map held
    have tells : (Action.isApplied name).tells? = some fun names => .held (names.contains name) :=
      rfl
    obtain ⟨events, done⟩ := performs_reading tells asked here
    cases r with
    | error e => exact ⟨events, names, done⟩
    | ok known => exact ⟨events, names, done⟩
  | record name batch => exact performs_writing rfl ran here
  | forget name => exact performs_writing rfl ran here
  | nextBatch =>
    obtain ⟨r, asked, rfl⟩ := Work.of_runOn_map ran
    obtain ⟨events, done⟩ := performs_nextBatch asked here
    exact ⟨events, names, done⟩
  | entries =>
    obtain ⟨r, asked, rfl⟩ := Work.of_runOn_map ran
    exact performs_aside rfl rfl nofun aside_entries (runOn_entries_cache asked) asked here

end

/-- A call that changes the names is neither of the two queries that are remembered. -/
theorem Action.call_of_writes {l : Ledger} {act : Action} {call : Call}
    {change : List String → List String} (writes : act.writes? l = some (call, change)) :
    call ≠ plain l.namesQuery ∧ call ≠ plain l.nextBatchQuery := by
  cases act with
  | record name batch =>
    cases writes
    exact ⟨nofun, nofun⟩
  | forget name =>
    cases writes
    exact ⟨nofun, nofun⟩
  | _ => cases writes

theorem Action.ne_of_tells {act : Action} {tell : List String → Reply}
    (tells : act.tells? = some tell) : act ≠ .nextBatch := by
  rintro rfl
  cases tells

theorem Action.ne_of_writes {l : Ledger} {act : Action} {call : Call}
    {change : List String → List String} (writes : act.writes? l = some (call, change)) :
    act ≠ .nextBatch := by
  rintro rfl
  cases writes

theorem queries_ne (l : Ledger) : plain l.nextBatchQuery ≠ plain l.namesQuery := by
  have start : StartsWith "SELECT COALESCE" l.nextBatchQuery := l.nextBatchQuery_start
  have different := start.ne (l.namesQuery_start.not_of_apart (by decide))
  exact fun same => different (congrArg Call.sql same)

namespace Performs

variable {l : Ledger} {act : Action} {k k' : Cache} {names names' : List String}
  {r : Except Failure Reply} {events : List Event}

/-- Names that agree with the table before an operation agree with it afterwards. -/
theorem names_agree (performs : l.Performs act k names r events k' names')
    (agree : ∀ known, k.applied = some known → ∀ name, name ∈ known ↔ name ∈ names) :
    ∀ known, k'.applied = some known → ∀ name, name ∈ known ↔ name ∈ names' := by
  cases performs with
  | read _ _ members =>
    intro known same
    cases same
    exact members
  | written _ members =>
    intro known same
    obtain ⟨before, there, rfl⟩ := Option.map_eq_some_iff.mp same
    exact members before (agree before there)
  | _ => exact agree

/-- The names are known exactly if they were before or the query was accepted. -/
theorem read_iff (performs : l.Performs act k names r events k' names') :
    k'.applied.isSome = true ↔ k.applied.isSome = true ∨
      ∃ e ∈ events, e.call = plain l.namesQuery ∧ e.accepted = true := by
  cases performs with
  | known => simp
  | read => simp
  | unread => simp
  | written writes => simp [(Action.call_of_writes writes).1]
  | unwritten => simp
  | numbered => simp
  | asked => simp [l.queries_ne]
  | unasked => simp
  | aside _ _ _ others =>
    refine ⟨.inl, ?_⟩
    rintro (known | ⟨e, member, same, -⟩)
    · exact known
    · exact absurd same (others e member).1

/-- A batch is known exactly if it was before or is the answer. -/
theorem numbered_iff (performs : l.Performs act k names r events k' names') (batch : Int) :
    k'.batch = some batch ↔ k.batch = some batch ∨ act = .nextBatch ∧ r = .ok (.batch batch) := by
  have silent {act : Action} (other : act ≠ .nextBatch) {r : Except Failure Reply} {known : Prop} :
      known ↔ known ∨ act = .nextBatch ∧ r = .ok (.batch batch) :=
    ⟨.inl, fun either => either.resolve_right fun both => other both.1⟩
  cases performs with
  | known tells => exact silent (Action.ne_of_tells tells)
  | read tells => exact silent (Action.ne_of_tells tells)
  | unread tells => exact silent (Action.ne_of_tells tells)
  | written writes => exact silent (Action.ne_of_writes writes)
  | unwritten writes => exact silent (Action.ne_of_writes writes)
  | numbered known => simp [known]
  | asked unknown => simp [unknown]
  | unasked => simp
  | aside _ _ other => exact silent other

/-- What is told of the names is told of those in the table. -/
theorem tells (performs : l.Performs act k names r events k' names')
    {tell : List String → Reply} (tells : act.tells? = some tell)
    (agree : ∀ known, k.applied = some known → ∀ name, name ∈ known ↔ name ∈ names)
    {reply : Reply} (answered : r = .ok reply) :
    ∃ known : List String, (∀ name, name ∈ known ↔ name ∈ names') ∧ reply = tell known := by
  cases performs with
  | known tells' there =>
    cases tells.symm.trans tells'
    cases answered
    exact ⟨_, agree _ there, rfl⟩
  | read tells' _ members =>
    cases tells.symm.trans tells'
    cases answered
    exact ⟨_, members, rfl⟩
  | unread => cases answered
  | written writes =>
    cases act with
    | record name batch => cases tells
    | forget name => cases tells
    | _ => cases writes
  | unwritten => cases answered
  | numbered => cases tells
  | asked => cases tells
  | unasked => cases answered
  | aside untold => cases untold.symm.trans tells

/-- The names are asked for exactly if they are to be told and are not known. -/
theorem namesQuery_sent (performs : l.Performs act k names r events k' names') :
    (act.tells?.isSome = true →
      (k.applied.isSome = true → events = []) ∧
        (k.applied = none → events.map Event.call = [plain l.namesQuery])) ∧
      (act.tells? = none → ∀ e ∈ events, e.call ≠ plain l.namesQuery) := by
  have writing {call : Call} {change : List String → List String}
      (writes : act.writes? l = some (call, change)) : act.tells? = none := by
    cases act <;> first | rfl | cases writes
  cases performs with
  | known tells there => simp [tells, there]
  | read tells unknown => simp [tells, unknown]
  | unread tells unknown => simp [tells, unknown]
  | written writes => simp [writing writes, (Action.call_of_writes writes).1]
  | unwritten writes => simp [writing writes, (Action.call_of_writes writes).1]
  | numbered => simp [Action.tells?]
  | asked => simp [Action.tells?, l.queries_ne]
  | unasked => simp [Action.tells?, l.queries_ne]
  | aside untold _ _ others =>
    rw [untold]
    exact ⟨nofun, fun _ e member => (others e member).1⟩

/-- The batch is asked for exactly if it is to be told and is not known. -/
theorem nextBatchQuery_sent (performs : l.Performs act k names r events k' names') :
    (act = .nextBatch →
      (∀ batch, k.batch = some batch → r = .ok (.batch batch) ∧ events = []) ∧
        (k.batch = none → events.map Event.call = [plain l.nextBatchQuery])) ∧
      (act ≠ .nextBatch → ∀ e ∈ events, e.call ≠ plain l.nextBatchQuery) := by
  cases performs with
  | known tells there => simp [Action.ne_of_tells tells]
  | read tells unknown => simp [Action.ne_of_tells tells, l.queries_ne.symm]
  | unread tells unknown => simp [Action.ne_of_tells tells, l.queries_ne.symm]
  | written writes => simp [Action.ne_of_writes writes, (Action.call_of_writes writes).2]
  | unwritten writes => simp [Action.ne_of_writes writes, (Action.call_of_writes writes).2]
  | numbered known => simp [known]
  | asked unknown => simp [unknown]
  | unasked unknown => simp [unknown]
  | aside _ _ other others =>
    exact ⟨fun same => absurd same other, fun _ e member => (others e member).2⟩

end Performs

/-- The ledger after some steps, and what is remembered of it. -/
def reach (l : Ledger) : List Request → Cache → Memory → Cache × Memory
  | [], k, memory => (k, memory)
  | request :: rest, k, memory =>
    let (step, k') := l.meet request k memory
    reach l rest k' step.memory

/-- The query for names was accepted in one of some steps. -/
def HasRead (l : Ledger) (done : List Step) : Prop :=
  ∃ step ∈ done, ∃ e ∈ step.events, e.call = plain l.namesQuery ∧ e.accepted = true

/-- A batch was answered in one of some steps. -/
def HasNumbered (done : List Step) (batch : Int) : Prop :=
  ∃ step ∈ done, step.action = .nextBatch ∧ step.reply = .ok (.batch batch)

/-- What is remembered agrees with the table, and was answered in one of the steps so far. -/
structure Agrees (l : Ledger) (done : List Step) (k : Cache) (memory : Memory) : Prop where
  table : ∃ t, memory = { ledger := some t } ∧ t.table = l.table
  names : ∀ known, k.applied = some known → ∀ name, name ∈ known ↔ name ∈ Journaled.names memory
  read : l.HasRead done ↔ k.applied.isSome = true
  numbered : ∀ batch, HasNumbered done batch ↔ k.batch = some batch

/-- What one step does, from a cache that agrees with the table. -/
theorem meet_performs {l : Ledger} {done : List Step} {k : Cache} {memory : Memory}
    (agrees : l.Agrees done k memory) (request : Request) :
    (l.meet request k memory).1.action = request.action ∧
      l.Performs request.action k (Journaled.names memory) (l.meet request k memory).1.reply
        (l.meet request k memory).1.events (l.meet request k memory).2
        (Journaled.names (l.meet request k memory).1.memory) ∧
      l.Agrees (done ++ [(l.meet request k memory).1]) (l.meet request k memory).2
        (l.meet request k memory).1.memory := by
  obtain ⟨⟨t, rfl, named⟩, agree, read, numbered⟩ := agrees
  have here : Stands l t.names { refusals := request.refusals, memory := { ledger := some t } } :=
    ⟨t, rfl, named, rfl⟩
  rcases ran : Work.runOn Journaled.server (l.perform request.action) k
    { refusals := request.refusals, memory := { ledger := some t } } with ⟨⟨r, k'⟩, s'⟩
  have met : l.meet request k { ledger := some t } =
      (⟨request.action, r, s'.journal, s'.memory⟩, k') := by
    unfold meet
    rw [ran]
  obtain ⟨events, names', entered, ⟨t', after, named', rfl⟩, done_⟩ := l.performs ran here
  rw [List.nil_append] at entered
  rw [met, show s'.memory = { ledger := some t' } from after, entered]
  refine ⟨rfl, done_, ⟨t', rfl, named'⟩, done_.names_agree agree, ?_, fun batch => ?_⟩
  · rw [done_.read_iff, ← read]
    simp [HasRead, or_and_right, exists_or]
  · rw [done_.numbered_iff, ← numbered]
    simp [HasNumbered, or_and_right, exists_or]

section

variable {l : Ledger} {k : Cache} {memory : Memory}

theorem steps_append (first second : List Request) :
    l.steps (first ++ second) k memory = l.steps first k memory ++
      l.steps second (l.reach first k memory).1 (l.reach first k memory).2 := by
  induction first generalizing k memory with
  | nil => rfl
  | cons request rest ih =>
    rw [List.cons_append, steps, steps, reach]
    exact congrArg _ ih

/-- A step of a sequence is what one request comes to after the requests before it. -/
theorem steps_split {requests : List Request} {done later : List Step} {step : Step}
    (parts : l.steps requests k memory = done ++ step :: later) :
    ∃ before request after, requests = before ++ request :: after ∧ before.length = done.length ∧
      l.steps before k memory = done ∧
      step = (l.meet request (l.reach before k memory).1 (l.reach before k memory).2).1 ∧
      later = l.steps after
        (l.meet request (l.reach before k memory).1 (l.reach before k memory).2).2 step.memory := by
  induction done generalizing requests k memory with
  | nil =>
    cases requests with
    | nil => cases parts
    | cons request rest =>
      obtain ⟨rfl, rfl⟩ := List.cons.inj parts
      exact ⟨[], request, rest, rfl, rfl, rfl, rfl, rfl⟩
  | cons first done ih =>
    cases requests with
    | nil => cases parts
    | cons request rest =>
      obtain ⟨rfl, others⟩ := List.cons.inj parts
      obtain ⟨before, request', after, rfl, same, rfl, here, there⟩ := ih others
      exact ⟨request :: before, request', after, rfl, congrArg (· + 1) same, rfl, here, there⟩

/-- The server after some requests is the server after the last of the steps. -/
theorem memory_reach (before : List Request) :
    (l.reach before k memory).2 =
      (l.steps before k memory).getLast?.elim memory Step.memory := by
  induction before generalizing k memory with
  | nil => rfl
  | cons request rest ih =>
    rcases met : l.meet request k memory with ⟨step, k'⟩
    rw [reach, steps, met]
    dsimp only
    rw [List.getLast?_cons, Option.elim_some, ih]
    cases (l.steps rest k' step.memory).getLast? with
    | none => rfl
    | some last => rfl

/-- After any requests the cache agrees with the table. -/
theorem agrees_reach {requests : List Request} {done : List Step}
    (agrees : l.Agrees done k memory) :
    l.Agrees (done ++ l.steps requests k memory) (l.reach requests k memory).1
      (l.reach requests k memory).2 := by
  induction requests generalizing done k memory with
  | nil =>
    rw [steps, List.append_nil]
    exact agrees
  | cons request rest ih =>
    have next := ih (meet_performs agrees request).2.2
    rw [List.append_assoc] at next
    exact next

/-- A request for a change that is refused is as if it had not been asked for. -/
theorem refused_meet {done : List Step} (agrees : l.Agrees done k memory) {request : Request}
    (writes : (request.action.writes? l).isSome = true) {failure : Failure}
    (refused : (l.meet request k memory).1.reply = .error failure) :
    (l.meet request k memory).2 = k ∧ (l.meet request k memory).1.memory = memory := by
  obtain ⟨⟨t, rfl, -⟩, -⟩ := agrees
  obtain ⟨⟨call, change⟩, writes⟩ := Option.isSome_iff_exists.mp writes
  rcases ran : Work.runOn Journaled.server (l.perform request.action) k
    { refusals := request.refusals, memory := { ledger := some t } } with ⟨⟨r, k'⟩, s'⟩
  have met : l.meet request k { ledger := some t } =
      (⟨request.action, r, s'.journal, s'.memory⟩, k') := by
    unfold meet
    rw [ran]
  rw [met] at refused ⊢
  obtain rfl : r = .error failure := refused
  exact refused_write writes ran rfl

end

/-- How a step of a sequence fits in with the steps before it and after it. -/
structure Coheres (l : Ledger) (start : Memory) (requests : List Request) (done : List Step)
    (step : Step) (later : List Step) : Prop where
  /-- What is said of a name is so in the table. -/
  truthful : ∀ name reply, step.action = .isApplied name → step.reply = .ok reply →
    reply = .held (decide (name ∈ Journaled.names step.memory))
  /-- Whoever tells of the names asks for them as long as nobody got them, and then nobody does. -/
  asksOnce : step.action.tells?.isSome = true →
    (l.HasRead done → step.events = []) ∧
      (¬ l.HasRead done → step.events.map Event.call = [plain l.namesQuery])
  /-- Nobody else asks for the names. -/
  asksElse : step.action.tells? = none → ∀ e ∈ step.events, e.call ≠ plain l.namesQuery
  /-- A change of the names that is refused leaves the server as it was, and the steps after it are
  as they are without it. -/
  harmless : (step.action.writes? l).isSome = true → ∀ failure, step.reply = .error failure →
    step.memory = done.getLast?.elim start Step.memory ∧
      l.steps (requests.eraseIdx done.length) {} start = done ++ later
  /-- The batch is asked for as long as nobody got it, and then it is the one that was answered. -/
  countsOnce : step.action = .nextBatch →
    (∀ batch, HasNumbered done batch → step.reply = .ok (.batch batch) ∧ step.events = []) ∧
      ((∀ batch, ¬ HasNumbered done batch) → step.events.map Event.call = [plain l.nextBatchQuery])
  /-- Nobody else asks for the batch. -/
  countsElse : step.action ≠ .nextBatch → ∀ e ∈ step.events, e.call ≠ plain l.nextBatchQuery

/-- Over any requests, whichever of their calls are refused, what is answered from memory is so in
the table: whether a name is recorded; the names and the batch are asked for until they are
answered once; and a refused change is as if it had not been asked for. -/
theorem cache_coherent (l : Ledger) (requests : List Request) (entries : List LedgerEntry)
    (hasBatch : Bool) (done : List Step) (step : Step) (later : List Step)
    (parts : l.steps requests {} { ledger := some ⟨l.table, entries, hasBatch⟩ } =
      done ++ step :: later) :
    l.Coheres { ledger := some ⟨l.table, entries, hasBatch⟩ } requests done step later := by
  obtain ⟨before, request, after, rfl, same, rfl, rfl, rfl⟩ := steps_split parts
  have start : l.Agrees [] {} { ledger := some ⟨l.table, entries, hasBatch⟩ } :=
    { table := ⟨_, rfl, rfl⟩
      names := fun _ known => nomatch known
      read := by simp [HasRead]
      numbered := by simp [HasNumbered] }
  have agrees := @agrees_reach l _ _ before [] start
  rw [List.nil_append] at agrees
  obtain ⟨acted, performs, -⟩ := meet_performs agrees request
  refine ⟨?_, ?_, ?_, ?_, ?_, ?_⟩
  · intro name reply asked answered
    have tells : request.action.tells? = some fun names => .held (names.contains name) := by
      rw [← acted, asked]
      rfl
    obtain ⟨known, members, rfl⟩ := performs.tells tells agrees.names answered
    simp [← members]
  · intro tells
    obtain ⟨silent, sent⟩ := performs.namesQuery_sent.1 (acted ▸ tells)
    rw [agrees.read]
    exact ⟨silent, fun unread => sent (by simpa using unread)⟩
  · intro untold
    exact performs.namesQuery_sent.2 (acted ▸ untold)
  · intro writes failure refused
    obtain ⟨kept, unchanged⟩ := refused_meet agrees (acted ▸ writes) refused
    refine ⟨unchanged.trans (memory_reach before), ?_⟩
    rw [← same, List.eraseIdx_append_of_length_le le_rfl, Nat.sub_self, List.eraseIdx_cons_zero,
      steps_append, kept, unchanged]
  · intro asked
    obtain ⟨known, sent⟩ := performs.nextBatchQuery_sent.1 (acted ▸ asked)
    refine ⟨fun batch answered => known batch ((agrees.numbered batch).mp answered), ?_⟩
    intro unknown
    refine sent (Option.eq_none_iff_forall_not_mem.mpr fun batch there => ?_)
    exact unknown batch ((agrees.numbered batch).mpr there)
  · intro other
    exact performs.nextBatchQuery_sent.2 (acted ▸ other)

/-- The connection is lost when a file is to be recorded: the record fails, and the question that
follows is answered without another call. -/
theorem lost_record_unseen :
    let l : Ledger := { dialect := .postgres }
    let lost : Failure := .statementFailed "connection lost" none
    let first : Request := ⟨.isApplied "1_a.json", []⟩
    let second : Request := ⟨.record "1_a.json" 1, [some lost]⟩
    let third : Request := ⟨.isApplied "1_a.json", []⟩
    let start : Memory := { ledger := some ⟨l.table, [], true⟩ }
    ∃ done step later, l.steps [first, second, third] {} start = done ++ step :: later ∧
      step.reply.isOk = false ∧ later.map (·.reply.isOk) = [true] ∧
      later.flatMap (·.events.map Event.accepted) = [] ∧
      l.Coheres start [first, second, third] done step later := by
  intro l lost first second third start
  have parts := @steps_append l {} start [first] [second, third]
  refine ⟨_, _, _, parts, ?_, ?_, ?_, cache_coherent l _ [] true _ _ _ parts⟩
  · decide
  · decide
  · decide

end Ledger

end SchemaSeed.Migration

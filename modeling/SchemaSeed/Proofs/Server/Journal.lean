import Mathlib
import SchemaSeed.Proofs.Server.SimulatedLedger

/-!
A connection in memory that keeps a journal. It is told beforehand which of the coming calls it
refuses; every call is entered with whether it was accepted and with the names that the ledger holds
after it. Which call changes the ledger, and how, is told by how its statement starts, as the ledger
itself goes by that.
-/

set_option autoImplicit false
set_option relaxedAutoImplicit false

namespace SchemaSeed.Server

open SchemaSeed.Sql SchemaSeed.Migration

namespace LedgerTable

/-- The names in a ledger, row by row. -/
def names (t : LedgerTable) : List String := t.entries.map (·.migration)

/-- The change of the ledger that a call asks for: forwards a row for a name is added, backwards the
rows of a name are removed. -/
def change? (table : String) (call : Call) : Option (Direction × String) :=
  if Matching.startsWith.holds ("INSERT INTO " ++ table ++ " (migration") call.sql then
    some (.up, textOf call.params)
  else if Matching.startsWith.holds ("DELETE FROM " ++ table ++ " ") call.sql then
    some (.down, textOf call.params)
  else none

/-- A call that asks for no change of the ledger leaves its rows alone. -/
theorem after_of_change_none (t : LedgerTable) {sql : String} {params : List Value}
    (none : change? t.table ⟨sql, params⟩ = none) :
    (t.after sql params).table = t.table ∧ (t.after sql params).names = t.names := by
  unfold change? at none
  split_ifs at none with insertion deletion
  unfold after answer? names
  dsimp only at insertion deletion ⊢
  rw [if_neg insertion, if_neg deletion]
  split
  · rename_i found
    split_ifs at found <;> cases found <;> exact ⟨rfl, rfl⟩
  · exact ⟨rfl, rfl⟩

/-- A statement that starts like no insertion and no deletion asks for no change of the ledger. -/
theorem change_other {table sql : String} (params : List Value)
    (insertion : ¬ StartsWith "INSERT INTO " sql) (deletion : ¬ StartsWith "DELETE FROM " sql) :
    change? table ⟨sql, params⟩ = none := by
  have insert : ¬ Matching.startsWith.holds ("INSERT INTO " ++ table ++ " (migration") sql := by
    refine startsWith_fails fun start => insertion ?_
    rw [String.append_assoc] at start
    exact start.of_append
  have delete : ¬ Matching.startsWith.holds ("DELETE FROM " ++ table ++ " ") sql := by
    refine startsWith_fails fun start => deletion ?_
    rw [String.append_assoc] at start
    exact start.of_append
  unfold change?
  rw [if_neg insert, if_neg delete]

theorem change_schema {table sql : String} (params : List Value) (schema : IsSchemaStatement sql) :
    change? table ⟨sql, params⟩ = none :=
  change_other params (schema.not_startsWith (by decide) (by decide) (by decide))
    (schema.not_startsWith (by decide) (by decide) (by decide))

section

variable (l : Ledger)

theorem change_record (name : String) (batch : Int) :
    change? l.table ⟨l.recordStatement, [.text name, .int64 batch]⟩ = some (.up, name) := by
  have start : StartsWith ("INSERT INTO " ++ l.table ++ " (migration") l.recordStatement := by
    unfold Ledger.recordStatement
    simp only [String.append_assoc]
    exact ((StartsWith.append (by decide) _).append_left _).append_left _
  unfold change?
  rw [if_pos (startsWith_holds.mpr start)]
  rfl

theorem change_forget (name : String) :
    change? l.table ⟨l.forgetStatement, [.text name]⟩ = some (.down, name) := by
  have start : StartsWith ("DELETE FROM " ++ l.table ++ " ") l.forgetStatement := by
    unfold Ledger.forgetStatement
    simp only [String.append_assoc]
    exact ((StartsWith.append (by decide) _).append_left _).append_left _
  have insert : ¬ StartsWith ("INSERT INTO " ++ l.table ++ " (migration") l.forgetStatement := by
    intro start
    rw [String.append_assoc] at start
    exact l.forgetStatement_start.not_of_apart (by decide) start.of_append
  unfold change?
  rw [if_neg (startsWith_fails insert), if_pos (startsWith_holds.mpr start)]
  rfl

/-- No query of a run asks for a change of the ledger. -/
theorem change_query {sql : String}
    (query : sql ∈ [l.batchColumnQuery, l.namesQuery, l.nextBatchQuery]) :
    change? l.table ⟨sql, []⟩ = none := by
  have select {rest : String} (words : String) (start : StartsWith "S" words) :
      change? l.table ⟨words ++ rest, []⟩ = none :=
    change_other [] ((start.append rest).not_of_apart (by decide))
      ((start.append rest).not_of_apart (by decide))
  rcases List.mem_cons.mp query with rfl | query
  · unfold Ledger.batchColumnQuery
    cases l.dialect with
    | postgres =>
      dsimp only
      rw [String.append_assoc]
      exact select _ (by decide)
    | mysql =>
      dsimp only
      rw [String.append_assoc]
      exact select _ (by decide)
  · rcases List.mem_cons.mp query with rfl | query
    · exact select _ (by decide)
    · obtain rfl := List.mem_singleton.mp query
      exact select _ (by decide)

end

end LedgerTable

/-- A call as a server has met it. -/
structure Event where
  call : Call
  accepted : Bool
  /-- The names in the ledger after the call. -/
  names : List String

/-- The change of the ledger that an event has made: what a refused call asks for is not done. -/
def Event.change? (table : String) (e : Event) : Option (Direction × String) :=
  if e.accepted then LedgerTable.change? table e.call else none

/-- The changes that were made for one name, in order. -/
def changesOf (table name : String) (events : List Event) : List Direction :=
  events.filterMap fun e =>
    match e.change? table with
    | some (direction, changed) => if changed = name then some direction else none
    | none => none

section

variable {table name : String} {call : Call} {names : List String}

theorem changesOf_append (events later : List Event) :
    changesOf table name (events ++ later) =
      changesOf table name events ++ changesOf table name later :=
  List.filterMap_append

/-- A call that asks for no change makes none. -/
theorem changesOf_quiet (none : LedgerTable.change? table call = none) (accepted : Bool) :
    changesOf table name [⟨call, accepted, names⟩] = [] := by
  cases accepted <;> simp [changesOf, Event.change?, none]

/-- A call that is accepted makes the change that it asks for. -/
theorem changesOf_made {direction : Direction}
    (asked : LedgerTable.change? table call = some (direction, name)) :
    changesOf table name [⟨call, true, names⟩] = [direction] := by
  simp [changesOf, Event.change?, asked]

end

/-- A connection in memory with its journal. -/
structure Journaled where
  /-- For the coming calls, in order, the failure that a call is refused with, if it is. -/
  refusals : List (Option Failure) := []
  memory : Memory
  journal : List Event := []

namespace Journaled

/-- The names in the ledger of a connection. -/
def names (m : Memory) : List String :=
  match m.ledger with
  | some t => t.names
  | none => []

/-- Refuses a call if it is to be refused, and passes it on otherwise; enters it in either case. -/
def meet {α : Type} (call : Call) (answer : Memory → Except Failure α × Memory) (s : Journaled) :
    Except Failure α × Journaled :=
  let (r, memory) := match s.refusals with
    | some e :: _ => (Except.error e, s.memory)
    | _ => answer s.memory
  (r, { refusals := s.refusals.tail, memory,
        journal := s.journal ++ [{ call, accepted := r.isOk, names := names memory }] })

/-- The connection as a server. -/
def server : Server Journaled where
  execute sql params := meet ⟨sql, params⟩ (Memory.server.execute sql params)
  fetch sql params := meet ⟨sql, params⟩ (Memory.server.fetch sql params)
  close s :=
    let (answer, memory) := Memory.server.close s.memory
    (answer, { s with memory })

/-- A connection whose ledger is a table, and that has no rules. -/
def Shows (s : Journaled) (t : LedgerTable) : Prop := s.memory = { ledger := some t }

variable {α : Type} {s s' : Journaled} {t : LedgerTable}

section

variable {refusals : List (Option Failure)} {journal : List Event}

/-- A call that is not to be refused is passed on. -/
private theorem meet_passed {call : Call} {answer : Memory → Except Failure α × Memory} {a : α}
    {memory after : Memory} (willing : refusals.head?.join = none)
    (passed : answer memory = (.ok a, after)) :
    meet call answer ⟨refusals, memory, journal⟩ =
      (.ok a, ⟨refusals.tail, after, journal ++ [⟨call, true, names after⟩]⟩) := by
  unfold meet
  rcases refusals with _ | ⟨_ | e, rest⟩
  · rw [passed]
    rfl
  · rw [passed]
    rfl
  · cases willing

theorem execute_passed {sql : String} {params : List Value}
    (willing : refusals.head?.join = none) :
    server.execute sql params ⟨refusals, { ledger := some t }, journal⟩ =
      (.ok 1, ⟨refusals.tail, { ledger := some (t.after sql params) },
        journal ++ [⟨⟨sql, params⟩, true, (t.after sql params).names⟩]⟩) :=
  meet_passed willing (Memory.execute_ledger t sql params)

theorem fetch_passed {sql : String} {params : List Value} {answer : LedgerAnswer}
    {after : LedgerTable} (willing : refusals.head?.join = none)
    (found : t.answer? sql params = some (answer, after)) :
    server.fetch sql params ⟨refusals, { ledger := some t }, journal⟩ =
      (.ok (Memory.ledgerRows answer), ⟨refusals.tail, { ledger := some after },
        journal ++ [⟨⟨sql, params⟩, true, after.names⟩]⟩) :=
  meet_passed willing (Memory.respond_query t sql params found)

end

/-- A call that is met is one more event; the table is as before if the call was refused. -/
private theorem meet_shows {call : Call} {answer : Memory → Except Failure α × Memory}
    {r : Except Failure α} {a : α} {after : LedgerTable}
    (passed : answer { ledger := some t } = (.ok a, { ledger := some after }))
    (met : meet call answer s = (r, s')) (here : s.Shows t) :
    ∃ t', s'.Shows t' ∧ s'.journal = s.journal ++ [⟨call, r.isOk, t'.names⟩] ∧
      ((∃ e, r = .error e) ∧ t' = t ∨ r = .ok a ∧ t' = after) := by
  rcases s with ⟨refusals, memory, journal⟩
  obtain rfl : memory = { ledger := some t } := here
  rcases refusals with _ | ⟨_ | e, rest⟩
  · rw [meet_passed rfl passed] at met
    obtain ⟨rfl, rfl⟩ := Prod.mk.inj met
    exact ⟨after, rfl, rfl, .inr ⟨rfl, rfl⟩⟩
  · rw [meet_passed rfl passed] at met
    obtain ⟨rfl, rfl⟩ := Prod.mk.inj met
    exact ⟨after, rfl, rfl, .inr ⟨rfl, rfl⟩⟩
  · obtain ⟨rfl, rfl⟩ := Prod.mk.inj met
    exact ⟨t, rfl, rfl, .inl ⟨⟨e, rfl⟩, rfl⟩⟩

theorem execute_shows {sql : String} {params : List Value} {r : Except Failure Nat}
    (met : server.execute sql params s = (r, s')) (here : s.Shows t) :
    ∃ t', s'.Shows t' ∧ s'.journal = s.journal ++ [⟨⟨sql, params⟩, r.isOk, t'.names⟩] ∧
      ((∃ e, r = .error e) ∧ t' = t ∨ r = .ok 1 ∧ t' = t.after sql params) :=
  meet_shows (Memory.execute_ledger t sql params) met here

theorem fetch_shows {sql : String} {params : List Value} {r : Except Failure (List Row)}
    (met : server.fetch sql params s = (r, s')) (here : s.Shows t) :
    ∃ t', s'.Shows t' ∧ s'.journal = s.journal ++ [⟨⟨sql, params⟩, r.isOk, t'.names⟩] ∧
      ((∃ e, r = .error e) ∧ t' = t ∨
        r = (Memory.respond sql params { ledger := some t }).1 ∧ t' = t.after sql params) := by
  obtain ⟨rows, answered⟩ := Memory.respond_ledger t sql params
  rw [answered]
  exact meet_shows answered met here

end Journaled

end SchemaSeed.Server

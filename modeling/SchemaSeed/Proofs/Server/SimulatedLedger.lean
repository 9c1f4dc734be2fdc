import Mathlib
import SchemaSeed.Proofs.Migration.SchemaStatement
import SchemaSeed.Proofs.Sql.Running
import SchemaSeed.Server.Memory

/-!
A connection in memory with a ledger table and no rules. It refuses nothing; what it answers to the
statements of a ledger, and what becomes of its table, depend on how the statements start.
-/

set_option autoImplicit false
set_option relaxedAutoImplicit false

namespace SchemaSeed.Server

open SchemaSeed.Sql SchemaSeed.Migration SchemaSeed.Number

variable {α : Type}

theorem startsWith_holds {text sql : String} :
    Matching.startsWith.holds text sql = true ↔ StartsWith text sql :=
  List.isPrefixOf_iff_prefix

theorem startsWith_fails {text sql : String} (other : ¬ StartsWith text sql) :
    ¬ Matching.startsWith.holds text sql = true :=
  mt startsWith_holds.mp other

/-- Some characters occur wherever they are put. -/
theorem occursIn_append (before part after : List Char) :
    occursIn part (before ++ (part ++ after)) = true := by
  induction before with
  | nil =>
    have start : part.isPrefixOf (part ++ after) = true :=
      List.isPrefixOf_iff_prefix.mpr (List.prefix_append part after)
    rw [List.nil_append]
    cases whole : part ++ after with
    | nil =>
      obtain ⟨rfl, -⟩ := List.append_eq_nil_iff.mp whole
      rfl
    | cons c rest =>
      rw [whole] at start
      unfold occursIn
      rw [start, Bool.true_or]
  | cons c before ih =>
    rw [List.cons_append, occursIn, ih, Bool.or_true]

namespace LedgerTable

/-- The table after a statement. -/
def after (t : LedgerTable) (sql : String) (params : List Value) : LedgerTable :=
  match t.answer? sql params with
  | some (_, t') => t'
  | none => t

/-- Only an insertion and a deletion change the rows of the table, and only an alteration its
column for batches. -/
theorem after_other (t : LedgerTable) {sql : String} (params : List Value)
    (insertion : ¬ StartsWith "INSERT INTO " sql) (deletion : ¬ StartsWith "DELETE FROM " sql) :
    ∃ hasBatch, t.after sql params = { t with hasBatch } ∧
      (¬ StartsWith "ALTER " sql → hasBatch = t.hasBatch) := by
  have insert :
      ¬ Matching.startsWith.holds ("INSERT INTO " ++ t.table ++ " (migration") sql = true := by
    refine startsWith_fails fun start => insertion ?_
    rw [String.append_assoc] at start
    exact start.of_append
  have delete : ¬ Matching.startsWith.holds ("DELETE FROM " ++ t.table ++ " ") sql = true := by
    refine startsWith_fails fun start => deletion ?_
    rw [String.append_assoc] at start
    exact start.of_append
  unfold after answer?
  dsimp only
  rw [if_neg insert, if_neg delete]
  by_cases alter :
      Matching.startsWith.holds ("ALTER TABLE " ++ t.table ++ " ADD COLUMN batch") sql = true
  · have start : StartsWith "ALTER " sql := by
      have whole := startsWith_holds.mp alter
      have words : "ALTER TABLE " = "ALTER " ++ "TABLE " := by decide
      rw [String.append_assoc, words, String.append_assoc] at whole
      exact whole.of_append
    rw [if_pos alter]
    split
    · rename_i found
      split_ifs at found <;> cases found <;> exact ⟨_, rfl, fun other => absurd start other⟩
    · exact ⟨t.hasBatch, rfl, fun _ => rfl⟩
  · rw [if_neg alter]
    refine ⟨t.hasBatch, ?_, fun _ => rfl⟩
    split
    · rename_i found
      split_ifs at found <;> cases found <;> rfl
    · rfl

/-- A statement that starts in another way than an insertion, a deletion and an alteration leaves the
table as it is. -/
theorem after_kept (t : LedgerTable) {words sql : String} (params : List Value)
    (start : StartsWith words sql)
    (apart : ∀ change ∈ ["INSERT INTO ", "DELETE FROM ", "ALTER "], Apart words change) :
    t.after sql params = t := by
  have other {change : String} (member : change ∈ ["INSERT INTO ", "DELETE FROM ", "ALTER "]) :
      ¬ StartsWith change sql := start.not_of_apart (apart change member)
  obtain ⟨hasBatch, same, kept⟩ := t.after_other params (other (by simp)) (other (by simp))
  rw [same, kept (other (by simp))]

section

variable {l : Ledger} (t : LedgerTable) (named : t.table = l.table)

include named

/-- Recording a migration adds a row at the end. -/
theorem after_record (name : String) (batch : Int) :
    t.after l.recordStatement [.text name, .int64 batch] =
      { t with entries := t.entries ++ [⟨name, batch, none⟩] } := by
  have start : StartsWith ("INSERT INTO " ++ t.table ++ " (migration") l.recordStatement := by
    unfold Ledger.recordStatement
    rw [named]
    simp only [String.append_assoc]
    exact ((StartsWith.append (by decide) _).append_left _).append_left _
  have query {words : String} (apart : Apart "INSERT INTO " words) :
      ¬ Matching.startsWith.holds words l.recordStatement = true :=
    startsWith_fails (l.recordStatement_start.not_of_apart apart)
  unfold after answer?
  dsimp only
  rw [if_neg (query (by decide)), if_neg (query (by decide)), if_neg (query (by decide)),
    if_pos (startsWith_holds.mpr start)]
  rfl

/-- Forgetting a migration removes all of its rows. -/
theorem after_forget (name : String) :
    t.after l.forgetStatement [.text name] =
      { t with entries := t.entries.filter (·.migration != name) } := by
  have start : StartsWith ("DELETE FROM " ++ t.table ++ " ") l.forgetStatement := by
    unfold Ledger.forgetStatement
    rw [named]
    simp only [String.append_assoc]
    exact ((StartsWith.append (by decide) _).append_left _).append_left _
  have other {words : String} (apart : Apart "DELETE FROM " words) :
      ¬ StartsWith words l.forgetStatement :=
    l.forgetStatement_start.not_of_apart apart
  have insert : ¬ StartsWith ("INSERT INTO " ++ t.table ++ " (migration") l.forgetStatement := by
    intro start
    rw [String.append_assoc] at start
    exact other (by decide) start.of_append
  unfold after answer?
  dsimp only
  rw [if_neg (startsWith_fails (other (by decide))), if_neg (startsWith_fails (other (by decide))),
    if_neg (startsWith_fails (other (by decide))), if_neg (startsWith_fails insert),
    if_pos (startsWith_holds.mpr start)]
  rfl

end

section

variable (l : Ledger) (t : LedgerTable)

theorem answer_namesQuery :
    t.answer? l.namesQuery [] = some (.names (t.entries.map (·.migration)), t) := by
  have start : StartsWith "SELECT migration FROM" l.namesQuery :=
    StartsWith.append (by decide) _
  have batch : ¬ StartsWith "SELECT COALESCE(MAX(batch), 0) + 1" l.namesQuery :=
    start.not_of_apart (by decide)
  unfold answer?
  dsimp only
  rw [if_neg (startsWith_fails batch), if_pos (startsWith_holds.mpr start)]

theorem answer_nextBatchQuery :
    t.answer? l.nextBatchQuery [] = some (.nextBatch t.nextBatch, t) := by
  have start : StartsWith "SELECT COALESCE(MAX(batch), 0) + 1" l.nextBatchQuery :=
    StartsWith.append (by decide) _
  unfold answer?
  dsimp only
  rw [if_pos (startsWith_holds.mpr start)]

theorem answer_entriesQuery :
    t.answer? l.entriesQuery [] = some (.entries t.entries, t) := by
  have start : StartsWith "SELECT migration, batch, created_at FROM" l.entriesQuery :=
    (StartsWith.append (by decide) _).append _
  have batch : ¬ StartsWith "SELECT COALESCE(MAX(batch), 0) + 1" l.entriesQuery :=
    start.not_of_apart (by decide)
  have names : ¬ StartsWith "SELECT migration FROM" l.entriesQuery :=
    start.not_of_apart (by decide)
  unfold answer?
  dsimp only
  rw [if_neg (startsWith_fails batch), if_neg (startsWith_fails names),
    if_pos (startsWith_holds.mpr start)]

private theorem batchColumnQuery_known :
    Matching.contains.holds "information_schema" l.batchColumnQuery = true ∨
      Matching.startsWith.holds "SHOW COLUMNS" l.batchColumnQuery = true := by
  unfold Ledger.batchColumnQuery
  cases l.dialect with
  | postgres =>
    left
    have words : "SELECT column_name FROM information_schema.columns WHERE table_name = " =
        "SELECT column_name FROM " ++ ("information_schema" ++ ".columns WHERE table_name = ") := by
      decide
    dsimp only
    rw [words]
    simp only [Matching.holds, String.toList_append, List.append_assoc]
    exact occursIn_append _ _ _
  | mysql =>
    right
    simp only [String.append_assoc]
    exact startsWith_holds.mpr (StartsWith.append (by decide) _)

/-- The query for the column starts in one of two ways, and is no other statement of the ledger. -/
theorem batchColumnQuery_other {words : String} (first : Apart "SELECT column_name" words)
    (second : Apart "SHOW COLUMNS" words) : ¬ StartsWith words l.batchColumnQuery := by
  unfold Ledger.batchColumnQuery
  cases l.dialect with
  | postgres =>
    simp only [String.append_assoc]
    exact (StartsWith.append (by decide) _).not_of_apart first
  | mysql =>
    simp only [String.append_assoc]
    exact (StartsWith.append (by decide) _).not_of_apart second

theorem answer_batchColumnQuery :
    t.answer? l.batchColumnQuery [] = some (.batchColumn t.hasBatch, t) := by
  have insertion (rest : String) :
      ¬ Matching.startsWith.holds ("INSERT INTO " ++ rest) l.batchColumnQuery = true :=
    startsWith_fails fun start =>
      batchColumnQuery_other l (by decide) (by decide) start.of_append
  have deletion (rest : String) :
      ¬ Matching.startsWith.holds ("DELETE FROM " ++ rest) l.batchColumnQuery = true :=
    startsWith_fails fun start =>
      batchColumnQuery_other l (by decide) (by decide) start.of_append
  have query {words : String} (first : Apart "SELECT column_name" words)
      (second : Apart "SHOW COLUMNS" words) :
      ¬ Matching.startsWith.holds words l.batchColumnQuery = true :=
    startsWith_fails (batchColumnQuery_other l first second)
  have known : (Matching.contains.holds "information_schema" l.batchColumnQuery ||
      Matching.startsWith.holds "SHOW COLUMNS" l.batchColumnQuery) = true := by
    rw [Bool.or_eq_true]
    exact batchColumnQuery_known l
  unfold answer?
  dsimp only
  simp only [String.append_assoc]
  rw [if_neg (query (by decide) (by decide)), if_neg (query (by decide) (by decide)),
    if_neg (query (by decide) (by decide)), if_neg (insertion _), if_neg (deletion _),
    if_pos known]

end

/-- One more than the largest batch of some entries, or one if there are none. -/
def freshBatch (entries : List LedgerEntry) : Int :=
  (entries.map (·.batch)).max?.getD 0 + 1

theorem batch_lt_freshBatch {entries : List LedgerEntry} :
    ∀ e ∈ entries, e.batch < freshBatch entries := by
  intro e member
  have listed : e.batch ∈ entries.map (·.batch) := List.mem_map_of_mem member
  unfold freshBatch
  cases largest : (entries.map (·.batch)).max? with
  | none =>
    rw [List.max?_eq_none_iff.mp largest] at listed
    cases listed
  | some b =>
    have bound : e.batch ≤ b := (List.max?_eq_some_iff.mp largest).2 _ listed
    rw [Option.getD_some]
    omega

/-- As long as the largest batch is not the last of the range, the next one does not go round. -/
theorem nextBatch_eq {entries : List LedgerEntry}
    (small : ∀ e ∈ entries, -2 ^ 63 ≤ e.batch ∧ e.batch < 2 ^ 63 - 1) :
    ({ entries } : LedgerTable).nextBatch = freshBatch entries := by
  unfold nextBatch freshBatch
  dsimp only
  cases batches : entries.map (·.batch) with
  | nil => rfl
  | cons b bs =>
    have largest : (b :: bs).max? = some (bs.foldl max b) := List.max?_cons'
    have member : bs.foldl max b ∈ entries.map (·.batch) := by
      rw [batches]
      exact List.max?_mem largest
    obtain ⟨e, listed, equal⟩ := List.mem_map.mp member
    obtain ⟨low, high⟩ := small e listed
    have range : twoTo 64 = 2 ^ 64 := rfl
    rw [largest, Option.getD_some, ← equal, range]
    dsimp only
    rw [← equal]
    exact Int.bmod_eq_of_le (by omega) (by omega)

end LedgerTable

namespace Memory

/-- A connection with a ledger table that has had some calls and refuses none. -/
def simulated (calls : List Call) (t : LedgerTable) : Recorded Memory :=
  ⟨calls.reverse, { ledger := some t }⟩

@[simp] theorem calls_simulated (calls : List Call) (t : LedgerTable) :
    (simulated calls t).calls = calls := List.reverse_reverse calls

variable (calls : List Call) (t : LedgerTable) (sql : String) (params : List Value)

/-- Without rules no call is refused, and the table becomes what the statement makes of it. -/
theorem respond_ledger :
    ∃ rows, respond sql params { ledger := some t } =
      (.ok rows, { ledger := some (t.after sql params) }) := by
  unfold respond LedgerTable.after
  dsimp only [Rule.answer?, Option.bind_some]
  cases t.answer? sql params with
  | none => exact ⟨[], rfl⟩
  | some found => exact ⟨ledgerRows found.1, rfl⟩

theorem execute_ledger :
    server.execute sql params { ledger := some t } =
      (.ok 1, { ledger := some (t.after sql params) }) := by
  obtain ⟨rows, answered⟩ := respond_ledger t sql params
  change ((respond sql params { ledger := some t }).1.map _,
    (respond sql params { ledger := some t }).2) = _
  rw [answered]
  rfl

/-- A statement is accepted and noted, and it changes the table as it may. -/
theorem execute_simulated :
    server.recorded.execute sql params (simulated calls t) =
      (.ok 1, simulated (calls ++ [⟨sql, params⟩]) (t.after sql params)) := by
  unfold simulated
  rw [List.reverse_append]
  exact Server.recorded_execute (execute_ledger t sql params) calls.reverse

theorem respond_query {answer : LedgerAnswer} {t' : LedgerTable}
    (found : t.answer? sql params = some (answer, t')) :
    respond sql params { ledger := some t } = (.ok (ledgerRows answer), { ledger := some t' }) := by
  unfold respond
  dsimp only [Rule.answer?, Option.bind_some]
  rw [found]

/-- A query of the ledger gets the rows that the table answers, and is noted. -/
theorem fetch_simulated {answer : LedgerAnswer} {t' : LedgerTable}
    (found : t.answer? sql params = some (answer, t')) :
    server.recorded.fetch sql params (simulated calls t) =
      (.ok (ledgerRows answer), simulated (calls ++ [⟨sql, params⟩]) t') := by
  unfold simulated
  rw [List.reverse_append]
  exact Server.recorded_fetch (respond_query t sql params found) calls.reverse

/-- The first cells of the rows for some names are these names. -/
theorem ledgerRows_names (names : List String) :
    (ledgerRows (.names names)).map (·.byIndex 0) = names.map fun name => .ok (.text name) := by
  simp only [ledgerRows, List.map_map]
  rfl

end Memory

end SchemaSeed.Server

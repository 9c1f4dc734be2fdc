import Mathlib
import SchemaSeed.Migration.Run

/-!
How statements start. Whatever its tables and columns are called, a statement of a compiled script
makes, alters or drops something; the statements of the ledger and those around a transaction do
not, apart from the two that make the table of the ledger and repair it.
-/

set_option autoImplicit false
set_option relaxedAutoImplicit false

namespace SchemaSeed.Migration

open SchemaSeed.Sql SchemaSeed.Files

/-- Whether a statement starts with some words. -/
def StartsWith (words statement : String) : Prop := words.toList <+: statement.toList

instance (words statement : String) : Decidable (StartsWith words statement) :=
  inferInstanceAs (Decidable (_ <+: _))

theorem startsWith_append (words rest : String) : StartsWith words (words ++ rest) := by
  rw [StartsWith, String.toList_append]
  exact List.prefix_append _ _

theorem StartsWith.append {words statement : String} (start : StartsWith words statement)
    (rest : String) : StartsWith words (statement ++ rest) := by
  rw [StartsWith, String.toList_append]
  exact start.trans (List.prefix_append _ _)

theorem StartsWith.of_append {words rest statement : String}
    (start : StartsWith (words ++ rest) statement) : StartsWith words statement := by
  rw [StartsWith, String.toList_append] at start
  exact (List.prefix_append _ _).trans start

theorem StartsWith.append_left {words statement : String} (start : StartsWith words statement)
    (first : String) : StartsWith (first ++ words) (first ++ statement) := by
  rw [StartsWith, String.toList_append, String.toList_append]
  exact (List.prefix_append_right_inj _).mpr start

theorem StartsWith.ne {words statement other : String} (start : StartsWith words statement)
    (missing : ¬ StartsWith words other) : statement ≠ other := fun same => missing (same ▸ start)

/-- Two words of which neither starts with the other. -/
def Apart (words words' : String) : Prop :=
  ¬ words.toList <+: words'.toList ∧ ¬ words'.toList <+: words.toList

instance (words words' : String) : Decidable (Apart words words') :=
  inferInstanceAs (Decidable (_ ∧ _))

/-- A statement starts with one of two words that are apart. -/
theorem StartsWith.not_of_apart {words words' statement : String}
    (start : StartsWith words statement) (apart : Apart words words') :
    ¬ StartsWith words' statement := by
  intro start'
  rcases List.prefix_or_prefix_of_prefix start start' with shorter | longer
  · exact apart.1 shorter
  · exact apart.2 longer

/-- A statement that makes, alters or drops a table or an index. -/
def IsSchemaStatement (sql : String) : Prop :=
  StartsWith "CREATE " sql ∨ StartsWith "ALTER " sql ∨ StartsWith "DROP " sql

instance (sql : String) : Decidable (IsSchemaStatement sql) := inferInstanceAs (Decidable (_ ∨ _))

/-- A change of the schema starts with no words that are apart from the three. -/
theorem IsSchemaStatement.not_startsWith {sql words : String} (schema : IsSchemaStatement sql)
    (create : Apart "CREATE " words) (alter : Apart "ALTER " words) (drop : Apart "DROP " words) :
    ¬ StartsWith words sql := by
  rcases schema with start | start | start
  · exact start.not_of_apart create
  · exact start.not_of_apart alter
  · exact start.not_of_apart drop

private theorem createTable_schema (d : Dialect) (op : CreateTable) :
    ∀ sql ∈ op.statements d, IsSchemaStatement sql := by
  intro sql member
  unfold CreateTable.statements at member
  rcases List.mem_cons.mp member with rfl | index
  · left
    simp only [String.append_assoc]
    exact StartsWith.append (by decide) _
  · obtain ⟨i, -, rfl⟩ := List.mem_map.mp index
    left
    unfold Clause.createIndex
    simp only [String.append_assoc]
    exact startsWith_append _ _

private theorem alterTable_schema (d : Dialect) (op : AlterTable) :
    ∀ sql ∈ op.statements d, IsSchemaStatement sql := by
  intro sql member
  unfold AlterTable.statements at member
  rcases List.mem_append.mp member with change | removal
  · right; left
    split at change
    · simp at change
    · obtain rfl := List.mem_singleton.mp change
      simp only [String.append_assoc]
      exact StartsWith.append (by decide) _
  · right; right
    obtain ⟨removed, listed, statement⟩ := List.mem_filterMap.mp removal
    obtain ⟨name, -, rfl⟩ := List.mem_map.mp listed
    cases d with
    | postgres =>
      obtain rfl := Option.some.inj statement
      simp only [String.append_assoc]
      exact StartsWith.append (by decide) _
    | mysql => simp [Clause.dropIndex, removalStatement?] at statement

theorem dropTable_start (d : Dialect) (op : DropTable) :
    StartsWith "DROP " (Clause.dropTable d op) := by
  unfold Clause.dropTable
  simp only [String.append_assoc]
  exact StartsWith.append (by decide) _

/-- Every statement of an operation changes the schema. -/
theorem Operation.statements_schema (d : Dialect) (op : Operation) :
    ∀ sql ∈ op.statements d, IsSchemaStatement sql := by
  cases op with
  | create op => exact createTable_schema d op
  | alter op => exact alterTable_schema d op
  | drop op =>
    intro sql member
    obtain rfl := List.mem_singleton.mp member
    exact .inr (.inr (dropTable_start d op))

/-- Every statement of an operation ends with a semicolon. -/
theorem Operation.statements_terminated (d : Dialect) (op : Operation) :
    ∀ sql ∈ op.statements d, ∃ words, sql = words ++ ";" := by
  intro sql member
  cases op with
  | create op =>
    rcases List.mem_cons.mp member with rfl | index
    · exact ⟨_, rfl⟩
    · obtain ⟨i, -, rfl⟩ := List.mem_map.mp index
      refine ⟨"CREATE " ++ Clause.flag i.unique "UNIQUE " ++ "INDEX " ++
        d.quoteName (i.resolvedName op.table) ++ " ON " ++ d.quoteName op.table ++ " (" ++
        ", ".intercalate (i.columns.map d.quoteName) ++ ")", ?_⟩
      unfold Clause.createIndex
      simp only [String.append_assoc]
      rfl
  | alter op =>
    rcases List.mem_append.mp member with change | removal
    · split at change
      · cases change
      · obtain rfl := List.mem_singleton.mp change
        exact ⟨_, rfl⟩
    · obtain ⟨removed, listed, statement⟩ := List.mem_filterMap.mp removal
      obtain ⟨name, -, rfl⟩ := List.mem_map.mp listed
      cases d with
      | postgres =>
        obtain rfl := Option.some.inj statement
        exact ⟨_, rfl⟩
      | mysql => cases statement
  | drop op =>
    obtain rfl := List.mem_singleton.mp member
    exact ⟨_, rfl⟩

/-- A compiled script is a transaction around the statements of its operations. -/
theorem compile_wraps {d : Dialect} {ops : List Operation} {script : Script}
    (compiled : compile d ops = .ok script) :
    script = d.wrap (ops.flatMap (Operation.statements d)) := by
  unfold compile at compiled
  cases valid : Operation.validate ops with
  | error e =>
    rw [valid] at compiled
    cases compiled
  | ok _ =>
    rw [valid] at compiled
    exact (Except.ok.inj compiled).symm

/-- No change of the schema is one of the statements around a transaction. -/
theorem IsSchemaStatement.ne_around {sql : String} (schema : IsSchemaStatement sql) (d : Dialect) :
    sql ≠ d.beginKeyword ++ ";" ∧ sql ≠ "COMMIT;" ∧ sql ≠ "ROLLBACK;" := by
  refine ⟨?_, ?_, ?_⟩
  · rintro rfl
    cases d with
    | postgres => exact absurd schema (by decide)
    | mysql => exact absurd schema (by decide)
  · rintro rfl
    exact absurd schema (by decide)
  · rintro rfl
    exact absurd schema (by decide)

namespace Ledger

theorem recordStatement_start (l : Ledger) : StartsWith "INSERT INTO " l.recordStatement := by
  unfold recordStatement
  simp only [String.append_assoc]
  exact startsWith_append _ _

theorem forgetStatement_start (l : Ledger) : StartsWith "DELETE FROM " l.forgetStatement := by
  unfold forgetStatement
  simp only [String.append_assoc]
  exact startsWith_append _ _

theorem namesQuery_start (l : Ledger) : StartsWith "SELECT migration FROM" l.namesQuery :=
  StartsWith.append (by decide) _

theorem nextBatchQuery_start (l : Ledger) : StartsWith "SELECT COALESCE" l.nextBatchQuery :=
  StartsWith.append (by decide) _

theorem createStatement_start (l : Ledger) : StartsWith "CREATE " l.createStatement := by
  unfold createStatement
  simp only [String.append_assoc]
  exact StartsWith.append (by decide) _

theorem createStatement_schema (l : Ledger) : IsSchemaStatement l.createStatement :=
  .inl l.createStatement_start

theorem addBatchColumn_schema (l : Ledger) : IsSchemaStatement l.addBatchColumn := by
  right; left
  unfold addBatchColumn
  simp only [String.append_assoc]
  exact StartsWith.append (by decide) _

end Ledger

end SchemaSeed.Migration

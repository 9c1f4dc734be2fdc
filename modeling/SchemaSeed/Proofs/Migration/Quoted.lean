import Mathlib
import SchemaSeed.Migration.Compile
import SchemaSeed.Proofs.Number.Printed
import SchemaSeed.Proofs.Sql.Outline

/-!
What the statements of schema changes quote. Names and texts are quoted wherever a clause has them,
and everything else in a statement is the same for all names and texts.
-/

set_option autoImplicit false
set_option relaxedAutoImplicit false

namespace SchemaSeed.Migration

open SchemaSeed.Sql SchemaSeed.Sql.Scan

/-- A character of plain words: a letter, a digit, a blank, an underscore, a comma or a
parenthesis. -/
def isPlainChar (c : Char) : Bool := c.isAlphanum || [' ', '_', ',', '(', ')'].contains c

/-- Plain words. -/
def IsPlain (s : String) : Prop := s.toList.all isPlainChar = true

instance (s : String) : Decidable (IsPlain s) :=
  inferInstanceAs (Decidable (s.toList.all isPlainChar = true))

/-- The types of columns, the engine and the charset of an operation are plain words. -/
def Operation.Plain : Operation → Prop
  | .create op => (∀ c ∈ op.columns, IsPlain c.type) ∧ (∀ words ∈ op.engine, IsPlain words) ∧
      ∀ words ∈ op.charset, IsPlain words
  | .alter op => ∀ c ∈ op.changes.add ++ op.changes.modify, IsPlain c.type
  | .drop _ => True

/-! Operations without their names and without the contents of their texts. -/

/-- A default without the contents of a text. -/
def DefaultValue.blank : DefaultValue → DefaultValue
  | .text _ => .text ""
  | v => v

def Column.blank (c : Column) : Column :=
  { c with name := "", default := c.default.map DefaultValue.blank }

def ForeignKey.blank (fk : ForeignKey) : ForeignKey :=
  { fk with name := "", column := "", referenceTable := "", referenceColumn := "" }

def Index.blank (i : Index) : Index :=
  { i with name := none, columns := i.columns.map fun _ => "" }

def CreateTable.blank (op : CreateTable) : CreateTable :=
  { op with
    table := "", columns := op.columns.map Column.blank
    foreignKeys := op.foreignKeys.map ForeignKey.blank, indexes := op.indexes.map Index.blank }

def TableChanges.blank (c : TableChanges) : TableChanges where
  add := c.add.map Column.blank
  modify := c.modify.map Column.blank
  drop := c.drop.map fun _ => ""
  addForeignKeys := c.addForeignKeys.map ForeignKey.blank
  dropForeignKeys := c.dropForeignKeys.map fun _ => ""
  dropIndex := c.dropIndex.map fun _ => ""

/-- An operation without its names and without the contents of its texts. Operations that differ in
nothing else are the same without them. -/
def Operation.blank : Operation → Operation
  | .create op => .create op.blank
  | .alter op => .alter ⟨"", op.changes.blank⟩
  | .drop op => .drop { op with table := "" }

/-! What is quoted in the statements of an operation. -/

/-- What is quoted in a statement: names and texts, each from left to right. -/
structure Quoted where
  names : List String
  texts : List String := []

/-- The text of a default, if it is one. -/
def defaultTexts : Option DefaultValue → List String
  | some (.text s) => [s]
  | _ => []

/-- The texts in the definition of a column. In one dialect a numbered column has no default. -/
def Column.texts (d : Dialect) (c : Column) : List String :=
  match d with
  | .postgres => if c.autoIncrement then [] else defaultTexts c.default
  | .mysql => defaultTexts c.default

/-- The names in the change of a column. One dialect has a clause for each thing that changes. -/
def Column.modifiedNames (d : Dialect) (c : Column) : List String :=
  match d with
  | .postgres =>
    List.replicate (1 + c.nullable.toList.length + c.default.toList.length) c.name
  | .mysql => [c.name]

/-- The texts in the change of a column. -/
def Column.modifiedTexts (d : Dialect) (c : Column) : List String :=
  match d with
  | .postgres => defaultTexts c.default
  | .mysql => c.texts .mysql

/-- The names in a foreign key. -/
def ForeignKey.names (fk : ForeignKey) : List String :=
  [fk.name, fk.column, fk.referenceTable, fk.referenceColumn]

/-- What is quoted in the statement that makes a table, and in those that make its indexes. -/
def CreateTable.quoted (d : Dialect) (op : CreateTable) : List Quoted :=
  ⟨op.table :: (op.columns.map Column.name ++ op.foreignKeys.flatMap ForeignKey.names),
      op.columns.flatMap (Column.texts d)⟩ ::
    op.indexes.map fun i => { names := i.resolvedName op.table :: op.table :: i.columns }

/-- The indexes that are removed by a clause of the change of their table. -/
def clauseRemovals (d : Dialect) (names : List String) : List String :=
  match d with
  | .postgres => []
  | .mysql => names

/-- The indexes that are removed by statements of their own. -/
def statementRemovals (d : Dialect) (names : List String) : List String :=
  match d with
  | .postgres => names
  | .mysql => []

/-- The names in the clauses that change a table. -/
def TableChanges.names (d : Dialect) (c : TableChanges) : List String :=
  c.add.map Column.name ++ c.modify.flatMap (Column.modifiedNames d) ++ c.drop ++
    c.addForeignKeys.flatMap ForeignKey.names ++ c.dropForeignKeys ++ clauseRemovals d c.dropIndex

/-- The texts in the clauses that change a table. -/
def TableChanges.texts (d : Dialect) (c : TableChanges) : List String :=
  c.add.flatMap (Column.texts d) ++ c.modify.flatMap (Column.modifiedTexts d)

/-- What is quoted in the statement that changes a table, if there is a clause, and in those that
remove indexes. -/
def AlterTable.quoted (d : Dialect) (op : AlterTable) : List Quoted :=
  (if op.changes.names d = [] then []
    else [⟨op.table :: op.changes.names d, op.changes.texts d⟩]) ++
    (statementRemovals d op.changes.dropIndex).map fun name => { names := [name] }

/-- What is quoted in the statements of an operation. -/
def Operation.quoted (d : Dialect) : Operation → List Quoted
  | .create op => op.quoted d
  | .alter op => op.quoted d
  | .drop op => [{ names := [op.table] }]

/-- All texts among the defaults of an operation. -/
def Operation.textDefaults : Operation → List String
  | .create op => op.columns.flatMap fun c => defaultTexts c.default
  | .alter op => (op.changes.add ++ op.changes.modify).flatMap fun c => defaultTexts c.default
  | .drop _ => []

/-- The columns that an operation defines. -/
def Operation.definitions : Operation → List Column
  | .create op => op.columns
  | .alter op => op.changes.add
  | .drop _ => []

private theorem modifiedNames_ne_nil (d : Dialect) (c : Column) : c.modifiedNames d ≠ [] := by
  cases d with
  | postgres =>
    have many : (c.modifiedNames .postgres).length =
        1 + c.nullable.toList.length + c.default.toList.length := List.length_replicate
    refine List.ne_nil_of_length_pos ?_
    omega
  | mysql => exact List.cons_ne_nil _ _

/-- Every change has a name. -/
theorem TableChanges.names_eq_nil_iff {d : Dialect} {c : TableChanges} :
    c.names d = [] ↔
      ((((c.add = [] ∧ c.modify = []) ∧ c.drop = []) ∧ c.addForeignKeys = []) ∧
        c.dropForeignKeys = []) ∧ clauseRemovals d c.dropIndex = [] := by
  have flat {ι : Type} {items : List ι} {names : ι → List String} (some : ∀ i, names i ≠ []) :
      items.flatMap names = [] ↔ items = [] := by
    rw [List.flatMap_eq_nil_iff, List.eq_nil_iff_forall_not_mem]
    exact forall_congr' fun i => imp_congr_right fun _ => iff_false_intro (some i)
  have keys (fk : ForeignKey) : fk.names ≠ [] := List.cons_ne_nil _ _
  unfold TableChanges.names
  simp only [List.append_eq_nil_iff, List.map_eq_nil_iff, flat (modifiedNames_ne_nil d), flat keys]

/-- All of them are written if those of the defined columns are. -/
theorem Operation.texts_quoted {d : Dialect} {op : Operation}
    (written : ∀ c ∈ op.definitions, c.texts d = defaultTexts c.default) :
    (op.quoted d).flatMap Quoted.texts = op.textDefaults := by
  have defined (cs : List Column) (all : ∀ c ∈ cs, c.texts d = defaultTexts c.default) :
      cs.flatMap (Column.texts d) = cs.flatMap fun c => defaultTexts c.default :=
    List.flatMap_congr all
  have none {ι : Type} (items : List ι) (names : ι → List String) :
      (items.map fun i => ({ names := names i } : Quoted)).flatMap Quoted.texts = [] := by
    rw [List.flatMap_map]
    exact List.flatMap_eq_nil_iff.mpr fun _ _ => rfl
  cases op with
  | create op =>
    change ((_ :: op.indexes.map _).flatMap Quoted.texts) = _
    rw [List.flatMap_cons, none, List.append_nil]
    exact defined op.columns written
  | alter op =>
    have modified : op.changes.modify.flatMap (Column.modifiedTexts d) =
        op.changes.modify.flatMap fun c => defaultTexts c.default := by
      cases d with
      | postgres => rfl
      | mysql => rfl
    have texts : op.changes.texts d = Operation.textDefaults (.alter op) := by
      unfold TableChanges.texts
      rw [defined op.changes.add written, modified]
      exact List.flatMap_append.symm
    change ((if op.changes.names d = [] then [] else [_]) ++
      (statementRemovals d op.changes.dropIndex).map _).flatMap Quoted.texts = _
    rw [List.flatMap_append, none, List.append_nil, ← texts]
    by_cases unchanged : op.changes.names d = []
    · obtain ⟨⟨⟨⟨⟨add, modify⟩, -⟩, -⟩, -⟩, -⟩ := TableChanges.names_eq_nil_iff.mp unchanged
      rw [if_pos unchanged, TableChanges.texts, add, modify]
      rfl
    · rw [if_neg unchanged]
      exact List.append_nil _
  | drop op => rfl

namespace Clause

private theorem isHarmless_of {c : Char} {signs : List Char}
    (kind : c.isAlphanum = true ∨ signs.contains c = true)
    (harmless : signs.all isHarmless = true) : isHarmless c = true := by
  rcases kind with letter | sign
  · unfold isHarmless
    rw [Bool.not_eq_true', List.contains_eq_mem, decide_eq_false_iff_not]
    intro other
    fin_cases other <;> cases letter
  · exact List.all_eq_true.mp harmless c (List.contains_iff_mem.mp sign)

private theorem harmless_of_number {s : String} (number : Number.IsNumberText s) :
    IsHarmless s := by
  refine .of_all number fun c here => ?_
  have letter (digit : c.isDigit = true) : c.isAlphanum = true := by
    unfold Char.isAlphanum
    rw [digit, Bool.or_true]
  exact isHarmless_of ((Bool.or_eq_true_iff.mp here).imp_left letter) (by decide)

private theorem harmless_of_plain {s : String} (plain : IsPlain s) : IsHarmless s :=
  .of_all plain fun _ here => isHarmless_of (Bool.or_eq_true_iff.mp here) (by decide)

section

variable (d : Dialect)

theorem quotes_flag {P : Scan → Prop} {words : String}
    (quotes : Quotes d P P words words [] []) (present : Bool) :
    Quotes d P P (flag present words) (flag present words) [] [] := by
  cases present with
  | true => exact quotes
  | false => exact .empty

private theorem quotes_columnType {type : String} (plain : IsPlain type) :
    Quotes d Idle Settled (columnType d type) (columnType d type) [] [] := by
  refine .harmless ?_
  unfold columnType
  split
  all_goals first | exact harmless_of_plain plain | decide

private theorem quotes_defaultValue (v : DefaultValue) :
    Quotes d Idle Settled (defaultValue d v) (defaultValue d v.blank) []
      (defaultTexts (some v)) := by
  cases v with
  | currentTimestamp => exact .harmless (by decide : IsHarmless "CURRENT_TIMESTAMP")
  | onUpdateTimestamp =>
    cases d with
    | postgres => exact .harmless (by decide)
    | mysql => exact .harmless (by decide)
  | text s => exact .ofText s
  | number n => exact .harmless (harmless_of_number n.isNumberText_print)
  | bool b =>
    cases b with
    | true => exact .harmless (by decide : IsHarmless "TRUE")
    | false => exact .harmless (by decide : IsHarmless "FALSE")

private theorem quotes_defaultClause (default : Option DefaultValue) :
    Quotes d Settled Settled (defaultClause d default)
      (defaultClause d (default.map DefaultValue.blank)) [] (defaultTexts default) := by
  cases default with
  | none => exact .empty
  | some v => exact (Quotes.gap " DEFAULT " (by decide)).append (quotes_defaultValue d v)

private theorem quotes_column {c : Column} (plain : IsPlain c.type) :
    Quotes d Idle Settled (column d c) (column d c.blank) [c.name] (c.texts d) := by
  have start := ((Quotes.ofName (d := d) c.name).append (.gap " " (by decide))).append
    (quotes_columnType d plain)
  have key := quotes_flag d (.tail " PRIMARY KEY" (by decide)) c.primaryKey
  have unique := quotes_flag d (.tail " UNIQUE" (by decide)) c.unique
  have notNull := quotes_flag d (.tail " NOT NULL" (by decide)) c.isNotNull
  have default := quotes_defaultClause d c.default
  cases d with
  | postgres =>
    have numbered : Quotes .postgres Settled Settled
        (if c.autoIncrement then " " ++ autoIncrement .postgres
          else defaultClause .postgres c.default)
        (if c.autoIncrement then " " ++ autoIncrement .postgres
          else defaultClause .postgres (c.default.map DefaultValue.blank)) []
        (c.texts .postgres) := by
      unfold Column.texts
      dsimp only
      by_cases auto : c.autoIncrement = true
      · rw [if_pos auto, if_pos auto, if_pos auto]
        exact .tail (" " ++ autoIncrement .postgres) (by decide)
      · rw [if_neg auto, if_neg auto, if_neg auto]
        exact default
    exact (start.append (((key.append numbered).append unique).append notNull)).congr rfl (by simp)
  | mysql =>
    have unsigned := quotes_flag .mysql (.tail " UNSIGNED" (by decide)) c.unsigned
    have auto := quotes_flag .mysql (.tail (" " ++ autoIncrement .mysql) (by decide))
      c.autoIncrement
    exact (start.append (((((unsigned.append key).append auto).append unique).append
      notNull).append default)).congr rfl (by simp [Column.texts])

private theorem quotes_onEvent {event : String} (action : Option ReferentialAction)
    (plain : IsHarmless event) :
    Quotes d Settled Settled (onEvent event action) (onEvent event action) [] [] := by
  cases action with
  | none => exact .empty
  | some a =>
    have words : IsHarmless (" ON " ++ event ++ " " ++ a.toSql) := by
      refine (IsHarmless.append (.append (.append (by decide) plain) (by decide)) ?_)
      cases a <;> decide
    have starts : startsApart (" ON " ++ event ++ " " ++ a.toSql) = true := by
      unfold startsApart
      simp only [String.toList_append, List.append_assoc]
      rfl
    exact .tail _ ⟨words, starts⟩

private theorem quotes_foreignKey (fk : ForeignKey) :
    Quotes d Idle Settled (foreignKey d fk) (foreignKey d fk.blank) fk.names [] := by
  have name := (Quotes.words (d := d) "CONSTRAINT " (by decide)).append (.ofName fk.name)
  have column := (name.append (.gap " FOREIGN KEY (" (by decide))).append (.ofName fk.column)
  have table := (column.append (.gap ") REFERENCES " (by decide))).append
    (.ofName fk.referenceTable)
  have key := (table.append (.gap " (" (by decide))).append (.ofName fk.referenceColumn)
  have closed := (key.append (.gap ")" (by decide))).settled
  have onDelete := quotes_onEvent d fk.onDelete (by decide : IsHarmless "DELETE")
  have onUpdate := quotes_onEvent d fk.onUpdate (by decide : IsHarmless "UPDATE")
  exact (closed.append onDelete).append onUpdate

/-- The words that each clause for a column starts with. -/
private def alterColumn (name : String) : String :=
  "ALTER COLUMN " ++ Dialect.postgres.quoteName name

/-- The words for whether a column may miss values. -/
private def nullability (allowed : Bool) : String :=
  if allowed then " DROP NOT NULL" else " SET NOT NULL"

/-- In one dialect a column is changed by a clause for its type, one for whether it may miss values
and one for its default. -/
private theorem modifyColumn_postgres (c : Column) :
    modifyColumn .postgres c =
      ", ".intercalate ((alterColumn c.name ++ " TYPE " ++ columnType .postgres c.type) ::
        (c.nullable.toList.map (fun allowed => alterColumn c.name ++ nullability allowed) ++
          c.default.toList.map fun v =>
            alterColumn c.name ++ " SET DEFAULT " ++ defaultValue .postgres v)) := by
  obtain ⟨_, _, _, _, _, _, nullable, default⟩ := c
  rcases nullable with _ | _ | _
  all_goals
    cases default with
    | none => rfl
    | some v => rfl

private theorem quotes_nullability (allowed : Bool) :
    Quotes .postgres Settled Settled (nullability allowed) (nullability allowed) [] [] := by
  cases allowed with
  | true => exact .tail " DROP NOT NULL" (by decide)
  | false => exact .tail " SET NOT NULL" (by decide)

theorem quotes_modifyColumn {c : Column} (plain : IsPlain c.type) :
    Quotes d Idle Settled (modifyColumn d c) (modifyColumn d c.blank) (c.modifiedNames d)
      (c.modifiedTexts d) := by
  cases d with
  | mysql =>
    exact (Quotes.words "MODIFY COLUMN " (by decide)).append (quotes_column .mysql plain)
  | postgres =>
    have alter : Quotes .postgres Idle Settled (alterColumn c.name) (alterColumn "") [c.name] [] :=
      (Quotes.words "ALTER COLUMN " (by decide)).append (.ofName c.name)
    have type := (alter.append (.gap " TYPE " (by decide))).append
      (quotes_columnType .postgres plain)
    have many {ι : Type} (items : List ι) :
        List.replicate items.length c.name = items.flatMap fun _ => [c.name] := by
      rw [← List.map_const', List.map_eq_flatMap]
    have nullable : QuotesAll .postgres _ _
        (List.replicate c.nullable.toList.length c.name) [] :=
      (QuotesAll.each fun allowed (_ : allowed ∈ c.nullable.toList) =>
        alter.append (quotes_nullability allowed)).congr (many _) (by simp)
    have texts : defaultTexts c.default =
        c.default.toList.flatMap fun v => defaultTexts (some v) := by
      cases c.default with
      | none => rfl
      | some v => exact (List.append_nil _).symm
    have default : QuotesAll .postgres _ _
        (List.replicate c.default.toList.length c.name) (defaultTexts c.default) :=
      (QuotesAll.each fun v (_ : v ∈ c.default.toList) =>
        (alter.append (.gap " SET DEFAULT " (by decide))).append
          (quotes_defaultValue .postgres v)).congr (many _) texts
    have whole := (QuotesAll.cons type (nullable.append default)).listed
    have blank : c.blank.default.toList = c.default.toList.map DefaultValue.blank :=
      Option.toList_map
    rw [modifyColumn_postgres, modifyColumn_postgres, blank, List.map_map]
    refine whole.congr ?_ rfl
    unfold Column.modifiedNames
    rw [List.replicate_add, List.replicate_add, List.append_assoc]
    rfl

/-- Words before a name. -/
theorem quotes_named (words : String) (apart : IsHarmless words ∧ endsApart words = true)
    (name : String) :
    Quotes d Idle Settled (words ++ d.quoteName name) (words ++ d.quoteName "") [name] [] :=
  (Quotes.words words apart).append (.ofName name)

theorem quotes_addColumn {c : Column} (plain : IsPlain c.type) :
    Quotes d Idle Settled (addColumn d c) (addColumn d c.blank) [c.name] (c.texts d) :=
  (Quotes.words "ADD COLUMN " (by decide)).append (quotes_column d plain)

theorem quotes_addForeignKey (fk : ForeignKey) :
    Quotes d Idle Settled (addForeignKey d fk) (addForeignKey d fk.blank) fk.names [] :=
  (Quotes.words "ADD " (by decide)).append (quotes_foreignKey d fk)

theorem quotes_dropForeignKey (name : String) :
    Quotes d Idle Settled (dropForeignKey d name) (dropForeignKey d "") [name] [] := by
  cases d with
  | postgres => exact quotes_named .postgres "DROP CONSTRAINT " (by decide) name
  | mysql => exact quotes_named .mysql "DROP FOREIGN KEY " (by decide) name

/-- Clauses of one name each. -/
theorem quotesAll_named {clause : String → String} (names : List String)
    (each : ∀ name, Quotes d Idle Settled (clause name) (clause "") [name] []) :
    QuotesAll d (names.map clause) ((names.map fun _ => "").map clause) names [] :=
  (QuotesAll.map clause (fun _ => "") fun name _ => each name).congr (by simp) (by simp)

theorem quotesAll_columns {cs : List Column} (plain : ∀ c ∈ cs, IsPlain c.type) :
    QuotesAll d (cs.map (column d)) ((cs.map Column.blank).map (column d)) (cs.map Column.name)
      (cs.flatMap (Column.texts d)) :=
  (QuotesAll.map (column d) Column.blank fun c here => quotes_column d (plain c here)).congr
    List.map_eq_flatMap rfl

theorem quotesAll_foreignKeys (fks : List ForeignKey) :
    QuotesAll d (fks.map (foreignKey d)) ((fks.map ForeignKey.blank).map (foreignKey d))
      (fks.flatMap ForeignKey.names) [] :=
  (QuotesAll.map (foreignKey d) ForeignKey.blank fun fk _ => quotes_foreignKey d fk).congr rfl
    (by simp)

theorem removalClauses_postgres (names : List String) :
    (names.map (dropIndex .postgres)).filterMap removalClause? = [] := by
  rw [List.filterMap_map]
  exact List.filterMap_eq_nil_iff.mpr fun _ _ => rfl

theorem removalClauses_mysql (names : List String) :
    (names.map (dropIndex .mysql)).filterMap removalClause? =
      names.map fun name => "DROP INDEX " ++ Dialect.mysql.quoteName name := by
  rw [List.filterMap_map]
  exact congrFun (List.filterMap_eq_map (f := fun name =>
    "DROP INDEX " ++ Dialect.mysql.quoteName name)) names

/-- The clauses of an alteration that remove indexes: one dialect has none. -/
theorem quotesAll_removals (names : List String) :
    QuotesAll d ((names.map (dropIndex d)).filterMap removalClause?)
      (((names.map fun _ => "").map (dropIndex d)).filterMap removalClause?)
      (clauseRemovals d names) [] := by
  cases d with
  | postgres =>
    rw [removalClauses_postgres, removalClauses_postgres]
    exact .nil
  | mysql =>
    rw [removalClauses_mysql, removalClauses_mysql]
    exact quotesAll_named .mysql names (quotes_named .mysql "DROP INDEX " (by decide))

private theorem harmless_of_setting {words : String} (harmless : IsHarmless words)
    {value : Option String} (plain : ∀ v ∈ value, IsPlain v) :
    ∀ s ∈ setting words value, IsHarmless s := by
  intro s member
  cases value with
  | none => cases member
  | some v =>
    unfold setting at member
    dsimp only at member
    by_cases nothing : v = ""
    · rw [if_pos nothing] at member
      cases member
    · rw [if_neg nothing, List.mem_singleton] at member
      rw [member]
      exact harmless.append (harmless_of_plain (plain v rfl))

theorem harmless_of_tableOptions {op : CreateTable}
    (engine : ∀ words ∈ op.engine, IsPlain words) (charset : ∀ words ∈ op.charset, IsPlain words) :
    ∀ words ∈ tableOptions? d op, IsHarmless words := by
  intro words member
  cases d with
  | postgres => cases member
  | mysql =>
    have each : ∀ s ∈ setting "ENGINE=" op.engine ++ setting "DEFAULT CHARSET=" op.charset,
        IsHarmless s := by
      intro s here
      rcases List.mem_append.mp here with first | second
      · exact harmless_of_setting (by decide) engine s first
      · exact harmless_of_setting (by decide) charset s second
    unfold tableOptions? at member
    dsimp only at member
    split at member
    · cases member
    · rw [Option.mem_some_iff] at member
      rw [← member]
      exact IsHarmless.intercalate (by decide) each

end

end Clause

end SchemaSeed.Migration

import Mathlib
import SchemaSeed.Proofs.Migration.Composition
import SchemaSeed.Proofs.Migration.QuotedStatement

/-!
Blank names in compiled scripts. The checks see to every name of a sound operation apart from those
of the indexes of a new table: neither an indexed column nor the declared name of an index is looked
at, and so a script can have a blank one.
-/

set_option autoImplicit false
set_option relaxedAutoImplicit false

namespace SchemaSeed.Migration

open SchemaSeed.Sql SchemaSeed.Sql.Scan SchemaSeed.Text

/-- A column of the index is blank, or the name that the index declares is. An empty name is none. -/
def Index.HasBlank (i : Index) : Prop :=
  (∃ column ∈ i.columns, trim column = "") ∨
    ∃ name, i.name = some name ∧ name ≠ "" ∧ trim name = ""

/-- A name that is made of the table and the columns is not blank: it has letters. -/
private theorem made_ne_blank (i : Index) (table : String) :
    trim (Index.resolvedName.made i table) ≠ "" := by
  rw [← isBlankText_eq_false_iff]
  unfold Index.resolvedName.made isBlankText
  simp only [String.append_assoc, String.toList_append, List.all_append]
  have letters : "idx_".toList.all isBlank = false := by decide
  rw [letters, Bool.false_and]

/-- The name of an index is blank if it is declared and blank. -/
private theorem resolvedName_eq_blank_iff {i : Index} {table : String} :
    trim (i.resolvedName table) = "" ↔
      ∃ name, i.name = some name ∧ name ≠ "" ∧ trim name = "" := by
  have made := made_ne_blank i table
  unfold Index.resolvedName
  cases declared : i.name with
  | none =>
    refine iff_of_false made ?_
    rintro ⟨name, same, -⟩
    cases same
  | some name =>
    by_cases empty : name = ""
    · simp only [empty, if_true]
      refine iff_of_false made ?_
      rintro ⟨other, same, some, -⟩
      exact some (Option.some.inj same).symm
    · simp only [empty, if_false]
      constructor
      · intro blank
        exact ⟨name, rfl, empty, blank⟩
      · rintro ⟨other, same, -, blank⟩
        rw [Option.some.inj same]
        exact blank

/-- What is quoted in the statement that makes an index. -/
def Index.quoted (i : Index) (table : String) : Quoted where
  names := i.resolvedName table :: table :: i.columns

private theorem Index.quoted_has_blank_iff {i : Index} {table : String} (named : trim table ≠ "") :
    (∃ name ∈ (i.quoted table).names, trim name = "") ↔ i.HasBlank := by
  unfold Index.quoted Index.HasBlank
  simp only [List.exists_mem_cons_iff, resolvedName_eq_blank_iff]
  constructor
  · rintro (declared | blank | column)
    · exact .inr declared
    · exact absurd blank named
    · exact .inl column
  · rintro (column | declared)
    · exact .inr (.inr column)
    · exact .inl declared

section

variable {d : Dialect}

private theorem columns_named {cs : List Column} (sound : ∀ c ∈ cs, c.Sound) :
    ∀ name ∈ cs.map Column.name, trim name ≠ "" :=
  List.forall_mem_map.mpr fun c member => (sound c member).name

private theorem foreignKeys_named {fks : List ForeignKey} (sound : ∀ fk ∈ fks, fk.Sound) :
    ∀ name ∈ fks.flatMap ForeignKey.names, trim name ≠ "" := by
  intro name member
  obtain ⟨fk, here, listed⟩ := List.mem_flatMap.mp member
  exact sound fk here name listed

private theorem create_named {op : CreateTable} (table : trim op.table ≠ "") (sound : op.Sound) :
    ∀ name ∈ op.table :: (op.columns.map Column.name ++ op.foreignKeys.flatMap ForeignKey.names),
      trim name ≠ "" :=
  List.forall_mem_cons.mpr ⟨table, List.forall_mem_append.mpr
    ⟨columns_named sound.columns, foreignKeys_named sound.foreignKeys⟩⟩

/-- The clause that changes a column names nothing else. -/
private theorem modified_named {cs : List Column} (sound : ∀ c ∈ cs, c.Sound) :
    ∀ name ∈ cs.flatMap (Column.modifiedNames d), trim name ≠ "" := by
  intro name member
  obtain ⟨c, here, listed⟩ := List.mem_flatMap.mp member
  have same : name = c.name := by
    cases d with
    | postgres => exact (List.mem_replicate.mp listed).2
    | mysql => exact List.mem_singleton.mp listed
  rw [same]
  exact (sound c here).name

private theorem removals_subset (names : List String) :
    clauseRemovals d names ⊆ names ∧ statementRemovals d names ⊆ names := by
  cases d with
  | postgres => exact ⟨List.nil_subset _, List.Subset.refl _⟩
  | mysql => exact ⟨List.Subset.refl _, List.nil_subset _⟩

private theorem changes_named {c : TableChanges} (sound : c.Sound) :
    (∀ name ∈ c.names d, trim name ≠ "") ∧
      ∀ name ∈ statementRemovals d c.dropIndex, trim name ≠ "" := by
  obtain ⟨added, modified⟩ := List.forall_mem_append.mp sound.columns
  obtain ⟨removed, indexes⟩ := List.forall_mem_append.mp sound.dropped
  obtain ⟨columns, keys⟩ := List.forall_mem_append.mp removed
  obtain ⟨clauses, statements⟩ := removals_subset (d := d) c.dropIndex
  refine ⟨?_, fun name member => indexes name (statements member)⟩
  unfold TableChanges.names
  simp only [List.forall_mem_append]
  exact ⟨⟨⟨⟨⟨columns_named added, modified_named modified⟩, columns⟩,
    foreignKeys_named sound.foreignKeys⟩, keys⟩, fun name member => indexes name (clauses member)⟩

/-- Wherever a sound operation has a blank name, it is in an index of a new table. -/
theorem Operation.Sound.blank_in_index {op : Operation} (sound : op.Sound) {q : Quoted}
    (listed : q ∈ op.quoted d) (blank : ∃ name ∈ q.names, trim name = "") :
    ∃ table i, op = .create table ∧ i ∈ table.indexes ∧ i.HasBlank ∧ q = i.quoted table.table := by
  obtain ⟨name, member, blank⟩ := blank
  obtain ⟨named, rule⟩ := sound
  cases op with
  | create op =>
    rcases List.mem_cons.mp listed with rfl | index
    · exact absurd blank (create_named named rule name member)
    · obtain ⟨i, here, rfl⟩ := List.mem_map.mp index
      have has := (Index.quoted_has_blank_iff named).mp ⟨name, member, blank⟩
      exact ⟨op, i, rfl, here, has, rfl⟩
  | alter op =>
    obtain ⟨clauses, statements⟩ := changes_named (d := d) rule
    rcases List.mem_append.mp listed with change | removal
    · split_ifs at change with unchanged
      · cases change
      · obtain rfl := List.mem_singleton.mp change
        rcases List.mem_cons.mp member with rfl | clause
        · exact absurd blank named
        · exact absurd blank (clauses name clause)
    · obtain ⟨index, here, rfl⟩ := List.mem_map.mp removal
      obtain rfl := List.mem_singleton.mp member
      exact absurd blank (statements name here)
  | drop op =>
    obtain rfl := List.mem_singleton.mp listed
    obtain rfl := List.mem_singleton.mp member
    exact absurd blank named

end

/-- A statement quotes a blank name. -/
def QuotesBlank (d : Dialect) (statement : String) : Prop :=
  ∃ names texts, Complete d statement names texts ∧ ∃ name ∈ names, trim name = ""

/-- A statement that quotes what it should has a blank name if that has one. -/
private theorem quotesBlank_iff {d : Dialect} {statement : String} {q : Quoted}
    (complete : Complete d statement q.names q.texts) :
    QuotesBlank d statement ↔ ∃ name ∈ q.names, trim name = "" := by
  constructor
  · rintro ⟨names, texts, complete', blank⟩
    rw [(complete.unique complete').1]
    exact blank
  · intro blank
    exact ⟨q.names, q.texts, complete, blank⟩

/-- A compiled script has a blank name exactly if an index of a new table has one: the statement
that makes the index has it then. No other place of an operation has a blank name. -/
theorem blank_names_are_in_indexes (d : Dialect) (ops : List Operation) (script : Script)
    (compiled : compile d ops = .ok script) :
    (∀ op ∈ ops, ∀ q ∈ op.quoted d, (∃ name ∈ q.names, trim name = "") →
      ∃ table i, op = .create table ∧ i ∈ table.indexes ∧ i.HasBlank ∧
        q = i.quoted table.table) ∧
    (∀ op i, Operation.create op ∈ ops → i ∈ op.indexes → i.HasBlank →
      Clause.createIndex d op.table i ∈ script.statements ∧
        QuotesBlank d (Clause.createIndex d op.table i)) ∧
    ((∀ op ∈ ops, op.Plain) →
      ((∃ statement ∈ script.statements, QuotesBlank d statement) ↔
        ∃ op i, Operation.create op ∈ ops ∧ i ∈ op.indexes ∧ i.HasBlank)) := by
  obtain ⟨sound, rfl⟩ := compile_eq_ok_iff.mp compiled
  have indexed (op : CreateTable) (i : Index) (here : Operation.create op ∈ ops)
      (listed : i ∈ op.indexes) (has : i.HasBlank) :
      Clause.createIndex d op.table i ∈ ops.flatMap (Operation.statements d) ∧
        QuotesBlank d (Clause.createIndex d op.table i) := by
    have complete := Clause.createIndex_complete d op.table i
    have named := (sound _ here).table
    refine ⟨List.mem_flatMap.mpr ⟨_, here, ?_⟩, ?_⟩
    · exact List.mem_cons_of_mem _ (List.mem_map_of_mem listed)
    · exact ⟨_, _, complete, (Index.quoted_has_blank_iff named).mpr has⟩
  refine ⟨fun op here q listed => (sound op here).blank_in_index listed, indexed, ?_⟩
  intro plain
  have complete := Operation.statements_complete d plain
  constructor
  · rintro ⟨statement, member, blank⟩
    obtain ⟨place, within, rfl⟩ := List.mem_iff_getElem.mp member
    have within' : place < (ops.flatMap (Operation.quoted d)).length := by
      rw [← complete.length_eq]
      exact within
    have blank := (quotesBlank_iff (complete.get within within')).mp blank
    obtain ⟨op, here, listed⟩ := List.mem_flatMap.mp (List.getElem_mem within')
    obtain ⟨table, i, rfl, index, has, -⟩ := (sound op here).blank_in_index listed blank
    exact ⟨table, i, here, index, has⟩
  · rintro ⟨op, i, here, listed, has⟩
    exact ⟨_, indexed op i here listed has⟩

/-- An index whose declared name is one blank. -/
theorem blank_declared_index_name :
    let index : Index := { name := some " ", columns := ["id"] }
    let table : CreateTable := {
      table := "t", columns := [{ name := "id", type := "int" }]
      indexes := [index] }
    ∃ script, compile .mysql [.create table] = .ok script ∧
      "CREATE INDEX ` ` ON `t` (`id`);" ∈ script.statements ∧
      ∃ statement ∈ script.statements, QuotesBlank .mysql statement := by
  intro index table
  have sound : ∀ op ∈ [Operation.create table], op.Sound :=
    Operation.validate_eq_ok_iff.mp (by cbv)
  have plain : ∀ op ∈ [Operation.create table], op.Plain := by
    intro op member
    rw [List.mem_singleton.mp member]
    exact ⟨by decide, by decide, by decide⟩
  have has : index.HasBlank := .inr ⟨" ", rfl, by decide, by decide⟩
  have here : Operation.create table ∈ [Operation.create table] := List.mem_singleton_self _
  have listed : index ∈ table.indexes := List.mem_singleton_self _
  have compiled : compile .mysql [.create table] = .ok _ := compile_eq_ok_iff.mpr ⟨sound, rfl⟩
  obtain ⟨-, indexed, blank⟩ := blank_names_are_in_indexes .mysql [.create table] _ compiled
  have text : Clause.createIndex .mysql table.table index = "CREATE INDEX ` ` ON `t` (`id`);" := by
    cbv
  refine ⟨_, compiled, ?_, (blank plain).mpr ⟨table, index, here, listed, has⟩⟩
  rw [← text]
  exact (indexed table index here listed has).1

/-- An index over one column whose name is a blank: a statement of the script quotes that name. -/
theorem blank_indexed_column :
    let index : Index := { columns := [" "] }
    let table : CreateTable := {
      table := "t", columns := [{ name := "id", type := "int" }]
      indexes := [index] }
    ∃ script, compile .postgres [.create table] = .ok script ∧
      "CREATE INDEX \"idx_t_ \" ON \"t\" (\" \");" ∈ script.statements ∧
      ¬ ∀ statement ∈ script.statements, ∀ names texts, Complete .postgres statement names texts →
        ∀ name ∈ names, trim name ≠ "" := by
  intro index table
  have sound : ∀ op ∈ [Operation.create table], op.Sound :=
    Operation.validate_eq_ok_iff.mp (by cbv)
  have written : Clause.createIndex .postgres table.table index ∈
      [Operation.create table].flatMap (Operation.statements .postgres) :=
    List.mem_flatMap.mpr ⟨_, List.mem_singleton_self _,
      List.mem_cons_of_mem _ (List.mem_singleton_self _)⟩
  have complete := Clause.createIndex_complete .postgres table.table index
  have text : Clause.createIndex .postgres table.table index =
      "CREATE INDEX \"idx_t_ \" ON \"t\" (\" \");" := by cbv
  refine ⟨_, compile_eq_ok_iff.mpr ⟨sound, rfl⟩, text ▸ written, fun none => ?_⟩
  have last : " " ∈ index.resolvedName table.table :: table.table :: index.columns := by simp [index]
  exact none _ written _ _ complete " " last (by decide)

end SchemaSeed.Migration

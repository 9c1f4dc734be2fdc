import Mathlib
import SchemaSeed.Proofs.Migration.Quoted

/-!
Compiled scripts quote all names and texts. Each statement is complete, it quotes what its operation
has in the order of its parts, and its outline is the same for all names and texts. One dialect
leaves out the default of a numbered column.
-/

set_option autoImplicit false
set_option relaxedAutoImplicit false

namespace SchemaSeed.Migration

open SchemaSeed.Sql SchemaSeed.Sql.Scan

/-- A statement is complete and quotes what it should; it has the outline of another one. -/
private def Written (d : Dialect) (statement blank : String) (q : Quoted) : Prop :=
  Complete d statement q.names q.texts ∧ outline? d statement = outline? d blank

/-- So it is for each of some statements. -/
private def WrittenAll (d : Dialect) (statements blanks : List String) (quoted : List Quoted) :
    Prop :=
  List.Forall₂ (fun s q => Complete d s q.names q.texts) statements quoted ∧
    statements.map (outline? d) = blanks.map (outline? d)

namespace WrittenAll

variable {d : Dialect} {statements blanks statements' blanks' : List String}
  {quoted quoted' : List Quoted}

private theorem nil : WrittenAll d [] [] [] := ⟨.nil, rfl⟩

private theorem cons {statement blank : String} {q : Quoted} (first : Written d statement blank q)
    (rest : WrittenAll d statements blanks quoted) :
    WrittenAll d (statement :: statements) (blank :: blanks) (q :: quoted) := by
  refine ⟨.cons first.1 rest.1, ?_⟩
  rw [List.map_cons, List.map_cons, first.2, rest.2]

private theorem append (first : WrittenAll d statements blanks quoted)
    (second : WrittenAll d statements' blanks' quoted') :
    WrittenAll d (statements ++ statements') (blanks ++ blanks') (quoted ++ quoted') := by
  refine ⟨List.rel_append first.1 second.1, ?_⟩
  rw [List.map_append, List.map_append, first.2, second.2]

private theorem map {ι : Type} (items : List ι) {text blank : ι → String} {q : ι → Quoted}
    (each : ∀ i ∈ items, Written d (text i) (blank i) (q i)) :
    WrittenAll d (items.map text) (items.map blank) (items.map q) := by
  induction items with
  | nil => exact nil
  | cons i rest ih =>
    obtain ⟨one, others⟩ := List.forall_mem_cons.mp each
    exact cons one (ih others)

private theorem flatMap {ι : Type} {items : List ι} {text blank : ι → List String}
    {q : ι → List Quoted} (each : ∀ i ∈ items, WrittenAll d (text i) (blank i) (q i)) :
    WrittenAll d (items.flatMap text) (items.flatMap blank) (items.flatMap q) := by
  induction items with
  | nil => exact nil
  | cons i rest ih =>
    obtain ⟨one, others⟩ := List.forall_mem_cons.mp each
    exact one.append (ih others)

end WrittenAll

section

variable (d : Dialect)

open Clause

private theorem createIndex_written (table : String) (i : Index) :
    Written d (createIndex d table i) (createIndex d "" i.blank)
      { names := i.resolvedName table :: table :: i.columns } := by
  have unique := quotes_flag d (.words "UNIQUE " (by decide)) i.unique
  have start := ((Quotes.words "CREATE " (by decide)).append unique).append
    (.words "INDEX " (by decide))
  have name := start.append (.renamed (i.resolvedName table) (i.blank.resolvedName ""))
  have on := (name.append (.gap " ON " (by decide))).append (.ofName table)
  have columns := (on.append (.gap " (" (by decide))).append
    (quotesAll_named d i.columns .ofName).listed
  have closes := columns.append (.gap ")" (by decide))
  have whole : Quotes d Idle Settled _ _ (i.resolvedName table :: table :: i.columns) [] :=
    closes.settled.congr (by simp) rfl
  have ends (s : String) : s ++ ");" = s ++ ")" ++ ";" := by
    rw [String.append_assoc]
    rfl
  unfold createIndex
  rw [ends, ends]
  exact whole.complete

private theorem create_written {op : CreateTable} (plain : (Operation.create op).Plain) :
    WrittenAll d (op.statements d) (op.blank.statements d) (op.quoted d) := by
  obtain ⟨types, engine, charset⟩ := plain
  have start := quotes_named d "CREATE TABLE IF NOT EXISTS " (by decide) op.table
  have parts := ((quotesAll_columns d types).append (quotesAll_foreignKeys d op.foreignKeys)).listed
  have list := ((start.append (.gap " (" (by decide))).append parts).append (.gap ")" (by decide))
  have table {options : String} (quotes : Quotes d Settled Settled options options [] []) :=
    list.settled.append quotes
  have indexes := WrittenAll.map op.indexes fun i _ => createIndex_written d op.table i
  rw [← Function.comp_def (createIndex d ""), ← List.map_map] at indexes
  have same : tableOptions? d op.blank = tableOptions? d op := by
    cases d with
    | postgres => rfl
    | mysql => rfl
  unfold CreateTable.statements
  rw [same]
  cases found : tableOptions? d op with
  | none => exact .cons ((table .empty).congr (by simp) (by simp)).complete indexes
  | some words =>
    have harmless := harmless_of_tableOptions d engine charset words found
    have starts : startsApart (" " ++ words) = true := by
      unfold startsApart
      rw [String.toList_append]
      rfl
    have options := Quotes.tail (d := d) (" " ++ words) ⟨.append (by decide) harmless, starts⟩
    exact .cons ((table options).congr (by simp) (by simp)).complete indexes

/-- The clauses that change a table. -/
private def TableChanges.clauses (c : TableChanges) : List String :=
  c.add.map (Clause.addColumn d) ++ c.modify.map (Clause.modifyColumn d) ++
    c.drop.map (Clause.dropColumn d) ++ c.addForeignKeys.map (Clause.addForeignKey d) ++
    c.dropForeignKeys.map (Clause.dropForeignKey d) ++
    (c.dropIndex.map (Clause.dropIndex d)).filterMap removalClause?

private theorem quotesAll_clauses {c : TableChanges}
    (plain : ∀ column ∈ c.add ++ c.modify, IsPlain column.type) :
    QuotesAll d (c.clauses d) (c.blank.clauses d) (c.names d) (c.texts d) := by
  obtain ⟨added, modified⟩ := List.forall_mem_append.mp plain
  have adds := QuotesAll.map (addColumn d) Column.blank
    fun column here => quotes_addColumn d (added column here)
  have modifies := QuotesAll.map (modifyColumn d) Column.blank
    fun column here => quotes_modifyColumn d (modified column here)
  have drops := quotesAll_named d c.drop
    (quotes_named d "DROP COLUMN " (by decide))
  have keys := QuotesAll.map (addForeignKey d) ForeignKey.blank
    fun fk (_ : fk ∈ c.addForeignKeys) => quotes_addForeignKey d fk
  have dropsKeys := quotesAll_named d c.dropForeignKeys (quotes_dropForeignKey d)
  have removals := quotesAll_removals d c.dropIndex
  have columns := (adds.append modifies).append drops
  have whole := ((columns.append keys).append dropsKeys).append removals
  refine whole.congr ?_ ?_
  · unfold TableChanges.names
    rw [List.map_eq_flatMap]
  · unfold TableChanges.texts
    simp

/-- Every clause has a name. -/
private theorem clauses_eq_nil_iff (c : TableChanges) : c.clauses d = [] ↔ c.names d = [] := by
  have removals : (c.dropIndex.map (dropIndex d)).filterMap removalClause? = [] ↔
      clauseRemovals d c.dropIndex = [] := by
    cases d with
    | postgres =>
      rw [removalClauses_postgres]
      rfl
    | mysql =>
      rw [removalClauses_mysql, List.map_eq_nil_iff]
      rfl
  rw [TableChanges.names_eq_nil_iff, TableChanges.clauses]
  simp only [List.append_eq_nil_iff, List.map_eq_nil_iff, removals]

/-- The removals of indexes that stand alone. -/
private theorem removals_written (names : List String) :
    WrittenAll d ((names.map (dropIndex d)).filterMap removalStatement?)
      (((names.map fun _ => "").map (dropIndex d)).filterMap removalStatement?)
      ((statementRemovals d names).map fun name => { names := [name] }) := by
  cases d with
  | postgres =>
    let statement (name : String) :=
      "DROP INDEX IF EXISTS " ++ Dialect.postgres.quoteName name ++ ";"
    have each (names : List String) :
        (names.map (dropIndex .postgres)).filterMap removalStatement? = names.map statement := by
      rw [List.filterMap_map]
      exact congrFun (List.filterMap_eq_map (f := statement)) names
    rw [each, each, List.map_map]
    exact .map names fun name _ =>
      (quotes_named .postgres "DROP INDEX IF EXISTS " (by decide) name).complete
  | mysql =>
    have none (names : List String) :
        (names.map (dropIndex .mysql)).filterMap removalStatement? = [] := by
      rw [List.filterMap_map]
      exact List.filterMap_eq_nil_iff.mpr fun _ _ => rfl
    rw [none, none]
    exact .nil

private theorem alter_written {op : AlterTable} (plain : (Operation.alter op).Plain) :
    WrittenAll d (op.statements d) (AlterTable.statements d ⟨"", op.changes.blank⟩)
      (op.quoted d) := by
  have clauses := quotesAll_clauses d plain
  have removals := removals_written d op.changes.dropIndex
  have change : WrittenAll d
      (if (op.changes.clauses d).isEmpty then []
        else ["ALTER TABLE " ++ d.quoteName op.table ++ " " ++
          ", ".intercalate (op.changes.clauses d) ++ ";"])
      (if (op.changes.blank.clauses d).isEmpty then []
        else ["ALTER TABLE " ++ d.quoteName "" ++ " " ++
          ", ".intercalate (op.changes.blank.clauses d) ++ ";"])
      (if op.changes.names d = [] then []
        else [⟨op.table :: op.changes.names d, op.changes.texts d⟩]) := by
    by_cases unchanged : op.changes.names d = []
    · have none := (clauses_eq_nil_iff d op.changes).mpr unchanged
      rw [if_pos unchanged, none, clauses.eq_nil_iff.mpr none]
      exact .nil
    · have some : op.changes.clauses d ≠ [] := mt (clauses_eq_nil_iff d op.changes).mp unchanged
      have some' : op.changes.blank.clauses d ≠ [] := mt clauses.eq_nil_iff.mp some
      rw [if_neg unchanged, if_neg (by simpa using some), if_neg (by simpa using some')]
      have start := (quotes_named d "ALTER TABLE " (by decide) op.table).append
        (.gap " " (by decide))
      exact .cons (start.append clauses.listed).complete .nil
  exact change.append removals

private theorem drop_written (op : DropTable) :
    Written d (dropTable d op) (dropTable d { op with table := "" }) { names := [op.table] } := by
  have start : Quotes d Idle Settled "DROP TABLE" "DROP TABLE" [] [] := .harmless (by decide)
  have cascade := quotes_flag d (.tail " CASCADE" (by decide)) op.ignoreForeignAndCascade
  -- which dialect checks for the table, and when, is the same for all names
  have whole (checked : Bool) :=
    (((start.append (quotes_flag d (.tail " IF EXISTS" (by decide)) checked)).append
      (.gap " " (by decide))).append (.ofName op.table)).append cascade
  exact (whole _).complete

private theorem statements_written {op : Operation} (plain : op.Plain) :
    WrittenAll d (op.statements d) (op.blank.statements d) (op.quoted d) := by
  cases op with
  | create op => exact create_written d plain
  | alter op => exact alter_written d plain
  | drop op => exact .cons (drop_written d op) .nil

/-- The statement that makes an index quotes its name, its table and its columns. -/
theorem Clause.createIndex_complete (table : String) (i : Index) :
    Complete d (createIndex d table i) (i.resolvedName table :: table :: i.columns) [] :=
  (createIndex_written d table i).1

/-- The statements of operations quote what they should. -/
theorem Operation.statements_complete {ops : List Operation} (plain : ∀ op ∈ ops, op.Plain) :
    List.Forall₂ (fun statement q => Complete d statement q.names q.texts)
      (ops.flatMap (Operation.statements d)) (ops.flatMap (Operation.quoted d)) :=
  (WrittenAll.flatMap fun op here => statements_written d (plain op here)).1

end

/-! Whole scripts. -/

private theorem Column.types_blank (cs : List Column) :
    (∀ c ∈ cs.map Column.blank, IsPlain c.type) ↔ ∀ c ∈ cs, IsPlain c.type :=
  List.forall_mem_map

/-- Whether an operation is plain does not depend on its names and texts. -/
private theorem Operation.plain_blank (op : Operation) : op.blank.Plain ↔ op.Plain := by
  cases op with
  | create op => exact and_congr (Column.types_blank op.columns) Iff.rfl
  | alter op =>
    have joined : op.changes.blank.add ++ op.changes.blank.modify =
        (op.changes.add ++ op.changes.modify).map Column.blank := List.map_append.symm
    unfold Operation.blank Operation.Plain
    dsimp only
    rw [joined]
    exact Column.types_blank _
  | drop op => exact Iff.rfl

private theorem compile_of_valid (d : Dialect) {ops : List Operation}
    (valid : Operation.validate ops = .ok ()) :
    compile d ops = .ok (d.wrap (ops.flatMap (Operation.statements d))) := by
  unfold compile
  rw [valid]
  rfl

private theorem outlines_blank (d : Dialect) {ops : List Operation} (plain : ∀ op ∈ ops, op.Plain) :
    (ops.flatMap (Operation.statements d)).map (outline? d) =
      ((ops.map Operation.blank).flatMap (Operation.statements d)).map (outline? d) := by
  rw [List.flatMap_map]
  exact (WrittenAll.flatMap fun op here => statements_written d (plain op here)).2

/-- Every statement of a compiled script is complete and quotes the names and the texts of its part
of an operation. Operations that differ in names and in the contents of texts only compile to
statements of the same outlines. -/
theorem compiled_statements_quote (d : Dialect) (ops : List Operation)
    (valid : Operation.validate ops = .ok ()) (plain : ∀ op ∈ ops, op.Plain) :
    ∃ script, compile d ops = .ok script ∧
      List.Forall₂ (fun statement q => Complete d statement q.names q.texts) script.statements
        (ops.flatMap (Operation.quoted d)) ∧
      ∀ others, Operation.validate others = .ok () →
        others.map Operation.blank = ops.map Operation.blank →
        ∃ script', compile d others = .ok script' ∧
          script'.statements.map (outline? d) = script.statements.map (outline? d) := by
  refine ⟨_, compile_of_valid d valid, ?_, fun others valid' same => ?_⟩
  · exact (WrittenAll.flatMap fun op here => statements_written d (plain op here)).1
  · have plain' : ∀ op ∈ others, op.Plain := by
      intro op here
      have blank : op.blank ∈ ops.map Operation.blank := by
        rw [← same]
        exact List.mem_map_of_mem here
      obtain ⟨op', here', alike⟩ := List.mem_map.mp blank
      have plain' := (Operation.plain_blank op').mpr (plain op' here')
      rw [alike] at plain'
      exact (Operation.plain_blank op).mp plain'
    refine ⟨_, compile_of_valid d valid', ?_⟩
    have outlines := outlines_blank d plain'
    rw [same] at outlines
    exact outlines.trans (outlines_blank d plain).symm

/-- Quote marks, a backslash and the end of a statement, in a name and in a text. -/
theorem marks_in_names_and_texts :
    let table (name column text : String) : List Operation :=
      [.create { table := name, columns := [
        { name := column, type := "numeric(5, 2)", default := some (.text text) }] }]
    ∃ script, compile .mysql (table "a`;b" "c\"'" "it's; \\") = .ok script ∧
      script.statements =
        ["CREATE TABLE IF NOT EXISTS `a``;b` (`c\"'` numeric(5, 2) DEFAULT 'it''s; \\\\');"] ∧
      List.Forall₂ (fun statement (q : Quoted) => Complete .mysql statement q.names q.texts)
        script.statements [⟨["a`;b", "c\"'"], ["it's; \\"]⟩] ∧
      ∃ script', compile .mysql (table "t" "c" "") = .ok script' ∧
        script'.statements.map (outline? .mysql) = script.statements.map (outline? .mysql) := by
  intro table
  have valid : Operation.validate (table "a`;b" "c\"'" "it's; \\") = .ok () := by decide
  have valid' : Operation.validate (table "t" "c" "") = .ok () := by decide
  have plain : ∀ op ∈ table "a`;b" "c\"'" "it's; \\", op.Plain := by
    intro op member
    rw [List.mem_singleton.mp member]
    exact ⟨by decide, by decide, by decide⟩
  obtain ⟨script, compiled, complete, others⟩ :=
    compiled_statements_quote .mysql (table "a`;b" "c\"'" "it's; \\") valid plain
  have text : script = _ := Except.ok.inj (compiled.symm.trans (compile_of_valid .mysql valid))
  refine ⟨script, compiled, ?_, complete, others (table "t" "c" "") valid' rfl⟩
  rw [text]
  decide

/-- A numbered column that has a text as its default: in one dialect it is not written. -/
theorem numbered_column_leaves_out_text :
    let op : Operation := .create { table := "users", columns := [
      { name := "id", type := "int", autoIncrement := true, default := some (.text "x") }] }
    let statement :=
      "CREATE TABLE IF NOT EXISTS \"users\" (\"id\" INTEGER GENERATED ALWAYS AS IDENTITY);"
    Operation.validate [op] = .ok () ∧ op.Plain ∧
      compile .postgres [op] = .ok (Dialect.postgres.wrap [statement]) ∧
      op.textDefaults = ["x"] ∧ ∀ names, ¬ Complete .postgres statement names op.textDefaults := by
  intro op statement
  have valid : Operation.validate [op] = .ok () := by decide
  have plain : op.Plain := ⟨by decide, by decide, by decide⟩
  have statements : op.statements .postgres = [statement] := by decide
  have compiled := compile_of_valid .postgres valid
  rw [List.flatMap_singleton, statements] at compiled
  refine ⟨valid, plain, compiled, rfl, fun names complete => ?_⟩
  have all := (statements_written .postgres plain).1
  rw [statements] at all
  cases all with
  | cons written _ => cases (written.unique complete).2

end SchemaSeed.Migration

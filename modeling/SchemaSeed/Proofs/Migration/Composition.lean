import Mathlib
import SchemaSeed.Proofs.Migration.Validity

/-!
Compiling operations one after the other. A list of operations compiles as a whole or not at all,
and two lists that compile do so together, to the statements of the one and then of the other.
-/

set_option autoImplicit false
set_option relaxedAutoImplicit false

namespace SchemaSeed.Migration

open SchemaSeed.Sql SchemaSeed.Text

/-- One change of a table. -/
inductive Change where
  | addColumn (c : Column)
  | modifyColumn (c : Column)
  | dropColumn (name : String)
  | addForeignKey (fk : ForeignKey)
  | dropForeignKey (name : String)
  | dropIndex (name : String)
  deriving DecidableEq, Repr

/-- The clause that a change is in the alteration of a table. -/
def Change.clause (d : Dialect) : Change → String
  | .addColumn c => Clause.addColumn d c
  | .modifyColumn c => Clause.modifyColumn d c
  | .dropColumn name => Clause.dropColumn d name
  | .addForeignKey fk => Clause.addForeignKey d fk
  | .dropForeignKey name => Clause.dropForeignKey d name
  | .dropIndex name => "DROP INDEX " ++ d.quoteName name

/-- The changes that are clauses of the alteration of a table, in their order. In one dialect an
index is not removed by a clause. -/
def TableChanges.ordered (d : Dialect) (c : TableChanges) : List Change :=
  c.add.map .addColumn ++ c.modify.map .modifyColumn ++ c.drop.map .dropColumn ++
    c.addForeignKeys.map .addForeignKey ++ c.dropForeignKeys.map .dropForeignKey ++
    (clauseRemovals d c.dropIndex).map .dropIndex

section

variable {d : Dialect} {ops : List Operation}

/-- Exactly the sound operations compile, to a transaction around their statements. -/
theorem compile_eq_ok_iff {script : Script} :
    compile d ops = .ok script ↔
      (∀ op ∈ ops, op.Sound) ∧ script = d.wrap (ops.flatMap (Operation.statements d)) := by
  rw [← Operation.validate_eq_ok_iff]
  unfold compile
  cases valid : Operation.validate ops with
  | ok _ =>
    constructor
    · intro compiled
      exact ⟨rfl, (Except.ok.inj compiled).symm⟩
    · rintro ⟨-, rfl⟩
      rfl
  | error e =>
    constructor
    · intro compiled
      cases compiled
    · rintro ⟨accepted, -⟩
      cases accepted

/-- Operations fail to compile as the first of them that is not sound is refused. -/
theorem compile_eq_error_iff {e : Failure} :
    compile d ops = .error e ↔
      ∃ position op reason, Rejected ops position op reason ∧
        e = Operation.invalid position op reason := by
  rw [← Operation.validate_eq_error_iff]
  unfold compile
  cases Operation.validate ops with
  | ok _ =>
    constructor
    · intro failed
      cases failed
    · intro refused
      cases refused
  | error f =>
    constructor
    · intro failed
      rw [Except.error.inj failed]
    · intro refused
      rw [Except.error.inj refused]
      rfl

end

/-- The alteration of a table: nothing if no change is a clause of it. -/
theorem AlterTable.statements_eq (d : Dialect) (op : AlterTable) :
    op.statements d =
      (if op.changes.ordered d = [] then []
        else ["ALTER TABLE " ++ d.quoteName op.table ++ " " ++
          ", ".intercalate ((op.changes.ordered d).map (Change.clause d)) ++ ";"]) ++
      (statementRemovals d op.changes.dropIndex).map fun name =>
        "DROP INDEX IF EXISTS " ++ d.quoteName name ++ ";" := by
  have clauses : (op.changes.ordered d).map (Change.clause d) =
      op.changes.add.map (Clause.addColumn d) ++ op.changes.modify.map (Clause.modifyColumn d) ++
        op.changes.drop.map (Clause.dropColumn d) ++
        op.changes.addForeignKeys.map (Clause.addForeignKey d) ++
        op.changes.dropForeignKeys.map (Clause.dropForeignKey d) ++
        (op.changes.dropIndex.map (Clause.dropIndex d)).filterMap removalClause? := by
    have removals : (op.changes.dropIndex.map (Clause.dropIndex d)).filterMap removalClause? =
        ((clauseRemovals d op.changes.dropIndex).map Change.dropIndex).map (Change.clause d) := by
      cases d with
      | postgres => exact Clause.removalClauses_postgres _
      | mysql =>
        rw [Clause.removalClauses_mysql]
        simp [clauseRemovals, Function.comp_def, Change.clause]
    rw [removals]
    simp [TableChanges.ordered, Function.comp_def, Change.clause]
  have alone : (op.changes.dropIndex.map (Clause.dropIndex d)).filterMap removalStatement? =
      (statementRemovals d op.changes.dropIndex).map fun name =>
        "DROP INDEX IF EXISTS " ++ d.quoteName name ++ ";" := by
    rw [List.filterMap_map]
    cases d with
    | postgres => simp [Function.comp_def, Clause.dropIndex, removalStatement?, statementRemovals]
    | mysql => simp [Function.comp_def, Clause.dropIndex, removalStatement?, statementRemovals]
  unfold AlterTable.statements
  dsimp only
  rw [← clauses, alone]
  by_cases unchanged : op.changes.ordered d = []
  · simp [unchanged]
  · simp [unchanged]

/-- Compiling is all or nothing, exact and compositional. It fails as the first operation that is
not sound, with its position and the first thing that is wrong with it. What compiles on its own
compiles together, statement after statement. A table is made by one statement and one for each of
its indexes, and it is changed by at most one that has all its changes, each once. -/
theorem compilation_exact_and_compositional (d : Dialect) (a b : List Operation) :
    ((∃ script, compile d a = .ok script) ↔ ∀ op ∈ a, op.Sound) ∧
    (∀ e, compile d a = .error e ↔ ∃ position op reason, Rejected a position op reason ∧
      e = .invalidDocument ("operation #" ++ toString position ++ " (" ++ op.action ++ " '" ++
        op.table ++ "'): " ++ reason.message)) ∧
    (∀ first second, compile d a = .ok first → compile d b = .ok second →
      compile d (a ++ b) = .ok (d.wrap (first.statements ++ second.statements))) ∧
    (∀ first position op reason, compile d a = .ok first → Rejected b position op reason →
      Rejected (a ++ b) (a.length + position) op reason ∧
      compile d (a ++ b) = .error (Operation.invalid (a.length + position) op reason)) ∧
    (∀ script, compile d a = .ok script →
      script = d.wrap (a.flatMap (Operation.statements d))) ∧
    (∀ op : CreateTable, (op.statements d).length = 1 + op.indexes.length) ∧
    (∀ op : DropTable, (Operation.statements d (.drop op)).length = 1) ∧
    ∀ op : AlterTable, op.statements d =
      (if op.changes.ordered d = [] then []
        else ["ALTER TABLE " ++ d.quoteName op.table ++ " " ++
          ", ".intercalate ((op.changes.ordered d).map (Change.clause d)) ++ ";"]) ++
      (statementRemovals d op.changes.dropIndex).map fun name =>
        "DROP INDEX IF EXISTS " ++ d.quoteName name ++ ";" := by
  refine ⟨?_, fun e => compile_eq_error_iff, ?_, ?_, ?_, ?_, fun _ => rfl,
    AlterTable.statements_eq d⟩
  · constructor
    · rintro ⟨script, compiled⟩
      exact (compile_eq_ok_iff.mp compiled).1
    · intro sound
      exact ⟨_, compile_eq_ok_iff.mpr ⟨sound, rfl⟩⟩
  · intro first second compiled compiled'
    obtain ⟨sound, rfl⟩ := compile_eq_ok_iff.mp compiled
    obtain ⟨sound', rfl⟩ := compile_eq_ok_iff.mp compiled'
    refine compile_eq_ok_iff.mpr ⟨List.forall_mem_append.mpr ⟨sound, sound'⟩, ?_⟩
    rw [List.flatMap_append]
    rfl
  · intro first position op reason compiled rejected
    have sound := (compile_eq_ok_iff.mp compiled).1
    have later := rejected.append_left sound
    exact ⟨later, compile_eq_error_iff.mpr ⟨_, op, reason, later, rfl⟩⟩
  · intro script compiled
    exact (compile_eq_ok_iff.mp compiled).2
  · intro op
    unfold CreateTable.statements
    rw [List.length_cons, List.length_map]
    omega

/-- Two operations that compile, and two of which the second removes a blank name: together they
fail at the fourth operation. -/
theorem blank_removal_fails_later :
    let a : List Operation := [
      .create {
        table := "t", columns := [{ name := "id", type := "int" }]
        indexes := [{ columns := ["id"] }] },
      .drop { table := "u" }]
    let last : Operation :=
      .alter { table := "t", changes := { drop := ["id"], dropIndex := ["i", " "] } }
    let b : List Operation := [.drop { table := "v" }, last]
    (∃ first, compile .mysql a = .ok first ∧ first.statements.length = 3 ∧
      compile .mysql (a ++ a) =
        .ok (Dialect.mysql.wrap (first.statements ++ first.statements))) ∧
    Rejected b 2 last .blankDroppedName ∧
    compile .mysql (a ++ b) = .error (.invalidDocument
      "operation #4 (alter 't'): dropped names must not be empty") := by
  intro a last b
  obtain ⟨exact, -, -, later, wraps, -⟩ := compilation_exact_and_compositional .mysql a b
  obtain ⟨-, -, together, -⟩ := compilation_exact_and_compositional .mysql a a
  have sound : ∀ op ∈ a, op.Sound := Operation.validate_eq_ok_iff.mp (by cbv)
  obtain ⟨first, compiled⟩ := exact.mpr sound
  have rejected : Rejected b 2 last .blankDroppedName := by
    refine ⟨[.drop { table := "v" }], [], rfl, rfl, ?_, ?_⟩
    · intro earlier member
      rw [List.mem_singleton.mp member]
      exact Operation.objection?_eq_none_iff.mp (by cbv)
    · exact Operation.objection?_eq_some_iff.mp (by cbv)
  refine ⟨⟨first, compiled, ?_, together first first compiled compiled⟩, rejected, ?_⟩
  · rw [wraps first compiled]
    rfl
  · have text : Operation.invalid (a.length + 2) last .blankDroppedName = .invalidDocument
        "operation #4 (alter 't'): dropped names must not be empty" := by cbv
    rw [← text]
    exact (later first 2 last .blankDroppedName compiled rejected).2

end SchemaSeed.Migration

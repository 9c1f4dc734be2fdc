import Mathlib
import SchemaSeed.Proofs.Migration.Quoted
import SchemaSeed.Proofs.Migration.Defect
import SchemaSeed.Proofs.Text.Blank

/-!
Which operations compile. An operation is sound if it keeps the rule for its kind; what offends
against a rule is found in a fixed order, and the first offence counts.
-/

set_option autoImplicit false
set_option relaxedAutoImplicit false

namespace SchemaSeed.Migration

open SchemaSeed.Sql SchemaSeed.Text

/-- A column has a name and a type. -/
structure Column.Sound (c : Column) : Prop where
  name : trim c.name ≠ ""
  type : trim c.type ≠ ""

/-- None of the names in a foreign key is blank. -/
def ForeignKey.Sound (fk : ForeignKey) : Prop := ∀ name ∈ fk.names, trim name ≠ ""

/-- An index is over some column. -/
def Index.Sound (i : Index) : Prop := i.columns ≠ []

structure CreateTable.Sound (op : CreateTable) : Prop where
  some : op.columns ≠ []
  columns : ∀ c ∈ op.columns, c.Sound
  foreignKeys : ∀ fk ∈ op.foreignKeys, fk.Sound
  indexes : ∀ i ∈ op.indexes, i.Sound

/-- The names of all that a change of a table removes. -/
def TableChanges.dropped (c : TableChanges) : List String :=
  c.drop ++ c.dropForeignKeys ++ c.dropIndex

structure TableChanges.Sound (c : TableChanges) : Prop where
  columns : ∀ column ∈ c.add ++ c.modify, column.Sound
  foreignKeys : ∀ fk ∈ c.addForeignKeys, fk.Sound
  dropped : ∀ name ∈ c.dropped, trim name ≠ ""

/-- The rule for each kind of operation. -/
def Operation.Rule : Operation → Prop
  | .create op => op.Sound
  | .alter op => op.changes.Sound
  | .drop _ => True

/-- An operation names its table and keeps the rule for its kind. -/
structure Operation.Sound (op : Operation) : Prop where
  table : trim op.table ≠ ""
  rule : op.Rule

/-! Offences. -/

/-- The first of some items that is not sound has an objection to it. -/
def FirstOffends {ι : Type} (sound : ι → Prop) (offends : ι → Objection → Prop) (items : List ι)
    (o : Objection) : Prop :=
  ∃ before item after, items = before ++ item :: after ∧ (∀ earlier ∈ before, sound earlier) ∧
    offends item o

/-- What is wrong with a column. Its name comes before its type. -/
inductive Column.Offends (c : Column) : Objection → Prop
  | name (blank : trim c.name = "") : Offends c .blankColumn
  | type (named : trim c.name ≠ "") (blank : trim c.type = "") : Offends c (.noType c.name)

inductive ForeignKey.Offends (fk : ForeignKey) : Objection → Prop
  | field {name : String} (listed : name ∈ fk.names) (blank : trim name = "") :
    Offends fk (.blankKeyField fk.name)

inductive Index.Offends (i : Index) : Objection → Prop
  | columns (none : i.columns = []) : Offends i .emptyIndex

/-- What is wrong with a table to be made. Its columns come first, then its keys and its indexes. -/
inductive CreateTable.Offends (op : CreateTable) : Objection → Prop
  | none (empty : op.columns = []) : Offends op .noColumns
  | column {o : Objection} (first : FirstOffends Column.Sound Column.Offends op.columns o) :
    Offends op o
  | foreignKey {o : Objection} (some : op.columns ≠ []) (columns : ∀ c ∈ op.columns, c.Sound)
    (first : FirstOffends ForeignKey.Sound ForeignKey.Offends op.foreignKeys o) : Offends op o
  | index {o : Objection} (some : op.columns ≠ []) (columns : ∀ c ∈ op.columns, c.Sound)
    (foreignKeys : ∀ fk ∈ op.foreignKeys, fk.Sound)
    (first : FirstOffends Index.Sound Index.Offends op.indexes o) : Offends op o

/-- What is wrong with the changes of a table. Added columns come first, then those that are
modified, the keys and at last the names of what is removed. -/
inductive TableChanges.Offends (c : TableChanges) : Objection → Prop
  | column {o : Objection}
    (first : FirstOffends Column.Sound Column.Offends (c.add ++ c.modify) o) : Offends c o
  | foreignKey {o : Objection} (columns : ∀ column ∈ c.add ++ c.modify, column.Sound)
    (first : FirstOffends ForeignKey.Sound ForeignKey.Offends c.addForeignKeys o) : Offends c o
  | dropped {name : String} (columns : ∀ column ∈ c.add ++ c.modify, column.Sound)
    (foreignKeys : ∀ fk ∈ c.addForeignKeys, fk.Sound) (listed : name ∈ c.dropped)
    (blank : trim name = "") : Offends c .blankDroppedName

/-- What is wrong with an operation. Its table comes before all else. -/
inductive Operation.Offends : Operation → Objection → Prop
  | table {op : Operation} (blank : trim op.table = "") : Offends op .blankTable
  | create {op : CreateTable} {o : Objection} (table : trim op.table ≠ "") (rule : op.Offends o) :
    Offends (.create op) o
  | alter {op : AlterTable} {o : Objection} (table : trim op.table ≠ "")
    (rule : op.changes.Offends o) : Offends (.alter op) o

/-- An operation of a list is refused: those before it are sound. Positions count from one. -/
def Rejected (ops : List Operation) (position : Nat) (op : Operation) (reason : Objection) : Prop :=
  ∃ before after, ops = before ++ op :: after ∧ position = before.length + 1 ∧
    (∀ earlier ∈ before, earlier.Sound) ∧ op.Offends reason

/-! Checks find no objection to what is sound, and the objection to what is not. -/

/-- A check tells what is sound, and what is wrong with the rest. -/
private structure Checks {ι : Type} (check : ι → Option Objection) (sound : ι → Prop)
    (offends : ι → Objection → Prop) : Prop where
  none_iff (i : ι) : check i = none ↔ sound i
  some_iff (i : ι) (o : Objection) : check i = some o ↔ offends i o

namespace Checks

/-- Checking items in order tells which of them is the first that is not sound. -/
private theorem each {ι : Type} {check : ι → Option Objection} {sound : ι → Prop}
    {offends : ι → Objection → Prop} (checks : Checks check sound offends) :
    Checks (List.findSome? check) (fun items => ∀ i ∈ items, sound i)
      (FirstOffends sound offends) where
  none_iff items := by
    rw [List.findSome?_eq_none_iff]
    exact forall₂_congr fun i _ => checks.none_iff i
  some_iff items o := by
    rw [List.findSome?_eq_some_iff]
    constructor
    · rintro ⟨before, item, after, parts, found, earlier⟩
      refine ⟨before, item, after, parts, ?_, (checks.some_iff item o).mp found⟩
      exact fun i member => (checks.none_iff i).mp (earlier i member)
    · rintro ⟨before, item, after, parts, sound, offends⟩
      refine ⟨before, item, after, parts, (checks.some_iff item o).mpr offends, ?_⟩
      exact fun i member => (checks.none_iff i).mpr (sound i member)

private theorem column : Checks Column.objection? Column.Sound Column.Offends where
  none_iff c := by
    unfold Column.objection?
    constructor
    · intro unobjected
      split_ifs at unobjected with name type
      exact ⟨mt isBlankText_iff.mpr name, mt isBlankText_iff.mpr type⟩
    · rintro ⟨name, type⟩
      rw [if_neg (mt isBlankText_iff.mp name), if_neg (mt isBlankText_iff.mp type)]
  some_iff c o := by
    unfold Column.objection?
    constructor
    · intro objected
      split_ifs at objected with name type
      · obtain rfl := Option.some.inj objected
        exact .name (isBlankText_iff.mp name)
      · obtain rfl := Option.some.inj objected
        exact .type (mt isBlankText_iff.mpr name) (isBlankText_iff.mp type)
    · intro offends
      cases offends with
      | name blank => rw [if_pos (isBlankText_iff.mpr blank)]
      | type named blank =>
        rw [if_neg (mt isBlankText_iff.mp named), if_pos (isBlankText_iff.mpr blank)]

private theorem any_blank_iff {names : List String} :
    names.any isBlankText = true ↔ ∃ name ∈ names, trim name = "" := by
  rw [List.any_eq_true]
  exact exists_congr fun name => and_congr_right fun _ => isBlankText_iff

private theorem not_any_blank_iff {names : List String} :
    ¬ names.any isBlankText = true ↔ ∀ name ∈ names, trim name ≠ "" := by
  rw [any_blank_iff]
  push Not
  rfl

private theorem foreignKey :
    Checks ForeignKey.objection? ForeignKey.Sound ForeignKey.Offends where
  none_iff fk := by
    change (if fk.names.any isBlankText then _ else _) = none ↔ _
    rw [ForeignKey.Sound, ← not_any_blank_iff]
    simp
  some_iff fk o := by
    change (if fk.names.any isBlankText then _ else _) = some o ↔ _
    constructor
    · intro objected
      split_ifs at objected with blank
      obtain ⟨name, listed, blank⟩ := any_blank_iff.mp blank
      obtain rfl := Option.some.inj objected
      exact .field listed blank
    · rintro ⟨listed, blank⟩
      rw [if_pos (any_blank_iff.mpr ⟨_, listed, blank⟩)]

private theorem index : Checks Index.objection? Index.Sound Index.Offends where
  none_iff i := by
    unfold Index.objection? Index.Sound
    simp
  some_iff i o := by
    unfold Index.objection?
    constructor
    · intro objected
      split_ifs at objected with none
      obtain rfl := Option.some.inj objected
      exact .columns (List.isEmpty_iff.mp none)
    · rintro ⟨none⟩
      rw [if_pos (List.isEmpty_iff.mpr none)]

/-- The objection to a table to be made. -/
private def createObjection? (op : CreateTable) : Option Objection :=
  if op.columns.isEmpty then some .noColumns
  else
    (op.columns.findSome? Column.objection?).or
      ((op.foreignKeys.findSome? ForeignKey.objection?).or
        (op.indexes.findSome? Index.objection?))

/-- The objection to the changes of a table. -/
private def changesObjection? (c : TableChanges) : Option Objection :=
  ((c.add ++ c.modify).findSome? Column.objection?).or
    ((c.addForeignKeys.findSome? ForeignKey.objection?).or
      (if c.dropped.any isBlankText then some .blankDroppedName else none))

private theorem create : Checks createObjection? CreateTable.Sound CreateTable.Offends where
  none_iff op := by
    unfold createObjection?
    constructor
    · intro unobjected
      split_ifs at unobjected with empty
      obtain ⟨columns, rest⟩ := Option.or_eq_none_iff.mp unobjected
      obtain ⟨keys, indexes⟩ := Option.or_eq_none_iff.mp rest
      exact ⟨mt List.isEmpty_iff.mpr empty, (column.each.none_iff _).mp columns,
        (foreignKey.each.none_iff _).mp keys, (index.each.none_iff _).mp indexes⟩
    · rintro ⟨some, columns, keys, indexes⟩
      rw [if_neg (mt List.isEmpty_iff.mp some), (column.each.none_iff _).mpr columns,
        (foreignKey.each.none_iff _).mpr keys, (index.each.none_iff _).mpr indexes]
      rfl
  some_iff op o := by
    unfold createObjection?
    constructor
    · intro objected
      split_ifs at objected with empty
      · obtain rfl := Option.some.inj objected
        exact .none (List.isEmpty_iff.mp empty)
      have some := mt List.isEmpty_iff.mpr empty
      rcases Option.or_eq_some_iff.mp objected with first | ⟨columns, rest⟩
      · exact .column ((column.each.some_iff _ o).mp first)
      have columns := (column.each.none_iff _).mp columns
      rcases Option.or_eq_some_iff.mp rest with first | ⟨keys, first⟩
      · exact .foreignKey some columns ((foreignKey.each.some_iff _ o).mp first)
      · exact .index some columns ((foreignKey.each.none_iff _).mp keys)
          ((index.each.some_iff _ o).mp first)
    · intro offends
      cases offends with
      | none empty => rw [if_pos (List.isEmpty_iff.mpr empty)]
      | column first =>
        have some : op.columns ≠ [] := by
          obtain ⟨before, item, after, parts, -⟩ := first
          simp [parts]
        rw [if_neg (mt List.isEmpty_iff.mp some), (column.each.some_iff _ o).mpr first]
        rfl
      | foreignKey some columns first =>
        rw [if_neg (mt List.isEmpty_iff.mp some), (column.each.none_iff _).mpr columns,
          (foreignKey.each.some_iff _ o).mpr first]
        rfl
      | index some columns keys first =>
        rw [if_neg (mt List.isEmpty_iff.mp some), (column.each.none_iff _).mpr columns,
          (foreignKey.each.none_iff _).mpr keys, (index.each.some_iff _ o).mpr first]
        rfl

private theorem changes : Checks changesObjection? TableChanges.Sound TableChanges.Offends where
  none_iff c := by
    unfold changesObjection?
    constructor
    · intro unobjected
      obtain ⟨columns, rest⟩ := Option.or_eq_none_iff.mp unobjected
      obtain ⟨keys, dropped⟩ := Option.or_eq_none_iff.mp rest
      refine ⟨(column.each.none_iff _).mp columns, (foreignKey.each.none_iff _).mp keys, ?_⟩
      split_ifs at dropped with blank
      exact not_any_blank_iff.mp blank
    · rintro ⟨columns, keys, dropped⟩
      rw [(column.each.none_iff _).mpr columns, (foreignKey.each.none_iff _).mpr keys,
        if_neg (not_any_blank_iff.mpr dropped)]
      rfl
  some_iff c o := by
    unfold changesObjection?
    constructor
    · intro objected
      rcases Option.or_eq_some_iff.mp objected with first | ⟨columns, rest⟩
      · exact .column ((column.each.some_iff _ o).mp first)
      have columns := (column.each.none_iff _).mp columns
      rcases Option.or_eq_some_iff.mp rest with first | ⟨keys, dropped⟩
      · exact .foreignKey columns ((foreignKey.each.some_iff _ o).mp first)
      split_ifs at dropped with blank
      obtain ⟨name, listed, blank⟩ := any_blank_iff.mp blank
      obtain rfl := Option.some.inj dropped
      exact .dropped columns ((foreignKey.each.none_iff _).mp keys) listed blank
    · intro offends
      cases offends with
      | column first =>
        rw [(column.each.some_iff _ o).mpr first]
        rfl
      | foreignKey columns first =>
        rw [(column.each.none_iff _).mpr columns, (foreignKey.each.some_iff _ o).mpr first]
        rfl
      | dropped columns keys listed blank =>
        rw [(column.each.none_iff _).mpr columns, (foreignKey.each.none_iff _).mpr keys,
          if_pos (any_blank_iff.mpr ⟨_, listed, blank⟩)]
        rfl

private theorem operation : Checks Operation.objection? Operation.Sound Operation.Offends where
  none_iff op := by
    by_cases blank : trim op.table = ""
    · have objected : op.objection? = some .blankTable := if_pos (isBlankText_iff.mpr blank)
      rw [objected]
      exact iff_of_false (by simp) fun sound => sound.table blank
    · have named := mt isBlankText_iff.mp blank
      cases op with
      | create op =>
        have same : Operation.objection? (.create op) = createObjection? op := if_neg named
        rw [same, create.none_iff]
        exact ⟨fun rule => ⟨blank, rule⟩, Operation.Sound.rule⟩
      | alter op =>
        have same : Operation.objection? (.alter op) = changesObjection? op.changes := if_neg named
        rw [same, changes.none_iff]
        exact ⟨fun rule => ⟨blank, rule⟩, Operation.Sound.rule⟩
      | drop op =>
        have same : Operation.objection? (.drop op) = none := if_neg named
        rw [same]
        exact iff_of_true rfl ⟨blank, trivial⟩
  some_iff op o := by
    by_cases blank : trim op.table = ""
    · have objected : op.objection? = some .blankTable := if_pos (isBlankText_iff.mpr blank)
      rw [objected]
      constructor
      · intro same
        obtain rfl := Option.some.inj same
        exact .table blank
      · intro offends
        cases offends with
        | table _ => rfl
        | create named _ => exact absurd blank named
        | alter named _ => exact absurd blank named
    · have named := mt isBlankText_iff.mp blank
      cases op with
      | create op =>
        have same : Operation.objection? (.create op) = createObjection? op := if_neg named
        rw [same, create.some_iff]
        refine ⟨.create blank, fun offends => ?_⟩
        cases offends with
        | table none => exact absurd none blank
        | create _ rule => exact rule
      | alter op =>
        have same : Operation.objection? (.alter op) = changesObjection? op.changes := if_neg named
        rw [same, changes.some_iff]
        refine ⟨.alter blank, fun offends => ?_⟩
        cases offends with
        | table none => exact absurd none blank
        | alter _ rule => exact rule
      | drop op =>
        have same : Operation.objection? (.drop op) = none := if_neg named
        rw [same]
        refine iff_of_false (by simp) fun offends => ?_
        cases offends with
        | table none => exact blank none

end Checks

theorem Operation.objection?_eq_none_iff {op : Operation} : op.objection? = none ↔ op.Sound :=
  Checks.operation.none_iff op

theorem Operation.objection?_eq_some_iff {op : Operation} {o : Objection} :
    op.objection? = some o ↔ op.Offends o :=
  Checks.operation.some_iff op o

/-- Operations are refused as the first of them is that is not sound. -/
theorem Operation.validate_eq_error_iff {ops : List Operation} {e : Failure} :
    Operation.validate ops = .error e ↔
      ∃ position op reason, Rejected ops position op reason ∧
        e = Operation.invalid position op reason := by
  unfold Operation.validate
  rw [Operation.validateFrom_eq_error_iff]
  constructor
  · rintro ⟨before, op, after, reason, parts, earlier, objected, rfl⟩
    refine ⟨before.length + 1, op, reason, ⟨before, after, parts, rfl, ?_, ?_⟩, ?_⟩
    · exact fun other member => Operation.objection?_eq_none_iff.mp (earlier other member)
    · exact Operation.objection?_eq_some_iff.mp objected
    · rw [Nat.add_comm]
  · rintro ⟨_, op, reason, ⟨before, after, parts, rfl, sound, offends⟩, rfl⟩
    refine ⟨before, op, after, reason, parts, ?_, ?_, ?_⟩
    · exact fun other member => Operation.objection?_eq_none_iff.mpr (sound other member)
    · exact Operation.objection?_eq_some_iff.mpr offends
    · rw [Nat.add_comm]

private theorem Operation.validateFrom_eq_ok_iff {position : Nat} {ops : List Operation} :
    Operation.validateFrom position ops = .ok () ↔ ∀ op ∈ ops, op.Sound := by
  induction ops generalizing position with
  | nil => simp [validateFrom]
  | cons op rest ih =>
    rw [List.forall_mem_cons, ← Operation.objection?_eq_none_iff]
    unfold validateFrom
    cases op.objection? with
    | none => simpa using ih
    | some reason => simp

/-- Operations are accepted if they are all sound. -/
theorem Operation.validate_eq_ok_iff {ops : List Operation} :
    Operation.validate ops = .ok () ↔ ∀ op ∈ ops, op.Sound :=
  Operation.validateFrom_eq_ok_iff

/-- What sound operations follow is refused as before, only later. -/
theorem Rejected.append_left {ops : List Operation} {position : Nat} {op : Operation}
    {reason : Objection} (rejected : Rejected ops position op reason) {first : List Operation}
    (sound : ∀ earlier ∈ first, earlier.Sound) :
    Rejected (first ++ ops) (first.length + position) op reason := by
  obtain ⟨before, after, rfl, rfl, earlier, offends⟩ := rejected
  refine ⟨first ++ before, after, ?_, ?_, ?_, offends⟩
  · rw [List.append_assoc]
  · rw [List.length_append]
    omega
  · exact List.forall_mem_append.mpr ⟨sound, earlier⟩

end SchemaSeed.Migration

import Mathlib
import SchemaSeed.Migration.Printed
import SchemaSeed.Migration.Reading
import SchemaSeed.Proofs.Json.Record

/-!
Migration documents survive: what is read from a document as it is written is the document.

A text that is one of the markers, in any case, would be read as the moment that it names. No text
default of a document that was read is such a text, and this is all that a document needs: absent
and empty sections, members that are `null` or missing and actions in any case are told apart when
they are read, and written as they are told apart.
-/

set_option autoImplicit false
set_option relaxedAutoImplicit false

namespace SchemaSeed.Migration

open SchemaSeed.Reading SchemaSeed.Text

/-! Defaults. -/

/-- A default that is no text, or a text that no marker is meant by. -/
def DefaultValue.Unmarked : DefaultValue → Prop
  | .text s => uppercase s ≠ "CURRENT_TIMESTAMP" ∧ uppercase s ≠ "ON_UPDATE_TIMESTAMP"
  | _ => True

theorem defaultOfText_unmarked (s : String) : (defaultOfText s).Unmarked := by
  unfold defaultOfText
  dsimp only
  split_ifs with current update
  · trivial
  · trivial
  · exact ⟨current, update⟩

theorem scalarDefault_unmarked {j : Json} {v : DefaultValue} (found : scalarDefault? j = some v) :
    v.Unmarked := by
  cases j with
  | string s =>
    cases found
    exact defaultOfText_unmarked s
  | number n => cases found; trivial
  | bool b => cases found; trivial
  | null => cases found
  | array items => cases found
  | object members => cases found

theorem DefaultValue.ofJson_unmarked {j : Json} {v : DefaultValue}
    (found : DefaultValue.ofJson j = .ok v) : v.Unmarked := by
  unfold DefaultValue.ofJson at found
  split at found
  · cases found
    rename_i scalar
    exact scalarDefault_unmarked scalar
  · split at found
    · split_ifs at found with update
      · cases found
        trivial
      · split at found
        · cases found
          rename_i inner
          obtain ⟨value, -, scalar⟩ := Option.bind_eq_some_iff.mp inner
          exact scalarDefault_unmarked scalar
        · cases found
    · cases found

theorem DefaultValue.read_unmarked {t : JsonTree} {v : DefaultValue}
    (found : DefaultValue.read t = .ok v) : v.Unmarked := by
  obtain ⟨j, -, found⟩ := of_bind_ok found
  exact DefaultValue.ofJson_unmarked (of_mapError_ok found)

/-- A default is what its JSON stands for, unless it is the text of a marker. -/
theorem DefaultValue.ofJson_toJson {v : DefaultValue} (unmarked : v.Unmarked) :
    DefaultValue.ofJson v.toJson = .ok v := by
  cases v with
  | currentTimestamp =>
    have marker : defaultOfText "CURRENT_TIMESTAMP" = .currentTimestamp := by cbv
    exact congrArg Except.ok marker
  | onUpdateTimestamp =>
    have marker : uppercase "ON_UPDATE_TIMESTAMP" = "ON_UPDATE_TIMESTAMP" := by cbv
    simp [DefaultValue.ofJson, DefaultValue.toJson, scalarDefault?, Json.ofMembers,
      Json.insertMember, Json.member?, Json.string?, marker]
  | text s =>
    obtain ⟨current, update⟩ := unmarked
    have literal : defaultOfText s = .text s := by
      unfold defaultOfText
      dsimp only
      rw [if_neg current, if_neg update]
    exact congrArg Except.ok literal
  | number n => rfl
  | bool b => rfl

theorem DefaultValue.toJson_normal (v : DefaultValue) : v.toJson.Normal := by
  cases v with
  | onUpdateTimestamp => exact .ofMembers (List.forall_mem_singleton.mpr (.string _))
  | currentTimestamp => exact .string _
  | text s => exact .string s
  | number n => exact .number n
  | bool b => exact .bool b

theorem DefaultValue.survives {v : DefaultValue} (unmarked : v.Unmarked) :
    Survives DefaultValue.read DefaultValue.toJson v := by
  have found : json (JsonTree.ofJson v.toJson) = .ok v.toJson := survives_json v.toJson_normal
  unfold Survives DefaultValue.read
  rw [bind_of_ok found, DefaultValue.ofJson_toJson unmarked]
  rfl

theorem DefaultValue.toJson_ne_null (v : DefaultValue) : v.toJson ≠ .null := by
  cases v <;> nofun

/-! Actions. -/

/-- The words of an action are read as the action. -/
theorem ReferentialAction.ofText_toSql (a : ReferentialAction) :
    ReferentialAction.ofText a.toSql = .ok a := by
  have words : uppercase (trim a.toSql) = a.toSql := by cases a <;> cbv
  unfold ReferentialAction.ofText
  rw [words]
  cases a <;> rfl

theorem ReferentialAction.survives (a : ReferentialAction) :
    Survives ReferentialAction.read (fun a => .string a.toSql) a := by
  unfold Survives ReferentialAction.read
  rw [bind_of_ok (survives_string a.toSql), ReferentialAction.ofText_toSql]
  rfl

/-! Columns. -/

/-- The default of the column, if there is one, is no text that a marker is meant by. -/
def Column.Unmarked (c : Column) : Prop := ∀ v, c.default = some v → v.Unmarked

theorem Column.read_unmarked {origin : Origin} {t : JsonTree} {c : Column}
    (found : Column.read origin t = .ok c) : c.Unmarked := by
  refine record_keeps (fun v present => by cases present) ?_ found
  intro field t _ c c' unmarked taken
  split at taken
  case h_8 =>
    obtain ⟨v, read, rfl⟩ := of_set_ok taken
    intro v' present
    obtain rfl : v = some v' := present
    exact DefaultValue.read_unmarked (of_option_ok read).2
  all_goals
    obtain ⟨value, -, rfl⟩ := of_set_ok taken
    exact unmarked

/-- A column when the members of some keys have been read. -/
def Column.upTo (c : Column) (seen : List String) : Column where
  name := once seen "name" c.name ""
  type := once seen "type" c.type ""
  primaryKey := once seen "primaryKey" c.primaryKey false
  autoIncrement := once seen "autoIncrement" c.autoIncrement false
  unique := once seen "unique" c.unique false
  unsigned := once seen "unsigned" c.unsigned false
  nullable := once seen "nullable" c.nullable none
  default := once seen "default" c.default none

theorem Column.survives {origin : Origin} {c : Column} (unmarked : c.Unmarked) :
    Survives (Column.read origin) Column.toJson c := by
  refine record_ofMembers c.upTo rfl
    ["name", "type", "primaryKey", "autoIncrement", "unique", "unsigned", "nullable", "default"]
    (by decide) (by decide) ?_ (by simp) ?_ ?_
  · simp only [List.map_append, List.map_cons, List.map_nil]
    exact ((List.Sublist.refl _).append optionalMember_keys).append optionalMember_keys
  · simp only [List.forall_mem_append, List.forall_mem_cons, forall_mem_no_members, and_true,
      forall_mem_optionalMember]
    refine ⟨⟨⟨?_, ?_, ?_, ?_, ?_, ?_⟩, fun v present => ?_⟩, fun v present seen => ?_⟩
    case refine_8 =>
      have found := (DefaultValue.survives (unmarked v present)).option v.toJson_ne_null
      exact set_of_ok found (by simp [Column.upTo, present])
    all_goals exact fun seen => set_of_ok rfl (by simp [Column.upTo, *])
  · intro seen written
    simp only [List.forall_mem_append, List.forall_mem_cons, forall_mem_no_members, and_true,
      forall_mem_optionalMember] at written
    obtain ⟨⟨⟨name, type, primaryKey, autoIncrement, unique, unsigned⟩, nullable⟩, default⟩ :=
      written
    simp only [Column.upTo, once_of_mem, once_optional nullable, once_optional default, *]

/-! Foreign keys and indexes. -/

/-- A foreign key when the members of some keys have been read. -/
def ForeignKey.upTo (fk : ForeignKey) (seen : List String) : ForeignKey where
  name := once seen "name" fk.name ""
  column := once seen "column" fk.column ""
  referenceTable := once seen "referenceTable" fk.referenceTable ""
  referenceColumn := once seen "referenceColumn" fk.referenceColumn ""
  onDelete := once seen "onDelete" fk.onDelete none
  onUpdate := once seen "onUpdate" fk.onUpdate none

theorem ForeignKey.survives (origin : Origin) (fk : ForeignKey) :
    Survives (ForeignKey.read origin) ForeignKey.toJson fk := by
  refine record_ofMembers fk.upTo rfl
    ["name", "column", "referenceTable", "referenceColumn", "onDelete", "onUpdate"]
    (by decide) (by decide) ?_ (by simp) ?_ ?_
  · simp only [List.map_append, List.map_cons, List.map_nil]
    exact ((List.Sublist.refl _).append optionalMember_keys).append optionalMember_keys
  · simp only [List.forall_mem_append, List.forall_mem_cons, forall_mem_no_members, and_true,
      forall_mem_optionalMember]
    have action_found (a : ReferentialAction) :
        option ReferentialAction.read (JsonTree.ofJson (.string a.toSql)) = .ok (some a) :=
      (ReferentialAction.survives a).option nofun
    refine ⟨⟨⟨?_, ?_, ?_, ?_⟩, fun a present seen => ?_⟩, fun a present seen => ?_⟩
    case refine_5 => exact set_of_ok (action_found a) (by simp [ForeignKey.upTo, present])
    case refine_6 => exact set_of_ok (action_found a) (by simp [ForeignKey.upTo, present])
    all_goals exact fun seen => set_of_ok rfl (by simp [ForeignKey.upTo])
  · intro seen written
    simp only [List.forall_mem_append, List.forall_mem_cons, forall_mem_no_members, and_true,
      forall_mem_optionalMember] at written
    obtain ⟨⟨⟨name, column, referenceTable, referenceColumn⟩, onDelete⟩, onUpdate⟩ := written
    simp only [ForeignKey.upTo, once_of_mem, once_optional onDelete, once_optional onUpdate, *]

/-- An index when the members of some keys have been read. -/
def Index.upTo (i : Index) (seen : List String) : Index where
  name := once seen "name" i.name none
  columns := once seen "columns" i.columns []
  unique := once seen "unique" i.unique false

theorem Index.survives (origin : Origin) (i : Index) :
    Survives (Index.read origin) Index.toJson i := by
  refine record_ofMembers i.upTo rfl ["name", "columns", "unique"] (by decide) (by decide) ?_
    (by simp) ?_ ?_
  · simp only [List.map_append, List.map_cons, List.map_nil]
    exact optionalMember_keys.append (List.Sublist.refl _)
  · simp only [List.forall_mem_append, List.forall_mem_cons, forall_mem_no_members, and_true,
      forall_mem_optionalMember]
    refine ⟨fun name present seen => ?_, fun seen => ?_, fun seen => ?_⟩
    · exact set_of_ok rfl (by simp [Index.upTo, present])
    · exact set_of_ok (survives_strings i.columns) (by simp [Index.upTo])
    · exact set_of_ok rfl (by simp [Index.upTo])
  · intro seen written
    simp only [List.forall_mem_append, List.forall_mem_cons, forall_mem_no_members, and_true,
      forall_mem_optionalMember] at written
    obtain ⟨name, columns, unique⟩ := written
    simp only [Index.upTo, once_of_mem, once_optional name, *]

/-! Tables. -/

section Tables

variable {origin : Origin} {t : JsonTree}

theorem columns_unmarked {columns : List Column}
    (found : list (Column.read origin) t = .ok columns) : ∀ c ∈ columns, c.Unmarked := by
  intro c member
  obtain ⟨t', -, read⟩ := of_list_ok found c member
  exact Column.read_unmarked read

theorem columns_survive {columns : List Column} (unmarked : ∀ c ∈ columns, c.Unmarked) :
    Survives (list (Column.read origin)) (fun columns => .array (columns.map Column.toJson))
      columns :=
  .list fun c member => Column.survives (unmarked c member)

theorem foreignKeys_survive (foreignKeys : List ForeignKey) :
    Survives (list (ForeignKey.read origin)) (fun fks => .array (fks.map ForeignKey.toJson))
      foreignKeys :=
  .list fun fk _ => ForeignKey.survives origin fk

/-- No default of a column is a text that a marker is meant by. -/
def CreateTable.Unmarked (op : CreateTable) : Prop := ∀ c ∈ op.columns, c.Unmarked

theorem CreateTable.read_unmarked {op : CreateTable} (found : CreateTable.read origin t = .ok op) :
    op.Unmarked := by
  refine record_keeps (fun c member => by cases member) ?_ found
  intro field t _ op op' unmarked taken
  split at taken
  case h_2 =>
    obtain ⟨columns, read, rfl⟩ := of_set_ok taken
    exact columns_unmarked read
  all_goals
    obtain ⟨value, -, rfl⟩ := of_set_ok taken
    exact unmarked

/-- A table to be made when the members of some keys have been read. -/
def CreateTable.upTo (op : CreateTable) (seen : List String) : CreateTable where
  table := once seen "table" op.table ""
  columns := once seen "columns" op.columns []
  foreignKeys := once seen "foreignKeys" op.foreignKeys []
  indexes := once seen "indexes" op.indexes []
  engine := once seen "engine" op.engine none
  charset := once seen "charset" op.charset none

/-- What is written of a table to be made. -/
def CreateTable.members (op : CreateTable) : List (String × Json) :=
  [("table", .string op.table), ("columns", .array (op.columns.map Column.toJson)),
    ("foreignKeys", .array (op.foreignKeys.map ForeignKey.toJson)),
    ("indexes", .array (op.indexes.map Index.toJson))] ++
    Json.optionalMember "engine" op.engine .string ++
    Json.optionalMember "charset" op.charset .string

theorem CreateTable.members_keys (op : CreateTable) :
    (op.members.map (·.1)).Sublist
      ["table", "columns", "foreignKeys", "indexes", "engine", "charset"] := by
  simp only [CreateTable.members, List.map_append, List.map_cons, List.map_nil]
  exact ((List.Sublist.refl _).append optionalMember_keys).append optionalMember_keys

theorem CreateTable.finds {op : CreateTable} (unmarked : op.Unmarked) :
    Finds (CreateTable.read origin) op.members op := by
  refine record_finds op.upTo rfl _ (by decide) (by decide) op.members_keys nofun ?_ ?_
  · simp only [CreateTable.members, List.forall_mem_append, List.forall_mem_cons,
      forall_mem_no_members, and_true, forall_mem_optionalMember]
    refine ⟨⟨⟨fun seen => ?_, fun seen => ?_, fun seen => ?_, fun seen => ?_⟩,
      fun engine present seen => ?_⟩, fun charset present seen => ?_⟩
    · exact set_of_ok rfl (by simp [CreateTable.upTo])
    · exact set_of_ok (columns_survive unmarked) (by simp [CreateTable.upTo])
    · exact set_of_ok (foreignKeys_survive op.foreignKeys) (by simp [CreateTable.upTo])
    · exact set_of_ok (Survives.list fun i _ => Index.survives origin i)
        (by simp [CreateTable.upTo])
    · exact set_of_ok rfl (by simp [CreateTable.upTo, present])
    · exact set_of_ok rfl (by simp [CreateTable.upTo, present])
  · intro seen written
    simp only [CreateTable.members, List.forall_mem_append, List.forall_mem_cons,
      forall_mem_no_members, and_true, forall_mem_optionalMember] at written
    obtain ⟨⟨⟨table, columns, foreignKeys, indexes⟩, engine⟩, charset⟩ := written
    simp only [CreateTable.upTo, once_of_mem, once_optional engine, once_optional charset, *]

/-- No default of a column is a text that a marker is meant by. -/
def TableChanges.Unmarked (changes : TableChanges) : Prop :=
  (∀ c ∈ changes.add, c.Unmarked) ∧ ∀ c ∈ changes.modify, c.Unmarked

theorem TableChanges.unmarked_empty : TableChanges.Unmarked {} :=
  ⟨List.forall_mem_nil _, List.forall_mem_nil _⟩

theorem TableChanges.read_unmarked {changes : TableChanges}
    (found : TableChanges.read origin t = .ok changes) : changes.Unmarked := by
  refine record_keeps TableChanges.unmarked_empty ?_ found
  intro field t _ changes changes' unmarked taken
  split at taken
  case h_1 =>
    obtain ⟨columns, read, rfl⟩ := of_set_ok taken
    exact ⟨columns_unmarked read, unmarked.2⟩
  case h_2 =>
    obtain ⟨columns, read, rfl⟩ := of_set_ok taken
    exact ⟨unmarked.1, columns_unmarked read⟩
  all_goals
    obtain ⟨value, -, rfl⟩ := of_set_ok taken
    exact unmarked

/-- The changes to a table when the members of some keys have been read. -/
def TableChanges.upTo (changes : TableChanges) (seen : List String) : TableChanges where
  add := once seen "add" changes.add []
  modify := once seen "modify" changes.modify []
  drop := once seen "drop" changes.drop []
  addForeignKeys := once seen "addForeignKeys" changes.addForeignKeys []
  dropForeignKeys := once seen "dropForeignKeys" changes.dropForeignKeys []
  dropIndex := once seen "dropIndex" changes.dropIndex []

theorem TableChanges.survives {changes : TableChanges} (unmarked : changes.Unmarked) :
    Survives (TableChanges.read origin) TableChanges.toJson changes := by
  refine record_ofMembers changes.upTo rfl
    ["add", "modify", "drop", "addForeignKeys", "dropForeignKeys", "dropIndex"]
    (by decide) (by decide) (List.Sublist.refl _) nofun ?_ ?_
  · simp only [List.forall_mem_cons, forall_mem_no_members, and_true]
    refine ⟨fun seen => ?_, fun seen => ?_, fun seen => ?_, fun seen => ?_, fun seen => ?_,
      fun seen => ?_⟩
    · exact set_of_ok (columns_survive unmarked.1) (by simp [TableChanges.upTo])
    · exact set_of_ok (columns_survive unmarked.2) (by simp [TableChanges.upTo])
    · exact set_of_ok (survives_strings changes.drop) (by simp [TableChanges.upTo])
    · exact set_of_ok (foreignKeys_survive changes.addForeignKeys) (by simp [TableChanges.upTo])
    · exact set_of_ok (survives_strings changes.dropForeignKeys) (by simp [TableChanges.upTo])
    · exact set_of_ok (survives_strings changes.dropIndex) (by simp [TableChanges.upTo])
  · intro seen written
    simp only [List.forall_mem_cons, forall_mem_no_members, and_true] at written
    obtain ⟨add, modify, drop, addForeignKeys, dropForeignKeys, dropIndex⟩ := written
    simp only [TableChanges.upTo, once_of_mem, *]

theorem AlterTable.read_unmarked {op : AlterTable} (found : AlterTable.read origin t = .ok op) :
    op.changes.Unmarked := by
  refine record_keeps (P := fun op : AlterTable => op.changes.Unmarked)
    TableChanges.unmarked_empty ?_ found
  intro field t _ op op' unmarked taken
  split at taken
  · obtain ⟨table, -, rfl⟩ := of_set_ok taken
    exact unmarked
  · obtain ⟨changes, read, rfl⟩ := of_set_ok taken
    exact TableChanges.read_unmarked read

/-- A table to be changed when the members of some keys have been read. -/
def AlterTable.upTo (op : AlterTable) (seen : List String) : AlterTable where
  table := once seen "table" op.table ""
  changes := once seen "changes" op.changes {}

/-- What is written of a table to be changed. -/
def AlterTable.members (op : AlterTable) : List (String × Json) :=
  [("table", .string op.table), ("changes", op.changes.toJson)]

theorem AlterTable.finds {op : AlterTable} (unmarked : op.changes.Unmarked) :
    Finds (AlterTable.read origin) op.members op := by
  refine record_finds op.upTo rfl ["table", "changes"] (by decide) (by decide)
    (List.Sublist.refl _) nofun ?_ ?_
  · simp only [AlterTable.members, List.forall_mem_cons, forall_mem_no_members, and_true]
    refine ⟨fun seen => ?_, fun seen => ?_⟩
    · exact set_of_ok rfl (by simp [AlterTable.upTo])
    · exact set_of_ok (TableChanges.survives unmarked) (by simp [AlterTable.upTo])
  · intro seen written
    simp only [AlterTable.members, List.forall_mem_cons, forall_mem_no_members, and_true]
      at written
    obtain ⟨table, changes⟩ := written
    simp only [AlterTable.upTo, once_of_mem, *]

/-- A table to be removed when the members of some keys have been read. -/
def DropTable.upTo (op : DropTable) (seen : List String) : DropTable where
  table := once seen "table" op.table ""
  dropIfExists := once seen "dropIfExists" op.dropIfExists false
  ignoreForeignAndCascade := once seen "ignoreForeignAndCascade" op.ignoreForeignAndCascade false

/-- What is written of a table to be removed. -/
def DropTable.members (op : DropTable) : List (String × Json) :=
  [("table", .string op.table), ("dropIfExists", .bool op.dropIfExists),
    ("ignoreForeignAndCascade", .bool op.ignoreForeignAndCascade)]

theorem DropTable.finds (op : DropTable) : Finds (DropTable.read origin) op.members op := by
  refine record_finds op.upTo rfl ["table", "dropIfExists", "ignoreForeignAndCascade"]
    (by decide) (by decide) (List.Sublist.refl _) nofun ?_ ?_
  · simp only [DropTable.members, List.forall_mem_cons, forall_mem_no_members, and_true]
    refine ⟨?_, ?_, ?_⟩ <;> exact fun seen => set_of_ok rfl (by simp [DropTable.upTo])
  · intro seen written
    simp only [DropTable.members, List.forall_mem_cons, forall_mem_no_members, and_true] at written
    obtain ⟨table, dropIfExists, ignoreForeignAndCascade⟩ := written
    simp only [DropTable.upTo, once_of_mem, *]

end Tables

/-! Operations. -/

/-- No default of a column is a text that a marker is meant by. -/
def Operation.Unmarked : Operation → Prop
  | .create op => op.Unmarked
  | .alter op => op.changes.Unmarked
  | .drop _ => True

theorem ofAction_unmarked {action : Action} {body : JsonTree} {op : Operation}
    (found : ofAction action body = .ok op) : op.Unmarked := by
  cases action with
  | create =>
    obtain ⟨op', read, rfl⟩ := of_map_ok found
    exact CreateTable.read_unmarked read
  | alter =>
    obtain ⟨op', read, rfl⟩ := of_map_ok found
    exact AlterTable.read_unmarked read
  | drop =>
    obtain ⟨op', -, rfl⟩ := of_map_ok found
    trivial

theorem Operation.read_unmarked {t : JsonTree} {op : Operation}
    (found : Operation.read t = .ok op) : op.Unmarked := by
  cases t with
  | object depth members ending =>
    obtain ⟨⟨action, others⟩, -, found⟩ := of_bind_ok found
    obtain ⟨-, -, found⟩ := of_bind_ok found
    obtain ⟨action', -, found⟩ := of_bind_ok found
    exact ofAction_unmarked found
  | array depth items ending =>
    cases items with
    | nil =>
      obtain ⟨-, -, found⟩ := of_bind_ok found
      cases found
    | cons first rest =>
      obtain ⟨action, -, found⟩ := of_bind_ok found
      obtain ⟨values, -, found⟩ := of_bind_ok found
      obtain ⟨-, -, found⟩ := of_bind_ok found
      exact ofAction_unmarked found
  | _ =>
    obtain ⟨words, -, found⟩ := of_bind_ok found
    cases found

/-- Members that are no action are all kept. -/
theorem takeAction_others {members : List (String × Json)}
    (others : ∀ member ∈ members, member.1 ≠ "action") (action : Option Action) :
    takeAction (JsonTree.ofMembers members) action =
      .ok (action, JsonTree.ofMembers members) := by
  induction members with
  | nil => rfl
  | cons first rest ih =>
    obtain ⟨first_other, rest_others⟩ := List.forall_mem_cons.mp others
    obtain ⟨j, value⟩ := exists_json first.2
    rw [JsonTree.ofMembers, takeAction, bind_of_ok (lift_ok _), if_neg first_other,
      bind_of_ok value, bind_of_ok (ih rest_others)]

/-- The action is taken out of the members, wherever it stands. -/
theorem takeAction_tagged {before after : List (String × Json)} {word : String} {action : Action}
    (others : ∀ member ∈ before ++ after, member.1 ≠ "action")
    (named : Action.read (.string (.ok word)) = .ok action) :
    takeAction (JsonTree.ofMembers (before ++ ("action", .string word) :: after)) none =
      .ok (some action, JsonTree.ofMembers (before ++ after)) := by
  induction before with
  | nil =>
    rw [List.nil_append, List.nil_append, JsonTree.ofMembers, takeAction, bind_of_ok (lift_ok _),
      if_pos rfl]
    change (Action.read (.string (.ok word)) >>= _) = _
    rw [bind_of_ok named]
    exact takeAction_others others (some action)
  | cons first before ih =>
    obtain ⟨first_other, rest_others⟩ := List.forall_mem_cons.mp others
    obtain ⟨j, value⟩ := exists_json first.2
    rw [List.cons_append, List.cons_append, JsonTree.ofMembers, takeAction, bind_of_ok (lift_ok _),
      if_neg first_other, bind_of_ok value, bind_of_ok (ih rest_others), JsonTree.ofMembers]

/-- An operation is found by its action in what is written of it besides. -/
theorem Operation.read_tagged {action : Action} {word : String} {body : List (String × Json)}
    {op : Operation} (named : Action.read (.string (.ok word)) = .ok action)
    (distinct : ("action" :: body.map (·.1)).Nodup) (finds : Finds (ofAction action) body op) :
    Operation.read (JsonTree.ofJson (.ofMembers (("action", .string word) :: body))) = .ok op := by
  obtain ⟨placed, same, perm⟩ := @Json.exists_ofMembers (("action", .string word) :: body) distinct
  obtain ⟨before, after, rfl⟩ := List.append_of_mem (perm.mem_iff.mpr List.mem_cons_self)
  have rest_perm : (before ++ after).Perm body :=
    (List.perm_middle.symm.trans perm).cons_inv
  have others : ∀ member ∈ before ++ after, member.1 ≠ "action" := by
    intro member found is_action
    have among : member.1 ∈ body.map (·.1) := List.mem_map_of_mem (rest_perm.mem_iff.mp found)
    exact (List.nodup_cons.mp distinct).1 (is_action ▸ among)
  rw [same, JsonTree.ofJson, Operation.read, bind_of_ok (takeAction_tagged others named)]
  exact finds _ rest_perm

theorem Operation.survives {op : Operation} (unmarked : op.Unmarked) :
    Survives Operation.read Operation.toJson op := by
  cases op with
  | create op =>
    have distinct : ("action" :: op.members.map (·.1)).Nodup :=
      (op.members_keys.cons_cons "action").nodup (by decide)
    have finds : Finds (ofAction .create) op.members (.create op) := fun listed perm => by
      rw [ofAction, CreateTable.finds unmarked listed perm]
      rfl
    exact Operation.read_tagged rfl distinct finds
  | alter op =>
    have finds : Finds (ofAction .alter) op.members (.alter op) := fun listed perm => by
      rw [ofAction, AlterTable.finds unmarked listed perm]
      rfl
    exact Operation.read_tagged rfl (by simp) finds
  | drop op =>
    have finds : Finds (ofAction .drop) op.members (.drop op) := fun listed perm => by
      rw [ofAction, DropTable.finds op listed perm]
      rfl
    exact Operation.read_tagged rfl (by simp) finds

/-! Documents. -/

/-- No default in a document is a text that a marker is meant by. -/
def Document.Unmarked (d : Document) : Prop :=
  (∀ ops, d.migrations = some ops → ∀ op ∈ ops, op.Unmarked) ∧
    ∀ ops, d.rollback = some ops → ∀ op ∈ ops, op.Unmarked

theorem Document.unmarked_empty : Document.Unmarked {} :=
  ⟨nofun, nofun⟩

theorem operations_unmarked {t : JsonTree} {section? : Option (List Operation)}
    (found : option (list Operation.read) t = .ok section?) :
    ∀ ops, section? = some ops → ∀ op ∈ ops, op.Unmarked := by
  rintro ops rfl op member
  obtain ⟨t', -, read⟩ := of_list_ok (of_option_ok found).2 op member
  exact Operation.read_unmarked read

theorem Document.read_unmarked {origin : Origin} {t : JsonTree} {d : Document}
    (found : Document.read origin t = .ok d) : d.Unmarked := by
  refine record_keeps Document.unmarked_empty ?_ found
  intro field t _ d d' unmarked taken
  split at taken
  · obtain ⟨ops, read, rfl⟩ := of_set_ok taken
    exact ⟨operations_unmarked read, unmarked.2⟩
  · obtain ⟨ops, read, rfl⟩ := of_set_ok taken
    exact ⟨unmarked.1, operations_unmarked read⟩

/-- A document when the members of some keys have been read. -/
def Document.upTo (d : Document) (seen : List String) : Document where
  migrations := once seen "migrations" d.migrations none
  rollback := once seen "rollback" d.rollback none

/-- A document without texts of markers is what its JSON stands for. -/
theorem Document.survives {origin : Origin} {d : Document} (unmarked : d.Unmarked) :
    Survives (Document.read origin) Document.toJson d := by
  have section_found {ops : List Operation} (good : ∀ op ∈ ops, op.Unmarked) :
      option (list Operation.read) (JsonTree.ofJson (.array (ops.map Operation.toJson))) =
        .ok (some ops) := by
    have survives := Survives.list fun op member => Operation.survives (good op member)
    exact survives.option nofun
  refine record_ofMembers d.upTo rfl ["migrations", "rollback"] (by decide) (by decide) ?_ nofun
    ?_ ?_
  · rw [List.map_append]
    exact optionalMember_keys.append optionalMember_keys
  · simp only [List.forall_mem_append, forall_mem_optionalMember]
    refine ⟨fun ops present seen => ?_, fun ops present seen => ?_⟩
    · exact set_of_ok (section_found (unmarked.1 ops present)) (by simp [Document.upTo, present])
    · exact set_of_ok (section_found (unmarked.2 ops present)) (by simp [Document.upTo, present])
  · intro seen written
    simp only [List.forall_mem_append, forall_mem_optionalMember] at written
    obtain ⟨migrations, rollback⟩ := written
    simp only [Document.upTo, once_optional migrations, once_optional rollback]

/-- The documents without texts of markers are all that survive. -/
theorem Document.survives_iff_unmarked {origin : Origin} {d : Document} :
    Survives (Document.read origin) Document.toJson d ↔ d.Unmarked :=
  ⟨Document.read_unmarked, Document.survives⟩

end SchemaSeed.Migration

import Mathlib
import SchemaSeed.Proofs.Migration.Survival
import SchemaSeed.Seed.Document

/-!
Documents of all kinds survive: what was read, written and read again is what was read.

A seeder holds nothing that could be lost. A factory holds values of any kind, and these are normal
because they were read; `null` is not among them, since it is read as no value.
-/

set_option autoImplicit false
set_option relaxedAutoImplicit false

namespace SchemaSeed

open SchemaSeed.Reading SchemaSeed.Text

/-! Factories. -/

namespace Factory

/-- A replacement when the members of some keys have been read. -/
def Manipulation.upTo (m : Manipulation) (seen : List String) : Manipulation where
  pattern := once seen "regex" m.pattern ""
  replacement := once seen "replace_with" m.replacement ""

theorem Manipulation.survives (origin : Origin) (m : Manipulation) :
    Survives (Manipulation.read origin) Manipulation.toJson m := by
  refine record_ofMembers m.upTo rfl ["regex", "replace_with"] (by decide) (by decide)
    (List.Sublist.refl _) (by simp) ?_ ?_
  · simp only [List.forall_mem_cons, forall_mem_no_members, and_true]
    refine ⟨?_, ?_⟩ <;> exact fun seen => set_of_ok rfl (by simp [Manipulation.upTo])
  · intro seen written
    simp only [List.forall_mem_cons, forall_mem_no_members, and_true] at written
    obtain ⟨regex, replaceWith⟩ := written
    simp only [Manipulation.upTo, once_of_mem, *]

/-- The value of the rule, if there is one, is as it comes out of a text, and not `null`. -/
def Rule.Normal (r : Rule) : Prop := ∀ j, r.custom = some j → j.Normal ∧ j ≠ .null

theorem custom_normal {t : JsonTree} {j : Json} (found : option json t = .ok (some j)) :
    j.Normal ∧ j ≠ .null := by
  obtain ⟨not_null, read⟩ := of_option_ok found
  have value : t.read = .ok j := of_lift_ok read
  exact ⟨JsonTree.read_normal value, fun null => not_null (JsonTree.eq_null_of_read (null ▸ value))⟩

theorem Rule.read_normal {t : JsonTree} {r : Rule} (found : Rule.read t = .ok r) : r.Normal := by
  refine record_keeps (P := Rule.Normal) (fun j present => by cases present) ?_ found
  intro field t _ r r' normal taken
  split at taken
  case h_3 =>
    obtain ⟨custom, read, rfl⟩ := of_set_ok taken
    rintro j rfl
    exact custom_normal read
  all_goals
    obtain ⟨value, -, rfl⟩ := of_set_ok taken
    exact normal

/-- A rule when the members of some keys have been read. -/
def Rule.upTo (r : Rule) (seen : List String) : Rule where
  isFake := once seen "fake" r.isFake false
  tag := once seen "type" r.tag none
  custom := once seen "custom" r.custom none
  manipulation := once seen "manipulation" r.manipulation none

theorem Rule.survives {r : Rule} (normal : r.Normal) : Survives Rule.read Rule.toJson r := by
  refine record_ofMembers r.upTo rfl ["fake", "type", "custom", "manipulation"] (by decide)
    (by decide) ?_ nofun ?_ ?_
  · simp only [List.map_cons, List.map_append]
    exact ((optionalMember_keys.append optionalMember_keys).append optionalMember_keys).cons_cons _
  · simp only [List.forall_mem_append, List.forall_mem_cons, forall_mem_optionalMember]
    refine ⟨fun seen => ?_, ⟨fun tag present seen => ?_, fun custom present seen => ?_⟩,
      fun manipulation present seen => ?_⟩
    · exact set_of_ok rfl (by simp [Rule.upTo])
    · exact set_of_ok rfl (by simp [Rule.upTo, present])
    · obtain ⟨custom_normal, not_null⟩ := normal custom present
      exact set_of_ok ((survives_json custom_normal).option not_null)
        (by simp [Rule.upTo, present])
    · have survives := Manipulation.survives .text manipulation
      exact set_of_ok (survives.option nofun) (by simp [Rule.upTo, present])
  · intro seen written
    simp only [List.forall_mem_append, List.forall_mem_cons, forall_mem_optionalMember] at written
    obtain ⟨fake, ⟨type, custom⟩, manipulation⟩ := written
    simp only [Rule.upTo, once_of_mem fake, once_optional type, once_optional custom,
      once_optional manipulation]

/-- The entries are in the order of their columns, each column once, and the rules hold values as
they come out of a text. -/
def Document.Normal (d : Document) : Prop :=
  ∀ entry ∈ d.columns, Ascending entry ∧ ∀ member ∈ entry, member.2.Normal

theorem Document.read_normal {t : JsonTree} {d : Document} (found : Document.read t = .ok d) :
    d.Normal := by
  refine record_keeps (fun entry member => by cases member) ?_ found
  intro field t _ d d' normal taken
  obtain ⟨columns, read, rfl⟩ := of_set_ok taken
  intro entry member
  obtain ⟨t', -, entry_read⟩ := of_list_ok read entry member
  obtain ⟨ascending, rules⟩ := of_map_entries entry_read
  refine ⟨ascending, fun member among => ?_⟩
  obtain ⟨t'', -, rule_read⟩ := rules member among
  exact Rule.read_normal rule_read

/-- A factory of normal values is what its JSON stands for. -/
theorem Document.survives {d : Document} (normal : d.Normal) :
    Survives Document.read Document.toJson d := by
  have entry_survives : ∀ entry ∈ d.columns, Survives (map Rule.read)
      (fun entry => .ofMembers (entry.map fun member => (member.1, member.2.toJson))) entry := by
    intro entry member
    obtain ⟨ascending, rules⟩ := normal entry member
    exact survives_map ascending fun member among => Rule.survives (rules member among)
  refine record_ofMembers (fun seen => ⟨once seen "columns" d.columns []⟩) rfl ["columns"]
    (by decide) (by decide) (List.Sublist.refl _) nofun ?_ ?_
  · simp only [List.forall_mem_cons, forall_mem_no_members, and_true]
    exact fun seen => set_of_ok (Survives.list entry_survives) (by simp)
  · intro seen written
    simp only [List.forall_mem_cons, forall_mem_no_members, and_true] at written
    simp only [once_of_mem written]

end Factory

/-! Seeders. -/

namespace Seed

/-- The keyword of an operator is read as the operator. -/
theorem MatchOperator.ofText_toSql (o : MatchOperator) :
    MatchOperator.ofText o.toSql = .ok o := by
  have word : uppercase (trim o.toSql) = o.toSql := by cases o <;> cbv
  unfold MatchOperator.ofText
  rw [word]
  cases o <;> rfl

theorem MatchOperator.survives (o : MatchOperator) :
    Survives MatchOperator.read (fun o => .string o.toSql) o := by
  unfold Survives MatchOperator.read
  rw [bind_of_ok (survives_string o.toSql), MatchOperator.ofText_toSql]
  rfl

/-- Match columns when the members of some keys have been read. -/
def Upsert.upTo (u : Upsert) (seen : List String) : Upsert where
  columns := once seen "matchColumns" u.columns []
  operator := once seen "operator" u.operator none

theorem Upsert.survives (u : Upsert) : Survives Upsert.read Upsert.toJson u := by
  refine record_ofMembers u.upTo rfl ["matchColumns", "operator"] (by decide) (by decide) ?_ nofun
    ?_ ?_
  · exact optionalMember_keys.cons_cons _
  · simp only [List.forall_mem_cons, forall_mem_optionalMember]
    refine ⟨fun seen => ?_, fun operator present seen => ?_⟩
    · exact set_of_ok (survives_strings u.columns) (by simp [Upsert.upTo])
    · have survives := MatchOperator.survives operator
      exact set_of_ok (survives.option nofun) (by simp [Upsert.upTo, present])
  · intro seen written
    simp only [List.forall_mem_cons, forall_mem_optionalMember] at written
    obtain ⟨matchColumns, operator⟩ := written
    simp only [Upsert.upTo, once_of_mem matchColumns, once_optional operator]

/-- A custom query when the members of some keys have been read. -/
def CustomQuery.upTo (q : CustomQuery) (seen : List String) : CustomQuery where
  query := once seen "query" q.query ""
  count := once seen "execution_count" q.count 0

theorem CustomQuery.survives (q : CustomQuery) :
    Survives CustomQuery.read CustomQuery.toJson q := by
  refine record_ofMembers q.upTo rfl ["query", "execution_count"] (by decide) (by decide)
    (List.Sublist.refl _) (by simp) ?_ ?_
  · simp only [List.forall_mem_cons, forall_mem_no_members, and_true]
    refine ⟨fun seen => ?_, fun seen => ?_⟩
    · exact set_of_ok rfl (by simp [CustomQuery.upTo])
    · exact set_of_ok (survives_nat64 q.count) (by simp [CustomQuery.upTo])
  · intro seen written
    simp only [List.forall_mem_cons, forall_mem_no_members, and_true] at written
    obtain ⟨query, count⟩ := written
    simp only [CustomQuery.upTo, once_of_mem, *]

/-- A job when the members of some keys have been read. -/
def Spec.upTo (s : Spec) (seen : List String) : Spec where
  table := once seen "table" s.table ""
  factory := once seen "factory" s.factory none
  count := once seen "execution_count" s.count 0
  createOrUpdate := once seen "createOrUpdate" s.createOrUpdate none
  custom := once seen "custom" s.custom none
  query := once seen "custom_query" s.query none
  queryCount := once seen "custom_query_execution_count" s.queryCount none

theorem Spec.survives (s : Spec) : Survives Spec.read Spec.toJson s := by
  refine record_ofMembers s.upTo rfl
    ["table", "execution_count", "factory", "createOrUpdate", "custom", "custom_query",
      "custom_query_execution_count"]
    (by decide) (by decide) ?_ nofun ?_ ?_
  · simp only [List.map_append, List.map_cons, List.map_nil]
    exact (((((List.Sublist.refl _).append optionalMember_keys).append
      optionalMember_keys).append optionalMember_keys).append optionalMember_keys).append
      optionalMember_keys
  · simp only [List.forall_mem_append, List.forall_mem_cons, forall_mem_no_members, and_true,
      forall_mem_optionalMember]
    refine ⟨⟨⟨⟨⟨⟨fun seen => ?_, fun seen => ?_⟩, fun factory present seen => ?_⟩,
      fun upsert present seen => ?_⟩, fun custom present seen => ?_⟩,
      fun query present seen => ?_⟩, fun count present seen => ?_⟩
    · exact set_of_ok rfl (by simp [Spec.upTo])
    · exact set_of_ok (survives_nat64 s.count) (by simp [Spec.upTo])
    · exact set_of_ok rfl (by simp [Spec.upTo, present])
    · exact set_of_ok ((Upsert.survives upsert).option nofun) (by simp [Spec.upTo, present])
    · exact set_of_ok ((CustomQuery.survives custom).option nofun) (by simp [Spec.upTo, present])
    · exact set_of_ok rfl (by simp [Spec.upTo, present])
    · exact set_of_ok ((survives_nat64 count).option nofun) (by simp [Spec.upTo, present])
  · intro seen written
    simp only [List.forall_mem_append, List.forall_mem_cons, forall_mem_no_members, and_true,
      forall_mem_optionalMember] at written
    obtain ⟨⟨⟨⟨⟨⟨table, count⟩, factory⟩, upsert⟩, custom⟩, query⟩, queryCount⟩ := written
    simp only [Spec.upTo, once_of_mem table, once_of_mem count, once_optional factory,
      once_optional upsert, once_optional custom, once_optional query, once_optional queryCount]

/-- A seeder is what its JSON stands for. -/
theorem Document.survives (d : Document) : Survives Document.read Document.toJson d := by
  refine record_ofMembers (fun seen => ⟨once seen "seed" d.specs []⟩) rfl ["seed"] (by decide)
    (by decide) (List.Sublist.refl _) (by simp) ?_ ?_
  · simp only [List.forall_mem_cons, forall_mem_no_members, and_true]
    exact fun seen => set_of_ok (Survives.list fun s _ => Spec.survives s) (by simp)
  · intro seen written
    simp only [List.forall_mem_cons, forall_mem_no_members, and_true] at written
    simp only [once_of_mem written]

end Seed

/-! Documents. -/

/-- Documents survive. Whatever a document was read from, be it a text or a value, with markers and
words in any case, fields in any order or in an array, repeated keys in an entry and members that
nobody asks for: the value that the document is written as is accepted, and gives the document. -/
theorem documents_survive :
    (∀ (origin : Origin) (t : JsonTree) (d : Migration.Document),
      Migration.Document.read origin t = .ok d → Migration.Document.ofJson d.toJson = .ok d) ∧
    (∀ (t : JsonTree) (d : Seed.Document),
      Seed.Document.read t = .ok d → Seed.Document.read (JsonTree.ofJson d.toJson) = .ok d) ∧
    ∀ (t : JsonTree) (d : Factory.Document),
      Factory.Document.read t = .ok d →
        Factory.Document.read (JsonTree.ofJson d.toJson) = .ok d := by
  refine ⟨fun origin t d read => ?_, fun t d _ => ?_, fun t d read => ?_⟩
  · exact Migration.Document.survives (Migration.Document.read_unmarked read)
  · exact Seed.Document.survives d
  · exact Factory.Document.survives (Factory.Document.read_normal read)

/-- A table with a moment and a text for defaults, neither in its standard words. -/
def sampleMigration : Json :=
  .object [("migrations", .array [.object [("action", .string "create"), ("columns", .array [
    .object [("default", .object [("value", .string "current_timestamp")]),
      ("name", .string "made"), ("type", .string "TIMESTAMP")],
    .object [("default", .object [("function", .string "now"), ("value", .string "new")]),
      ("name", .string "state"), ("nullable", .bool false), ("type", .string "TEXT")]]),
    ("engine", .null), ("table", .string "users")]])]

/-- A job whose operator is in lower case. -/
def sampleSeeder : Json :=
  .object [("seed", .array [.object [("createOrUpdate", .object [
    ("matchColumns", .array [.string "email", .string "name"]), ("operator", .string " or ")]),
    ("execution_count", .int 3), ("factory", .string "user"), ("table", .string "users")]])]

/-- An entry that is not in the order of its columns, as a text may have it. -/
def sampleFactory : JsonTree :=
  .object 1 [(.ok "columns", .array 2 [.object 3 [
    (.ok "role", .object 4 [(.ok "custom", .object 5 [(.ok "b", .null), (.ok "a", .null)] none)]
      none),
    (.ok "email", .object 4 [(.ok "fake", .bool true), (.ok "custom", .null)] none)] none] none)]
    none

theorem sample_documents_survive :
    (∃ d, Migration.Document.ofJson sampleMigration = .ok d ∧
      Migration.Document.ofJson d.toJson = .ok d) ∧
    (∃ d, Seed.Document.read (JsonTree.ofJson sampleSeeder) = .ok d ∧
      Seed.Document.read (JsonTree.ofJson d.toJson) = .ok d) ∧
    ∃ d, Factory.Document.read sampleFactory = .ok d ∧
      Factory.Document.read (JsonTree.ofJson d.toJson) = .ok d := by
  have migration_read : Migration.Document.ofJson sampleMigration = .ok {
      migrations := some [.create { table := "users", columns := [
        { name := "made", type := "TIMESTAMP", default := some .currentTimestamp },
        { name := "state", type := "TEXT", nullable := some false,
          default := some (.text "new") }] }] } := by decide
  have seeder_read : Seed.Document.read (JsonTree.ofJson sampleSeeder) = .ok ⟨[{
      table := "users", factory := some "user", count := 3,
      createOrUpdate := some { columns := ["email", "name"], operator := some .or } }]⟩ := by
    decide
  have factory_read : Factory.Document.read sampleFactory = .ok ⟨[[
      ("email", { isFake := true }),
      ("role", { custom := some (.object [("a", .null), ("b", .null)]) })]]⟩ := by rfl
  exact ⟨⟨_, migration_read, documents_survive.1 .value _ _ migration_read⟩,
    ⟨_, seeder_read, documents_survive.2.1 _ _ seeder_read⟩,
    ⟨_, factory_read, documents_survive.2.2 _ _ factory_read⟩⟩

end SchemaSeed

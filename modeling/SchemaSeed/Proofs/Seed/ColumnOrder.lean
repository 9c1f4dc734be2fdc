import Mathlib
import SchemaSeed.Proofs.Json.Record
import SchemaSeed.Proofs.Seed.Exchanges

/-!
The order of the columns of a row. The entries of a factory document are kept in the order of the
text, but an entry is a map, and its columns come out in the order of their names: so the columns of
a row are in the order of the text only if each entry names its columns in ascending order.
-/

set_option autoImplicit false
set_option relaxedAutoImplicit false

namespace SchemaSeed

/-! What stands in a text. -/

/-- The keys of an object, in the order of the text. -/
def JsonTree.keys (t : JsonTree) : List String := t.members.filterMap (·.1.toOption)

/-- These are the keys of an object, each once and in ascending order. -/
structure JsonTree.HasKeys (t : JsonTree) (sorted : List String) : Prop where
  ascending : sorted.Pairwise (· < ·)
  mem_iff : ∀ key, key ∈ sorted ↔ key ∈ t.keys

namespace JsonTree.HasKeys

variable {t : JsonTree} {sorted : List String}

/-- They are as many as in the text if none comes twice there, and fewer otherwise. -/
theorem length_le (has : t.HasKeys sorted) : sorted.length ≤ t.keys.length :=
  (List.subperm_of_subset has.ascending.nodup fun key => (has.mem_iff key).mp).length_le

/-- They are the keys as they stand in the text if these ascend there. -/
theorem keys_eq_iff (has : t.HasKeys sorted) :
    t.keys = sorted ↔ t.keys.Pairwise (· < ·) := by
  constructor
  · intro same
    rw [same]
    exact has.ascending
  · intro ascending
    have perm : t.keys.Perm sorted :=
      (List.perm_ext_iff_of_nodup ascending.nodup has.ascending.nodup).mpr fun key =>
        (has.mem_iff key).symm
    exact perm.eq_of_pairwise' ascending has.ascending

end JsonTree.HasKeys

section

variable {entries : List JsonTree} {columns : List (List String)}

/-- Entries have their keys in the order of the text if the keys of each ascend there. -/
theorem JsonTree.map_keys_eq_iff (each : List.Forall₂ HasKeys entries columns) :
    entries.map keys = columns ↔ ∀ entry ∈ entries, entry.keys.Pairwise (· < ·) := by
  induction each with
  | nil => exact iff_of_true rfl (List.forall_mem_nil _)
  | cons first _ ih =>
    rw [List.map_cons, List.cons_eq_cons, first.keys_eq_iff, ih, List.forall_mem_cons]

/-- So it is with all their keys one after the other: no entry makes up for what another lacks. -/
theorem JsonTree.flatMap_keys_eq_iff (each : List.Forall₂ HasKeys entries columns) :
    entries.flatMap keys = columns.flatten ↔
      ∀ entry ∈ entries, entry.keys.Pairwise (· < ·) := by
  have shorter : List.Forall₂ (fun a b => b.length ≤ a.length) (entries.map keys) columns :=
    List.forall₂_map_left_iff.mpr (each.imp fun _ _ => HasKeys.length_le)
  rw [List.flatMap_def, Traversal.flatten_eq_flatten_iff shorter, map_keys_eq_iff each]

end

/-- The value of a record's only field: that of the first member of its name, or the first item of an
array. -/
def JsonTree.onlyField (name : String) : JsonTree → Option JsonTree
  | .object _ members _ => (members.find? (·.1.toOption == some name)).map (·.2)
  | t => t.items.head?

namespace Reading

section Single

variable {α : Type} {shape : Shape} {put : PutField α} {field : String}

private theorem readMembers_single (single : shape.fields = [field])
    {members : List (Except SyntaxFault String × JsonTree)} {seen seen' : List String} {a a' : α}
    (done : readMembers shape put members seen a = .ok (a', seen')) :
    if field ∈ seen then a' = a
    else ((members.find? (·.1.toOption == some field)).map (·.2)).elim (a' = a)
      fun t => put field t a = .ok a' := by
  induction members generalizing seen a with
  | nil =>
    cases done
    split_ifs <;> rfl
  | cons first rest ih =>
    rcases first with ⟨key, t⟩
    obtain ⟨k, read, done⟩ := of_bind_ok done
    rw [of_lift_ok read]
    rw [single] at done
    split_ifs at done with unknown again
    · obtain ⟨-, -, done⟩ := of_bind_ok done
      have other : k ≠ field := by simpa using unknown
      have passed : ((Except.ok k : Except SyntaxFault String).toOption == some field) = false := by
        simpa [Except.toOption] using other
      simpa only [List.find?_cons, passed] using ih done
    · have known : k = field := by simpa using unknown
      subst known
      have fresh : k ∉ seen := by simpa using again
      obtain ⟨next, taken, done⟩ := of_bind_ok done
      have kept := ih done
      rw [if_pos List.mem_cons_self] at kept
      subst kept
      rw [if_neg fresh]
      simpa [Except.toOption] using taken

/-- A record with one field is the start with the value of that field, if it has one. -/
theorem of_record_single {origin : Origin} {start a : α} {t : JsonTree}
    (single : shape.fields = [field])
    (done : record origin shape start put t = .ok a) :
    (t.onlyField field).elim (a = start) fun t' => put field t' start = .ok a := by
  cases t with
  | object depth members ending =>
    obtain ⟨-, -, done⟩ := of_bind_ok done
    obtain ⟨⟨result, seen⟩, taken, done⟩ := of_bind_ok done
    obtain ⟨-, -, done⟩ := of_bind_ok done
    have read := readMembers_single single taken
    rw [if_neg List.not_mem_nil] at read
    split at done
    · cases done
    · cases done
      exact read
  | array depth items ending =>
    obtain ⟨-, -, done⟩ := of_bind_ok done
    obtain ⟨⟨result, left⟩, taken, done⟩ := of_bind_ok done
    obtain ⟨-, -, done⟩ := of_bind_ok done
    cases done
    rw [single] at taken
    cases items with
    | nil =>
      obtain ⟨-, -, taken⟩ := of_bind_ok taken
      split_ifs at taken with required
      · cases taken
      · cases taken
        rfl
    | cons first rest =>
      obtain ⟨next, read, taken⟩ := of_bind_ok taken
      cases taken
      exact read
  | _ =>
    obtain ⟨found, -, done⟩ := of_bind_ok done
    cases done

end Single

private theorem keys_of_read {α : Type} {value : JsonTree → Reading α}
    {members : List (Except SyntaxFault String × JsonTree)} {read : List (String × α)}
    (each : List.Forall₂ (fun member entry => member.1 = .ok entry.1 ∧ value member.2 = .ok entry.2)
      members read) : members.filterMap (·.1.toOption) = read.map Prod.fst := by
  induction each with
  | nil => rfl
  | cons first _ ih =>
    rw [List.filterMap_cons, first.1, List.map_cons, ← ih]
    rfl

/-- A map has the keys of the object that it was read from. -/
theorem of_map_keys {α : Type} {value : JsonTree → Reading α} {t : JsonTree}
    {entries : List (String × α)} (done : map value t = .ok entries) :
    t.HasKeys (entries.map Prod.fst) := by
  refine ⟨List.pairwise_map.mpr (of_map_entries done).1, fun key => ?_⟩
  obtain ⟨read, each, rfl⟩ := of_map_members done
  have keys : t.keys = read.map Prod.fst := keys_of_read each
  rw [mem_keys_foldl_insertKey, keys]
  exact or_iff_left List.not_mem_nil

end Reading

namespace Factory

open Reading

/-- The entries of a factory document, as the text has them. -/
def entriesOf (text : String) : List JsonTree :=
  ((JsonTree.ofText text).tree.onlyField "columns").elim [] JsonTree.items

/-- The entries of a document are those of the text, each with its columns in ascending order. -/
theorem Document.parse_columns {text : String} {d : Document} (parsed : Document.parse text = .ok d) :
    List.Forall₂ JsonTree.HasKeys (entriesOf text) (d.columns.map (·.map Prod.fst)) := by
  have read : Document.read (JsonTree.ofText text).tree = .ok d :=
    of_ofText_ok (of_mapError_ok parsed)
  have field := of_record_single rfl read
  unfold entriesOf
  cases found : (JsonTree.ofText text).tree.onlyField "columns" with
  | none =>
    rw [found] at field
    rw [show d = _ from field]
    exact .nil
  | some t =>
    rw [found] at field
    obtain ⟨columns, listed, rfl⟩ := of_set_ok field
    exact List.forall₂_map_right_iff.mpr ((of_list_items listed).imp fun _ _ => of_map_keys)

end Factory

namespace Seed

open SchemaSeed.Sql SchemaSeed.Factory

/-- The entries of a factory keep the order of the text, and each of them has its columns in
ascending order. So the rules of the factory are in the order of the text just if every entry names
its columns in ascending order. The cells of a row, the lookups that are sent for it and the columns
that are inserted are in the order of the rules. -/
theorem columns_in_text_order_iff {text : String} {d : Factory.Document}
    (parsed : Factory.Document.parse text = .ok d) :
    List.Forall₂ JsonTree.HasKeys (entriesOf text) (d.columns.map (·.map Prod.fst)) ∧
    (d.rules.map Prod.fst = (entriesOf text).flatMap JsonTree.keys ↔
      ∀ entry ∈ entriesOf text, entry.keys.Pairwise (· < ·)) ∧
    ∀ {γ : Type} (e : Engine γ) {c c' : γ} {sent : List Exchange} {row : SeedRow},
      (e.buildRow d).Tells c sent (.ok row) c' →
      Gathers e d.rules c sent (.ok row) c' ∧ row.map Prod.fst = d.rules.map Prod.fst ∧
      sent.map Exchange.call = lookups e.dialect d.rules ∧
      ∀ table, Denotes e.dialect (Statement.insert e.dialect table row) (.insert table row) := by
  have columns := Factory.Document.parse_columns parsed
  refine ⟨columns, ?_, fun e c c' sent row tells => ?_⟩
  · have rules : d.rules.map Prod.fst = (d.columns.map (·.map Prod.fst)).flatten :=
      List.map_flatten
    rw [rules, eq_comm, JsonTree.flatMap_keys_eq_iff columns]
  · have gathers := buildRow_tells tells
    obtain ⟨calls, names⟩ := gathers.complete
    exact ⟨gathers, names, calls, fun table => (insert_denotes e.dialect table row).1⟩

/-- A factory whose entries name their columns in ascending order. -/
private def orderedText : String :=
  "\x7b\"columns\":[\x7b\"name\":\x7b\x7d\x7d,\x7b\"city\":\x7b\x7d,\"email\":\x7b\x7d\x7d]\x7d"

/-- A factory with an entry that names its columns in another order. -/
private def swappedText : String :=
  "\x7b\"columns\":[\x7b\"name\":\x7b\"custom\":\"Ada\"\x7d,\"email\":\x7b\"custom\":\"a@b.c\"\x7d\x7d]\x7d"

/-- The statements that are sent for one row of a factory. -/
private def sentFor (d : Factory.Document) : List String :=
  let server : Server Unit :=
    ⟨fun _ _ s => (.ok 1, s), fun _ _ s => (.ok [], s), fun s => (.ok (), s)⟩
  let e : Engine Unit := ⟨.postgres, fun _ => pure .null⟩
  (Work.runOn server.recorded (e.run { table := "users", count := 1 } (some d)) ()
    ⟨[], ()⟩).2.calls.map Call.sql

private theorem samples_read :
    ((Factory.Document.parse orderedText).toOption.isSome = true ∧
      (entriesOf orderedText).map JsonTree.keys = [["name"], ["city", "email"]]) ∧
    (entriesOf swappedText).map JsonTree.keys = [["name", "email"]] ∧
      (Factory.Document.parse swappedText).toOption.map
          (fun d => (d.rules.map Prod.fst, sentFor d)) =
        some (["email", "name"],
          ["INSERT INTO \"users\" (\"email\", \"name\") VALUES ('a@b.c', 'Ada')"]) := by
  decide +kernel

/-- The entries themselves need not be in order. -/
theorem entries_in_text_order :
    ∃ d, Factory.Document.parse orderedText = .ok d ∧
      (∀ entry ∈ entriesOf orderedText, entry.keys.Pairwise (· < ·)) ∧
      d.rules.map Prod.fst = ["name", "city", "email"] := by
  obtain ⟨⟨read, keys⟩, -⟩ := samples_read
  cases parsed : Factory.Document.parse orderedText with
  | error failure =>
    rw [parsed] at read
    cases read
  | ok d =>
    have each : ∀ names ∈ (entriesOf orderedText).map JsonTree.keys, names.Pairwise (· < ·) := by
      rw [keys]
      decide
    have ascending := List.forall_mem_map.mp each
    have rules := (columns_in_text_order_iff parsed).2.1.mpr ascending
    rw [List.flatMap_def, keys] at rules
    exact ⟨d, rfl, ascending, rules⟩

/-- The name stands before the address in the factory, and behind it in the rules and in the
insertion. -/
theorem columns_of_entry_swapped :
    (entriesOf swappedText).map JsonTree.keys = [["name", "email"]] ∧
      ∃ d, Factory.Document.parse swappedText = .ok d ∧
        d.rules.map Prod.fst = ["email", "name"] ∧
        sentFor d =
          ["INSERT INTO \"users\" (\"email\", \"name\") VALUES ('a@b.c', 'Ada')"] := by
  obtain ⟨-, keys, read⟩ := samples_read
  refine ⟨keys, ?_⟩
  cases parsed : Factory.Document.parse swappedText with
  | error failure =>
    rw [parsed] at read
    cases read
  | ok d =>
    rw [parsed] at read
    obtain ⟨rules, sent⟩ := Prod.mk.inj (Option.some.inj read)
    exact ⟨d, rfl, rules, sent⟩

end Seed

end SchemaSeed

import Mathlib
import SchemaSeed.Json.Reading

/-!
Values as they come out of a text. The members of an object are put in the order of their keys, each
key once, so a value that was read is normal: it is made of objects of this kind only. To write such
a value and to read it again changes nothing.
-/

set_option autoImplicit false
set_option relaxedAutoImplicit false

namespace SchemaSeed

open SchemaSeed.Reading (insertKey)

/-! Members in the order of their keys. -/

/-- The keys of some members ascend. -/
def Ascending {α : Type} (members : List (String × α)) : Prop :=
  members.Pairwise fun earlier later => earlier.1 < later.1

namespace Reading

variable {α : Type} {key : String} {value : α} {members : List (String × α)}

theorem eq_or_mem_of_mem_insertKey {member : String × α}
    (found : member ∈ insertKey key value members) : member = (key, value) ∨ member ∈ members := by
  induction members with
  | nil => exact .inl (List.mem_singleton.mp found)
  | cons first rest ih =>
    unfold insertKey at found
    split_ifs at found with before same
    · exact List.mem_cons.mp found
    · rcases List.mem_cons.mp found with here | later
      · exact .inl here
      · exact .inr (List.mem_cons_of_mem _ later)
    · rcases List.mem_cons.mp found with here | later
      · exact .inr (here ▸ List.mem_cons_self)
      · exact (ih later).imp_right (List.mem_cons_of_mem _)

theorem mem_keys_insertKey {key' : String} :
    key' ∈ (insertKey key value members).map (·.1) ↔ key' = key ∨ key' ∈ members.map (·.1) := by
  induction members with
  | nil => simp [insertKey]
  | cons first rest ih =>
    unfold insertKey
    split_ifs with before same
    · simp only [List.map_cons, List.mem_cons]
    · simp only [List.map_cons, List.mem_cons, ← same]
      tauto
    · simp only [List.map_cons, List.mem_cons, ih]
      tauto

/-- A new key finds its place among keys that ascend. -/
theorem ascending_insertKey (ascending : Ascending members) :
    Ascending (insertKey key value members) := by
  induction members with
  | nil => exact List.pairwise_singleton _ _
  | cons first rest ih =>
    obtain ⟨first_lt, rest_ascending⟩ := List.pairwise_cons.mp ascending
    unfold insertKey
    split_ifs with before same
    · refine List.pairwise_cons.mpr ⟨fun later found => ?_, ascending⟩
      rcases List.mem_cons.mp found with rfl | found
      · exact before
      · exact before.trans (first_lt later found)
    · refine List.pairwise_cons.mpr ⟨fun later found => ?_, rest_ascending⟩
      rw [same]
      exact first_lt later found
    · refine List.pairwise_cons.mpr ⟨fun later found => ?_, ih rest_ascending⟩
      rcases eq_or_mem_of_mem_insertKey found with rfl | found
      · exact lt_of_le_of_ne (not_lt.mp before) (Ne.symm same)
      · exact first_lt later found

/-- A key that was not there comes in addition. -/
theorem insertKey_perm (fresh : key ∉ members.map (·.1)) :
    (insertKey key value members).Perm ((key, value) :: members) := by
  induction members with
  | nil => exact .refl _
  | cons first rest ih =>
    rw [List.map_cons, List.mem_cons, not_or] at fresh
    unfold insertKey
    split_ifs with before same
    · exact .refl _
    · exact absurd same fresh.1
    · exact ((ih fresh.2).cons first).trans (.swap _ _ _)

/-- A key beyond all others goes to the end. -/
theorem insertKey_last (last : ∀ member ∈ members, member.1 < key) :
    insertKey key value members = members ++ [(key, value)] := by
  induction members with
  | nil => rfl
  | cons first rest ih =>
    have first_lt : first.1 < key := last first List.mem_cons_self
    unfold insertKey
    rw [if_neg first_lt.asymm, if_neg first_lt.ne', List.cons_append,
      ih fun member found => last member (List.mem_cons_of_mem _ found)]

/-- Members that ascend are put one after another. -/
theorem foldl_insertKey_append {placed : List (String × α)}
    (ascending : Ascending (placed ++ members)) :
    members.foldl (fun placed member => insertKey member.1 member.2 placed) placed =
      placed ++ members := by
  induction members generalizing placed with
  | nil => rw [List.foldl_nil, List.append_nil]
  | cons first rest ih =>
    have last : ∀ member ∈ placed, member.1 < first.1 := fun member found =>
      (List.pairwise_append.mp ascending).2.2 member found first List.mem_cons_self
    rw [List.foldl_cons, insertKey_last last, ih (by simpa using ascending), List.append_assoc,
      List.singleton_append]

theorem foldl_insertKey_ascending {placed : List (String × α)} (ascending : Ascending placed) :
    Ascending (members.foldl (fun placed member => insertKey member.1 member.2 placed) placed) := by
  induction members generalizing placed with
  | nil => exact ascending
  | cons first rest ih => exact ih (ascending_insertKey ascending)

theorem mem_of_mem_foldl_insertKey {placed : List (String × α)} {member : String × α}
    (found : member ∈ members.foldl (fun placed member => insertKey member.1 member.2 placed) placed) :
    member ∈ members ∨ member ∈ placed := by
  induction members generalizing placed with
  | nil => exact .inr found
  | cons first rest ih =>
    rcases ih found with later | before
    · exact .inl (List.mem_cons_of_mem _ later)
    · rcases eq_or_mem_of_mem_insertKey before with rfl | before
      · exact .inl List.mem_cons_self
      · exact .inr before

theorem mem_keys_foldl_insertKey {placed : List (String × α)} {key : String} :
    key ∈ (members.foldl (fun placed member => insertKey member.1 member.2 placed) placed).map
        (·.1) ↔ key ∈ members.map (·.1) ∨ key ∈ placed.map (·.1) := by
  induction members generalizing placed with
  | nil => simp
  | cons first rest ih =>
    rw [List.foldl_cons, ih, mem_keys_insertKey, List.map_cons, List.mem_cons]
    tauto

theorem foldl_insertKey_perm {placed : List (String × α)}
    (distinct : ((members ++ placed).map (·.1)).Nodup) :
    (members.foldl (fun placed member => insertKey member.1 member.2 placed) placed).Perm
      (members ++ placed) := by
  induction members generalizing placed with
  | nil => exact .refl _
  | cons first rest ih =>
    rw [List.cons_append, List.map_cons, List.map_append, List.nodup_cons] at distinct
    have absent : first.1 ∉ placed.map (·.1) := fun found =>
      distinct.1 (List.mem_append_right _ found)
    have added : (insertKey first.1 first.2 placed).Perm (first :: placed) := insertKey_perm absent
    have moved : (rest ++ insertKey first.1 first.2 placed).Perm (first :: (rest ++ placed)) :=
      (added.append_left rest).trans List.perm_middle
    have distinct' : ((rest ++ insertKey first.1 first.2 placed).map (·.1)).Nodup :=
      (moved.map _).nodup_iff.mpr (by simpa using distinct)
    exact (ih distinct').trans moved

end Reading

namespace Json

theorem insertMember_eq (key : String) (value : Json) (members : List (String × Json)) :
    insertMember key value members = insertKey key value members := by
  induction members with
  | nil => rfl
  | cons first rest ih => rw [insertMember, insertKey, ih]

theorem ofMembers_eq (members : List (String × Json)) :
    ofMembers members =
      .object (members.foldl (fun placed member => insertKey member.1 member.2 placed) []) := by
  simp only [ofMembers, insertMember_eq]

/-- The object of members with different keys has these members, in some order. -/
theorem exists_ofMembers {members : List (String × Json)}
    (distinct : (members.map (·.1)).Nodup) :
    ∃ placed, ofMembers members = .object placed ∧ placed.Perm members := by
  refine ⟨_, ofMembers_eq members, ?_⟩
  have perm := @Reading.foldl_insertKey_perm _ members [] (by simpa using distinct)
  simpa using perm

theorem ofMembers_ascending {members : List (String × Json)} (ascending : Ascending members) :
    ofMembers members = .object members := by
  rw [ofMembers_eq, Reading.foldl_insertKey_append (by simpa using ascending), List.nil_append]

/-- Whether a value is not made of others. -/
def IsScalar : Json → Prop
  | .array _ => False
  | .object _ => False
  | _ => True

/-! Normal values. -/

/-- A value all of whose objects have their members in the order of the keys. -/
inductive Normal : Json → Prop
  | null : Normal .null
  | bool (b : Bool) : Normal (.bool b)
  | number (n : JsonNumber) : Normal (.number n)
  | string (s : String) : Normal (.string s)
  | array {items : List Json} (normal : ∀ item ∈ items, Normal item) : Normal (.array items)
  | object {members : List (String × Json)} (ascending : Ascending members)
      (normal : ∀ member ∈ members, Normal member.2) : Normal (.object members)

theorem Normal.ofMembers {members : List (String × Json)}
    (normal : ∀ member ∈ members, Normal member.2) : Normal (Json.ofMembers members) := by
  rw [ofMembers_eq]
  refine .object (Reading.foldl_insertKey_ascending .nil) fun member found => ?_
  exact normal member ((Reading.mem_of_mem_foldl_insertKey found).resolve_right List.not_mem_nil)

end Json

namespace JsonTree

mutual

/-- What is read from a tree is normal. -/
theorem read_normal : ∀ {t : JsonTree} {j : Json}, t.read = .ok j → j.Normal
  | .null, j, found => by
    rw [read] at found
    exact Except.ok.inj found ▸ .null
  | .bool b, j, found => by
    rw [read] at found
    exact Except.ok.inj found ▸ .bool b
  | .number n, j, found => by
    cases n with
    | error e => cases found
    | ok n => exact Except.ok.inj found ▸ .number n
  | .string s, j, found => by
    cases s with
    | error e => cases found
    | ok s => exact Except.ok.inj found ▸ .string s
  | .array depth items ending, j, found => by
    rw [read] at found
    split_ifs at found with deep
    · cases found
    cases all : readAllItems items with
    | error e => rw [all] at found; cases found
    | ok values =>
      rw [all] at found
      cases ending with
      | some b => cases found
      | none => exact Except.ok.inj found ▸ .array (readAllItems_normal all)
  | .object depth members ending, j, found => by
    rw [read] at found
    split_ifs at found with deep
    · cases found
    cases all : readAllMembers members with
    | error e => rw [all] at found; cases found
    | ok values =>
      rw [all] at found
      cases ending with
      | some b => cases found
      | none => exact Except.ok.inj found ▸ .ofMembers (readAllMembers_normal all)
  | .broken b, j, found => by
    rw [read] at found
    cases found

theorem readAllItems_normal : ∀ {items : List JsonTree} {values : List Json},
    readAllItems items = .ok values → ∀ value ∈ values, value.Normal
  | [], values, found => by
    rw [readAllItems] at found
    cases found
    simp
  | t :: rest, values, found => by
    rw [readAllItems] at found
    cases first : t.read with
    | error e => rw [first] at found; cases found
    | ok j =>
      rw [first] at found
      cases others : readAllItems rest with
      | error e => rw [others] at found; cases found
      | ok js =>
        rw [others] at found
        cases found
        exact List.forall_mem_cons.mpr ⟨read_normal first, readAllItems_normal others⟩

theorem readAllMembers_normal :
    ∀ {members : List (Except SyntaxFault String × JsonTree)} {values : List (String × Json)},
    readAllMembers members = .ok values → ∀ value ∈ values, value.2.Normal
  | [], values, found => by
    rw [readAllMembers] at found
    cases found
    simp
  | (key, t) :: rest, values, found => by
    rw [readAllMembers] at found
    cases key with
    | error e => cases found
    | ok k =>
      cases first : t.read with
      | error e => rw [first] at found; cases found
      | ok j =>
        rw [first] at found
        cases others : readAllMembers rest with
        | error e => rw [others] at found; cases found
        | ok js =>
          rw [others] at found
          cases found
          exact List.forall_mem_cons.mpr ⟨read_normal first, readAllMembers_normal others⟩

end

mutual

/-- A value can be read again, and a normal value is found as it was. -/
theorem exists_read_ofJson : ∀ j : Json, ∃ j', (ofJson j).read = .ok j' ∧ (j.Normal → j' = j)
  | .null => ⟨.null, rfl, fun _ => rfl⟩
  | .bool b => ⟨.bool b, rfl, fun _ => rfl⟩
  | .number n => ⟨.number n, rfl, fun _ => rfl⟩
  | .string s => ⟨.string s, rfl, fun _ => rfl⟩
  | .array items => by
    obtain ⟨items', all, same⟩ := exists_readAllItems_ofItems items
    refine ⟨.array items', ?_, fun normal => ?_⟩
    · rw [ofJson, read, all]
      rfl
    · cases normal with
      | array normal => rw [same normal]
  | .object members => by
    obtain ⟨members', all, same⟩ := exists_readAllMembers_ofMembers members
    refine ⟨Json.ofMembers members', ?_, fun normal => ?_⟩
    · rw [ofJson, read, all]
      rfl
    · cases normal with
      | object ascending normal => rw [same normal, Json.ofMembers_ascending ascending]

theorem exists_readAllItems_ofItems : ∀ items : List Json,
    ∃ items', readAllItems (ofItems items) = .ok items' ∧
      ((∀ item ∈ items, item.Normal) → items' = items)
  | [] => ⟨[], rfl, fun _ => rfl⟩
  | j :: rest => by
    obtain ⟨j', first, same⟩ := exists_read_ofJson j
    obtain ⟨rest', others, same'⟩ := exists_readAllItems_ofItems rest
    refine ⟨j' :: rest', ?_, fun normal => ?_⟩
    · rw [ofItems, readAllItems, first, others]
      rfl
    · obtain ⟨normal_first, normal_rest⟩ := List.forall_mem_cons.mp normal
      rw [same normal_first, same' normal_rest]

theorem exists_readAllMembers_ofMembers : ∀ members : List (String × Json),
    ∃ members', readAllMembers (ofMembers members) = .ok members' ∧
      ((∀ member ∈ members, member.2.Normal) → members' = members)
  | [] => ⟨[], rfl, fun _ => rfl⟩
  | (key, j) :: rest => by
    obtain ⟨j', first, same⟩ := exists_read_ofJson j
    obtain ⟨rest', others, same'⟩ := exists_readAllMembers_ofMembers rest
    refine ⟨(key, j') :: rest', ?_, fun normal => ?_⟩
    · rw [ofMembers, readAllMembers, first, others]
      rfl
    · obtain ⟨normal_first, normal_rest⟩ := List.forall_mem_cons.mp normal
      rw [same normal_first, same' normal_rest]

end

theorem read_ofJson {j : Json} (normal : j.Normal) : (ofJson j).read = .ok j := by
  obtain ⟨j', found, same⟩ := exists_read_ofJson j
  rw [found, same normal]

/-- A value that is not made of others has been read from its own tree. -/
theorem eq_ofJson_of_read {t : JsonTree} {j : Json} (found : t.read = .ok j)
    (scalar : j.IsScalar) : t = ofJson j := by
  cases t with
  | null =>
    rw [← Except.ok.inj found]
    rfl
  | bool b =>
    rw [← Except.ok.inj found]
    rfl
  | number n =>
    cases n with
    | error fault => cases found
    | ok n =>
      rw [← Except.ok.inj found]
      rfl
  | string s =>
    cases s with
    | error fault => cases found
    | ok s =>
      rw [← Except.ok.inj found]
      rfl
  | broken b => cases found
  | array depth items ending =>
    rw [read] at found
    split_ifs at found with deep
    · cases found
    cases all : readAllItems items <;> rw [all] at found <;> cases ending <;> cases found
    exact scalar.elim
  | object depth members ending =>
    rw [read] at found
    split_ifs at found with deep
    · cases found
    cases all : readAllMembers members <;> rw [all] at found <;> cases ending <;> cases found
    rw [Json.ofMembers_eq] at scalar
    exact scalar.elim

/-- Only `null` is read as `null`. -/
theorem eq_null_of_read {t : JsonTree} (found : t.read = .ok .null) : t = .null :=
  eq_ofJson_of_read found trivial

end JsonTree

end SchemaSeed

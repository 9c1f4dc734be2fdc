import Mathlib
import SchemaSeed.Proofs.Json.Normal
import SchemaSeed.Proofs.Traversal

/-!
Reading again what was written. A value survives if its reader finds it in the JSON value that it is
written as.

A record is written as members in some order, and the object has them in another, that of the keys.
So the proof that a record survives follows no order: it says what the record is like when the
members of some keys have been read, whichever they are.
-/

set_option autoImplicit false
set_option relaxedAutoImplicit false

namespace SchemaSeed

/-- The items of an array, in the order of the text. -/
def JsonTree.items : JsonTree → List JsonTree
  | .array _ items _ => items
  | _ => []

/-- The members of an object, in the order of the text. -/
def JsonTree.members : JsonTree → List (Except SyntaxFault String × JsonTree)
  | .object _ members _ => members
  | _ => []

/-- The trees directly below a tree. -/
def JsonTree.children : JsonTree → List JsonTree
  | .array _ items _ => items
  | .object _ members _ => members.map (·.2)
  | _ => []

theorem JsonTree.mem_children_of_mem_items {t t' : JsonTree} (among : t' ∈ t.items) :
    t' ∈ t.children := by
  cases t with
  | array depth items ending => exact among
  | _ => cases among

theorem JsonTree.mem_children_of_mem_members {t : JsonTree}
    {member : Except SyntaxFault String × JsonTree} (among : member ∈ t.members) :
    member.2 ∈ t.children := by
  cases t with
  | object depth members ending => exact List.mem_map_of_mem among
  | _ => cases among

namespace Reading

variable {α β : Type}

/-! Readings that succeed. -/

theorem of_bind_ok {x : Reading α} {f : α → Reading β} {b : β} (done : x >>= f = .ok b) :
    ∃ a, x = .ok a ∧ f a = .ok b := Traversal.bind_eq_ok_iff.mp done

theorem bind_of_ok {x : Reading α} {f : α → Reading β} {a : α} (found : x = .ok a) :
    x >>= f = f a := by
  rw [found]
  rfl

theorem of_map_ok {x : Reading α} {f : α → β} {b : β} (done : f <$> x = .ok b) :
    ∃ a, x = .ok a ∧ f a = b := by
  cases x with
  | error e => cases done
  | ok a => exact ⟨a, rfl, Except.ok.inj done⟩

/-- A field is set to what was read for it. -/
theorem of_set_ok {x : Reading α} {f : α → β} {b : β}
    (done : (do let a ← x; pure (f a)) = Except.ok b) : ∃ a, x = .ok a ∧ f a = b := by
  obtain ⟨a, read, set⟩ := of_bind_ok done
  exact ⟨a, read, Except.ok.inj set⟩

/-- A field is set to what is found for it. -/
theorem set_of_ok {x : Reading α} {f : α → β} {a : α} {b : β} (found : x = .ok a) (set : f a = b) :
    (do let a ← x; pure (f a)) = Except.ok b := by
  rw [found, ← set]
  rfl

theorem of_mapError_ok {ε ε' : Type} {x : Except ε α} {f : ε → ε'} {a : α}
    (done : x.mapError f = .ok a) : x = .ok a := Traversal.mapError_eq_ok_iff.mp done

theorem of_lift_ok {x : Except SyntaxFault α} {a : α} (done : lift x = .ok a) : x = .ok a :=
  of_mapError_ok done

theorem lift_ok (a : α) : lift (Except.ok a) = .ok a := rfl

/-- What a text holds has been read from its tree. -/
theorem of_ofText_ok {value : JsonTree → Reading α} {text : String} {a : α}
    (done : ofText value text = .ok a) : value (JsonTree.ofText text).tree = .ok a := by
  unfold ofText at done
  dsimp only at done
  obtain ⟨result, read, done⟩ := of_bind_ok done
  split at done
  · cases done
  · rw [← Except.ok.inj done, read]

/-- The values of a list have been read one by one. -/
theorem of_list_items {item : JsonTree → Reading α} {t : JsonTree} {values : List α}
    (done : list item t = .ok values) :
    List.Forall₂ (fun t' value => item t' = .ok value) t.items values := by
  cases t with
  | array depth items ending =>
    obtain ⟨-, -, done⟩ := of_bind_ok done
    obtain ⟨values', all, done⟩ := of_bind_ok done
    obtain ⟨-, -, done⟩ := of_bind_ok done
    cases done
    exact Traversal.mapM_eq_ok_iff.mp all
  | _ =>
    obtain ⟨found, -, done⟩ := of_bind_ok done
    cases done

/-- Each value of a list has been read from a tree below. -/
theorem of_list_ok {item : JsonTree → Reading α} {t : JsonTree} {values : List α}
    (done : list item t = .ok values) :
    ∀ value ∈ values, ∃ t' ∈ t.children, item t' = .ok value := by
  intro value member
  obtain ⟨t', among, read⟩ := Traversal.exists_of_forall₂ (of_list_items done) member
  exact ⟨t', JsonTree.mem_children_of_mem_items among, read⟩

/-- A value that is there is not written as `null`. -/
theorem of_option_ok {value : JsonTree → Reading α} {t : JsonTree} {a : α}
    (done : option value t = .ok (some a)) : t ≠ .null ∧ value t = .ok a := by
  cases t with
  | null => cases done
  | _ =>
    obtain ⟨a', read, same⟩ := of_map_ok done
    cases same
    exact ⟨nofun, read⟩

private theorem foldlM_read {value : JsonTree → Reading α}
    {members : List (Except SyntaxFault String × JsonTree)} {placed entries : List (String × α)}
    (done : members.foldlM (fun entries (member : Except SyntaxFault String × JsonTree) => do
      let k ← lift member.1
      let v ← value member.2
      Except.ok (insertKey k v entries)) placed = .ok entries) :
    ∃ read : List (String × α),
      List.Forall₂ (fun member entry => member.1 = .ok entry.1 ∧ value member.2 = .ok entry.2)
        members read ∧
      entries = read.foldl (fun placed entry => insertKey entry.1 entry.2 placed) placed := by
  induction members generalizing placed with
  | nil =>
    cases done
    exact ⟨[], .nil, rfl⟩
  | cons first rest ih =>
    rw [List.foldlM_cons] at done
    obtain ⟨placed', step, done⟩ := of_bind_ok done
    obtain ⟨k, key, step⟩ := of_bind_ok step
    obtain ⟨v, taken, step⟩ := of_bind_ok step
    cases step
    obtain ⟨read, others, rfl⟩ := ih done
    exact ⟨(k, v) :: read, .cons ⟨of_lift_ok key, taken⟩ others, rfl⟩

/-- The entries of a map have been read one by one, and each was put at the place of its key. -/
theorem of_map_members {value : JsonTree → Reading α} {t : JsonTree} {entries : List (String × α)}
    (done : map value t = .ok entries) :
    ∃ read : List (String × α),
      List.Forall₂ (fun member entry => member.1 = .ok entry.1 ∧ value member.2 = .ok entry.2)
        t.members read ∧
      entries = read.foldl (fun placed entry => insertKey entry.1 entry.2 placed) [] := by
  cases t with
  | object depth members ending =>
    obtain ⟨-, -, done⟩ := of_bind_ok done
    obtain ⟨entries', all, done⟩ := of_bind_ok done
    obtain ⟨-, -, done⟩ := of_bind_ok done
    cases done
    exact foldlM_read all
  | _ =>
    obtain ⟨found, -, done⟩ := of_bind_ok done
    cases done

/-- The entries of a map are in the order of their keys, and their values have been read. -/
theorem of_map_entries {value : JsonTree → Reading α} {t : JsonTree}
    {entries : List (String × α)} (done : map value t = .ok entries) :
    Ascending entries ∧ ∀ entry ∈ entries, ∃ t' ∈ t.children, value t' = .ok entry.2 := by
  obtain ⟨read, each, rfl⟩ := of_map_members done
  refine ⟨foldl_insertKey_ascending .nil, fun entry placed => ?_⟩
  have listed : entry ∈ read := (mem_of_mem_foldl_insertKey placed).resolve_right List.not_mem_nil
  obtain ⟨member, among, -, taken⟩ := Traversal.exists_of_forall₂ each listed
  exact ⟨member.2, JsonTree.mem_children_of_mem_members among, taken⟩

section Invariant

variable {shape : Shape} {put : PutField α} {P : α → Prop} {trees : List JsonTree}

private theorem readMembers_keeps
    (puts : ∀ field, ∀ t ∈ trees, ∀ a a', P a → put field t a = .ok a' → P a')
    {members : List (Except SyntaxFault String × JsonTree)} {seen seen' : List String} {a a' : α}
    (among : ∀ member ∈ members, member.2 ∈ trees) (good : P a)
    (done : readMembers shape put members seen a = .ok (a', seen')) : P a' := by
  induction members generalizing seen a with
  | nil =>
    cases done
    exact good
  | cons first rest ih =>
    obtain ⟨first_among, rest_among⟩ := List.forall_mem_cons.mp among
    obtain ⟨k, -, done⟩ := of_bind_ok done
    split_ifs at done with unknown again
    · obtain ⟨-, -, done⟩ := of_bind_ok done
      exact ih rest_among good done
    · obtain ⟨next, step, done⟩ := of_bind_ok done
      exact ih rest_among (puts _ _ first_among _ _ good step) done

private theorem readElements_keeps
    (puts : ∀ field, ∀ t ∈ trees, ∀ a a', P a → put field t a = .ok a' → P a')
    {ending : Option Break} {fields : List String} {items left : List JsonTree} {count : Nat}
    {a a' : α} (among : ∀ item ∈ items, item ∈ trees) (good : P a)
    (done : readElements shape put ending fields items count a = .ok (a', left)) : P a' := by
  induction fields generalizing items count a with
  | nil =>
    cases done
    exact good
  | cons field fields ih =>
    cases items with
    | nil =>
      obtain ⟨-, -, done⟩ := of_bind_ok done
      split_ifs at done with missing
      · cases done
      · exact ih among good done
    | cons t rest =>
      obtain ⟨first_among, rest_among⟩ := List.forall_mem_cons.mp among
      obtain ⟨next, step, done⟩ := of_bind_ok done
      exact ih rest_among (puts _ _ first_among _ _ good step) done

/-- What holds at the start and is kept by every field holds of a record that was read. -/
theorem record_keeps {origin : Origin} {start a : α} {t : JsonTree} (opens : P start)
    (puts : ∀ field, ∀ t' ∈ t.children, ∀ a a', P a → put field t' a = .ok a' → P a')
    (done : record origin shape start put t = .ok a) : P a := by
  cases t with
  | object depth members ending =>
    obtain ⟨-, -, done⟩ := of_bind_ok done
    obtain ⟨⟨result, seen⟩, taken, done⟩ := of_bind_ok done
    obtain ⟨-, -, done⟩ := of_bind_ok done
    have kept : P result := readMembers_keeps puts (fun member => List.mem_map_of_mem) opens taken
    split at done
    · cases done
    · cases done
      exact kept
  | array depth items ending =>
    obtain ⟨-, -, done⟩ := of_bind_ok done
    obtain ⟨⟨result, left⟩, taken, done⟩ := of_bind_ok done
    obtain ⟨-, -, done⟩ := of_bind_ok done
    cases done
    exact readElements_keeps puts (fun item member => member) opens taken
  | _ =>
    obtain ⟨found, -, done⟩ := of_bind_ok done
    cases done

end Invariant

/-! Values that survive. -/

/-- A reader finds a value in what the value is written as. -/
def Survives (read : JsonTree → Reading α) (toJson : α → Json) (a : α) : Prop :=
  read (JsonTree.ofJson (toJson a)) = .ok a

theorem survives_string (s : String) : Survives string .string s := rfl

theorem survives_nat64 (n : Nat) : Survives nat64 (fun n => .int n) n := by
  have natural : ¬ (n : Int) < 0 := by omega
  change nat64 (.number (.ok (.integer n))) = .ok n
  rw [nat64, if_neg natural, Int.toNat_natCast]

theorem survives_json {j : Json} (normal : j.Normal) : Survives json id j := by
  exact congrArg lift (JsonTree.read_ofJson normal)

/-- Whatever has been written can be read. -/
theorem exists_json (j : Json) : ∃ j', json (JsonTree.ofJson j) = .ok j' := by
  obtain ⟨j', read, -⟩ := JsonTree.exists_read_ofJson j
  exact ⟨j', congrArg lift read⟩

theorem ofItems_eq_map (items : List Json) :
    JsonTree.ofItems items = items.map JsonTree.ofJson := by
  induction items with
  | nil => rfl
  | cons first rest ih => rw [JsonTree.ofItems, ih, List.map_cons]

/-- A list survives if its values do. -/
theorem Survives.list {item : JsonTree → Reading α} {toJson : α → Json} {values : List α}
    (all : ∀ value ∈ values, Survives item toJson value) :
    Survives (list item) (fun values => .array (values.map toJson)) values := by
  have one_by_one : (JsonTree.ofItems (values.map toJson)).mapM item = .ok values := by
    rw [ofItems_eq_map, List.map_map, Traversal.mapM_eq_ok_iff, List.forall₂_map_left_iff,
      List.forall₂_same]
    exact all
  unfold Survives Reading.list
  rw [JsonTree.ofJson]
  dsimp only
  rw [one_by_one]
  rfl

theorem survives_strings (texts : List String) :
    Survives (Reading.list string) (fun texts => .array (texts.map .string)) texts :=
  .list fun s _ => survives_string s

/-- A value that is not written as `null` survives where it may be absent. -/
theorem Survives.option {read : JsonTree → Reading α} {toJson : α → Json} {a : α}
    (survives : Survives read toJson a) (present : toJson a ≠ .null) :
    option read (JsonTree.ofJson (toJson a)) = .ok (some a) := by
  have found : some <$> read (JsonTree.ofJson (toJson a)) = .ok (some a) := by
    rw [survives]
    rfl
  cases written : toJson a with
  | null => exact absurd written present
  | _ =>
    rw [written] at found
    exact found

private theorem foldlM_written {value : JsonTree → Reading α} {toJson : α → Json}
    {entries : List (String × α)} (all : ∀ entry ∈ entries, Survives value toJson entry.2)
    (placed : List (String × α)) :
    (JsonTree.ofMembers (entries.map fun entry => (entry.1, toJson entry.2))).foldlM
        (fun entries (member : Except SyntaxFault String × JsonTree) => do
          let k ← lift member.1
          let v ← value member.2
          Except.ok (insertKey k v entries)) placed =
      .ok (entries.foldl (fun placed entry => insertKey entry.1 entry.2 placed) placed) := by
  induction entries generalizing placed with
  | nil => rfl
  | cons first rest ih =>
    obtain ⟨first_survives, others⟩ := List.forall_mem_cons.mp all
    have found : value (JsonTree.ofJson (toJson first.2)) = .ok first.2 := first_survives
    rw [List.map_cons, JsonTree.ofMembers, List.foldlM_cons, found]
    exact ih others _

/-- A map survives if its values do: its entries are in the order of their keys already. -/
theorem survives_map {value : JsonTree → Reading α} {toJson : α → Json}
    {entries : List (String × α)} (ascending : Ascending entries)
    (all : ∀ entry ∈ entries, Survives value toJson entry.2) :
    Survives (map value)
      (fun entries => .ofMembers (entries.map fun entry => (entry.1, toJson entry.2))) entries := by
  have written_ascending : Ascending (entries.map fun entry => (entry.1, toJson entry.2)) :=
    List.pairwise_map.mpr ascending
  have placed : entries.foldl (fun placed entry => insertKey entry.1 entry.2 placed) [] =
      entries := @foldl_insertKey_append _ entries [] ascending
  simp only [Survives]
  rw [Json.ofMembers_ascending written_ascending, JsonTree.ofJson, map, foldlM_written all, placed]
  rfl

/-! Records in any order. -/

/-- The value of a field, when the members of some keys have been read. -/
def once (seen : List String) (key : String) (value absent : β) : β :=
  if key ∈ seen then value else absent

/-- One more key has been read. -/
@[simp] theorem once_cons {seen : List String} {key key' : String} {value absent : β} :
    once (key' :: seen) key value absent =
      if key = key' then value else once seen key value absent := by
  unfold once
  by_cases same : key = key' <;> simp [same]

theorem once_of_mem {seen : List String} {key : String} {value absent : β} (read : key ∈ seen) :
    once seen key value absent = value :=
  if_pos read

/-- A field that may be absent has its value in the end, be it that it is written or not. -/
theorem once_optional {seen : List String} {key : String} {value : Option β}
    (read : ∀ v, value = some v → key ∈ seen) : once seen key value none = value := by
  cases value with
  | none => exact ite_self _
  | some v => exact if_pos (read v rfl)

/-- A reader finds a value in an object of some members, in whatever order they stand. -/
def Finds (read : JsonTree → Reading α) (members : List (String × Json)) (a : α) : Prop :=
  ∀ listed, listed.Perm members → read (.object 0 (JsonTree.ofMembers listed) none) = .ok a

/-- What is found in any order is found in the order of the keys. -/
theorem Finds.read_ofMembers {read : JsonTree → Reading α} {members : List (String × Json)} {a : α}
    (finds : Finds read members a) (distinct : (members.map (·.1)).Nodup) :
    read (JsonTree.ofJson (.ofMembers members)) = .ok a := by
  obtain ⟨placed, same, perm⟩ := Json.exists_ofMembers distinct
  rw [same, JsonTree.ofJson]
  exact finds placed perm

section Written

variable {shape : Shape} {put : PutField α}

private theorem readMembers_written {upTo : List String → α} {listed : List (String × Json)}
    {seen : List String} (distinct : (listed.map (·.1)).Nodup)
    (fresh : ∀ member ∈ listed, member.1 ∉ seen)
    (known : ∀ member ∈ listed, member.1 ∈ shape.fields)
    (takes : ∀ member ∈ listed, ∀ seen,
      put member.1 (JsonTree.ofJson member.2) (upTo seen) = .ok (upTo (member.1 :: seen))) :
    readMembers shape put (JsonTree.ofMembers listed) seen (upTo seen) =
      .ok (upTo ((listed.map (·.1)).reverse ++ seen), (listed.map (·.1)).reverse ++ seen) := by
  induction listed generalizing seen with
  | nil => rfl
  | cons first rest ih =>
    obtain ⟨first_known, rest_known⟩ := List.forall_mem_cons.mp known
    obtain ⟨first_takes, rest_takes⟩ := List.forall_mem_cons.mp takes
    obtain ⟨first_fresh, rest_fresh⟩ := List.forall_mem_cons.mp fresh
    obtain ⟨once_only, rest_distinct⟩ := List.nodup_cons.mp distinct
    have rest_fresh' : ∀ member ∈ rest, member.1 ∉ first.1 :: seen := by
      intro member found
      have other : member.1 ≠ first.1 := fun same =>
        once_only (List.mem_map.mpr ⟨member, found, same⟩)
      exact List.not_mem_cons_of_ne_of_not_mem other (rest_fresh member found)
    have field : (!shape.fields.contains first.1) = false := by simpa using first_known
    have unseen : seen.contains first.1 = false := by simpa using first_fresh
    have others := ih rest_distinct rest_fresh' rest_known rest_takes
    rw [JsonTree.ofMembers, readMembers, bind_of_ok (lift_ok _), field, if_neg Bool.false_ne_true,
      unseen, if_neg Bool.false_ne_true, bind_of_ok (first_takes seen), others, List.map_cons,
      List.reverse_cons, List.append_assoc, List.singleton_append]

/-- A record is found in its members if each of them adds its field to those that have been read,
and all together make up the record. -/
theorem record_finds {origin : Origin} {start a : α} {members : List (String × Json)}
    (upTo : List String → α) (opens : upTo [] = start) (keys : List String)
    (distinct : keys.Nodup) (known : keys ⊆ shape.fields)
    (written : (members.map (·.1)).Sublist keys)
    (complete : ∀ field ∈ shape.required, field ∈ members.map (·.1))
    (takes : ∀ member ∈ members, ∀ seen,
      put member.1 (JsonTree.ofJson member.2) (upTo seen) = .ok (upTo (member.1 :: seen)))
    (closes : ∀ seen, (∀ member ∈ members, member.1 ∈ seen) → upTo seen = a) :
    Finds (record origin shape start put) members a := by
  intro listed perm
  have keys_perm : (listed.map (·.1)).Perm (members.map (·.1)) := perm.map _
  have once_only : (listed.map (·.1)).Nodup := keys_perm.nodup_iff.mpr (written.nodup distinct)
  have listed_known : ∀ member ∈ listed, member.1 ∈ shape.fields := fun member found =>
    known (written.subset (List.mem_map_of_mem (perm.mem_iff.mp found)))
  have taken := @readMembers_written _ shape put upTo listed [] once_only (by simp) listed_known
    fun member found => takes member (perm.mem_iff.mp found)
  have nothing_missing :
      shape.required.find? (fun field => !((listed.map Prod.fst).reverse ++ []).contains field) =
        none := by
    rw [List.find?_eq_none]
    intro field required
    have among : field ∈ listed.map (·.1) := keys_perm.mem_iff.mpr (complete field required)
    simpa using among
  have whole : upTo ((listed.map (·.1)).reverse ++ []) = a := by
    refine closes _ fun member found => ?_
    have among : member.1 ∈ listed.map (·.1) :=
      keys_perm.mem_iff.mpr (List.mem_map_of_mem found)
    simpa using among
  have unnested : checkDepth 0 = .ok () := rfl
  have closed : checkEnding none = .ok () := rfl
  rw [record, ← opens, bind_of_ok unnested, bind_of_ok taken]
  dsimp only
  rw [bind_of_ok closed, nothing_missing, whole]

/-- A record that is written with these members survives. -/
theorem record_ofMembers {origin : Origin} {start a : α} {members : List (String × Json)}
    (upTo : List String → α) (opens : upTo [] = start) (keys : List String)
    (distinct : keys.Nodup) (known : keys ⊆ shape.fields)
    (written : (members.map (·.1)).Sublist keys)
    (complete : ∀ field ∈ shape.required, field ∈ members.map (·.1))
    (takes : ∀ member ∈ members, ∀ seen,
      put member.1 (JsonTree.ofJson member.2) (upTo seen) = .ok (upTo (member.1 :: seen)))
    (closes : ∀ seen, (∀ member ∈ members, member.1 ∈ seen) → upTo seen = a) :
    record origin shape start put (JsonTree.ofJson (.ofMembers members)) = .ok a :=
  (record_finds upTo opens keys distinct known written complete takes closes).read_ofMembers
    (written.nodup distinct)

end Written

/-! Members that may be absent. -/

theorem optionalMember_keys {key : String} {value : Option α} {toJson : α → Json} :
    ((Json.optionalMember key value toJson).map (·.1)).Sublist [key] := by
  cases value with
  | none => exact List.nil_sublist _
  | some v => exact List.Sublist.refl _

theorem forall_mem_no_members {P : String × Json → Prop} : (∀ member ∈ [], P member) ↔ True :=
  iff_true_intro (List.forall_mem_nil P)

theorem forall_mem_optionalMember {key : String} {value : Option α} {toJson : α → Json}
    {P : String × Json → Prop} :
    (∀ member ∈ Json.optionalMember key value toJson, P member) ↔
      ∀ v, value = some v → P (key, toJson v) := by
  cases value <;> simp [Json.optionalMember]

end Reading

end SchemaSeed

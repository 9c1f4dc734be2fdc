import Mathlib
import SchemaSeed.Migration.Directory
import SchemaSeed.Proofs.Calendar.Order
import SchemaSeed.Proofs.Files.Entries
import SchemaSeed.Proofs.Number.Digits
import SchemaSeed.Proofs.Text.Sorting

/-!
The listing of a directory of migrations: which names it has, each once, and in which order. Names
that start with a stamp are listed from the latest to the earliest.
-/

set_option autoImplicit false
set_option relaxedAutoImplicit false

namespace SchemaSeed.Migration.Directory

open SchemaSeed.Files SchemaSeed.Calendar

/-- The number that a name starts with, if its first fourteen characters are digits. -/
def stamp? (name : String) : Option Nat :=
  let first := name.toList.take 14
  if first.length = 14 then Number.natOfChars? first else none

/-- Names that list the migration files among some entries. -/
structure IsListing (entries : List Entry) (names : List String) : Prop where
  mem : ∀ name, name ∈ names ↔
    ∃ e ∈ entries, e.name = name ∧ e.isFile = true ∧ name.endsWith ".json" = true
  once : names.Nodup
  descending : names.Pairwise fun a b => Text.bytes b < Text.bytes a
  greaterFirst : ∀ a ∈ names, ∀ b ∈ names, ∀ n m, stamp? a = some n → stamp? b = some m → n < m →
    [b, a].Sublist names
  laterFirst : ∀ a ∈ names, ∀ b ∈ names, ∀ i j, (stamp? a).bind Instant.ofStamp? = some i →
    (stamp? b).bind Instant.ofStamp? = some j → i.seconds < j.seconds → [b, a].Sublist names

/-- The name with the smaller stamp is the smaller name, whatever follows the stamps. -/
theorem lt_of_stamp_lt {a b : String} {n m : Nat} (stamped : stamp? a = some n)
    (stamped' : stamp? b = some m) (less : n < m) : a < b := by
  have digits {name : String} {n : Nat} (stamped : stamp? name = some n) :
      (name.toList.take 14).length = 14 ∧ (∀ c ∈ name.toList.take 14, c.isDigit = true) ∧
        Number.digitsValue 0 (name.toList.take 14) = n := by
    unfold stamp? Number.natOfChars? at stamped
    dsimp only at stamped
    split_ifs at stamped with long other
    have all : (name.toList.take 14).all Char.isDigit = true := by
      simpa using (Bool.or_eq_false_iff.mp (Bool.eq_false_iff.mpr other)).2
    exact ⟨long, List.all_eq_true.mp all, Option.some.inj stamped⟩
  obtain ⟨long, only, rfl⟩ := digits stamped
  obtain ⟨long', only', rfl⟩ := digits stamped'
  rw [String.lt_iff_toList_lt, ← List.take_append_drop 14 a.toList,
    ← List.take_append_drop 14 b.toList]
  exact Number.append_lt_of_digitsValue_lt (long.trans long'.symm) only only' less _ _

/-- In a list in strict order what belongs first stands first. -/
theorem sublist_of_pairwise {names : List String} {order : String → String → Prop}
    (sorted : names.Pairwise order) (asymm : ∀ a b, order a b → ¬ order b a) {a b : String}
    (first : a ∈ names) (second : b ∈ names) (before : order a b) : [a, b].Sublist names := by
  obtain ⟨left, right, rfl⟩ := List.append_of_mem first
  obtain ⟨-, following, across⟩ := List.pairwise_append.mp sorted
  rcases List.mem_append.mp second with earlier | later
  · exact absurd before (asymm b a (across b earlier a List.mem_cons_self))
  · rcases List.mem_cons.mp later with rfl | later
    · exact absurd before (asymm b b before)
    · exact ((List.singleton_sublist.mpr later).cons_cons a).trans (List.sublist_append_right _ _)

/-- The order in which entries are enumerated does not show in the listing. -/
theorem listing_perm {entries entries' : List Entry} (same : entries'.Perm entries) :
    listing entries' = listing entries :=
  Text.isLinear_descending.mergeSort_eq ((same.filter _).map _)

theorem listing_isListing {entries : List Entry} (once : (entries.map Entry.name).Nodup) :
    IsListing entries (listing entries) := by
  have distinct := Entry.nodup_kept_names (fun e => e.isFile && e.name.endsWith ".json") once
  have descending : (listing entries).Pairwise fun a b => Text.bytes b < Text.bytes a :=
    Text.descending_mergeSort distinct
  have first {a b : String} (listed : a ∈ listing entries) (listed' : b ∈ listing entries)
      (less : a < b) : [b, a].Sublist (listing entries) :=
    sublist_of_pairwise descending (fun _ _ => List.lt_asymm) listed' listed (Text.bytes_lt less)
  refine ⟨fun name => ?_, (List.mergeSort_perm _ _).nodup_iff.mpr distinct, descending, ?_, ?_⟩
  · unfold listing
    rw [List.mem_mergeSort, Entry.mem_kept_names]
    refine exists_congr fun e => and_congr_right fun _ => and_congr_right ?_
    rintro rfl
    exact Bool.and_eq_true_iff
  · intro a listed b listed' n m stamped stamped' less
    exact first listed listed' (lt_of_stamp_lt stamped stamped' less)
  · intro a listed b listed' i j told told' earlier
    obtain ⟨n, stamped, told⟩ := Option.bind_eq_some_iff.mp told
    obtain ⟨m, stamped', told'⟩ := Option.bind_eq_some_iff.mp told'
    exact first listed listed'
      (lt_of_stamp_lt stamped stamped' (Instant.stamp_lt_of_seconds_lt told told' earlier))

variable {files : Tree} {directory : String} {names : List String}

theorem list_of_entries {entries : List Entry} (found : files.entries directory = .ok entries) :
    list files directory = .ok (listing entries) := by
  unfold list
  rw [if_pos (Tree.exists_entries_iff.mp ⟨entries, found⟩), found]

theorem list_of_absent (absent : files.isDirectory directory = false) :
    list files directory = .error (.directoryNotFound directory) := by
  unfold list
  rw [absent]
  rfl

theorem exists_entries_of_list (listed : list files directory = .ok names) :
    ∃ entries, files.entries directory = .ok entries ∧ names = listing entries := by
  cases there : files.isDirectory directory with
  | false =>
    rw [list_of_absent there] at listed
    cases listed
  | true =>
    obtain ⟨entries, found⟩ := Tree.exists_entries_iff.mpr there
    rw [list_of_entries found] at listed
    exact ⟨entries, found, (Except.ok.inj listed).symm⟩

/-- What is listed are the files of the directory that end in `.json`. -/
theorem mem_list (listed : list files directory = .ok names) (name : String) :
    name ∈ names ↔ name.endsWith ".json" = true ∧ ∃ place content,
      files.resolve directory = .ok (files.home ++ place) ∧
        (place ++ [name], content) ∈ files.files := by
  obtain ⟨entries, found, rfl⟩ := exists_entries_of_list listed
  have shown := Tree.enumerates found
  rw [(listing_isListing shown.once).mem, ← shown.isFile]
  constructor
  · rintro ⟨e, member, same, file, ending⟩
    exact ⟨ending, e, member, same, file⟩
  · rintro ⟨ending, e, member, same, file⟩
    exact ⟨e, member, same, file, ending⟩

/-- The listing descends strictly in the order of the bytes of the names. -/
theorem list_descending (listed : list files directory = .ok names) :
    names.Pairwise fun a b => Text.bytes b < Text.bytes a := by
  obtain ⟨entries, found, rfl⟩ := exists_entries_of_list listed
  exact (listing_isListing (Tree.enumerates found).once).descending

end SchemaSeed.Migration.Directory

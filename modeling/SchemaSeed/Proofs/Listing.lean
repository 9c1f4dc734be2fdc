import Mathlib
import SchemaSeed.Proofs.Migration.Listing
import SchemaSeed.Seed.Directory

/-!
The listings of directories. A file system enumerates a directory in any order it likes; neither the
migrations that are listed nor the seeders, nor their order, depend on it.
-/

set_option autoImplicit false
set_option relaxedAutoImplicit false

namespace SchemaSeed

open SchemaSeed.Files SchemaSeed.Calendar

/-! Seeders. -/

theorem Files.Path.hasJsonExtension_iff (name : String) :
    Path.hasJsonExtension name = true ↔ ∃ stem, stem ≠ "" ∧ name = stem ++ ".json" := by
  unfold Path.hasJsonExtension
  rw [Bool.and_eq_true, Path.endsWith_iff, bne_iff_ne]
  constructor
  · rintro ⟨⟨stem, whole⟩, other⟩
    have parts : name = String.ofList stem ++ ".json" := by
      rw [← String.toList_inj, String.toList_append, String.toList_ofList, whole]
    refine ⟨String.ofList stem, ?_, parts⟩
    intro empty
    rw [empty] at parts
    exact other parts
  · rintro ⟨stem, something, rfl⟩
    refine ⟨⟨stem.toList, String.toList_append.symm⟩, fun bare => something ?_⟩
    have chars := congrArg String.toList bare
    rw [String.toList_append, List.append_left_eq_self] at chars
    exact String.toList_eq_nil_iff.mp chars

namespace Seed.Directories

/-- Names that list the seeders among some entries. -/
structure IsListing (entries : List Entry) (names : List String) : Prop where
  mem : ∀ name, name ∈ names ↔ ∃ e ∈ entries, e.name = name ∧ e.leadsToFile = true ∧
    ∃ stem, stem ≠ "" ∧ name = stem ++ ".json"
  once : names.Nodup
  ascending : names.Pairwise fun a b => Text.bytes a < Text.bytes b

/-- The order in which entries are enumerated does not show in the listing. -/
theorem listing_perm {entries entries' : List Entry} (same : entries'.Perm entries) :
    listing entries' = listing entries :=
  Text.isLinear_ascending.mergeSort_eq ((same.filter _).map _)

theorem listing_isListing {entries : List Entry} (once : (entries.map Entry.name).Nodup) :
    IsListing entries (listing entries) := by
  have distinct :=
    Entry.nodup_kept_names (fun e => e.leadsToFile && Path.hasJsonExtension e.name) once
  refine ⟨fun name => ?_, (List.mergeSort_perm _ _).nodup_iff.mpr distinct,
    Text.ascending_mergeSort distinct⟩
  unfold listing
  rw [List.mem_mergeSort, Entry.mem_kept_names]
  refine exists_congr fun e => and_congr_right fun _ => and_congr_right ?_
  rintro rfl
  rw [Bool.and_eq_true, Path.hasJsonExtension_iff]

/-- Without a target the seeders of the directory are given by their paths. -/
theorem files_of_entries (d : Directories) {tree : Tree} {entries : List Entry}
    (found : tree.entries d.seeders = .ok entries) :
    d.files tree none = .ok ((listing entries).map (Path.join d.seeders)) := by
  have there := Tree.exists_entries_iff.mp ⟨entries, found⟩
  unfold files
  rw [there, found]
  rfl

theorem files_of_absent (d : Directories) {tree : Tree}
    (absent : tree.isDirectory d.seeders = false) (target : Option String) :
    d.files tree target = .error (.directoryNotFound d.seeders) := by
  unfold files
  rw [absent]
  rfl

end Seed.Directories

/-! Directories. -/

/-- Two files with stamps, one without a stem, a link to a file and a directory. -/
def sampleEntries : List Entry :=
  [⟨"20240101000000_a.json", true, true⟩, ⟨"20240301000000_b.json", true, true⟩,
    ⟨".json", true, true⟩, ⟨"linked.json", false, true⟩, ⟨"old.json", false, false⟩]

theorem sample_migrations : Migration.Directory.listing sampleEntries =
    ["20240301000000_b.json", "20240101000000_a.json", ".json"] := by
  have kept : (sampleEntries.filter fun e => e.isFile && e.name.endsWith ".json").map Entry.name =
      ["20240101000000_a.json", "20240301000000_b.json", ".json"] := by decide +kernel
  unfold Migration.Directory.listing
  rw [kept]
  exact Text.isLinear_descending.mergeSort_eq_of_pairwise (.swap ..) (by decide)

theorem sample_seeders : Seed.Directories.listing sampleEntries =
    ["20240101000000_a.json", "20240301000000_b.json", "linked.json"] := by
  have kept : (sampleEntries.filter fun e => e.leadsToFile && Path.hasJsonExtension e.name).map
      Entry.name = ["20240101000000_a.json", "20240301000000_b.json", "linked.json"] := by
    decide +kernel
  unfold Seed.Directories.listing
  rw [kept]
  exact Text.isLinear_ascending.mergeSort_eq_of_pairwise (.refl _) (by decide)

/-- A directory with two files and another directory. -/
def sampleTree : Tree where
  files := [(["documents", "a.json"], "\x7b\x7d".toUTF8), (["documents", "b.json"], "".toUTF8)]
  directories := [["documents", "old.json"]]
  distinct := by decide

/-- The same directory with its files kept in the other order. -/
def reversedTree : Tree where
  files := [(["documents", "b.json"], "".toUTF8), (["documents", "a.json"], "\x7b\x7d".toUTF8)]
  directories := [["documents", "old.json"]]
  distinct := by decide

theorem sampleTree_entries : sampleTree.isDirectory "documents" = true ∧
    sampleTree.entries "documents" =
      .ok [⟨"a.json", true, true⟩, ⟨"b.json", true, true⟩, ⟨"old.json", false, false⟩] := by
  decide +kernel

theorem sample_stamps :
    (Migration.Directory.stamp? "20240101000000_a.json").bind Instant.ofStamp? =
        some ⟨1704067200, 0⟩ ∧
      (Migration.Directory.stamp? "20240301000000_b.json").bind Instant.ofStamp? =
        some ⟨1709251200, 0⟩ := by
  decide

end SchemaSeed

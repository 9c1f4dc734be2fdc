import Mathlib
import SchemaSeed.Proofs.Files.Contents
import SchemaSeed.Proofs.Files.Resolution

/-!
The entries of a directory are the names right below its place, each once, with what stands there.
The order in which files are kept shows in the order of the entries only.
-/

set_option autoImplicit false
set_option relaxedAutoImplicit false

namespace SchemaSeed.Files

theorem nodup_eraseDups (names : List String) : names.eraseDups.Nodup := by
  cases names with
  | nil => exact List.nodup_nil
  | cons name rest =>
    rw [List.eraseDups_cons, List.nodup_cons]
    exact ⟨by simp [List.mem_eraseDups],
      nodup_eraseDups (rest.filter fun other => !other == name)⟩
termination_by names.length
decreasing_by exact Nat.lt_succ_of_le (List.length_filter_le _ _)

namespace Entry

variable (keep : Entry → Bool) {entries : List Entry}

theorem mem_kept_names (name : String) :
    name ∈ (entries.filter keep).map Entry.name ↔
      ∃ e ∈ entries, e.name = name ∧ keep e = true := by
  rw [List.mem_map]
  constructor
  · rintro ⟨e, kept, same⟩
    obtain ⟨member, right⟩ := List.mem_filter.mp kept
    exact ⟨e, member, same, right⟩
  · rintro ⟨e, member, same, right⟩
    exact ⟨e, List.mem_filter.mpr ⟨member, right⟩, same⟩

theorem nodup_kept_names (once : (entries.map Entry.name).Nodup) :
    ((entries.filter keep).map Entry.name).Nodup :=
  once.sublist (List.filter_sublist.map _)

end Entry

namespace Tree

/-- What the entries of a directory are: the names of its files are just those of the files that
stand right below it, each once, and their paths lead to them unless they are too long. -/
structure Enumerates (t : Tree) (directory : String) (entries : List Entry) : Prop where
  once : (entries.map Entry.name).Nodup
  isFile : ∀ name, (∃ e ∈ entries, e.name = name ∧ e.isFile = true) ↔
    ∃ place content, t.resolve directory = .ok (t.home ++ place) ∧
      (place ++ [name], content) ∈ t.files
  leadsToFile : ∀ e ∈ entries, Path.IsName e.name →
    (e.leadsToFile = true ↔
      e.isFile = true ∧ checkPath (Path.join directory e.name) = .ok ())

variable {t : Tree} {directory : String} {entries : List Entry}

theorem mem_namesBelow (place : List String) (name : String) :
    name ∈ t.namesBelow place ↔
      ∃ spot ∈ t.files.map Prod.fst ++ t.directories, place ++ [name] <+: spot := by
  unfold namesBelow
  rw [List.mem_eraseDups, List.mem_filterMap]
  refine exists_congr fun spot => and_congr_right fun _ => ?_
  constructor
  · intro kept
    split_ifs at kept with inside
    obtain ⟨rest, rfl⟩ := List.isPrefixOf_iff_prefix.mp inside
    rw [List.getElem?_append_right le_rfl, Nat.sub_self, ← List.head?_eq_getElem?] at kept
    rw [List.prefix_append_right_inj]
    obtain ⟨others, rfl⟩ := List.head?_eq_some_iff.mp kept
    exact ⟨others, rfl⟩
  · rintro ⟨others, rfl⟩
    rw [List.append_assoc, if_pos (List.isPrefixOf_iff_prefix.mpr (List.prefix_append _ _)),
      List.getElem?_append_right le_rfl, Nat.sub_self]
    rfl

theorem nodeAt?_below (place : List String) (name : String) :
    t.nodeAt? (t.home ++ (place ++ [name])) =
      ((t.files.find? (·.1 == place ++ [name])).map fun file => Node.file file.2).or
        (if t.isDirectoryBelow (place ++ [name]) then some .directory else none) := by
  have beyond : ¬ (t.home ++ (place ++ [name])).isPrefixOf t.home = true := by
    intro above
    have short := (List.isPrefixOf_iff_prefix.mp above).length_le
    simp at short
  unfold nodeAt?
  rw [if_neg beyond, if_pos (List.isPrefixOf_iff_prefix.mpr (List.prefix_append _ _)),
    List.drop_left]
  dsimp only
  cases t.files.find? (·.1 == place ++ [name]) with
  | none => rfl
  | some file => rfl

/-- Right below a place of the working directory stands a file if there is one in the tree. -/
theorem holdsFile_iff (place : List String) (name : String) :
    t.holdsFile (t.home ++ (place ++ [name])) = true ↔
      ∃ content, (place ++ [name], content) ∈ t.files := by
  unfold holdsFile
  rw [nodeAt?_below]
  cases found : t.files.find? (·.1 == place ++ [name]) with
  | none =>
    have absent : ¬ ∃ content, (place ++ [name], content) ∈ t.files := by
      rintro ⟨content, member⟩
      exact List.find?_eq_none.mp found _ member (by simp)
    by_cases directed : t.isDirectoryBelow (place ++ [name]) = true <;> simp [directed, absent]
  | some file =>
    have there : file.1 = place ++ [name] := by simpa using List.find?_some found
    have member := List.mem_of_find?_eq_some found
    exact ⟨fun _ => ⟨file.2, there ▸ member⟩, fun _ => rfl⟩

theorem isFile_of_resolved {path : String} {place : List String}
    (found : t.resolve path = .ok place) : t.isFile path = t.holdsFile place := by
  unfold isFile holdsFile
  rw [lookup_of_resolved found]
  cases t.nodeAt? place with
  | none => rfl
  | some node => cases node <;> rfl

theorem isFile_of_unresolved {path : String} {fault : FileFault}
    (failed : t.resolve path = .error fault) : t.isFile path = false := by
  unfold isFile
  rw [lookup_of_unresolved failed]

theorem isDirectory_iff {path : String} :
    t.isDirectory path = true ↔
      ∃ place, t.resolve path = .ok place ∧ t.nodeAt? place = some .directory := by
  unfold isDirectory
  cases found : t.resolve path with
  | error fault =>
    rw [lookup_of_unresolved found]
    simp
  | ok place =>
    rw [lookup_of_resolved found]
    cases stands : t.nodeAt? place with
    | none => simp [stands]
    | some node => cases node <;> simp [stands]

theorem entries_eq_ok_iff :
    t.entries directory = .ok entries ↔
      ∃ place, t.resolve directory = .ok place ∧ t.nodeAt? place = some .directory ∧
        entries = t.entriesAt directory place := by
  cases found : t.resolve directory with
  | error fault =>
    rw [entries_of_unresolved found]
    simp
  | ok place =>
    rw [entries_of_resolved found]
    cases stands : t.nodeAt? place with
    | none => simp [stands]
    | some node => cases node <;> simp [stands, eq_comm]

/-- A directory has entries, and nothing else has. -/
theorem exists_entries_iff :
    (∃ entries, t.entries directory = .ok entries) ↔ t.isDirectory directory = true := by
  simp only [entries_eq_ok_iff, isDirectory_iff]
  exact ⟨fun ⟨_, place, led, directed, _⟩ => ⟨place, led, directed⟩,
    fun ⟨place, led, directed⟩ => ⟨_, place, led, directed, rfl⟩⟩

theorem mem_entriesAt (place : List String) (e : Entry) :
    e ∈ t.entriesAt directory (t.home ++ place) ↔
      e.name ∈ t.namesBelow place ∧ e.isFile = t.holdsFile (t.home ++ (place ++ [e.name])) ∧
        e.leadsToFile = t.isFile (Path.join directory e.name) := by
  unfold entriesAt
  rw [if_pos (List.isPrefixOf_iff_prefix.mpr (List.prefix_append _ _)), List.drop_left,
    List.mem_map]
  simp only [List.append_assoc]
  constructor
  · rintro ⟨name, member, rfl⟩
    exact ⟨member, rfl, rfl⟩
  · rintro ⟨member, file, leads⟩
    refine ⟨e.name, member, ?_⟩
    cases e
    rw [Entry.mk.injEq]
    exact ⟨rfl, file.symm, leads.symm⟩

theorem names_entriesAt (path : String) (place : List String) :
    (t.entriesAt path place).map Entry.name =
      if t.home.isPrefixOf place then t.namesBelow (place.drop t.home.length) else [] := by
  unfold entriesAt
  split
  · rw [List.map_map]
    exact List.map_id _
  · rfl

theorem enumerates (listed : t.entries directory = .ok entries) :
    t.Enumerates directory entries := by
  obtain ⟨place, led, directed, rfl⟩ := entries_eq_ok_iff.mp listed
  have once : ((t.entriesAt directory place).map Entry.name).Nodup := by
    rw [names_entriesAt]
    split
    · exact nodup_eraseDups _
    · exact List.nodup_nil
  by_cases inside : t.home.isPrefixOf place = true
  · obtain ⟨below, rfl⟩ := List.isPrefixOf_iff_prefix.mp inside
    refine ⟨once, fun name => ?_, fun e member valid => ?_⟩
    · constructor
      · rintro ⟨e, member, rfl, file⟩
        obtain ⟨-, same, -⟩ := (mem_entriesAt below e).mp member
        obtain ⟨content, stands⟩ := (holdsFile_iff below e.name).mp (same ▸ file)
        exact ⟨below, content, led, stands⟩
      · rintro ⟨below', content, led', stands⟩
        obtain rfl := List.append_cancel_left (Except.ok.inj (led.symm.trans led'))
        have holds := (holdsFile_iff below name).mpr ⟨content, stands⟩
        refine ⟨⟨name, true, t.isFile (Path.join directory name)⟩,
          (mem_entriesAt below _).mpr ⟨?_, holds.symm, rfl⟩, rfl, rfl⟩
        exact (mem_namesBelow below name).mpr
          ⟨_, List.mem_append_left _ (List.mem_map_of_mem stands), List.prefix_refl _⟩
    · obtain ⟨-, file, leads⟩ := (mem_entriesAt below e).mp member
      rw [leads, file]
      cases walkable : checkPath (Path.join directory e.name) with
      | error fault =>
        rw [isFile_of_unresolved (resolve_of_unwalkable walkable)]
        simp
      | ok _ =>
        rw [isFile_of_resolved (resolve_join_of_walkable led directed valid walkable),
          List.append_assoc]
        simp
  · have none : t.entriesAt directory place = [] := if_neg inside
    rw [none] at once ⊢
    refine ⟨once, fun name => ?_, List.forall_mem_nil _⟩
    constructor
    · rintro ⟨e, member, -⟩
      cases member
    · rintro ⟨below, content, led', -⟩
      obtain rfl := Except.ok.inj (led.symm.trans led')
      exact absurd (List.isPrefixOf_iff_prefix.mpr (List.prefix_append _ _)) inside

/-! ### Other orders -/

/-- A tree that keeps the same files and directories in another order. -/
structure Reordered (t t' : Tree) : Prop where
  home : t'.home = t.home
  files : t'.files.Perm t.files
  directories : t'.directories.Perm t.directories

namespace Reordered

variable {t' : Tree} (same : t.Reordered t')

include same

/-- There is at most one file at a place, so it is found in any order. -/
theorem find?_eq (place : List String) :
    t'.files.find? (·.1 == place) = t.files.find? (·.1 == place) := by
  cases found : t.files.find? (·.1 == place) with
  | none =>
    rw [List.find?_eq_none] at found ⊢
    exact fun file member => found file (same.files.mem_iff.mp member)
  | some file =>
    have there : file.1 = place := by simpa using List.find?_some found
    have member := List.mem_of_find?_eq_some found
    cases found' : t'.files.find? (·.1 == place) with
    | none =>
      exact absurd (by simpa using there)
        (List.find?_eq_none.mp found' file (same.files.mem_iff.mpr member))
    | some file' =>
      have there' : file'.1 = place := by simpa using List.find?_some found'
      have member' := same.files.mem_iff.mp (List.mem_of_find?_eq_some found')
      rw [List.inj_on_of_nodup_map t.distinct member' member (there'.trans there.symm)]

theorem nodeAt?_eq : t'.nodeAt? = t.nodeAt? := by
  funext place
  have below (place : List String) : t'.isDirectoryBelow place = t.isDirectoryBelow place := by
    unfold isDirectoryBelow
    rw [same.directories.any_eq, same.files.any_eq]
  unfold nodeAt?
  rw [same.home]
  simp only [same.find?_eq, below]

theorem resolve_eq : t'.resolve = t.resolve := by
  have step : t'.step = t.step := by
    unfold Tree.step
    rw [same.nodeAt?_eq]
  funext path
  unfold Tree.resolve
  rw [step, same.home]

theorem isDirectory_eq : t'.isDirectory = t.isDirectory := by
  unfold Tree.isDirectory lookup
  rw [same.resolve_eq, same.nodeAt?_eq]

theorem isFile_eq : t'.isFile = t.isFile := by
  unfold Tree.isFile lookup
  rw [same.resolve_eq, same.nodeAt?_eq]

theorem namesBelow_perm (place : List String) :
    (t'.namesBelow place).Perm (t.namesBelow place) := by
  refine (List.perm_ext_iff_of_nodup (nodup_eraseDups _) (nodup_eraseDups _)).mpr fun name => ?_
  have spots (spot : List String) : spot ∈ t'.files.map Prod.fst ++ t'.directories ↔
      spot ∈ t.files.map Prod.fst ++ t.directories :=
    ((same.files.map Prod.fst).append same.directories).mem_iff
  change name ∈ t'.namesBelow place ↔ name ∈ t.namesBelow place
  simp only [mem_namesBelow, spots]

/-- The entries are the same, in some order. -/
theorem entries_perm (listed : t.entries directory = .ok entries) :
    ∃ entries', t'.entries directory = .ok entries' ∧ entries'.Perm entries := by
  obtain ⟨place, led, directed, rfl⟩ := entries_eq_ok_iff.mp listed
  refine ⟨_, entries_eq_ok_iff.mpr ⟨place, ?_, ?_, rfl⟩, ?_⟩
  · rw [same.resolve_eq, led]
  · rw [same.nodeAt?_eq, directed]
  · have holds : t'.holdsFile = t.holdsFile := by
      unfold holdsFile
      rw [same.nodeAt?_eq]
    unfold entriesAt
    rw [same.home, holds, same.isFile_eq]
    split
    · exact (same.namesBelow_perm _).map _
    · exact .nil

end Reordered

end Tree

end SchemaSeed.Files

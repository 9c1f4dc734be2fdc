import Mathlib
import SchemaSeed.Files.Tree

/-!
Other contents in the same files. Which paths lead where, and what is listed, does not depend on the
contents; the text of a file depends on its own content only.
-/

set_option autoImplicit false
set_option relaxedAutoImplicit false

namespace SchemaSeed.Files.Tree

/-- The tree with a change made to the contents of its files, place by place. -/
def rewrite (t : Tree) (change : List String → ByteArray → ByteArray) : Tree :=
  { t with
    files := t.files.map fun f => (f.1, change f.1 f.2)
    distinct := by
      rw [List.map_map]
      exact t.distinct }

section

variable (t : Tree) (change : List String → ByteArray → ByteArray)

theorem isDirectoryBelow_rewrite (place : List String) :
    (t.rewrite change).isDirectoryBelow place = t.isDirectoryBelow place := by
  unfold isDirectoryBelow rewrite
  dsimp only
  rw [List.any_map]
  rfl

/-- The change of a node is the change of its content. -/
def Node.changed (f : ByteArray → ByteArray) : Node → Node
  | .file content => .file (f content)
  | .directory => .directory

theorem nodeAt?_rewrite (place : List String) :
    (t.rewrite change).nodeAt? place =
      (t.nodeAt? place).map (Node.changed (change (place.drop t.home.length))) := by
  have home : (t.rewrite change).home = t.home := rfl
  have found (below : List String) : (t.rewrite change).files.find? (·.1 == below) =
      (t.files.find? (·.1 == below)).map fun f => (f.1, change f.1 f.2) := by
    unfold rewrite
    rw [List.find?_map]
    rfl
  unfold nodeAt?
  rw [home]
  by_cases above : place.isPrefixOf t.home = true
  · rw [if_pos above, if_pos above]
    rfl
  rw [if_neg above, if_neg above]
  by_cases inside : t.home.isPrefixOf place = true
  · rw [if_pos inside, if_pos inside]
    dsimp only
    rw [found, isDirectoryBelow_rewrite]
    cases file : t.files.find? (·.1 == place.drop t.home.length) with
    | none =>
      dsimp only [Option.map_none]
      split <;> rfl
    | some f =>
      have same : f.1 = place.drop t.home.length := by simpa using List.find?_some file
      simp only [Option.map_some, Node.changed, same]
  · rw [if_neg inside, if_neg inside]
    rfl

theorem step_rewrite : (t.rewrite change).step = t.step := by
  funext place part
  unfold step
  rw [nodeAt?_rewrite]
  cases t.nodeAt? place with
  | none => rfl
  | some node => cases node <;> rfl

theorem resolve_rewrite (path : String) : (t.rewrite change).resolve path = t.resolve path := by
  unfold resolve
  rw [step_rewrite]
  rfl

variable {t}

theorem lookup_of_unresolved {path : String} {fault : FileFault}
    (failed : t.resolve path = .error fault) : t.lookup path = .error fault := by
  unfold lookup
  rw [failed]
  rfl

theorem lookup_of_resolved {path : String} {place : List String}
    (found : t.resolve path = .ok place) :
    t.lookup path = (match t.nodeAt? place with
      | some node => .ok node
      | none => .error .notFound : Except FileFault Node) := by
  unfold lookup
  rw [found]
  rfl

theorem entries_of_unresolved {path : String} {fault : FileFault}
    (failed : t.resolve path = .error fault) : t.entries path = .error fault := by
  unfold entries
  rw [failed]
  rfl

theorem entries_of_resolved {path : String} {place : List String}
    (found : t.resolve path = .ok place) :
    t.entries path = (match t.nodeAt? place with
      | none => .error .notFound
      | some (.file _) => .error .notDirectory
      | some .directory => .ok (t.entriesAt path place) : Except FileFault (List Entry)) := by
  unfold entries
  rw [found]
  rfl

theorem lookup_rewrite {path : String} {place : List String}
    (found : t.resolve path = .ok place) :
    (t.rewrite change).lookup path =
      (t.lookup path).map (Node.changed (change (place.drop t.home.length))) := by
  rw [lookup_of_resolved found,
    lookup_of_resolved ((resolve_rewrite t change path).trans found), nodeAt?_rewrite]
  cases t.nodeAt? place with
  | none => rfl
  | some node => rfl

/-- Files stand below the working directory. -/
theorem inside_of_file {place : List String} {content : ByteArray}
    (file : t.nodeAt? place = some (.file content)) : ∃ below, place = t.home ++ below := by
  unfold nodeAt? at file
  by_cases above : place.isPrefixOf t.home = true
  · rw [if_pos above] at file
    cases file
  rw [if_neg above] at file
  by_cases inside : t.home.isPrefixOf place = true
  · obtain ⟨below, same⟩ := List.isPrefixOf_iff_prefix.mp inside
    exact ⟨below, same.symm⟩
  · rw [if_neg inside] at file
    cases file

variable (t)

theorem exists_lookup_rewrite (path : String) :
    ∃ f, (t.rewrite change).lookup path = (t.lookup path).map (Node.changed f) := by
  cases found : t.resolve path with
  | error fault =>
    refine ⟨id, ?_⟩
    rw [lookup_of_unresolved found,
      lookup_of_unresolved ((resolve_rewrite t change path).trans found)]
    rfl
  | ok place => exact ⟨_, lookup_rewrite change found⟩

theorem isDirectory_rewrite (path : String) :
    (t.rewrite change).isDirectory path = t.isDirectory path := by
  obtain ⟨f, same⟩ := exists_lookup_rewrite t change path
  unfold isDirectory
  rw [same]
  cases t.lookup path with
  | error fault => rfl
  | ok node => cases node <;> rfl

theorem isFile_rewrite (path : String) : (t.rewrite change).isFile path = t.isFile path := by
  obtain ⟨f, same⟩ := exists_lookup_rewrite t change path
  unfold isFile
  rw [same]
  cases t.lookup path with
  | error fault => rfl
  | ok node => cases node <;> rfl

theorem holdsFile_rewrite (place : List String) :
    (t.rewrite change).holdsFile place = t.holdsFile place := by
  unfold holdsFile
  rw [nodeAt?_rewrite]
  cases t.nodeAt? place with
  | none => rfl
  | some node => cases node <;> rfl

theorem namesBelow_rewrite (place : List String) :
    (t.rewrite change).namesBelow place = t.namesBelow place := by
  unfold namesBelow rewrite
  dsimp only
  rw [List.map_map]
  rfl

theorem entriesAt_rewrite (path : String) (place : List String) :
    (t.rewrite change).entriesAt path place = t.entriesAt path place := by
  unfold entriesAt
  simp only [namesBelow_rewrite, holdsFile_rewrite, isFile_rewrite]
  rfl

theorem entries_rewrite (path : String) :
    (t.rewrite change).entries path = t.entries path := by
  cases found : t.resolve path with
  | error fault =>
    rw [entries_of_unresolved found,
      entries_of_unresolved ((resolve_rewrite t change path).trans found)]
  | ok place =>
    rw [entries_of_resolved found,
      entries_of_resolved ((resolve_rewrite t change path).trans found), nodeAt?_rewrite,
      entriesAt_rewrite]
    cases t.nodeAt? place with
    | none => rfl
    | some node => cases node <;> rfl

/-- A file whose content is not changed is read as before. -/
theorem readText_rewrite {path : String}
    (kept : ∀ place, t.resolve path = .ok (t.home ++ place) →
      ∀ content, change place content = content) :
    (t.rewrite change).readText path = t.readText path := by
  unfold readText
  cases found : t.resolve path with
  | error fault =>
    rw [lookup_of_unresolved found,
      lookup_of_unresolved ((resolve_rewrite t change path).trans found)]
  | ok place =>
    have same : (t.rewrite change).lookup path = t.lookup path := by
      rw [lookup_rewrite change found, lookup_of_resolved found]
      cases node : t.nodeAt? place with
      | none => rfl
      | some node' =>
        cases node' with
        | directory => rfl
        | file content =>
          obtain ⟨below, rfl⟩ := inside_of_file node
          have unchanged : change below content = content := kept below found content
          simp only [Except.map, Node.changed, List.drop_left, unchanged]
    rw [same]

end

end SchemaSeed.Files.Tree

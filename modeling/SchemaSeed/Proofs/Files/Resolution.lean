import Mathlib
import SchemaSeed.Files.Tree

/-!
Where paths lead. A plain name, joined to the path of a directory, leads right below the place of
the directory.
-/

set_option autoImplicit false
set_option relaxedAutoImplicit false

namespace SchemaSeed.Files

namespace Path

theorem endsWith_iff {text ending : String} :
    text.endsWith ending = true ↔ ending.toList <:+ text.toList := by
  have sliced := @String.Slice.endsWith_string_iff ending text.toSlice
  rw [String.copy_toSlice] at sliced
  exact sliced

theorem pieces_ne_nil (chars : List Char) : pieces chars ≠ [] := by
  cases chars with
  | nil => exact List.cons_ne_nil _ _
  | cons c rest =>
    unfold pieces
    split
    · exact List.cons_ne_nil _ _
    · split <;> exact List.cons_ne_nil _ _

theorem pieces_plain {chars : List Char} (plain : '/' ∉ chars) : pieces chars = [chars] := by
  induction chars with
  | nil => rfl
  | cons c rest ih =>
    obtain ⟨other, later⟩ : '/' ≠ c ∧ '/' ∉ rest := by simpa using plain
    rw [pieces, if_neg (Ne.symm other), ih later]

theorem pieces_slash (before after : List Char) :
    pieces (before ++ '/' :: after) = pieces before ++ pieces after := by
  induction before with
  | nil => rfl
  | cons c rest ih =>
    rw [List.cons_append, pieces, pieces, ih]
    by_cases slash : c = '/'
    · rw [if_pos slash, if_pos slash]
      rfl
    · rw [if_neg slash, if_neg slash]
      cases first : pieces rest with
      | nil => exact absurd first (pieces_ne_nil rest)
      | cons piece others => rfl

theorem isAbsolute_plain {name : String} (plain : '/' ∉ name.toList) : isAbsolute name = false := by
  unfold isAbsolute
  rw [String.startsWith_string_eq_false_iff]
  intro start
  exact plain (start.subset (by decide))

/-- The parts of a path that a plain name is joined to are those of the path, less an empty one at
the end, and the name. -/
theorem parts_join {directory name : String} (something : directory ≠ "")
    (plain : '/' ∉ name.toList) :
    parts (join directory name) = parts directory ++ [name] ∨
      ∃ before, parts directory = before ++ [""] ∧
        parts (join directory name) = before ++ [name] := by
  have last : pieces name.toList = [name.toList] := pieces_plain plain
  unfold join
  rw [isAbsolute_plain plain, Bool.false_or, if_neg (by simpa using something)]
  by_cases ended : directory.endsWith "/" = true
  · right
    rw [if_pos ended]
    obtain ⟨before, whole⟩ := endsWith_iff.mp ended
    have slash : "/".toList = ['/'] := by decide
    rw [slash] at whole
    refine ⟨(pieces before).map String.ofList, ?_, ?_⟩
    · unfold parts
      rw [← whole, pieces_slash, List.map_append]
      rfl
    · unfold parts
      rw [String.toList_append, ← whole, List.append_assoc, List.singleton_append, pieces_slash,
        last, List.map_append, List.map_singleton, String.ofList_toList]
  · left
    rw [if_neg ended]
    unfold parts
    have slash : "/".toList = ['/'] := by decide
    rw [String.toList_append, String.toList_append, slash, List.append_assoc,
      List.singleton_append, pieces_slash, last, List.map_append, List.map_singleton,
      String.ofList_toList]

/-- A path that goes on from a directory starts where the path of the directory starts. -/
theorem isAbsolute_append {directory : String} (something : directory ≠ "") (rest : String) :
    isAbsolute (directory ++ rest) = isAbsolute directory := by
  unfold isAbsolute
  rw [Bool.eq_iff_iff, String.startsWith_string_iff, String.startsWith_string_iff,
    String.toList_append]
  have slash : "/".toList = ['/'] := by decide
  rw [slash]
  cases chars : directory.toList with
  | nil => exact absurd (String.toList_eq_nil_iff.mp chars) something
  | cons c others => simp [List.cons_prefix_cons]

theorem isAbsolute_join {directory name : String} (something : directory ≠ "")
    (plain : '/' ∉ name.toList) : isAbsolute (join directory name) = isAbsolute directory := by
  unfold join
  rw [isAbsolute_plain plain, Bool.false_or, if_neg (by simpa using something)]
  split
  · exact isAbsolute_append something name
  · rw [String.append_assoc]
    exact isAbsolute_append something _

/-- A name that can stand in a directory. -/
structure IsName (name : String) : Prop where
  nonempty : name ≠ ""
  here : name ≠ "."
  up : name ≠ ".."
  plain : '/' ∉ name.toList
  short : name.utf8ByteSize ≤ Tree.maxPartBytes

end Path

namespace Tree

variable {t : Tree}

theorem step_plain {place place' : List String} {name : String} (nonempty : name ≠ "")
    (here : name ≠ ".") (up : name ≠ "..") (stepped : t.step place name = .ok place') :
    place' = place ++ [name] := by
  unfold step at stepped
  split at stepped
  · cases stepped
  · cases stepped
  · rw [if_neg (not_or.mpr ⟨nonempty, here⟩), if_neg up] at stepped
    split at stepped
    · cases stepped
    · exact (Except.ok.inj stepped).symm

theorem step_empty {place place' : List String} (stepped : t.step place "" = .ok place') :
    place' = place := by
  unfold step at stepped
  split at stepped
  · cases stepped
  · cases stepped
  · rw [if_pos (Or.inl rfl)] at stepped
    exact (Except.ok.inj stepped).symm

theorem resolve_eq_ok {path : String} {place : List String} (led : t.resolve path = .ok place) :
    path ≠ "" ∧
      (Path.parts path).foldlM t.step (if Path.isAbsolute path then [] else t.home) =
        .ok place := by
  unfold resolve at led
  cases walkable : checkPath path with
  | error fault =>
    rw [walkable] at led
    cases led
  | ok _ =>
    rw [walkable] at led
    refine ⟨?_, led⟩
    rintro rfl
    cases walkable

theorem resolve_of_walkable {path : String} (walkable : checkPath path = .ok ()) :
    t.resolve path =
      (Path.parts path).foldlM t.step (if Path.isAbsolute path then [] else t.home) := by
  unfold resolve
  rw [walkable]
  rfl

theorem resolve_of_unwalkable {path : String} {fault : FileFault}
    (unwalkable : checkPath path = .error fault) : t.resolve path = .error fault := by
  unfold resolve
  rw [unwalkable]
  rfl

/-- The way to a plain name, joined to the path of a directory, is one step from the directory. -/
theorem walk_join {directory name : String} {place : List String}
    (there : t.resolve directory = .ok place) (plain : '/' ∉ name.toList) :
    (Path.parts (Path.join directory name)).foldlM t.step
      (if Path.isAbsolute (Path.join directory name) then [] else t.home) = t.step place name := by
  obtain ⟨something, walk⟩ := resolve_eq_ok there
  rw [Path.isAbsolute_join something plain]
  have last (middle : List String) (part : String) :
      ((Except.ok middle : Except FileFault (List String)) >>= fun p => [part].foldlM t.step p) =
        t.step middle part := bind_pure (t.step middle part)
  rcases Path.parts_join something plain with parts | ⟨before, ended, parts⟩
  · rw [parts, List.foldlM_append, walk, last]
  · rw [ended, List.foldlM_append] at walk
    rw [parts, List.foldlM_append]
    cases way : before.foldlM t.step (if Path.isAbsolute directory then [] else t.home) with
    | error fault =>
      rw [way] at walk
      cases walk
    | ok middle =>
      rw [way, last] at walk
      obtain rfl := step_empty walk
      exact last _ _

/-- A plain name, joined to the path of a directory, leads right below the directory. -/
theorem resolve_join {directory name : String} {place place' : List String}
    (there : t.resolve directory = .ok place) (plain : '/' ∉ name.toList) (nonempty : name ≠ "")
    (here : name ≠ ".") (up : name ≠ "..")
    (led : t.resolve (Path.join directory name) = .ok place') : place' = place ++ [name] := by
  obtain ⟨-, walk⟩ := resolve_eq_ok led
  rw [walk_join there plain] at walk
  exact step_plain nonempty here up walk

/-- A name that can stand in a directory leads there, unless the path gets too long with it. -/
theorem resolve_join_of_walkable {directory name : String} {place : List String}
    (there : t.resolve directory = .ok place) (directed : t.nodeAt? place = some .directory)
    (valid : Path.IsName name) (walkable : checkPath (Path.join directory name) = .ok ()) :
    t.resolve (Path.join directory name) = .ok (place ++ [name]) := by
  rw [resolve_of_walkable walkable, walk_join there valid.plain]
  unfold step
  rw [directed]
  dsimp only
  rw [if_neg (not_or.mpr ⟨valid.nonempty, valid.here⟩), if_neg valid.up,
    if_neg (Nat.not_lt.mpr valid.short)]

end Tree

end SchemaSeed.Files

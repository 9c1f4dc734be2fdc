import SchemaSeed.Failure
import SchemaSeed.Files.Path

/-!
The files and directories that a run can see, as a value.
-/

set_option autoImplicit false
set_option relaxedAutoImplicit false

namespace SchemaSeed.Files

/-- What stands at a place. -/
inductive Node where
  | file (content : ByteArray)
  | directory

/-- An entry of a directory: its name, whether it is a file itself, and whether its path leads to a
file. A link to a file leads to one without being one; a path that cannot be walked leads nowhere. -/
structure Entry where
  name : String
  isFile : Bool
  leadsToFile : Bool
  deriving DecidableEq, Repr

/-- A working directory with everything below it. Places are lists of names, counted from the root;
those of `files` and `directories` are counted from the working directory. Every directory on the
way to a file or directory exists too. At a place there is at most one file. -/
structure Tree where
  home : List String := []
  files : List (List String × ByteArray) := []
  directories : List (List String) := []
  distinct : (files.map Prod.fst).Nodup := by simp

namespace Tree

/-- Whether a directory stands at a place counted from the working directory. -/
def isDirectoryBelow (t : Tree) (place : List String) : Bool :=
  place.isEmpty || t.directories.any (fun d => place.isPrefixOf d) ||
    t.files.any (fun f => place.isPrefixOf f.1 && place.length < f.1.length)

/-- What stands at a place counted from the root. -/
def nodeAt? (t : Tree) (place : List String) : Option Node :=
  if place.isPrefixOf t.home then some .directory
  else if t.home.isPrefixOf place then
    let below := place.drop t.home.length
    match t.files.find? (·.1 == below) with
    | some (_, content) => some (.file content)
    | none => if t.isDirectoryBelow below then some .directory else none
  else none

/-- A part of a path has at most so many bytes. -/
def maxPartBytes : Nat := 255

/-- A path has fewer bytes than this. -/
def pathBytesLimit : Nat := 4096

/-- Whether a path can be walked at all. This is asked before anything else. -/
def checkPath (path : String) : Except FileFault Unit :=
  if path.toList.contains (Char.ofNat 0) then .error .zeroInName
  else if pathBytesLimit ≤ path.utf8ByteSize then .error .nameTooLong
  else if path = "" then .error .notFound
  else .ok ()

/-- The place that one more part of a path leads to. -/
def step (t : Tree) (place : List String) (part : String) : Except FileFault (List String) :=
  match t.nodeAt? place with
  | none => .error .notFound
  | some (.file _) => .error .notDirectory
  | some .directory =>
    if part = "" ∨ part = "." then .ok place
    else if part = ".." then .ok place.dropLast
    else if maxPartBytes < part.utf8ByteSize then .error .nameTooLong
    else .ok (place ++ [part])

/-- The place that a path leads to; the place itself need not exist. -/
def resolve (t : Tree) (path : String) : Except FileFault (List String) := do
  checkPath path
  (Path.parts path).foldlM t.step (if Path.isAbsolute path then [] else t.home)

/-- What stands where a path leads. -/
def lookup (t : Tree) (path : String) : Except FileFault Node := do
  match t.nodeAt? (← t.resolve path) with
  | some node => .ok node
  | none => .error .notFound

/-- Whether a path leads to a file. -/
def isFile (t : Tree) (path : String) : Bool :=
  match t.lookup path with
  | .ok (.file _) => true
  | _ => false

/-- Whether a path leads to a directory. -/
def isDirectory (t : Tree) (path : String) : Bool :=
  match t.lookup path with
  | .ok .directory => true
  | _ => false

/-- The text of a file. -/
def readText (t : Tree) (path : String) : Except FileFault String := do
  match ← t.lookup path with
  | .directory => .error .isDirectory
  | .file content =>
    match String.fromUTF8? content with
    | some text => .ok text
    | none => .error .notText

/-- The names right below a place counted from the working directory, each once. -/
def namesBelow (t : Tree) (place : List String) : List String :=
  ((t.files.map Prod.fst ++ t.directories).filterMap fun spot =>
    if place.isPrefixOf spot then spot[place.length]? else none).eraseDups

/-- Whether a file stands at a place counted from the root. -/
def holdsFile (t : Tree) (place : List String) : Bool :=
  match t.nodeAt? place with
  | some (.file _) => true
  | _ => false

/-- The entries that are seen at a place where a directory stands and that a path leads to. -/
def entriesAt (t : Tree) (path : String) (place : List String) : List Entry :=
  if t.home.isPrefixOf place then
    (t.namesBelow (place.drop t.home.length)).map fun name =>
      ⟨name, t.holdsFile (place ++ [name]), t.isFile (Path.join path name)⟩
  else []

/-- The entries of a directory, in no particular order. -/
def entries (t : Tree) (path : String) : Except FileFault (List Entry) := do
  let place ← t.resolve path
  match t.nodeAt? place with
  | none => .error .notFound
  | some (.file _) => .error .notDirectory
  | some .directory => .ok (t.entriesAt path place)

private def below (t : Tree) (place : List String) : List String := place.drop t.home.length

/-- The places of some of the files are distinct too. -/
theorem distinct_filter (t : Tree) (p : List String × ByteArray → Bool) :
    ((t.files.filter p).map Prod.fst).Nodup :=
  t.distinct.sublist (List.filter_sublist.map _)

/-- Puts a file at a place, over one that is there. -/
def putFile (t : Tree) (place : List String) (content : ByteArray) : Tree :=
  { t with
    files := t.files.filter (·.1 != place) ++ [(place, content)]
    distinct := by
      rw [List.map_append, List.nodup_append]
      refine ⟨t.distinct_filter _, by simp, ?_⟩
      intro a ha b hb equal
      obtain ⟨file, member, rfl⟩ := List.mem_map.mp ha
      have other : file.1 ≠ place := by simpa using (List.mem_filter.mp member).2
      exact other (equal.trans (by simpa using hb)) }

/-- Takes away what stands at a place. -/
def remove (t : Tree) (place : List String) : Tree :=
  { t with
    files := t.files.filter (·.1 != place)
    directories := t.directories.filter (· != place)
    distinct := t.distinct_filter _ }

/-- Puts a directory at a place. -/
def putDirectory (t : Tree) (place : List String) : Tree :=
  if t.directories.contains place then t else { t with directories := t.directories ++ [place] }

private def makeParts (t : Tree) (place : List String) : List String → Except FileFault Tree
  | [] => .ok t
  | part :: rest =>
    if part = "" ∨ part = "." then makeParts t place rest
    else if part = ".." then makeParts t place.dropLast rest
    else if maxPartBytes < part.utf8ByteSize then .error .nameTooLong
    else
      let next := place ++ [part]
      match t.nodeAt? next with
      | some (.file _) =>
        .error (if rest.all (fun p => p = "" ∨ p = ".") then .alreadyExists else .notDirectory)
      | some .directory => makeParts t next rest
      | none =>
        if t.home.isPrefixOf next then makeParts (t.putDirectory (t.below next)) next rest
        else .error (.other "Permission denied (os error 13)")

/-- Makes a directory and those on the way to it; without a name there is nothing to make. -/
def makeDirectory (t : Tree) (path : String) : Except FileFault Tree :=
  if path = "" then .ok t
  else do
    checkPath path
    makeParts t (if Path.isAbsolute path then [] else t.home) (Path.parts path)

/-- Writes a file into a directory that exists. -/
def write (t : Tree) (path : String) (text : String) : Except FileFault Tree := do
  let place ← t.resolve path
  match t.nodeAt? place with
  | some .directory => .error .isDirectory
  | some (.file _) => .ok (t.putFile (t.below place) text.toUTF8)
  | none =>
    match t.nodeAt? place.dropLast with
    | some .directory =>
      if t.home.isPrefixOf place then .ok (t.putFile (t.below place) text.toUTF8)
      else .error (.other "Permission denied (os error 13)")
    | some (.file _) => .error .notDirectory
    | none => .error .notFound

/-- Puts a file where a path leads, with the directories on the way. -/
def put (t : Tree) (path : String) (content : ByteArray) : Except FileFault Tree := do
  let t ← t.makeDirectory (Path.parent path)
  return t.putFile (t.below (← t.resolve path)) content

end Tree

end SchemaSeed.Files

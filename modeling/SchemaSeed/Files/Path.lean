/-!
Paths as texts: joining, the last part of a path and its extension.
-/

set_option autoImplicit false
set_option relaxedAutoImplicit false

namespace SchemaSeed.Files

namespace Path

/-- Whether a path starts at the root. -/
def isAbsolute (path : String) : Bool := path.startsWith "/"

/-- A path inside a directory; an absolute path stays as it is. -/
def join (directory path : String) : String :=
  if isAbsolute path || directory = "" then path
  else if directory.endsWith "/" then directory ++ path
  else directory ++ "/" ++ path

/-- The pieces of some characters between the slashes. -/
def pieces : List Char → List (List Char)
  | [] => [[]]
  | c :: rest =>
    if c = '/' then [] :: pieces rest
    else
      match pieces rest with
      | [] => [[c]]
      | first :: others => (c :: first) :: others

/-- The parts of a path between its slashes. -/
def parts (path : String) : List String := (pieces path.toList).map String.ofList

/-- The directory that a path leads into. -/
def parent (path : String) : String := "/".intercalate (parts path).dropLast

/-- A name with `.json` at its end, added if it is not there. -/
def withJson (name : String) : String := if name.endsWith ".json" then name else name ++ ".json"

/-- Whether a file name has a stem and the extension `json`. -/
def hasJsonExtension (name : String) : Bool := name.endsWith ".json" && name != ".json"

end Path

end SchemaSeed.Files

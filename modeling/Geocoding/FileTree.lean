import Geocoding.FileError

/-!
# File trees

Files in directories, held in memory. A path is walked down name by name; an empty name and a dot stay
where they are, and two dots lead back up, but not out of the tree.
-/

namespace Geocoding

/-- What a path of a tree leads to. -/
inductive FileEntry where
  | directory
  | file (data : ByteArray)

/-- A tree: its entries by their paths from the root. A directory need not be listed if something in it
is. -/
abbrev FileTree := List (String × FileEntry)

namespace FileTree

/-- The path through names, the last of which comes first. -/
def path (names : List String) : String := "/".intercalate names.reverse

/-- What is found at a path. -/
def entry? (tree : FileTree) (names : List String) : Option FileEntry :=
  (tree.lookup (path names)).or
    (if names.isEmpty || tree.any fun e => e.1.startsWith (path names ++ "/") then some .directory
      else none)

/-- Walks down from a place, whose names stand last first. -/
def walk (tree : FileTree) (place : List String) : List String → Except FileError FileEntry
  | [] => match tree.entry? place with
    | some e => .ok e
    | none => .error .notFound
  | name :: names =>
    match tree.entry? place with
    | none => .error .notFound
    | some (.file _) => .error .notADirectory
    | some .directory =>
      if name == "" || name == "." then walk tree place names
      else if name == ".." then walk tree (place.drop 1) names
      else walk tree (name :: place) names

/-- The text at the end of a walk. -/
def text : FileEntry → Except FileError String
  | .directory => .error .isDirectory
  | .file data =>
    match String.fromUTF8? data with
    | some text => .ok text
    | none => .error .notText

/-- Whether a name leads nowhere new in any directory. -/
def staysInside (name : String) : Bool := name == "" || name == "." || name == ".."

/-- The text of the file at a path below `root`. Of all other paths, those without a name lead to some
directory, and the others lead nowhere. -/
def files (tree : FileTree) (root : String) : Files := fun path =>
  if path.contains '\x00' then .error (.other "file name contained an unexpected NUL byte")
  else if path = "" then .error .notFound
  else
    let names := path.splitOn "/"
    if names.head? = some root then (tree.walk [] (names.drop 1)).bind text
    else if names.all staysInside then .error .isDirectory
    else .error .notFound

end FileTree

end Geocoding

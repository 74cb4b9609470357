import CompletionService.Storage.View
import CompletionService.Text.Utf8

/-!
# Trees of files

A `FileTree` is a file system as a value. A path is walked name by name, so every name but the last
has to be that of a directory, and one that is left again with two points has to be there.
-/

namespace CompletionService

open Text

/-- A file or a directory. -/
inductive FileTree
  | file (octets : ByteArray)
  | directory (entries : List (String × FileTree))
  deriving Inhabited

namespace FileTree

/-- A directory with nothing in it. -/
def empty : FileTree := .directory []

/-- The tree with another one at a place, given by names; directories on the way are made. -/
def insert (content : FileTree) : (names : List String) → FileTree → FileTree
  | [], .directory entries =>
    match content with
    | .directory [] => .directory entries
    | content => content
  | [], .file _ => content
  | name :: rest, .file _ => .directory [(name, insert content rest empty)]
  | name :: rest, .directory entries =>
    let inside := (entries.lookup name).getD empty
    .directory ((name, insert content rest inside) :: entries.filter (·.1 != name))

/-- Walks names from a place, which comes with the directories that it is in, innermost first. -/
def walk : (place : FileTree) → (outer : List FileTree) → (names : List String) →
    Except ReadFault FileTree
  | place, _, [] => .ok place
  | .file _, _, _ :: _ => .error .notADirectory
  | .directory entries, outer, name :: rest =>
    -- two slashes in a row, or a slash at the end, stay in the directory
    if name = "" || name = "." then walk (.directory entries) outer rest
    else if name = ".." then
      match outer with
      | [] => walk (.directory entries) [] rest
      | parent :: outer => walk parent outer rest
    else if 255 < name.utf8ByteSize then .error .nameTooLong
    else match entries.lookup name with
      | none => .error .notFound
      | some inside => walk inside (.directory entries :: outer) rest

/-- What is at a path. A path that does not start at the root starts at the directory `working`. -/
def at? (root : FileTree) (working : List String) (path : String) : Except ReadFault FileTree :=
  if path.toList.contains '\x00' then .error .nulInName
  else if path = "" then .error .notFound
  else if 4096 ≤ path.utf8ByteSize then .error .nameTooLong
  else
    match path.splitOn "/" with
    | "" :: names => walk root [] names
    | names => walk root [] (working ++ names)

/-- The view of a tree. -/
def storage (root : FileTree) (working : List String) : Storage where
  holds path := (root.at? working path).isOk
  read path :=
    match root.at? working path with
    | .error fault => .error fault
    | .ok (.directory _) => .error .isADirectory
    | .ok (.file octets) =>
      match decodeUtf8 octets with
      | .ok text => .ok text
      | .error _ => .error .notUtf8

end FileTree

end CompletionService

import Clausal.Compile.Failure

/-! A directory of files held in memory.

Paths are followed name by name from the directory the tree stands for. The tree lies somewhere in a
larger file system, of which only this much is known: whatever is above the tree is a directory.
-/

set_option autoImplicit false

namespace Clausal

inductive FileNode where
  | file (contents : ByteArray)
  | directory

/-- The entries of a directory, each under the names on the way to it. The entry put last comes
first. -/
structure FileTree where
  entries : List (List String × FileNode) := []

namespace FileTree

/-- Where a path leads: to names inside the tree, or to a directory around it. -/
inductive Place where
  | inside (names : List String)
  | outside
  deriving DecidableEq

/-- The bytes that one name may have. -/
def nameLimit : Nat := 255

/-- The bytes that a whole path may have. -/
def pathLimit : Nat := 4095

def empty : FileTree := {}

/-- The names that a path consists of, empty ones included. -/
def names (path : String) : List String :=
  (path.toList.splitOn '/').map String.ofList

/-- Whether a name leads nowhere else. -/
def staysPut (name : String) : Bool :=
  name == "" || name == "."

/-- The places passed when names are followed, the last one at the end. -/
def trail (place : List String) : List String → List (List String)
  | [] => [place]
  | name :: rest =>
    if staysPut name then trail place rest
    else place :: trail (if name == ".." then place.dropLast else place ++ [name]) rest

/-- Put a node at a path, and make the directories on the way to it. -/
def insert (tree : FileTree) (path : String) (node : FileNode) : FileTree :=
  match (trail [] (names path)).reverse with
  | [] => tree
  | place :: passed => ⟨(place, node) :: passed.map (·, .directory) ++ tree.entries⟩

/-- What is found at a place. -/
def node? (tree : FileTree) : Place → Option FileNode
  | .outside => some .directory
  | .inside [] => some .directory
  | .inside names => tree.entries.lookup names

/-- Go on from a place by one name. Only a directory leads on, and nothing is found around the
tree. -/
def step (tree : FileTree) (place : Place) (name : String) : Except FileError Place :=
  match tree.node? place with
  | none => .error .notFound
  | some (.file _) => .error .notDirectory
  | some .directory =>
    if staysPut name then .ok place
    else if name == ".." then
      match place with
      | .outside => .ok .outside
      | .inside [] => .ok .outside
      | .inside names => .ok (.inside names.dropLast)
    else if nameLimit < name.utf8ByteSize then .error .nameTooLong
    else
      match place with
      | .outside => .error .notFound
      | .inside names => .ok (.inside (names ++ [name]))

/-- Follow a path. With a slash in front it starts above everything. -/
def follow (tree : FileTree) (path : String) : Except FileError Place :=
  (names path).foldlM tree.step (if path.startsWith "/" then .outside else .inside [])

/-- Read the text of the file at a path. A path that no file can have is refused before it is
followed. -/
def read (tree : FileTree) (path : String) : Except FileError String :=
  if '\x00' ∈ path.toList then .error .nulInPath
  else if path.isEmpty then .error .notFound
  else if pathLimit < path.utf8ByteSize then .error .nameTooLong
  else
    match tree.follow path with
    | .error error => .error error
    | .ok place =>
      match tree.node? place with
      | none => .error .notFound
      | some .directory => .error .isDirectory
      | some (.file contents) =>
        match String.fromUTF8? contents with
        | some text => .ok text
        | none => .error .invalidText

end FileTree

end Clausal

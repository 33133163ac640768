import TrustChain.Source

/-!
# File trees

Files and folders held in memory, each under the names that lead to it from the root. A path is
followed name by name, so a name that comes after a file leads nowhere, and a folder is traversed in
the order of its names.
-/

namespace TrustChain

inductive FileNode where
  | file (content : Octets)
  | folder

/-- Files and folders by their names from the root. Folders on the way to an entry need no entry of
their own. -/
structure FileTree where
  entries : List (List String × FileNode)

namespace FileTree

/-- The names in a path that say where to go. -/
def names (path : String) : List String :=
  (path.splitOn "/").filter fun name => name ≠ "" ∧ name ≠ "."

def ofList (entries : List (String × FileNode)) : FileTree :=
  ⟨entries.map fun (path, node) => (names path, node)⟩

def node? (tree : FileTree) (path : List String) : Option FileNode :=
  if path = [] then some .folder
  else
    match tree.entries.lookup path with
    | some node => some node
    | none =>
      if tree.entries.any fun (other, _) => path.isPrefixOf other then some .folder else none

/-- The longest name in a file system, in octets. -/
def maxNameSize : Nat := 255

/-- The longest path that can be opened, in octets. -/
def maxPathSize : Nat := 4095

/-- Follows the names of a path from a place in the tree. -/
def follow (tree : FileTree) (place : List String) : List String → Except IoProblem (List String)
  | [] => .ok place
  | name :: rest =>
    match tree.node? place with
    | none => .error .notFound
    | some (.file _) => .error .notADirectory
    | some .folder =>
      if name = "" ∨ name = "." then follow tree place rest
      else if name = ".." then follow tree place.dropLast rest
      else if maxNameSize < name.utf8ByteSize then .error .invalidFilename
      else if (tree.node? (place ++ [name])).isSome then follow tree (place ++ [name]) rest
      else .error .notFound

/-- The place that a path leads to. An empty path, and one that does not start in the tree, leads
nowhere. -/
def resolve (tree : FileTree) (path : String) : Except IoProblem (List String) :=
  if maxPathSize < path.utf8ByteSize then .error .invalidFilename
  else
    match path.splitOn "/" with
    | "" :: _ => .error .notFound
    | names => follow tree [] names

/-- What a traversal that has come to a path comes across on the way to a node below it. A folder
whose path is too long cannot be opened, and a file cannot be read. -/
def visit (node : FileNode) (path : String) : List String → List FolderEntry
  | [] =>
    match node with
    | .file content =>
      if maxPathSize < path.utf8ByteSize then [.file path (.error .invalidFilename)]
      else [.file path (.ok content)]
    | .folder =>
      if maxPathSize < path.utf8ByteSize then [.folder path, unopened path] else [.folder path]
  | name :: rest =>
    if maxPathSize < path.utf8ByteSize then [unopened path]
    else visit node (Source.join path name) rest
where
  unopened (path : String) : FolderEntry :=
    .failure ("IO error for operation on " ++ path ++ ": " ++ IoProblem.invalidFilename.message)

def traverse (tree : FileTree) (path : String) (place : List String) : List FolderEntry :=
  let below := tree.entries.filter fun (names, _) => place.isPrefixOf names ∧ place ≠ names
  let ordered := below.mergeSort fun a b => decide ¬ b.1 < a.1
  .folder path :: ordered.flatMap fun (names, node) => visit node path (names.drop place.length)

def source (tree : FileTree) (path : String) : Source :=
  match tree.resolve path with
  | .error problem => .missing problem
  | .ok place =>
    match tree.node? place with
    | none => .missing .notFound
    | some (.file content) => .file (.ok content)
    | some .folder => .folder (tree.traverse path place)

end FileTree

end TrustChain

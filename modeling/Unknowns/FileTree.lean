/-! File trees, with the entries of each directory in the order it lists them. -/

namespace Unknowns

/-- A file with its bytes, or a directory with its named entries. -/
inductive FileTree
  | file (content : ByteArray)
  | directory (entries : List (String × FileTree))

/-- The names that lead from the root of a tree to a place in it. -/
abbrev Path := List String

/-- A path as text, its names separated by slashes. -/
def Path.text (path : Path) : String :=
  "/".intercalate path

/-- The names that a text writes between its slashes; empty names and single dots lead nowhere. -/
def Path.steps (text : String) : List String :=
  (text.splitOn "/").filter fun name => name ≠ "" ∧ name ≠ "."

/-- A reason why nothing can be made at a path. -/
inductive PathFault
  | occupied
  | notADirectory
  | isADirectory
deriving DecidableEq

/-- The system's wording of the reason, with its number. -/
def PathFault.message : PathFault → String
  | .occupied => "File exists (os error 17)"
  | .notADirectory => "Not a directory (os error 20)"
  | .isADirectory => "Is a directory (os error 21)"

namespace FileTree

/-- The tree of an empty directory. -/
def empty : FileTree :=
  .directory []

/-- What lies at a path. -/
def find? : FileTree → Path → Option FileTree
  | tree, [] => some tree
  -- Nothing lies below a file.
  | .file _, _ :: _ => none
  | .directory entries, name :: rest => (entries.lookup name).bind fun tree => tree.find? rest

/-- The bytes of the file at a path. -/
def content? (tree : FileTree) (path : Path) : Option ByteArray :=
  match tree.find? path with
  | some (.file content) => some content
  | _ => none

/-- The text of the file at a path, none when its bytes are not UTF-8. -/
def text? (tree : FileTree) (path : Path) : Option String :=
  (tree.content? path).bind String.fromUTF8?

/-- Entries with one name set to a tree; a new name comes last. -/
def setEntry (name : String) (tree : FileTree) :
    List (String × FileTree) → List (String × FileTree)
  | [] => [(name, tree)]
  | (other, old) :: rest =>
    if other = name then (name, tree) :: rest else (other, old) :: setEntry name tree rest

/-- The tree with a directory at the path, and with every directory on the way to it. -/
def makeDirectory : Path → FileTree → Except PathFault FileTree
  | [], .directory entries => .ok (.directory entries)
  | [], .file _ => .error .occupied
  | _ :: _, .file _ => .error .notADirectory
  | name :: rest, .directory entries => do
    -- A directory that is missing on the way is made on the way.
    let below ← makeDirectory rest ((entries.lookup name).getD empty)
    return .directory (setEntry name below entries)

/-- The tree with a file of these bytes at the path; whatever the file held is gone. -/
def writeFile (content : ByteArray) : Path → FileTree → Except PathFault FileTree
  | [], .file _ => .ok (.file content)
  | [], .directory _ => .error .isADirectory
  | _ :: _, .file _ => .error .notADirectory
  | [name], .directory entries => do
    -- The last name may be new, or that of a file; a directory is not written over.
    let file ← writeFile content [] ((entries.lookup name).getD (.file content))
    return .directory (setEntry name file entries)
  | name :: rest, .directory entries => do
    let below ← writeFile content rest ((entries.lookup name).getD empty)
    return .directory (setEntry name below entries)

/-- The tree with bytes added at the end of the file at the path; where there is no file, nothing
changes. -/
def appendFile (added : ByteArray) : Path → FileTree → FileTree
  | [], .file content => .file (content ++ added)
  | [], .directory entries => .directory entries
  | _ :: _, .file content => .file content
  | name :: rest, .directory entries =>
    match entries.lookup name with
    | some below => .directory (setEntry name (appendFile added rest below) entries)
    | none => .directory entries

/-- The path that names lead to from another path, and the tree once they have been followed. -/
def reach (path : Path) : List String → FileTree → Except PathFault (Path × FileTree)
  | [], tree => .ok (path, tree)
  | name :: rest, tree =>
    if name = ".." then do
      -- Two dots lead back up from a directory, so a missing one is made; the root leads to itself.
      reach path.dropLast rest (← tree.makeDirectory path)
    else reach (path ++ [name]) rest tree

/-- The tree with a directory at the place that a text names. -/
def addDirectory (tree : FileTree) (place : String) : Except PathFault FileTree := do
  let (path, reached) ← reach [] (Path.steps place) tree
  reached.makeDirectory path

/-- The tree with a file of these bytes at the place that a text names. -/
def addFile (tree : FileTree) (place : String) (content : ByteArray) :
    Except PathFault FileTree := do
  let (path, reached) ← reach [] (Path.steps place) tree
  reached.writeFile content path

mutual

/-- Every file of a tree that lies at the given path, with its own path, in listing order. -/
def filesFrom (path : Path) : FileTree → List (Path × ByteArray)
  | .file content => [(path, content)]
  | .directory entries => entryFilesFrom path entries

/-- Every file below the entries of a directory at the given path. -/
def entryFilesFrom (path : Path) : List (String × FileTree) → List (Path × ByteArray)
  | [] => []
  | (name, tree) :: rest => filesFrom (path ++ [name]) tree ++ entryFilesFrom path rest

end

end FileTree

end Unknowns

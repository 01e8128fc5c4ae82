import SearchQuery.Files.Path

/-!
# File trees

A file tree holds files with their bytes and directories.  A path is resolved part by part, an
absolute one from the root and a relative one from the working directory: every part but the
last must be a directory, and two dots lead back.
-/

namespace SearchQuery

/-- Why a file cannot be read or written. -/
inductive FileError where
  | notFound
  | notADirectory
  | isADirectory
  | invalidText
  deriving DecidableEq, Repr

/-- The message of an error. -/
def FileError.message : FileError → String
  | notFound => "No such file or directory (os error 2)"
  | notADirectory => "Not a directory (os error 20)"
  | isADirectory => "Is a directory (os error 21)"
  | invalidText => "stream did not contain valid UTF-8"

/-- What a name stands for. -/
inductive Node where
  | file (content : ByteArray)
  | directory

/-- Whether a node is a file of the given content. -/
def Node.holds (content : ByteArray) : Node → Bool
  | file other => other.data == content.data
  | directory => false

/-- A place in a tree: the names that lead to it, the innermost first. -/
abbrev Location := List String

/-- The place of a path on which every directory exists. -/
def Location.ofPath (path : Path) : Location :=
  (Path.splitSlashes path.text.toList).foldl
    (fun place part =>
      if part = [] ∨ part = ['.'] then place
      else if part = ['.', '.'] then place.tail
      else String.ofList part :: place)
    []

/-- The absolute path of a place. -/
def Location.path (place : Location) : Path :=
  ⟨"/" ++ String.intercalate "/" place.reverse⟩

/-- Files and directories at their places, seen from a working directory.  The root is a
directory that need not be listed. -/
structure FileTree where
  nodes : List (Location × Node)
  /-- The working directory. -/
  directory : Location

namespace FileTree

/-- The tree that holds nothing but the root, seen from a place. -/
def seenFrom (directory : Location) : FileTree :=
  ⟨[], directory⟩

/-- What is at a place. -/
def node? (tree : FileTree) (place : Location) : Option Node :=
  match place with
  | [] => some .directory
  | _ => (tree.nodes.find? fun entry => entry.1 == place).map Prod.snd

/-- Puts something at a place. -/
def set (tree : FileTree) (place : Location) (node : Node) : FileTree :=
  { tree with nodes := (place, node) :: tree.nodes.filter fun entry => entry.1 != place }

/-- Makes the directories that lead to a place and are missing. -/
def addParents (tree : FileTree) : Location → FileTree
  | [] => tree
  | _ :: parent =>
    match tree.node? parent with
    | some _ => tree
    | none => (tree.addParents parent).set parent .directory

/-- Puts something at a place, and directories on the way to it. -/
def add (tree : FileTree) (place : Location) (node : Node) : FileTree :=
  (tree.addParents place).set place node

/-- The files that are new or changed since an earlier tree. -/
def filesSince (tree earlier : FileTree) : List (Location × ByteArray) :=
  tree.nodes.filterMap fun
    | (place, .file content) =>
      if (earlier.node? place).any (Node.holds content) then none else some (place, content)
    | (_, .directory) => none

/-- The place that the parts lead to from a place; the place itself need not exist. -/
def follow (tree : FileTree) (place : Location) : List String → Except FileError Location
  | [] => .ok place
  | part :: parts =>
    match tree.node? place with
    | none => .error .notFound
    | some (.file _) => .error .notADirectory
    | some .directory =>
      if part = "" || part = "." then tree.follow place parts
      else if part = ".." then tree.follow place.tail parts
      else tree.follow (part :: place) parts

/-- The place that a path names; the empty path names none. -/
def locate (tree : FileTree) (path : Path) : Except FileError Location :=
  if path.text.isEmpty then .error .notFound
  else
    tree.follow (if path.isAbsolute then [] else tree.directory)
      ((Path.splitSlashes path.text.toList).map String.ofList)

/-- What a path names. -/
def lookup (tree : FileTree) (path : Path) : Except FileError Node :=
  match tree.locate path with
  | .error e => .error e
  | .ok place =>
    match tree.node? place with
    | none => .error .notFound
    | some node => .ok node

/-- Whether a path names a file. -/
def isFile (tree : FileTree) (path : Path) : Bool :=
  match tree.lookup path with
  | .ok (.file _) => true
  | _ => false

/-- Whether a path names a file or a directory. -/
def exists? (tree : FileTree) (path : Path) : Bool :=
  match tree.lookup path with
  | .ok _ => true
  | .error _ => false

/-- The text of a file. -/
def readText (tree : FileTree) (path : Path) : Except FileError String :=
  match tree.lookup path with
  | .error e => .error e
  | .ok .directory => .error .isADirectory
  | .ok (.file content) =>
    match String.fromUTF8? content with
    | none => .error .invalidText
    | some text => .ok text

/-- The tree after a text has been written to a file, which is made if it is missing. -/
def writeText (tree : FileTree) (path : Path) (text : String) : Except FileError FileTree :=
  match tree.locate path with
  | .error e => .error e
  | .ok place =>
    match tree.node? place with
    | some .directory => .error .isADirectory
    | _ => .ok (tree.set place (.file text.toUTF8))

end FileTree

end SearchQuery

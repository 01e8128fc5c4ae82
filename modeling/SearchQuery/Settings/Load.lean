import SearchQuery.Files.Tree
import SearchQuery.Log
import SearchQuery.Settings.Decode

/-!
# Loading settings

Settings come from one file that is named, or from the settings files of the working directory
and of the directories above it, nearest first.  A file that calls itself the root ends the
search; if none does, the file in the home directory comes last.
-/

namespace SearchQuery

/-- Why settings cannot be loaded. -/
inductive LoadError where
  /-- A file cannot be read. -/
  | unreadable (path : Path) (reason : FileError)
  /-- There is no file of the given name. -/
  | missing (path : Path)
  /-- A file is not well-formed TOML, or does not fit for a reason. -/
  | malformed (path : Path) (reason : Option DecodeError)
  /-- The home directory is unknown. -/
  | noHome
  deriving DecidableEq, Repr

/-- The message of an error.  About a malformed file it ends at the name of the file. -/
def LoadError.message : LoadError → String
  | unreadable path reason =>
    "failed to read config file " ++ path.text ++ ": " ++ reason.message
  | missing path => "config file " ++ path.text ++ " does not exist"
  | malformed path _ => "failed to parse config file " ++ path.text
  | noHome => "could not determine home directory"

/-- What surrounds a run. -/
structure Surroundings where
  /-- The files there are, seen from the working directory. -/
  files : FileTree
  /-- The home directory. -/
  home : Option Path
  /-- The settings file that the environment names. -/
  namedFile : Option String

/-- Where settings come from. -/
inductive SettingsSource where
  /-- The settings files of a directory and of those above it. -/
  | discover (directory : Path)
  /-- One file. -/
  | explicit (file : Path)
  deriving DecidableEq, Repr

/-- Whether the settings come from one file. -/
def SettingsSource.isExplicit : SettingsSource → Bool
  | discover _ => false
  | explicit _ => true

/-- The files that the search found, nearest first, and the directory where it ended early. -/
structure Discovery where
  files : List Path
  rootDirectory : Option Path
  deriving DecidableEq, Repr

/-- The log of the search. -/
def Discovery.log (discovery : Discovery) : List LogRecord :=
  discovery.rootDirectory.toList.map fun directory =>
    ⟨.debug, "ods_config::discovery",
      "config discovery stopped at root file in " ++ directory.text⟩

/-- The layer that a text writes; the path is for the error. -/
def Layer.read (path : Path) (text : String) : Except LoadError Layer :=
  match Layer.ofText text with
  | .ok layer => .ok layer
  | .error reason => .error (.malformed path reason)

namespace FileTree

/-- The layer that a file holds. -/
def readLayer (tree : FileTree) (path : Path) : Except LoadError Layer :=
  match tree.readText path with
  | .error reason => .error (.unreadable path reason)
  | .ok text => Layer.read path text

/-- Whether a file can be read and calls itself the root. -/
def isRootFile (tree : FileTree) (path : Path) : Bool :=
  match tree.readLayer path with
  | .ok layer => layer.isRoot
  | .error _ => false

end FileTree

/-- The name of a settings file. -/
def settingsFileName : String :=
  ".ods.toml"

/-- The name of the variable for the settings file. -/
def settingsVariable : String :=
  "ODS_CONFIG"

/-- The settings file of a directory. -/
def Path.settingsFile (directory : Path) : Path :=
  directory.join ⟨settingsFileName⟩

namespace Surroundings

/-- The working directory. -/
def directory (here : Surroundings) : Path :=
  here.files.directory.path

/-- The settings file of the home directory. -/
def globalFile? (here : Surroundings) : Option Path :=
  here.home.map Path.settingsFile

/-- Whether a path is the settings file of the home directory. -/
def isGlobal (here : Surroundings) (path : Path) : Bool :=
  here.globalFile?.any path.same

/-- The source of a run: a file that the run names, or else one that the variable names, or else
the search from the working directory. -/
def source (here : Surroundings) (named : Option Path) : SettingsSource :=
  match named, here.namedFile with
  | some path, _ => .explicit (here.directory.join path)
  | none, none | none, some "" => .discover here.directory
  | none, some path => .explicit (here.directory.join ⟨path⟩)

/-- Searches directories in turn, up to one whose file calls itself the root. -/
def searchUp (tree : FileTree) : List Path → Discovery
  | [] => ⟨[], none⟩
  | directory :: directories =>
    let file := directory.settingsFile
    if !tree.isFile file then searchUp tree directories
    else if tree.isRootFile file then ⟨[file], some directory⟩
    else
      let rest := searchUp tree directories
      ⟨file :: rest.files, rest.rootDirectory⟩

/-- Searches a directory, the directories above it and the home directory. -/
def discover (here : Surroundings) (directory : Path) : Discovery :=
  let found := searchUp here.files directory.ancestors
  match found.rootDirectory, here.globalFile? with
  | none, some file =>
    if here.files.isFile file && !found.files.any file.same then
      ⟨found.files ++ [file], none⟩
    else found
  | _, _ => found

/-- The files of a source, those of higher rank first. -/
def filesOf (here : Surroundings) : SettingsSource → Except LoadError (List Path)
  | .discover directory => .ok (here.discover directory).files
  | .explicit file => if here.files.isFile file then .ok [file] else .error (.missing file)

/-- The log of finding the files of a source. -/
def logOf (here : Surroundings) : SettingsSource → List LogRecord
  | .discover directory => (here.discover directory).log
  | .explicit _ => []

/-- The configuration that files give; all of them must be readable. -/
def loadFiles (here : Surroundings) (files : List Path) : Except LoadError Configuration := do
  let layers ← files.mapM fun path => do
    return LayerFile.mk path (← here.files.readLayer path)
  return Configuration.ofFiles layers

/-- The configuration of a source. -/
def load (here : Surroundings) (source : SettingsSource) : Except LoadError Configuration := do
  here.loadFiles (← here.filesOf source)

end Surroundings

end SearchQuery

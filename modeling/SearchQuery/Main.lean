import SearchQuery.Command.Run

/-!
# The program

Collects the surroundings of a run, runs the command that the arguments describe, and prints
its report.  Of the files, only those that a run can look at are collected.
-/

namespace SearchQuery.Program

/-- What a path names outside the program; nothing if it cannot be found. -/
def observe (path : Path) : IO (Option Node) := do
  try
    return some (.file (← IO.FS.readBinFile path.text))
  catch
    | .noFileOrDirectory .. => return none
    | _ => return some .directory

/-- The tree of what the paths name and the directories on the way to them. -/
def collect (directory : Path) (paths : List Path) : IO FileTree :=
  paths.foldlM (fun tree path => do
    let place := Location.ofPath path
    match ← observe path with
    | some node => return tree.add place node
    | none => return tree.addParents place) (.seenFrom (.ofPath directory))

/-- The paths that a run can look at. -/
def candidates (directory : Path) (home : Option Path) (named : List Path) : List Path :=
  (directory.ancestors ++ home.toList).map Path.settingsFile ++ named.map directory.join

/-- Collects the surroundings of an invocation. -/
def surroundings (invocation : Invocation) : IO Surroundings := do
  let directory := Path.mk (← IO.currentDir).toString
  let home := ((← IO.getEnv "HOME").filter (· ≠ "")).map Path.mk
  let namedFile ← IO.getEnv settingsVariable
  let named := invocation.settingsFile.toList ++ namedFile.toList.map Path.mk
  return ⟨← collect directory (candidates directory home named), home, namedFile⟩

/-- The message shown instead of running a command. -/
def usageText : String :=
  "Usage: ods [-v] [--no-color] [--config PATH] COMMAND\n\n" ++
    "Commands:\n" ++
    "  parse [--compact|--query|--json|--tree] QUERY...\n" ++
    "  tokenize [--json] QUERY\n" ++
    "  check QUERY...\n" ++
    "  init [--global] [--force]\n" ++
    "  config\n"

/-- Carries out a report; a file that cannot be written is a failure. -/
def deliver (before : FileTree) (report : Report) : IO UInt32 := do
  for (place, content) in report.files.filesSince before do
    try
      IO.FS.writeBinFile place.path.text content
    catch e =>
      IO.eprint ("error: failed to write " ++ place.path.text ++ ": " ++ toString e ++ "\n")
      return 1
  IO.print report.output
  IO.eprint report.diagnostics
  return report.ending.exitCode.toUInt32

/-- Runs the command that the arguments describe. -/
def run (arguments : List String) : IO UInt32 := do
  match Invocation.ofArguments arguments with
  | .error usage =>
    if usage = .help then IO.print usageText else IO.eprint usageText
    return usage.exitCode.toUInt32
  | .ok invocation =>
    let here ← surroundings invocation
    deliver here.files (invocation.run here (← (← IO.getStdout).isTty))

end SearchQuery.Program

/-- Runs the program. -/
def main (arguments : List String) : IO UInt32 :=
  SearchQuery.Program.run arguments

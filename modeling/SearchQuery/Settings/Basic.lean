import SearchQuery.Text.Bytes

/-!
# Settings

The settings in effect say how long a query may be and how results are printed.  They are
written as a TOML document of two sections.
-/

namespace SearchQuery

/-- How a parsed expression is printed. -/
inductive OutputFormat where
  | tree
  | compact
  | query
  | json
  deriving DecidableEq, Repr

namespace OutputFormat

/-- The name of a format in a settings file. -/
def name : OutputFormat → String
  | tree => "tree"
  | compact => "compact"
  | query => "query"
  | json => "json"

/-- Every format. -/
def all : List OutputFormat :=
  [tree, compact, query, json]

/-- The format of a name. -/
def ofName? (name : String) : Option OutputFormat :=
  all.find? fun format => format.name == name

/-- A format is found by its name. -/
theorem ofName?_name (format : OutputFormat) : ofName? format.name = some format := by
  cases format <;> rfl

end OutputFormat

/-- Settings of query parsing. -/
structure ParseSettings where
  /-- The length in bytes that a query may have; no length is too much if this is zero. -/
  maxQueryLength : Nat := 2048
  deriving DecidableEq, Repr

/-- Settings of what is printed. -/
structure OutputSettings where
  format : OutputFormat := .tree
  color : Bool := true
  deriving DecidableEq, Repr

/-- All settings. -/
structure Settings where
  parse : ParseSettings := {}
  output : OutputSettings := {}
  deriving DecidableEq, Repr

/-- Whether a query is longer than allowed. -/
def ParseSettings.exceedsLimit (settings : ParseSettings) (query : String) : Bool :=
  settings.maxQueryLength ≠ 0 && settings.maxQueryLength < query.utf8ByteSize

/-- The TOML document of the settings. -/
def Settings.toToml (settings : Settings) : String :=
  "[parse]\nmax_query_length = " ++ toString settings.parse.maxQueryLength ++
    "\n\n[output]\nformat = \"" ++ settings.output.format.name ++
    "\"\ncolor = " ++ (if settings.output.color then "true" else "false") ++ "\n"

end SearchQuery

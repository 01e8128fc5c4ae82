import SearchQuery.Command.Arguments
import SearchQuery.Command.Style
import SearchQuery.Command.Table
import SearchQuery.Query
import SearchQuery.Settings.Load
import SearchQuery.Settings.Template
import SearchQuery.Text.Trim

/-!
# Running commands

A command sees its surroundings and leaves a report: what it prints, where it prints it, how it
ends, and the files as they are afterwards.  Queries that fail do not stop the others; an outline
that cannot be written stops everything.
-/

namespace SearchQuery

/-- How a command ends. -/
inductive Ending where
  | success
  | failure
  /-- The command breaks off, and what it says about that is not part of the report. -/
  | abort
  deriving DecidableEq, Repr

/-- The exit code. -/
def Ending.exitCode : Ending → Nat
  | success => 0
  | failure => 1
  | abort => 101

/-- What a command has done. -/
structure Report where
  ending : Ending
  /-- What is printed as the result. -/
  output : String
  /-- What is printed about errors. -/
  diagnostics : String
  /-- The files afterwards. -/
  files : FileTree

/-- What a command works with. -/
structure CommandContext where
  here : Surroundings
  source : SettingsSource
  settings : Settings
  style : Style

namespace CommandContext

/-- The report of a command that writes no file. -/
def report (context : CommandContext) (ending : Ending) (output diagnostics : String) : Report :=
  ⟨ending, output, diagnostics, context.here.files⟩

/-- A diagnostic. -/
def errorLine (context : CommandContext) (text : String) : String :=
  context.style.paint .error "error:" ++ " " ++ text ++ "\n"

/-- The diagnostic about a query that is too long. -/
def tooLong (context : CommandContext) (query : String) : String :=
  context.errorLine
    ("query is " ++ toString query.utf8ByteSize ++ " bytes, longer than max_query_length (" ++
      toString context.settings.parse.maxQueryLength ++ ")")

/-- The option of a query, or the diagnostic about it. -/
def readQuery (context : CommandContext) (query : String) : Except String SearchOption :=
  if context.settings.parse.exceedsLimit query then .error (context.tooLong query)
  else
    match SearchOption.ofText query with
    | .ok option => .ok option
    | .error e => .error (context.errorLine e.display)

end CommandContext

/-- The diagnostic about a value that is too deep for JSON. -/
def SerializeError.line (e : SerializeError) : String :=
  "error: failed to serialize JSON: " ++ e.message ++ "\n"

/-- The text of an expression in a format other than JSON, if it can be written. -/
def Expr.render? (e : Expr) : OutputFormat → Option String
  | .tree => e.tree?.map trimWhiteSpaceEnd
  | .compact => some e.compact
  | .query => some e.query
  | .json => none

namespace CommandContext

/-- The options of the queries that are accepted, in their order. -/
def accepted (context : CommandContext) (queries : List String) : List SearchOption :=
  queries.filterMap fun query => (context.readQuery query).toOption

/-- The diagnostic about a query; nothing if it is accepted. -/
def refusal (context : CommandContext) (query : String) : String :=
  match context.readQuery query with
  | .ok _ => ""
  | .error diagnostic => diagnostic

/-- The line above the text of an expression: its query, if several queries are given. -/
def heading (context : CommandContext) (several : Bool) (option : SearchOption) : String :=
  if several then context.style.paint .header option.text ++ "\n" else ""

/-- Prints the expressions of options in turn, up to one that cannot be written; and says whether
all of them could. -/
def printTexts (context : CommandContext) (several : Bool) (format : OutputFormat) :
    List SearchOption → String × Bool
  | [] => ("", true)
  | option :: options =>
    match option.expression.render? format with
    | none => (context.heading several option, false)
    | some text =>
      let (rest, complete) := context.printTexts several format options
      (context.heading several option ++ text ++ "\n" ++ rest, complete)

end CommandContext

/-- Prints the expressions of queries.  As JSON, those that are well formed are one array;
otherwise each has a text of its own, under its query if more than one query was given. -/
def parseCommand (context : CommandContext) (queries : List String)
    (format : Option OutputFormat) : Report :=
  let options := context.accepted queries
  let diagnostics := String.join (queries.map context.refusal)
  let ending := if options.length < queries.length then .failure else .success
  match format.getD context.settings.output.format with
  | .json =>
    match options.mapM SearchOption.toJson with
    | .ok values => context.report ending ((Json.array values).pretty ++ "\n") diagnostics
    | .error e => context.report .failure "" (diagnostics ++ e.line)
  | format =>
    let (output, complete) := context.printTexts (1 < queries.length) format options
    context.report (if complete then ending else .abort) output diagnostics

/-- Prints the tokens of a query as JSON or as a table. -/
def tokenizeCommand (context : CommandContext) (query : String) (json : Bool) : Report :=
  if context.settings.parse.exceedsLimit query then
    context.report .failure "" (context.tooLong query)
  else
    match tokenize query with
    | .error e =>
      context.report .failure "" (context.errorLine (QueryError.mk (.tokenizer e) query).display)
    | .ok tokens =>
      let text :=
        if json then
          (Json.object [("query", .string query),
            ("tokens", .array (tokens.map Token.toJson))]).pretty
        else if tokens = [] then context.style.paint .dim "(no tokens)"
        else (Table.ofTokens tokens).text
      context.report .success (text ++ "\n") ""

/-- What is the matter with a query, if anything is. -/
def CommandContext.fault? (context : CommandContext) (query : String) : Option String :=
  if context.settings.parse.exceedsLimit query then some "QUERY_TOO_LONG"
  else
    match parseQuery query with
    | .ok _ => none
    | .error e => some e.key

/-- What is printed of a query: that it is well formed, or what is the matter with it. -/
def CommandContext.checkLine (context : CommandContext) (query : String) : String :=
  (match context.fault? query with
    | none => context.style.paint .success "ok"
    | some key => context.style.paint .error key) ++ " " ++ query ++ "\n"

/-- Prints for every query whether it is well formed. -/
def checkCommand (context : CommandContext) (queries : List String) : Report :=
  let failed := queries.any fun query => (context.fault? query).isSome
  context.report (if failed then .failure else .success)
    (String.join (queries.map context.checkLine)) ""

/-- Writes a new settings file into the working directory, or into the home directory if that
is asked for or is the working directory. -/
def initCommand (context : CommandContext) (global force : Bool) : Report :=
  let here := context.here
  let isHome := (here.globalFile?.bind Path.parent?).any here.directory.same
  let useGlobal := global || isHome
  match if useGlobal then here.globalFile? else some here.directory.settingsFile with
  | none => context.report .failure "" ("error: " ++ LoadError.noHome.message ++ "\n")
  | some path =>
    if here.files.exists? path && !force then
      context.report .failure ""
        ("error: configuration file already exists: " ++ path.text ++
          "\nuse --force to overwrite\n")
    else
      match
        here.files.writeText path (if useGlobal then Template.global else Template.ofDirectory)
      with
      | .error e =>
        context.report .failure ""
          ("error: failed to write " ++ path.text ++ ": " ++ e.message ++ "\n")
      | .ok files => ⟨.success, "Created " ++ path.text ++ "\n", "", files⟩

/-- Prints the settings files that were found and the settings in effect. -/
def configCommand (context : CommandContext) : Report :=
  let style := context.style
  match context.here.filesOf context.source with
  | .error e => context.report .failure "" ("error: " ++ e.message ++ "\n")
  | .ok files =>
    let mark (path : Path) : String :=
      if context.source.isExplicit then " " ++ style.paint .dim "(explicit)"
      else if context.here.isGlobal path then " " ++ style.paint .dim "(global)"
      else ""
    let listed :=
      if files = [] then
        ["  " ++ style.paint .dim "(none found; run 'ods init' to create one)"]
      else files.map fun path => "  " ++ path.text ++ mark path
    let lines :=
      [style.paint .header "Config files (highest precedence first):"] ++ listed ++
        ["", style.paint .header "Effective settings:"]
    context.report .success
      (String.join (lines.map (· ++ "\n")) ++ context.settings.toToml) ""

/-- Runs a command. -/
def Command.run (context : CommandContext) : Command → Report
  | parse queries format => parseCommand context queries format
  | tokenize query json => tokenizeCommand context query json
  | check queries => checkCommand context queries
  | init global force => initCommand context global force
  | config => configCommand context

namespace Invocation

/-- The settings that the command works with.  A new settings file can be written even where
the old one cannot be read, so writing one goes by the defaults. -/
def settings (invocation : Invocation) (here : Surroundings) (source : SettingsSource) :
    Except LoadError Settings :=
  match invocation.command with
  | .init _ _ => .ok {}
  | _ => (here.load source).map Configuration.settings

/-- Runs an invocation.  There is color only on a terminal, and only if neither the settings
nor a flag are against it. -/
def run (invocation : Invocation) (here : Surroundings) (terminal : Bool) : Report :=
  let source := here.source invocation.settingsFile
  match invocation.settings here source with
  | .error e =>
    ⟨.failure, "", "error: failed to load configuration: " ++ e.message ++ "\n", here.files⟩
  | .ok settings =>
    let color := settings.output.color && !invocation.noColor && terminal
    invocation.command.run ⟨here, source, settings, ⟨color⟩⟩

end Invocation

end SearchQuery

import SearchQuery.Files.Path
import SearchQuery.Settings.Basic

/-!
# Command-line arguments

The arguments name a command.  Before the command stand flags that every command knows, after
it those flags again, the flags of the command and its values; two dashes end the flags.  The
arguments are taken from left to right, and the first that has no place decides the outcome.
An option that has taken its value is not checked before the next flag or value is.
-/

namespace SearchQuery

/-- Why usage is shown and no command is run. -/
inductive Usage where
  /-- Help is asked for. -/
  | help
  /-- There are no arguments at all. -/
  | noArguments
  /-- There are flags, but no command. -/
  | missingCommand
  | unknownCommand
  | unknownArgument
  | missingArgument
  /-- A flag is given twice, or two that exclude each other. -/
  | conflict
  /-- The value of an option is missing or empty. -/
  | invalidValue
  /-- A flag that takes no value is given one. -/
  | unexpectedValue
  deriving DecidableEq, Repr

/-- The exit code: asking for help is no failure. -/
def Usage.exitCode : Usage → Nat
  | help => 0
  | _ => 2

/-- The commands by name. -/
inductive CommandName where
  | parse
  | tokenize
  | check
  | init
  | config
  deriving DecidableEq, Repr

namespace CommandName

/-- The word for a command. -/
def word : CommandName → String
  | parse => "parse"
  | tokenize => "tokenize"
  | check => "check"
  | init => "init"
  | config => "config"

/-- Every command. -/
def all : List CommandName :=
  [parse, tokenize, check, init, config]

/-- The command of a word. -/
def ofWord? (word : String) : Option CommandName :=
  all.find? fun name => name.word == word

/-- Whether the command has room for another value after the given number of values. -/
def hasRoom : CommandName → Nat → Bool
  | parse, _ | check, _ => true
  | tokenize, count => count = 0
  | init, _ | config, _ => false

end CommandName

/-- A flag without a value. -/
inductive Flag where
  | verbose
  | noColor
  | help
  | format (format : OutputFormat)
  | json
  | global
  | force
  deriving DecidableEq, Repr

/-- A command with what it is to do. -/
inductive Command where
  /-- Prints the expressions of queries. -/
  | parse (queries : List String) (format : Option OutputFormat)
  /-- Prints the tokens of a query. -/
  | tokenize (query : String) (json : Bool)
  /-- Prints for queries whether they are well formed. -/
  | check (queries : List String)
  /-- Writes a new settings file. -/
  | init (global force : Bool)
  /-- Prints where settings come from and what they are. -/
  | config
  deriving DecidableEq, Repr

/-- A command and the options that every command has. -/
structure Invocation where
  noColor : Bool
  settingsFile : Option Path
  command : Command
  deriving DecidableEq, Repr

/-- An argument by its form. -/
inductive Argument where
  /-- Two dashes. -/
  | separator
  /-- Two dashes and a name, perhaps with a value after an equals sign. -/
  | long (name : String) (value : Option String)
  /-- One dash and letters. -/
  | short (letters : List Char)
  | value (text : String)
  deriving DecidableEq, Repr

/-- The form of an argument. -/
def Argument.ofText (text : String) : Argument :=
  match text.toList with
  | ['-', '-'] => separator
  | '-' :: '-' :: cs =>
    let name := String.ofList (cs.takeWhile (· ≠ '='))
    match cs.dropWhile (· ≠ '=') with
    | [] => long name none
    | _ :: rest => long name (some (String.ofList rest))
  | '-' :: c :: cs => short (c :: cs)
  | _ => value text

/-- An option whose value has not been checked. -/
inductive PendingOption where
  | nothing
  | withoutValue
  | withValue (text : String)
  deriving DecidableEq, Repr

/-- What the arguments before or after the command have given so far. -/
structure Given where
  flags : List Flag := []
  values : List String := []
  settingsFile : Option String := none
  pending : PendingOption := .nothing
  onlyValues : Bool := false
  deriving DecidableEq, Repr

/-- The name of the option that takes a value, a settings file. -/
def settingsOption : String :=
  "config"

/-- The flag of a name among those that a command knows; without a command, those that every
command knows. -/
def Flag.ofName? (command : Option CommandName) (name : String) : Option Flag :=
  match command, name with
  | _, "verbose" => some verbose
  | _, "no-color" => some noColor
  | _, "help" => some help
  | some .parse, name => (OutputFormat.ofName? name).map format
  | some .tokenize, "json" => some json
  | some .init, "global" => some global
  | some .init, "force" => some force
  | _, _ => none

/-- The flag of a letter. -/
def Flag.ofLetter? : Char → Option Flag
  | 'v' => some verbose
  | 'h' => some help
  | _ => none

namespace Given

/-- Sets the settings file, which may be given once and is not empty. -/
def setFile (given : Given) (text : String) : Except Usage Given :=
  if given.settingsFile.isSome then .error .conflict
  else if text = "" then .error .invalidValue
  else .ok { given with settingsFile := some text, pending := .nothing }

/-- Checks the option that has not been checked. -/
def resolve (given : Given) : Except Usage Given :=
  match given.pending with
  | .nothing => .ok given
  | .withoutValue => .error .invalidValue
  | .withValue text => given.setFile text

/-- Adds a flag.  Help ends the reading; all other flags but one may be given once. -/
def addFlag (given : Given) (flag : Flag) : Except Usage Given := do
  let given ← given.resolve
  if flag = .help then .error .help
  else if flag ∈ given.flags ∧ flag ≠ .verbose then .error .conflict
  else return { given with flags := given.flags ++ [flag] }

/-- Adds a value.  Before the command there is room for none: a command word there stands after
the end of the flags. -/
def addValue (command : Option CommandName) (given : Given) (text : String) :
    Except Usage Given :=
  match command with
  | none =>
    if given.onlyValues ∧ ((CommandName.ofWord? text).isSome ∨ text = "help") then
      .error .unknownArgument
    else .error .unknownCommand
  | some command =>
    if command.hasRoom given.values.length then do
      let given ← given.resolve
      return { given with values := given.values ++ [text] }
    else .error .unknownArgument

/-- Takes one argument. -/
def take (command : Option CommandName) (given : Given) (text : String) : Except Usage Given :=
  if given.onlyValues then given.addValue command text
  else
    match Argument.ofText text with
    | .separator => .ok { given with onlyValues := true }
    | .long name value =>
      if name = settingsOption then do
        match value with
        | some file => (← given.resolve).setFile file
        | none => return { (← given.resolve) with pending := .withoutValue }
      else
        match Flag.ofName? command name with
        | none => .error .unknownArgument
        | some flag => if value.isSome then .error .unexpectedValue else given.addFlag flag
    | .short letters =>
      letters.foldlM (fun given letter =>
        match Flag.ofLetter? letter with
        | none => .error .unknownArgument
        | some flag => given.addFlag flag) given
    | .value text =>
      if given.pending = .withoutValue then .ok { given with pending := .withValue text }
      else given.addValue command text

/-- Whether no flag and no option has been given. -/
def isEmpty (given : Given) : Bool :=
  given.flags = [] && given.settingsFile = none

/-- The formats among the flags. -/
def formats (given : Given) : List OutputFormat :=
  given.flags.filterMap fun
    | .format format => some format
    | _ => none

end Given

/-- The command that the arguments after its word describe. -/
def Command.ofGiven (name : CommandName) (given : Given) : Except Usage Command :=
  if 1 < given.formats.length then .error .conflict
  else
    match name, given.values with
    | .parse, [] | .tokenize, [] | .check, [] => .error .missingArgument
    | .parse, queries => .ok (.parse queries given.formats.head?)
    | .tokenize, query :: _ => .ok (.tokenize query (.json ∈ given.flags))
    | .check, queries => .ok (.check queries)
    | .init, _ => .ok (.init (.global ∈ given.flags) (.force ∈ given.flags))
    | .config, _ => .ok .config

namespace Invocation

/-- What is shown for the words after the word for help. -/
def helpFor : List String → Usage
  | [] => .help
  | [word] => if (CommandName.ofWord? word).isSome ∨ word = "help" then .help else .unknownCommand
  | _ => .unknownCommand

/-- The invocation whose arguments before the command are given and whose arguments after it
are listed. -/
def ofCommand (before : Given) (name : CommandName) (arguments : List String) :
    Except Usage Invocation := do
  let after ← arguments.foldlM (Given.take (some name)) {}
  let after ← after.resolve
  let command ← Command.ofGiven name after
  let before ← before.resolve
  return {
    noColor := .noColor ∈ after.flags || .noColor ∈ before.flags
    settingsFile := (after.settingsFile <|> before.settingsFile).map Path.mk
    command := command }

/-- Takes the arguments up to the command, then those of the command. -/
def read (given : Given) : List String → Except Usage Invocation
  | [] => do
    let given ← given.resolve
    .error (if given.isEmpty then .noArguments else .missingCommand)
  | text :: arguments =>
    let atWord := !given.onlyValues && given.pending ≠ .withoutValue
    match if atWord then CommandName.ofWord? text else none with
    | some name => ofCommand given name arguments
    | none =>
      if atWord && text = "help" then .error (helpFor arguments)
      else do read (← given.take none text) arguments

/-- The invocation that arguments describe. -/
def ofArguments (arguments : List String) : Except Usage Invocation :=
  read {} arguments

end Invocation

end SearchQuery

import SearchQuery.Settings.Layer
import SearchQuery.Text.Quoted
import SearchQuery.Toml.Document

/-!
# Settings in a TOML document

The values of a TOML table become fields of a layer or of a settings section.  The keys are
taken in the order of the table, and the first that does not fit is the error.  A layer knows
its keys and refuses all others; a settings section that is read on its own passes over keys
that it does not know and has defaults for those that are missing.

A document is portable if its integers have values that fit 64 bits with a sign and its floats
are finite where they are written as numbers.  One that is not can still be read as long as every
field can hold its value, but if it does not fit, no reason is given.
-/

namespace SearchQuery

/-- A value of the wrong type, as far as the error tells of it. -/
inductive FoundValue where
  | boolean (b : Bool)
  | integer (n : Int)
  | float (x : Binary64)
  | string (text : String)
  | sequence
  | map
  deriving DecidableEq, Repr

/-- Whether an integer fits a machine word with a sign. -/
def fitsSigned (bits : Nat) (n : Int) : Bool :=
  -Int.ofNat (Nat.pow 2 (bits - 1)) ≤ n && n < Int.ofNat (Nat.pow 2 (bits - 1))

/-- Whether an integer fits a machine word without a sign. -/
def fitsUnsigned (bits : Nat) (n : Int) : Bool :=
  0 ≤ n && n < Int.ofNat (Nat.pow 2 bits)

namespace FoundValue

/-- The name of an integer. -/
def integerName (n : Int) : String :=
  "integer `" ++ toString n ++ "`"

/-- The name of a value in a message. -/
def name : FoundValue → String
  | boolean b => "boolean `" ++ (if b then "true" else "false") ++ "`"
  | integer n => integerName n
  | float x => "floating point `" ++ x.text ++ "`"
  | string text => "string " ++ Quoted.string text
  | sequence => "sequence"
  | map => "map"

end FoundValue

/-- What a field holds. -/
inductive FieldShape where
  | boolean
  | length
  | parseSection
  | outputSection
  deriving DecidableEq, Repr

/-- The name of a shape in a message. -/
def FieldShape.name : FieldShape → String
  | boolean => "a boolean"
  | length => "usize"
  | parseSection => "struct RawParseSettings"
  | outputSection => "struct RawOutputSettings"

/-- Why a TOML table does not fit. -/
inductive DecodeError where
  | wrongType (found : FoundValue) (expected : FieldShape)
  | negativeLength (n : Int)
  | unknownField (name : String) (known : List String)
  | unknownVariant (name : String)
  | numberOverflow
  | notStringOrTable
  | variantCount (more : Bool)
  | nonemptyVariant (isArray : Bool)
  | variantContent (type : String)
  deriving DecidableEq, Repr

namespace DecodeError

/-- A list of names in a message. -/
def nameList : List String → String
  | [name] => "expected `" ++ name ++ "`"
  | [name, other] => "expected `" ++ name ++ "` or `" ++ other ++ "`"
  | names =>
    "expected one of " ++ String.intercalate ", " (names.map fun name => "`" ++ name ++ "`")

/-- The message of an error. -/
def message : DecodeError → String
  | wrongType found expected => "invalid type: " ++ found.name ++ ", expected " ++ expected.name
  | negativeLength n =>
    "invalid value: " ++ FoundValue.integerName n ++ ", expected " ++ FieldShape.length.name
  | unknownField name known => "unknown field `" ++ name ++ "`, " ++ nameList known
  | unknownVariant name =>
    "unknown variant `" ++ name ++ "`, " ++ nameList (OutputFormat.all.map OutputFormat.name)
  | numberOverflow => "number overflowed"
  | notStringOrTable => "wanted string or table"
  | variantCount false => "wanted exactly 1 element, found 0 elements"
  | variantCount true => "wanted exactly 1 element, more than 1 element"
  | nonemptyVariant true => "expected empty array"
  | nonemptyVariant false => "expected empty table"
  | variantContent type => "expected table, found " ++ type

end DecodeError

open Toml (Value Entries)

namespace Toml.Value

/-- Whether a number can be read at all: it has a value, and 128 bits hold an integer. -/
def isReadable : Value → Bool
  | integer value => value.any fun n => fitsSigned 128 n || fitsUnsigned 128 n
  | float value => value.isSome
  | _ => true

/-- Whether a number fits the 64 bits that every reader of TOML has for it. -/
def isPortable : Value → Bool
  | integer value => value.any (fitsSigned 64)
  | float value => value.isSome
  | _ => true

/-- What the error about a value of the wrong type tells of it; nothing if it is a number that
cannot be read. -/
def found? (value : Value) : Option FoundValue :=
  match value with
  | string text => some (.string text)
  | integer n => if value.isReadable then n.map .integer else none
  | float x => x.map .float
  | boolean b => some (.boolean b)
  | dateTime _ | table _ _ => some .map
  | array _ | tables _ _ => some .sequence

/-- The name of the type of a value. -/
def typeName : Value → String
  | string _ => "string"
  | integer _ => "integer"
  | float _ => "float"
  | boolean _ => "boolean"
  | dateTime _ => "datetime"
  | array _ | tables _ _ => "array"
  | table _ _ => "table"

/-- The error about a value that does not have the shape of its field. -/
def mismatch (value : Value) (expected : FieldShape) : DecodeError :=
  match value.found? with
  | some found => .wrongType found expected
  | none => .numberOverflow

/-- The boolean that a value is. -/
def toBoolean : Value → Except DecodeError Bool
  | boolean b => .ok b
  | value => .error (value.mismatch .boolean)

/-- The length that a value is: an integer that fits an unsigned machine word. -/
def toLength : Value → Except DecodeError Nat
  | value@(integer (some n)) =>
    if fitsUnsigned 64 n then .ok n.toNat
    else if fitsSigned 64 n then .error (.negativeLength n)
    else .error (value.mismatch .length)
  | value => .error (value.mismatch .length)

/-- The format of a name. -/
def formatOfName (name : String) : Except DecodeError OutputFormat :=
  match OutputFormat.ofName? name with
  | some format => .ok format
  | none => .error (.unknownVariant name)

/-- Checks that a value is an empty table or array. -/
def checkEmpty : Value → Except DecodeError Unit
  | array [] | table _ [] => .ok ()
  | array _ | tables _ _ => .error (.nonemptyVariant true)
  | table _ _ => .error (.nonemptyVariant false)
  | value => .error (.variantContent value.typeName)

/-- The output format that a value names: its name as a string, or as the only key of a table
whose value is empty. -/
def toFormat : Value → Except DecodeError OutputFormat
  | string name => formatOfName name
  | table _ [] => .error (.variantCount false)
  | table _ [(name, content)] => do
    let format ← formatOfName name
    checkEmpty content
    return format
  | table _ _ => .error (.variantCount true)
  | _ => .error .notStringOrTable

end Toml.Value

/-- Passes over a value, every number of which must be readable. -/
def Toml.Value.ignore (value : Value) : Except DecodeError Unit :=
  if value.allScalars Value.isReadable then .ok () else .error .numberOverflow

/-- The key under which a date stands for a table. -/
def dateKey : String :=
  "$__toml_private_datetime"

/-- Reads the elements of an array as fields in turn; further elements are not looked at. -/
def readInTurn {α : Type} (fields : List (Value → α → Except DecodeError α)) (items : List Value)
    (start : α) : Except DecodeError α :=
  (fields.zip items).foldlM (fun result (field, item) => field item result) start

/-- Reads the entries of a table one by one. -/
def readEntries {α : Type} (field : String → Value → α → Except DecodeError α)
    (entries : Entries) (start : α) : Except DecodeError α :=
  entries.foldlM (fun result (key, value) => field key value result) start

/-- Reads a text as a document.  Nothing can be told of a text that is no well-formed document,
nor of a document that is not portable. -/
def readDocument {α : Type} (decode : Entries → Except DecodeError α) (text : String) :
    Except (Option DecodeError) α :=
  match Toml.read? text with
  | none => .error none
  | some entries =>
    match decode entries with
    | .ok result => .ok result
    | .error e =>
      .error (if Value.allScalarsOfEntries Value.isPortable entries then some e else none)

namespace ParseLayer

/-- The keys of the section. -/
def keys : List String :=
  ["max_query_length"]

/-- Reads the longest query length. -/
def readLength (value : Value) (layer : ParseLayer) : Except DecodeError ParseLayer := do
  return { layer with maxQueryLength := some (← value.toLength) }

/-- Reads one entry of the section. -/
def readField (key : String) (value : Value) (layer : ParseLayer) :
    Except DecodeError ParseLayer :=
  if key = "max_query_length" then readLength value layer
  else .error (.unknownField key keys)

/-- The layer that a table is. -/
def ofEntries (entries : Entries) : Except DecodeError ParseLayer :=
  readEntries readField entries {}

/-- The layer that a value is: a table, or an array of the fields. -/
def ofValue (value : Value) : Except DecodeError ParseLayer :=
  match value, value.items? with
  | .table _ entries, _ => ofEntries entries
  | .dateTime _, _ => .error (.unknownField dateKey keys)
  | _, some items => readInTurn [readLength] items {}
  | _, none => .error (value.mismatch .parseSection)

end ParseLayer

namespace OutputLayer

/-- The keys of the section. -/
def keys : List String :=
  ["format", "color"]

/-- Reads the format. -/
def readFormat (value : Value) (layer : OutputLayer) : Except DecodeError OutputLayer := do
  return { layer with format := some (← value.toFormat) }

/-- Reads whether there is color. -/
def readColor (value : Value) (layer : OutputLayer) : Except DecodeError OutputLayer := do
  return { layer with color := some (← value.toBoolean) }

/-- Reads one entry of the section. -/
def readField (key : String) (value : Value) (layer : OutputLayer) :
    Except DecodeError OutputLayer :=
  if key = "format" then readFormat value layer
  else if key = "color" then readColor value layer
  else .error (.unknownField key keys)

/-- The layer that a table is. -/
def ofEntries (entries : Entries) : Except DecodeError OutputLayer :=
  readEntries readField entries {}

/-- The layer that a value is: a table, or an array of the fields. -/
def ofValue (value : Value) : Except DecodeError OutputLayer :=
  match value, value.items? with
  | .table _ entries, _ => ofEntries entries
  | .dateTime _, _ => .error (.unknownField dateKey keys)
  | _, some items => readInTurn [readFormat, readColor] items {}
  | _, none => .error (value.mismatch .outputSection)

end OutputLayer

namespace Layer

/-- The keys of a settings file. -/
def keys : List String :=
  ["root", "parse", "output"]

/-- Reads one entry of a settings file. -/
def readField (key : String) (value : Value) (layer : Layer) : Except DecodeError Layer :=
  if key = "root" then do
    return { layer with root := some (← value.toBoolean) }
  else if key = "parse" then do
    return { layer with parse := some (← ParseLayer.ofValue value) }
  else if key = "output" then do
    return { layer with output := some (← OutputLayer.ofValue value) }
  else .error (.unknownField key keys)

/-- The layer that a document is. -/
def ofEntries (entries : Entries) : Except DecodeError Layer :=
  readEntries readField entries {}

/-- The layer that a text writes, or what can be told of why there is none. -/
def ofText (text : String) : Except (Option DecodeError) Layer :=
  readDocument ofEntries text

end Layer

/-- Reads one entry of a section on its own; unknown keys are passed over. -/
def ParseSettings.readField (key : String) (value : Value) (settings : ParseSettings) :
    Except DecodeError ParseSettings :=
  if key = "max_query_length" then do
    return { settings with maxQueryLength := ← value.toLength }
  else do
    value.ignore
    return settings

/-- The settings that a document is. -/
def ParseSettings.ofEntries (entries : Entries) : Except DecodeError ParseSettings :=
  readEntries readField entries {}

/-- The settings that a text writes, or what can be told of why there are none. -/
def ParseSettings.ofText (text : String) : Except (Option DecodeError) ParseSettings :=
  readDocument ofEntries text

/-- Reads one entry of a section on its own; unknown keys are passed over. -/
def OutputSettings.readField (key : String) (value : Value) (settings : OutputSettings) :
    Except DecodeError OutputSettings :=
  if key = "format" then do
    return { settings with format := ← value.toFormat }
  else if key = "color" then do
    return { settings with color := ← value.toBoolean }
  else do
    value.ignore
    return settings

/-- The settings that a document is. -/
def OutputSettings.ofEntries (entries : Entries) : Except DecodeError OutputSettings :=
  readEntries readField entries {}

/-- The settings that a text writes, or what can be told of why there are none. -/
def OutputSettings.ofText (text : String) : Except (Option DecodeError) OutputSettings :=
  readDocument ofEntries text

end SearchQuery

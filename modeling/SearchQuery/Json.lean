/-!
# JSON documents

The JSON values that this library writes, and their text: on one line without spaces, or with
one member a line and two spaces of indentation a level.  Members keep the order in which they
are given.  In a string the quote, the backslash and the control characters are escaped, the
usual ones by a letter and the others as `\u00` with two hexadecimal digits; everything else,
non-ASCII characters included, is written raw.
-/

namespace SearchQuery

/-- A JSON value without floats, booleans and null. -/
inductive Json where
  | string (text : String)
  | number (n : Nat)
  | array (items : List Json)
  | object (members : List (String × Json))

namespace Json

/-- The lower-case hexadecimal digit of a number below 16. -/
def hexDigit (n : Nat) : Char :=
  Nat.digitChar n

/-- The text that stands for `c` in a string. -/
def escape (c : Char) : String :=
  if c = '"' then "\\\""
  else if c = '\\' then "\\\\"
  else if c = '\n' then "\\n"
  else if c = '\r' then "\\r"
  else if c = '\t' then "\\t"
  else if c = '\x08' then "\\b"
  else if c = '\x0c' then "\\f"
  else if c.toNat < 32 then
    String.ofList ['\\', 'u', '0', '0', hexDigit (c.toNat / 16), hexDigit (c.toNat % 16)]
  else c.toString

/-- Writes a string with its quotes after `out`. -/
def writeString (out text : String) : String :=
  (text.foldl (fun out c => out ++ escape c) (out.push '"')).push '"'

/-- How a document is laid out. -/
inductive Layout where
  /-- All on one line, without spaces. -/
  | compact
  /-- One member a line, two spaces a level. -/
  | pretty
  deriving DecidableEq, Repr

namespace Layout

/-- Writes what separates members at the given level. -/
def writeBreak (layout : Layout) (level : Nat) (out : String) : String :=
  match layout with
  | compact => out
  | pretty => out ++ "\n" ++ String.ofList (List.replicate (2 * level) ' ')

/-- What stands between a member's name and its value. -/
def colon : Layout → String
  | compact => ":"
  | pretty => ": "

end Layout

mutual

/-- Writes a value, whose own members are at `level + 1`, after `out`. -/
def write (layout : Layout) (level : Nat) (out : String) : Json → String
  | string text => writeString out text
  | number n => out ++ n.repr
  | array [] => out ++ "[]"
  | array (item :: items) =>
    let first := write layout (level + 1) (layout.writeBreak (level + 1) (out.push '[')) item
    (layout.writeBreak level (writeItems layout (level + 1) first items)).push ']'
  | object [] => out ++ "\x7b\x7d"
  | object ((name, value) :: members) =>
    let named := writeString (layout.writeBreak (level + 1) (out.push '\x7b')) name
    let first := write layout (level + 1) (named ++ layout.colon) value
    (layout.writeBreak level (writeMembers layout (level + 1) first members)).push '\x7d'

/-- Writes the further items of an array at `level`, each after a comma. -/
def writeItems (layout : Layout) (level : Nat) (out : String) : List Json → String
  | [] => out
  | item :: items =>
    let next := write layout level (layout.writeBreak level (out.push ',')) item
    writeItems layout level next items

/-- Writes the further members of an object at `level`, each after a comma. -/
def writeMembers (layout : Layout) (level : Nat) (out : String) :
    List (String × Json) → String
  | [] => out
  | (name, value) :: members =>
    let named := writeString (layout.writeBreak level (out.push ',')) name
    let next := write layout level (named ++ layout.colon) value
    writeMembers layout level next members

end

/-- The text of a value on one line. -/
def compact (value : Json) : String :=
  value.write .compact 0 ""

/-- The text of a value with one member a line. -/
def pretty (value : Json) : String :=
  value.write .pretty 0 ""

end Json

end SearchQuery

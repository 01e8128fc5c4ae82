/-!
# TOML tokens

A TOML text is cut into tokens: marks, blanks, line ends, comments, quoted strings with their
escapes resolved, and bare runs, which are keys or unquoted values depending on where they
stand.  A dot is always a token of its own, so a number with a fraction is three tokens.
-/

namespace SearchQuery.Toml

/-- A TOML token. -/
inductive Token where
  | newline
  | comment
  | blank (text : String)
  | bare (text : String)
  | quoted (text : String) (multiline : Bool)
  | dot
  | comma
  | equals
  | openBracket
  | closeBracket
  | openBrace
  | closeBrace
  deriving DecidableEq, Repr

/-- A character that may stand in a comment or a string: no control character but the tab. -/
def isPlain (c : Char) : Bool :=
  c = '\t' || (32 ≤ c.toNat && c.toNat ≠ 127)

/-- A blank within a line. -/
def isLineBlank (c : Char) : Bool :=
  c = ' ' || c = '\t'

/-- The token that a mark stands for. -/
def mark? (c : Char) : Option Token :=
  if c = '.' then some .dot
  else if c = ',' then some .comma
  else if c = '=' then some .equals
  else if c = '[' then some .openBracket
  else if c = ']' then some .closeBracket
  else if c = '\x7b' then some .openBrace
  else if c = '\x7d' then some .closeBrace
  else none

/-- A character that goes on a bare run.  A quote does: it begins a string only where a token
begins. -/
def isBare (c : Char) : Bool :=
  (mark? c).isNone && !isLineBlank c && c ≠ '\n' && c ≠ '\r' && c ≠ '#'

/-- The value of a hexadecimal digit. -/
def hexValue? (c : Char) : Option Nat :=
  if c.isDigit then some (c.toNat - '0'.toNat)
  else if 'a' ≤ c && c ≤ 'f' then some (c.toNat - 'a'.toNat + 10)
  else if 'A' ≤ c && c ≤ 'F' then some (c.toNat - 'A'.toNat + 10)
  else none

/-! ### Quoted strings -/

/-- The kind of a quoted string: its quote, and whether it may span lines.  A string between
double quotes has escapes. -/
structure Quoting where
  quote : Char
  multiline : Bool

/-- Whether backslashes escape. -/
def Quoting.escapes (quoting : Quoting) : Bool :=
  quoting.quote = '"'

/-- Where the reading of a quoted string stands. -/
inductive StringMode where
  /-- After whole characters, and after this many quotes that may begin the end. -/
  | text (quotes : Nat)
  /-- After a backslash. -/
  | escape
  /-- Within the hexadecimal digits of an escape. -/
  | hex (missing value : Nat)
  /-- After a carriage return. -/
  | lineEnd
  /-- After a backslash that ends a line, with or without the line end itself. -/
  | skip (ended : Bool)
  /-- After a carriage return in skipped space. -/
  | skipLineEnd

/-- What a character does to the reading of a quoted string. -/
inductive StringStep where
  /-- The reading goes on. -/
  | next (mode : StringMode) (text : String)
  /-- The string ends with this character. -/
  | endsWith (text : String)
  /-- The string has ended before this character. -/
  | endedBefore (text : String)

/-- The given number of quotes after a text. -/
def Quoting.addQuotes (quoting : Quoting) (text : String) (n : Nat) : String :=
  text ++ String.ofList (List.replicate n quoting.quote)

/-- Reads a character after whole characters and `quotes` quotes. -/
def Quoting.readText (quoting : Quoting) (quotes : Nat) (text : String) (c : Char) :
    Option StringStep :=
  if c = quoting.quote then
    if !quoting.multiline then some (.endsWith text)
    else if quotes = 4 then some (.endsWith (quoting.addQuotes text 2))
    else some (.next (.text (quotes + 1)) text)
  else if 3 ≤ quotes then some (.endedBefore (quoting.addQuotes text (quotes - 3)))
  else
    let text := quoting.addQuotes text quotes
    if quoting.escapes && c = '\\' then some (.next .escape text)
    else if quoting.multiline && c = '\n' then some (.next (.text 0) (text.push c))
    else if quoting.multiline && c = '\r' then some (.next .lineEnd text)
    else if isPlain c then some (.next (.text 0) (text.push c))
    else none

/-- The character that a letter stands for after a backslash. -/
def escaped? (c : Char) : Option Char :=
  if c = 'b' then some '\x08'
  else if c = 't' then some '\t'
  else if c = 'n' then some '\n'
  else if c = 'f' then some '\x0c'
  else if c = 'r' then some '\r'
  else if c = 'e' then some '\x1b'
  else if c = '"' || c = '\\' then some c
  else none

/-- The number of hexadecimal digits after a letter that follows a backslash. -/
def hexDigits? (c : Char) : Option Nat :=
  if c = 'x' then some 2
  else if c = 'u' then some 4
  else if c = 'U' then some 8
  else none

/-- Reads one character of a quoted string. -/
def Quoting.step (quoting : Quoting) (mode : StringMode) (text : String) (c : Char) :
    Option StringStep :=
  match mode with
  | .text quotes => quoting.readText quotes text c
  | .escape =>
    match escaped? c, hexDigits? c with
    | some d, _ => some (.next (.text 0) (text.push d))
    | none, some n => some (.next (.hex n 0) text)
    | none, none =>
      if !quoting.multiline then none
      else if isLineBlank c then some (.next (.skip false) text)
      else if c = '\n' then some (.next (.skip true) text)
      else if c = '\r' then some (.next .skipLineEnd text)
      else none
  | .hex missing value =>
    match hexValue? c with
    | none => none
    | some digit =>
      let value := 16 * value + digit
      if 1 < missing then some (.next (.hex (missing - 1) value) text)
      else if value.isValidChar then some (.next (.text 0) (text.push (Char.ofNat value)))
      else none
  | .lineEnd => if c = '\n' then some (.next (.text 0) ((text.push '\r').push c)) else none
  | .skip ended =>
    if isLineBlank c then some (.next (.skip ended) text)
    else if c = '\n' then some (.next (.skip true) text)
    else if c = '\r' then some (.next .skipLineEnd text)
    else if ended then quoting.readText 0 text c
    else none
  | .skipLineEnd => if c = '\n' then some (.next (.skip true) text) else none

/-- Reads a quoted string to its end: its text, and the number of characters it takes after
`used` others. -/
def Quoting.read (quoting : Quoting) (mode : StringMode) (text : String) (used : Nat) :
    List Char → Option (String × Nat)
  | [] =>
    match mode with
    | .text quotes =>
      if 3 ≤ quotes then some (quoting.addQuotes text (quotes - 3), used) else none
    | _ => none
  | c :: cs =>
    match quoting.step mode text c with
    | none => none
    | some (.next mode text) => Quoting.read quoting mode text (used + 1) cs
    | some (.endsWith text) => some (text, used + 1)
    | some (.endedBefore text) => some (text, used)

/-- The length of a line end at the start of the characters. -/
def lineEndLength : List Char → Nat
  | '\n' :: _ => 1
  | '\r' :: '\n' :: _ => 2
  | _ => 0

/-- Reads the string whose opening quote stands before the characters: its text, whether it is
of the kind that may span lines, and the number of characters it takes. -/
def readQuoted (quote : Char) (cs : List Char) : Option (String × Bool × Nat) :=
  if cs.take 2 = [quote, quote] then
    let used := 2 + lineEndLength (cs.drop 2)
    ((Quoting.mk quote true).read (.text 0) "" used (cs.drop used)).map
      fun (text, used) => (text, true, used)
  else
    ((Quoting.mk quote false).read (.text 0) "" 0 cs).map
      fun (text, used) => (text, false, used)

/-! ### All tokens -/

/-- Dropping characters adds none. -/
theorem length_dropWhile_le (p : Char → Bool) (cs : List Char) :
    (cs.dropWhile p).length ≤ cs.length :=
  (List.dropWhile_sublist p).length_le

/-- The tokens of the characters, after the ones in `done`, last first. -/
def scan (done : List Token) : List Char → Option (List Token)
  | [] => some done.reverse
  | c :: cs =>
    if c = '\n' then scan (.newline :: done) cs
    else if c = '\r' then
      if cs.head? = some '\n' then scan (.newline :: done) (cs.drop 1) else none
    else if isLineBlank c then
      scan (.blank (String.ofList (c :: cs.takeWhile isLineBlank)) :: done)
        (cs.dropWhile isLineBlank)
    else if c = '#' then
      if (cs.takeWhile fun d => d ≠ '\n' && d ≠ '\r').all isPlain then
        scan (.comment :: done) (cs.dropWhile fun d => d ≠ '\n' && d ≠ '\r')
      else none
    else if c = '"' || c = '\'' then
      match readQuoted c cs with
      | none => none
      | some (text, multiline, used) => scan (.quoted text multiline :: done) (cs.drop used)
    else
      match mark? c with
      | some token => scan (token :: done) cs
      | none =>
        scan (.bare (String.ofList (c :: cs.takeWhile isBare)) :: done) (cs.dropWhile isBare)
termination_by cs => cs.length
decreasing_by
  all_goals
    simp only [List.length_cons, List.length_drop]
    first
      | omega
      | exact Nat.lt_succ_of_le (length_dropWhile_le _ cs)

/-- The tokens of a TOML text; a byte order mark at its start does not count. -/
def tokens? (text : String) : Option (List Token) :=
  match text.toList with
  | '\uFEFF' :: cs => scan [] cs
  | cs => scan [] cs

end SearchQuery.Toml

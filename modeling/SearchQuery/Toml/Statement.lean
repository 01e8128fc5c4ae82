import SearchQuery.Toml.Scalar
import SearchQuery.Toml.Table
import SearchQuery.Toml.Token

/-!
# TOML statements

A document is a list of statements, one a line: a header opens a table or a further table of
an array, and an assignment gives a key of the open table its value.  Values nest at most
`nestingLimit` deep, and a key has at most as many parts.

The readers return the tokens they leave, with the fact that they are fewer than those they
were given.
-/

namespace SearchQuery.Toml

/-- A statement of a document; a key is the path to its table and its last part. -/
inductive Statement where
  | table (path : List String) (key : String)
  | arrayTable (path : List String) (key : String)
  | assign (path : List String) (key : String) (value : Value)

/-- The deepest nesting of arrays and tables in braces, and the most parts of a key. -/
def nestingLimit : Nat := 80

/-- Something read and the tokens left, which are fewer than the given ones. -/
abbrev Reading (α : Type) (tokens : List Token) :=
  Option (α × { rest : List Token // rest.length < tokens.length })

/-- Drops a blank. -/
def dropBlank : List Token → List Token
  | .blank _ :: rest => rest
  | tokens => tokens

/-- Whether a token only separates values that may stand on several lines. -/
def Token.isTrivia : Token → Bool
  | newline | comment | blank _ => true
  | _ => false

/-- Drops blanks, line ends and comments. -/
def dropTrivia (tokens : List Token) : List Token :=
  tokens.dropWhile Token.isTrivia

/-- Drops what may stand around the equals sign: between braces also line ends and comments. -/
def dropGap (inBraces : Bool) (tokens : List Token) : List Token :=
  if inBraces then dropTrivia tokens else dropBlank tokens

/-- Dropping blanks adds no token. -/
theorem length_dropBlank_le (tokens : List Token) :
    (dropBlank tokens).length ≤ tokens.length := by
  unfold dropBlank
  split <;> simp

/-- Dropping blanks, comments and line ends adds no token. -/
theorem length_dropTrivia_le (tokens : List Token) :
    (dropTrivia tokens).length ≤ tokens.length :=
  (List.dropWhile_sublist _).length_le

/-- Dropping a gap adds no token. -/
theorem length_dropGap_le (inBraces : Bool) (tokens : List Token) :
    (dropGap inBraces tokens).length ≤ tokens.length := by
  unfold dropGap
  split
  · exact length_dropTrivia_le tokens
  · exact length_dropBlank_le tokens

/-- What follows the first token that is left is shorter than the whole. -/
theorem length_of_dropBlank {tokens rest : List Token} {first : Token}
    (left : dropBlank tokens = first :: rest) : rest.length < tokens.length := by
  have bound := length_dropBlank_le tokens
  rw [left, List.length_cons] at bound
  omega

/-- What follows the first token that is left is shorter than the whole. -/
theorem length_of_dropTrivia {tokens rest : List Token} {first : Token}
    (left : dropTrivia tokens = first :: rest) : rest.length < tokens.length := by
  have bound := length_dropTrivia_le tokens
  rw [left, List.length_cons] at bound
  omega

/-- What follows the first token that is left is shorter than the whole. -/
theorem length_of_dropGap {inBraces : Bool} {tokens rest : List Token} {first : Token}
    (left : dropGap inBraces tokens = first :: rest) : rest.length < tokens.length := by
  have bound := length_dropGap_le inBraces tokens
  rw [left, List.length_cons] at bound
  omega

/-! ### Keys -/

/-- A character of a key without quotes. -/
def isKeyChar (c : Char) : Bool :=
  c.isAlphanum || c = '-' || c = '_'

/-- The part of a key that a token writes. -/
def Token.keyPart? : Token → Option String
  | bare text => if text.toList.all isKeyChar then some text else none
  | quoted text false => some text
  | _ => none

/-- Reads a key of one or more parts with dots between them, after the parts in `path`. -/
def readKey (path : List String) (tokens : List Token) : Reading (List String × String) tokens :=
  match tokens with
  | [] => none
  | first :: rest =>
    match first.keyPart? with
    | none => none
    | some part =>
      if nestingLimit ≤ path.length then none
      else
        match after : dropBlank rest with
        | .dot :: others =>
          have shorter : (dropBlank others).length < rest.length :=
            Nat.lt_of_le_of_lt (length_dropBlank_le others) (length_of_dropBlank after)
          match readKey (path ++ [part]) (dropBlank others) with
          | none => none
          | some (key, ⟨left, fewer⟩) =>
            some (key, ⟨left, by simp only [List.length_cons]; omega⟩)
        | _ => some ((path, part), ⟨rest, Nat.lt_succ_self _⟩)
termination_by tokens.length

/-! ### Values -/

/-- The text of the bare runs and dots at the start, and the tokens after them. -/
def bareText (text : String) : List Token → String × List Token
  | .bare more :: rest => bareText (text ++ more) rest
  | .dot :: rest => bareText (text ++ ".") rest
  | rest => (text, rest)

/-- Reading a bare text adds no token. -/
theorem length_bareText_le (text : String) (tokens : List Token) :
    (bareText text tokens).2.length ≤ tokens.length := by
  fun_induction bareText text tokens with
  | case1 => simp only [List.length_cons]; omega
  | case2 => simp only [List.length_cons]; omega
  | case3 => simp

/-- The text of the unquoted value that begins with `text`, and the tokens after it; a single
space may stand between a date and a time. -/
def scalarText (text : String) (tokens : List Token) : String × List Token :=
  match bareText text tokens with
  | (whole, .blank " " :: .bare time :: rest) =>
    if isDate whole.toList then bareText (whole ++ " " ++ time) rest
    else (whole, .blank " " :: .bare time :: rest)
  | result => result

/-- Reading the text of a scalar adds no token. -/
theorem length_scalarText_le (text : String) (tokens : List Token) :
    (scalarText text tokens).2.length ≤ tokens.length := by
  have first := length_bareText_le text tokens
  unfold scalarText
  split
  · rename_i whole time rest same
    rw [same] at first
    split
    · have second := length_bareText_le (whole ++ " " ++ time) rest
      simp only [List.length_cons] at first
      omega
    · simpa using first
  · exact first

mutual

/-- Reads a value that lies `depth` arrays or tables deep. -/
def readValue (depth : Nat) (tokens : List Token) : Reading Value tokens :=
  match tokens with
  | .quoted text _ :: rest => some (.string text, ⟨rest, Nat.lt_succ_self _⟩)
  | .openBracket :: rest =>
    if nestingLimit ≤ depth then none
    else
      match readItems (depth + 1) [] rest with
      | none => none
      | some (items, ⟨left, fewer⟩) => some (.array items, ⟨left, Nat.lt_succ_of_lt fewer⟩)
  | .openBrace :: rest =>
    if nestingLimit ≤ depth then none
    else
      match readEntries (depth + 1) [] rest with
      | none => none
      | some (entries, ⟨left, fewer⟩) =>
        some (.table .braces entries, ⟨left, Nat.lt_succ_of_lt fewer⟩)
  | .bare text :: rest =>
    (scalar? (scalarText text rest).1).map fun value =>
      (value, ⟨(scalarText text rest).2, Nat.lt_succ_of_le (length_scalarText_le text rest)⟩)
  | _ => none
termination_by 3 * tokens.length

/-- Reads the items of an array after the ones in `done`, up to the closing bracket. -/
def readItems (depth : Nat) (done : List Value) (tokens : List Token) :
    Reading (List Value) tokens :=
  match start : dropTrivia tokens with
  | [] => none
  | .closeBracket :: rest =>
    some (done.reverse, ⟨rest, length_of_dropTrivia start⟩)
  | first :: rest =>
    have bound : rest.length < tokens.length := length_of_dropTrivia start
    match readValue depth (first :: rest) with
    | none => none
    | some (value, ⟨left, fewer⟩) =>
      match after : dropTrivia left with
      | .closeBracket :: rest' =>
        some ((value :: done).reverse, ⟨rest', by
          have := length_of_dropTrivia after
          simp only [List.length_cons] at fewer
          omega⟩)
      | .comma :: rest' =>
        have shorter : rest'.length < tokens.length := by
          have := length_of_dropTrivia after
          simp only [List.length_cons] at fewer
          omega
        match readItems depth (value :: done) rest' with
        | none => none
        | some (items, ⟨last, fewer'⟩) => some (items, ⟨last, by omega⟩)
      | _ => none
termination_by 3 * tokens.length + 1

/-- Reads the entries of a table in braces after the ones in `done`, up to the closing brace. -/
def readEntries (depth : Nat) (done : Entries) (tokens : List Token) : Reading Entries tokens :=
  match start : dropTrivia tokens with
  | [] => none
  | .closeBrace :: rest =>
    some (done, ⟨rest, length_of_dropTrivia start⟩)
  | first :: rest =>
    have bound : rest.length < tokens.length := length_of_dropTrivia start
    match readAssignment true depth (first :: rest) with
    | none => none
    | some ((path, key, value), ⟨left, fewer⟩) =>
      match done.assign path key value with
      | none => none
      | some entries =>
        match after : dropTrivia left with
        | .closeBrace :: rest' =>
          some (entries, ⟨rest', by
            have := length_of_dropTrivia after
            simp only [List.length_cons] at fewer
            omega⟩)
        | .comma :: rest' =>
          have shorter : rest'.length < tokens.length := by
            have := length_of_dropTrivia after
            simp only [List.length_cons] at fewer
            omega
          match readEntries depth entries rest' with
          | none => none
          | some (all, ⟨last, fewer'⟩) => some (all, ⟨last, by omega⟩)
        | _ => none
termination_by 3 * tokens.length + 2

/-- Reads a key, the equals sign and a value. -/
def readAssignment (inBraces : Bool) (depth : Nat) (tokens : List Token) :
    Reading (List String × String × Value) tokens :=
  match readKey [] tokens with
  | none => none
  | some ((path, key), ⟨left, fewer⟩) =>
    match after : dropGap inBraces left with
    | .equals :: rest =>
      have shorter : (dropGap inBraces rest).length < left.length :=
        Nat.lt_of_le_of_lt (length_dropGap_le inBraces rest) (length_of_dropGap after)
      match readValue depth (dropGap inBraces rest) with
      | none => none
      | some (value, ⟨last, fewer'⟩) => some ((path, key, value), ⟨last, by omega⟩)
    | _ => none
termination_by 3 * tokens.length

end

/-! ### Lines -/

/-- The tokens after the end of a line, which may hold a blank and a comment. -/
def endLine? (tokens : List Token) : Option (List Token) :=
  match dropBlank tokens with
  | [] | [.comment] => some []
  | .newline :: rest | .comment :: .newline :: rest => some rest
  | _ => none

/-- Ending a line adds no token. -/
theorem length_endLine?_le {tokens rest : List Token} (ended : endLine? tokens = some rest) :
    rest.length ≤ tokens.length := by
  have bound := length_dropBlank_le tokens
  unfold endLine? at ended
  split at ended <;> simp_all <;> omega

/-- Reads a key in brackets, up to the given number of closing brackets. -/
def readHeader (closing : Nat) (tokens : List Token) : Reading (List String × String) tokens :=
  match readKey [] (dropBlank tokens) with
  | none => none
  | some (key, ⟨left, fewer⟩) =>
    if (dropBlank left).take closing = List.replicate closing .closeBracket then
      some (key, ⟨(dropBlank left).drop closing, by
        have := length_dropBlank_le tokens
        have := length_dropBlank_le left
        rw [List.length_drop]
        omega⟩)
    else none

/-- Reads the statement at the start of a line. -/
def readStatement (tokens : List Token) : Reading Statement tokens :=
  match tokens with
  | .openBracket :: .openBracket :: rest =>
    (readHeader 2 rest).map fun ((path, key), ⟨left, fewer⟩) =>
      (.arrayTable path key, ⟨left, by simp only [List.length_cons]; omega⟩)
  | .openBracket :: rest =>
    (readHeader 1 rest).map fun ((path, key), ⟨left, fewer⟩) =>
      (.table path key, ⟨left, by simp only [List.length_cons]; omega⟩)
  | tokens =>
    (readAssignment false 0 tokens).map fun ((path, key, value), left) =>
      (.assign path key value, left)

/-- The statements of a document, after the ones in `done`, last first. -/
def statements? (done : List Statement) (tokens : List Token) : Option (List Statement) :=
  match start : dropTrivia tokens with
  | [] => some done.reverse
  | first :: rest =>
    have bound : rest.length < tokens.length := length_of_dropTrivia start
    match readStatement (first :: rest) with
    | none => none
    | some (statement, ⟨left, fewer⟩) =>
      match ended : endLine? left with
      | none => none
      | some others =>
        have shorter : others.length < tokens.length := by
          have := length_endLine?_le ended
          rw [List.length_cons] at fewer
          omega
        statements? (statement :: done) others
termination_by tokens.length

end SearchQuery.Toml

import SearchQuery.Parser.Error
import SearchQuery.Text.Bytes

/-!
# Diagnostics

A query error is a parse error together with the query it was found in.  It is shown as the
error, the query on a line of its own, a caret below the character that the error points at, and
a hint for the common mistakes.
-/

namespace SearchQuery

/-- A parse error and the query it was found in. -/
structure QueryError where
  error : ParseError
  query : String
  deriving DecidableEq, Repr

namespace QueryError

/-- The stable key of the underlying error. -/
def key (e : QueryError) : String :=
  e.error.key

/-- What to do about a common mistake. -/
def suggestion? (e : QueryError) : Option String :=
  match e.error with
  | .tokenizer (.notFinished ..) => some "Add a closing quote (\") to complete the phrase"
  | .tokenizer (.forbiddenCharacter c mode _) =>
    if mode = .openParen then some "Remove the whitespace after the opening parenthesis"
    else if c.isDigit then
      some "Digits are only allowed inside a quoted phrase, e.g. '\"version 2\"'"
    else none
  | .missingClose _ => some "Add a closing parenthesis ) to match the opening one"
  | .invalidNotOperand .. => some "NOT applies to a single word or phrase, e.g. 'NOT decaf'"
  | .nestingTooDeep .. => some "Remove redundant parentheses or split the query"
  | .misplacedOperator .. | .missingOperand .. =>
    some "AND and OR require expressions on both sides, e.g. 'coffee OR tea'"
  | _ => none

/-- The number of characters before the one that the error points at; a position past the end
counts as the end, and one inside a character as none. -/
def column? (e : QueryError) : Option Nat :=
  match e.error.position? with
  | none => none
  | some position =>
    charactersBefore 0 e.query.toList (min position e.query.utf8ByteSize)

/-- The whole diagnostic; it ends with a newline unless a hint ends it. -/
def display (e : QueryError) : String :=
  let caret :=
    match e.column? with
    | none => ""
    | some column => "  " ++ String.ofList (List.replicate column ' ') ++ "^\n"
  let hint :=
    match e.suggestion? with
    | none => ""
    | some text => "hint: " ++ text
  "search syntax error [" ++ e.key ++ "]: " ++ e.error.message ++ "\n  " ++ e.query ++ "\n"
    ++ caret ++ hint

end QueryError

end SearchQuery

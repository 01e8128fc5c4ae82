import SearchQuery.Lexer.Basic
import SearchQuery.Text.Bytes
import SearchQuery.Text.Trim

/-!
# The tokens of a whole query

`scanQuery` feeds a query to a lexer and keeps every completed token, also those completed by
the call that is refused; `tokenize` gives the tokens of a query that is read to its end.
Padding at both ends of the query is not fed to the lexer, and offsets count from the start of
the whole query.
-/

namespace SearchQuery

/-- The course of reading a query: the tokens completed, in order, and what stopped it. -/
structure Scan where
  completed : List Token
  error : Option LexError
  deriving DecidableEq, Repr

namespace Scan

/-- The tokens of a query that was read to its end, or what stopped the reading. -/
def result (scan : Scan) : Except LexError (List Token) :=
  match scan.error with
  | some e => .error e
  | none => .ok scan.completed

end Scan

namespace Lexer

/-- Adds the token that a step completes. -/
def Step.addTo (step : Step) (done : Array Token) : Array Token :=
  match step.completed with
  | some token => done.push token
  | none => done

/-- Feeds all characters, the first of them at byte `offset`, and ends the query; stops at the
first refusal.  The tokens completed before are in `done`. -/
def scan (lexer : Lexer) (offset : Nat) (done : Array Token) : List Char → Scan
  | [] =>
    let step := lexer.close
    ⟨(step.addTo done).toList, step.error⟩
  | c :: cs =>
    let step := lexer.push offset c
    match step.error with
    | some e => ⟨(step.addTo done).toList, some e⟩
    | none => scan step.lexer (offset + c.utf8Size) (step.addTo done) cs

end Lexer

/-- The part of a query between the padding at its ends, with its byte offset. -/
def unpadded (query : List Char) : Nat × List Char :=
  (byteLength (query.takeWhile isPadding), dropEndWhile isPadding (query.dropWhile isPadding))

/-- Reads a query from end to end. -/
def scanQuery (query : String) : Scan :=
  let (offset, cs) := unpadded query.toList
  Lexer.new.scan offset #[] cs

/-- The tokens of a query. -/
def tokenize (query : String) : Except LexError (List Token) :=
  (scanQuery query).result

end SearchQuery

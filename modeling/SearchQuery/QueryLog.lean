import SearchQuery.Log
import SearchQuery.Query

/-!
# The log of a query

The lexer reports every token that it completes, the parser its outcome.  A query that the
lexer refuses never reaches the parser.
-/

namespace SearchQuery

namespace LogRecord

/-- The record of a completed token. -/
def ofToken (token : Token) : LogRecord where
  level := .trace
  target := "ods_search::lexer"
  message :=
    "token " ++ token.kind.name ++ " " ++ Quoted.string token.text ++ " at " ++ token.offset.repr

/-- The record of a parse of the given tokens. -/
def ofParse (tokens : List Token) : LogRecord where
  level := .debug
  target := "ods_search::parser"
  message :=
    match parse tokens with
    | .ok e => "parsed " ++ tokens.length.repr ++ " tokens into " ++ e.compact
    | .error e => "parse failed [" ++ e.key ++ "]: " ++ e.message

end LogRecord

/-- The records of reading a query. -/
def queryLog (query : String) : List LogRecord :=
  let scan := scanQuery query
  let lexed := scan.completed.map LogRecord.ofToken
  match scan.result with
  | .error _ => lexed
  | .ok tokens => lexed ++ [LogRecord.ofParse tokens]

end SearchQuery

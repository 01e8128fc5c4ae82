import SearchQuery.Expr.Basic
import SearchQuery.Json

/-!
# Expressions and tokens as JSON

An expression becomes one object for each node, tagged with the node's type.  Readers of JSON
commonly bound the nesting they accept, so trees deeper than `serializeDepth` are refused.
-/

namespace SearchQuery

/-- The most levels that an expression may have to be written as JSON. -/
def serializeDepth : Nat := 512

/-- Why an expression has no JSON form. -/
inductive SerializeError where
  | nestedTooDeep
  deriving DecidableEq, Repr

/-- The message of the error. -/
def SerializeError.message : SerializeError → String
  | nestedTooDeep => "expression is nested deeper than " ++ serializeDepth.repr ++ " levels"

namespace Expr

/-- The JSON form of an expression of at most the given number of levels. -/
def toJsonWithin : Nat → Expr → Except SerializeError Json
  | 0, _ => .error .nestedTooDeep
  | _ + 1, .term value =>
    .ok (.object [("type", .string "term"), ("value", .string value)])
  | levels + 1, .not operand =>
    match toJsonWithin levels operand with
    | .error e => .error e
    | .ok inner =>
      .ok (.object [("type", .string "unary"), ("op", .string Keyword.not.text),
        ("operand", inner)])
  | levels + 1, .binary connective left right =>
    match toJsonWithin levels left with
    | .error e => .error e
    | .ok leftJson =>
      match toJsonWithin levels right with
      | .error e => .error e
      | .ok rightJson =>
        .ok (.object [("type", .string "binary"), ("op", .string connective.keyword.text),
          ("left", leftJson), ("right", rightJson)])

/-- The JSON form of an expression. -/
def toJson (e : Expr) : Except SerializeError Json :=
  e.toJsonWithin serializeDepth

end Expr

/-- The JSON form of a token. -/
def Token.toJson (token : Token) : Json :=
  .object [("kind", .string token.kind.name), ("text", .string token.text),
    ("offset", .number token.offset)]

end SearchQuery

import SearchQuery.Lexer.Error

/-!
# Parse errors

Why a query, or a list of tokens, is no search expression.  Every error has a stable key; a
leftover token and a dangling operator share theirs.
-/

namespace SearchQuery

/-- Why there is no expression. -/
inductive ParseError where
  /-- The query is empty, or the group that is opened at `position` is. -/
  | noExpression (position : Option Nat)
  /-- The query could not be split into tokens. -/
  | tokenizer (error : LexError)
  /-- `NOT` is followed by something other than a word or a phrase, or by nothing. -/
  | invalidNotOperand (found : Option Kind) (position : Nat)
  /-- The group that is opened at `position` is never closed. -/
  | missingClose (position : Nat)
  /-- One kind of token is required and another found. -/
  | unexpectedKind (expected found : Kind) (position : Nat)
  /-- A token is left over after a whole expression. -/
  | trailingToken (found : Kind) (position : Nat)
  /-- A binary operator ends the query. -/
  | missingOperand (operator : Kind) (position : Nat)
  /-- A binary operator has nothing on its left. -/
  | misplacedOperator (operator : Kind) (position : Nat)
  /-- Groups are nested deeper than the limit. -/
  | nestingTooDeep (limit position : Nat)
  /-- `AND` is followed by a binary operator. -/
  | operatorAfterAnd (operator : Kind) (position : Nat)
  deriving DecidableEq, Repr

namespace ParseError

/-- The stable key of an error. -/
def key : ParseError → String
  | noExpression _ => "NO_EXPRESSION_FOUND"
  | tokenizer _ => "TOKENIZER_EXCEPTION"
  | invalidNotOperand .. => "INVALID_NOT_OPERAND"
  | missingClose _ => "MISSING_CLOSE"
  | unexpectedKind .. => "EXPECTED_DIFFERENT_TOKEN"
  | trailingToken .. | missingOperand .. => "INVALID_END_OF_QUERY"
  | misplacedOperator .. => "INVALID_BINARY_OPERATOR_POSITION"
  | nestingTooDeep .. => "NESTING_TOO_DEEP"
  | operatorAfterAnd .. => "INVALID_OPERATOR_AFTER_AND"

/-- The message of an error. -/
def message : ParseError → String
  | noExpression _ => "no search expression found"
  | tokenizer e => "tokenizer error: " ++ e.message
  | invalidNotOperand found _ =>
    "NOT must be followed by a word or phrase, found "
      ++ (found.map Kind.name).getD "end of query"
  | missingClose _ => "missing close bracket for open bracket"
  | unexpectedKind expected found _ => "expected " ++ expected.name ++ ", found " ++ found.name
  | trailingToken found _ => "unexpected " ++ found.name ++ " after end of search expression"
  | missingOperand operator _ => "missing search expression after " ++ operator.name
  | misplacedOperator operator _ => operator.name ++ " needs a left operand"
  | nestingTooDeep limit _ => "groups nested deeper than " ++ limit.repr ++ " levels"
  | operatorAfterAnd operator _ => "AND must not be followed by " ++ operator.name

/-- The byte position that an error points at. -/
def position? : ParseError → Option Nat
  | noExpression position => position
  | tokenizer e => e.position?
  | invalidNotOperand _ position | missingClose position | unexpectedKind _ _ position
  | trailingToken _ position | missingOperand _ position | misplacedOperator _ position
  | nestingTooDeep _ position | operatorAfterAnd _ position => some position

end ParseError

end SearchQuery

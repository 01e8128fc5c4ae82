import SearchQuery.Token

/-!
# Search expressions

A search expression is a tree: a leaf is a term to look for, an inner node negates one
expression or connects two.  A long run of `AND` makes a tree with one level for each term, so
whatever reads a whole tree keeps its own list of subtrees still to visit instead of descending
into them; `size` bounds those readers.
-/

namespace SearchQuery

/-- The binary operators of a search expression. -/
inductive Connective where
  /-- Both operands must match. -/
  | and
  /-- At least one operand must match. -/
  | or
  deriving DecidableEq, Repr

namespace Connective

/-- The keyword that writes a connective. -/
def keyword : Connective → Keyword
  | and => .and
  | or => .or

end Connective

/-- A search expression. -/
inductive Expr where
  /-- A word, or the text of a phrase without its quotes. -/
  | term (value : String)
  /-- The negation of an expression. -/
  | protected not (operand : Expr)
  /-- Two expressions and what connects them. -/
  | binary (connective : Connective) (left right : Expr)
  deriving DecidableEq, Repr

namespace Expr

/-- Both expressions. -/
protected def and (left right : Expr) : Expr :=
  .binary .and left right

/-- One of the expressions. -/
protected def or (left right : Expr) : Expr :=
  .binary .or left right

/-- The number of nodes. -/
def size : Expr → Nat
  | .term _ => 1
  | .not operand => operand.size + 1
  | .binary _ left right => left.size + right.size + 1

/-- The value of a term. -/
def term? : Expr → Option String
  | .term value => some value
  | _ => none

/-- The operand of a negation. -/
def operand? : Expr → Option Expr
  | .not operand => some operand
  | _ => none

/-- The connective of a binary expression, with both sides. -/
def sides? : Expr → Option (Connective × Expr × Expr)
  | .binary connective left right => some (connective, left, right)
  | _ => none

/-- The number of nodes of a list of expressions. -/
def totalSize : List Expr → Nat
  | [] => 0
  | e :: es => e.size + totalSize es

/-- No expressions have no nodes. -/
@[simp] theorem totalSize_nil : totalSize [] = 0 := rfl

/-- The nodes of the first expression and those of the others. -/
@[simp] theorem totalSize_cons (e : Expr) (es : List Expr) :
    totalSize (e :: es) = e.size + totalSize es := rfl

end Expr

end SearchQuery

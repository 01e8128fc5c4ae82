import SearchQuery.Expr.Traverse
import SearchQuery.Text.Quoted
import SearchQuery.Text.WordChar

/-!
# Expressions as text

An expression is shown on one line, in braces for reading (`compact`) or as a query that can be
parsed again (`query`), or as an outline with one node a line (`tree`).  A query is fully
parenthesized; a term that is no plain word is written as a phrase.  A line cannot be indented
without bound, so trees that are too deep have no outline.

Both writers keep the text and the subtrees still to be written in a list, the next one first.
-/

namespace SearchQuery

/-- Whether a value is read back as a single word: word characters only, and no keyword. -/
def isBareWord (value : String) : Bool :=
  !value.isEmpty && !Keyword.all.any (fun k => k.text == value) && value.toList.all isWordChar

/-- How the nodes of an expression are written on one line. -/
structure InlineLayout where
  /-- The text of a term. -/
  term : String → String
  /-- What stands before and after a negated operand. -/
  notOpen : String
  notClose : String
  /-- What stands before and after the operands of a binary expression. -/
  binaryOpen : String
  binaryClose : String

namespace InlineLayout

/-- The layout for reading: apostrophes around terms, braces around everything else. -/
def compact : InlineLayout where
  term value := "'" ++ value ++ "'"
  notOpen := "\x7bNOT "
  notClose := "\x7d"
  binaryOpen := "\x7b"
  binaryClose := "\x7d"

/-- The layout that can be parsed again: parentheses around binary expressions. -/
def query : InlineLayout where
  term value := if isBareWord value then value else "\"" ++ value ++ "\""
  notOpen := "NOT "
  notClose := ""
  binaryOpen := "("
  binaryClose := ")"

end InlineLayout

/-- What is still to be written on the line. -/
inductive Piece where
  | text (s : String)
  | node (e : Expr)

namespace Piece

/-- Four for each node of a subtree and one for a text, which bounds the writing of pieces. -/
def weight : Piece → Nat
  | text _ => 1
  | node e => 4 * e.size

/-- The weight of all pieces. -/
def totalWeight : List Piece → Nat
  | [] => 0
  | piece :: pieces => piece.weight + totalWeight pieces

end Piece

namespace Expr

/-- Writes the pending pieces after `out`. -/
def writeInline (layout : InlineLayout) (out : String) : List Piece → String
  | [] => out
  | .text s :: pending => writeInline layout (out ++ s) pending
  | .node (.term value) :: pending => writeInline layout (out ++ layout.term value) pending
  | .node (.not operand) :: pending =>
    writeInline layout (out ++ layout.notOpen)
      (.node operand :: .text layout.notClose :: pending)
  | .node (.binary connective left right) :: pending =>
    writeInline layout (out ++ layout.binaryOpen)
      (.node left :: .text (" " ++ connective.keyword.text ++ " ") :: .node right
        :: .text layout.binaryClose :: pending)
termination_by pending => Piece.totalWeight pending
decreasing_by all_goals simp [Piece.totalWeight, Piece.weight, size]; try omega

/-- An expression on one line. -/
def inline (layout : InlineLayout) (e : Expr) : String :=
  writeInline layout "" [.node e]

/-- The compact form, in braces. -/
def compact (e : Expr) : String :=
  e.inline .compact

/-- The query text, which reads back. -/
def query (e : Expr) : String :=
  e.inline .query

/-- Two spaces for each level. -/
def indentation (level : Nat) : String :=
  String.ofList (List.replicate (2 * level) ' ')

/-- Writes the lines of the pending subtrees, each at its level, after `out`. -/
def writeTree (out : String) : List (Nat × Expr) → String
  | [] => out
  | (level, .term value) :: pending =>
    writeTree (out ++ indentation level ++ "Term(" ++ Quoted.string value ++ ")\n") pending
  | (level, .not operand) :: pending =>
    writeTree (out ++ indentation level ++ "NOT\n") ((level + 1, operand) :: pending)
  | (level, .binary connective left right) :: pending =>
    writeTree (out ++ indentation level ++ connective.keyword.text ++ "\n")
      ((level + 1, left) :: (level + 1, right) :: pending)
termination_by pending => totalSize (pending.map Prod.snd)
decreasing_by all_goals simp [size]; try omega

/-- The outline: one node a line, operands two spaces deeper than their operator. -/
def tree (e : Expr) : String :=
  writeTree "" [(0, e)]

/-- The most spaces that a line can be indented by. -/
def indentationLimit : Nat := 65535

/-- The outline, if its deepest line can be indented. -/
def tree? (e : Expr) : Option String :=
  if 2 * (e.depth - 1) ≤ indentationLimit then some e.tree else none

end Expr

end SearchQuery

import SearchQuery.Expr.Basic

/-!
# Assembling a tree on a stack

A tree can be built in steps on a stack of finished trees: operands come before their operator, and
an operator takes its operands from the stack.
-/

namespace SearchQuery

/-- A step that builds on a stack of finished expressions, the last one on top. -/
inductive Assembly where
  | term (value : String)
  | not
  | binary (connective : Connective)
  deriving DecidableEq, Repr

namespace Assembly

/-- Performs a step; there may be too few operands on the stack. -/
def apply (step : Assembly) (stack : List Expr) : Option (List Expr) :=
  match step, stack with
  | term value, stack => some (.term value :: stack)
  | not, operand :: stack => some (.not operand :: stack)
  | binary connective, right :: left :: stack => some (.binary connective left right :: stack)
  | not, [] | binary _, [] | binary _, [_] => none

/-- Performs all steps, starting from the given stack. -/
def run (stack : List Expr) (steps : List Assembly) : Option (List Expr) :=
  steps.foldlM (fun stack step => step.apply stack) stack

end Assembly

end SearchQuery

import SearchQuery.Expr.Basic

/-!
# Reading a tree without descending into it

The terms of an expression from left to right, its depth, and the comparison of two
expressions.  Each keeps the subtrees that are still to be visited in a list, the next one
first, so that trees of any depth are read in constant stack space.
-/

namespace SearchQuery

namespace Expr

/-- Adds the terms of the pending subtrees, from left to right, to `done`. -/
def collectTerms (done : Array String) : List Expr → Array String
  | [] => done
  | .term value :: pending => collectTerms (done.push value) pending
  | .not operand :: pending => collectTerms done (operand :: pending)
  | .binary _ left right :: pending => collectTerms done (left :: right :: pending)
termination_by pending => totalSize pending
decreasing_by all_goals simp [size]; try omega

/-- The values of all terms, from left to right. -/
def terms (e : Expr) : List String :=
  (collectTerms #[] [e]).toList

/-- The next term of the pending subtrees, with what is pending after it. -/
def nextTerm? : List Expr → Option (String × List Expr)
  | [] => none
  | .term value :: pending => some (value, pending)
  | .not operand :: pending => nextTerm? (operand :: pending)
  | .binary _ left right :: pending => nextTerm? (left :: right :: pending)
termination_by pending => totalSize pending
decreasing_by all_goals simp [size]; try omega

/-- The number of nodes among the pending subtrees, each of which comes with its level. -/
def levelledSize (pending : List (Nat × Expr)) : Nat :=
  totalSize (pending.map Prod.snd)

/-- The deepest level among `deepest` and the nodes of the pending subtrees. -/
def deepestLevel (deepest : Nat) : List (Nat × Expr) → Nat
  | [] => deepest
  | (level, .term _) :: pending => deepestLevel (max deepest level) pending
  | (level, .not operand) :: pending =>
    deepestLevel (max deepest level) ((level + 1, operand) :: pending)
  | (level, .binary _ left right) :: pending =>
    deepestLevel (max deepest level) ((level + 1, right) :: (level + 1, left) :: pending)
termination_by pending => levelledSize pending
decreasing_by all_goals simp [levelledSize, size]; try omega

/-- The number of levels; a single term has one. -/
def depth (e : Expr) : Nat :=
  deepestLevel 0 [(1, e)]

/-- Whether the trees of every pending pair are the same. -/
def samePairs : List (Expr × Expr) → Bool
  | [] => true
  | (.term a, .term b) :: pending => a == b && samePairs pending
  | (.not a, .not b) :: pending => samePairs ((a, b) :: pending)
  | (.binary c a₁ a₂, .binary d b₁ b₂) :: pending =>
    c == d && samePairs ((a₁, b₁) :: (a₂, b₂) :: pending)
  | _ :: _ => false
termination_by pending => totalSize (pending.map Prod.fst)
decreasing_by all_goals simp [size]; try omega

/-- Whether two expressions have the same shape, operators and terms. -/
def same (a b : Expr) : Bool :=
  samePairs [(a, b)]

end Expr

end SearchQuery

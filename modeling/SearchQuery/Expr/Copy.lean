import SearchQuery.Expr.Basic

/-!
# Copying a tree without descending into it

A tree is copied with two stacks: one of what is still to be done and one of the copies that are
finished.  An operator is put back under its operands, so that these are copied first, and takes
their copies from the second stack when its turn comes.
-/

namespace SearchQuery

/-- What is still to be done in copying a tree. -/
inductive Rebuild where
  /-- Copy this subtree. -/
  | visit (e : Expr)
  /-- Negate the latest copy. -/
  | protected not
  /-- Connect the two latest copies. -/
  | binary (connective : Connective)

/-- A copy in progress: what is to be done, the next thing first, and the finished copies, the
latest first. -/
structure Copying where
  pending : List Rebuild
  built : List Expr

/-- Does the next thing.  An operator without enough operands is passed over, and what there is of
them is lost. -/
def Rebuild.perform (pending : List Rebuild) (built : List Expr) : Rebuild → Copying
  | visit (.term value) => ⟨pending, .term value :: built⟩
  | visit (.not operand) => ⟨visit operand :: .not :: pending, built⟩
  | visit (.binary connective left right) =>
    ⟨visit left :: visit right :: binary connective :: pending, built⟩
  | .not =>
    match built with
    | operand :: built => ⟨pending, .not operand :: built⟩
    | [] => ⟨pending, []⟩
  | binary connective =>
    match built with
    | right :: left :: built => ⟨pending, .binary connective left right :: built⟩
    | [_] | [] => ⟨pending, []⟩

/-- Twice the nodes of a subtree, and one for an operator that waits for its operands. -/
def Rebuild.weight : Rebuild → Nat
  | visit e => 2 * e.size
  | .not | binary _ => 1

namespace Copying

/-- The beginning of a copy. -/
def start (e : Expr) : Copying :=
  ⟨[.visit e], []⟩

/-- The weight of all that is to be done. -/
def weight (state : Copying) : Nat :=
  (state.pending.map Rebuild.weight).foldr (· + ·) 0

/-- Whatever is done, there is less to do after it. -/
theorem weight_perform_lt (step : Rebuild) (pending : List Rebuild) (built built' : List Expr) :
    (step.perform pending built).weight < weight ⟨step :: pending, built'⟩ := by
  fun_cases Rebuild.perform pending built step <;>
    simp only [weight, List.map_cons, List.foldr_cons, Rebuild.weight, Expr.size] <;> omega

/-- The copies that there are when nothing is left to do. -/
def finish : Copying → List Expr
  | ⟨[], built⟩ => built
  | ⟨step :: pending, built⟩ => (step.perform pending built).finish
termination_by state => state.weight
decreasing_by exact weight_perform_lt step pending built built

end Copying

/-- A copy of an expression; an empty term if there is none in the end. -/
def Expr.clone (e : Expr) : Expr :=
  match (Copying.start e).finish with
  | copy :: _ => copy
  | [] => .term ""

end SearchQuery

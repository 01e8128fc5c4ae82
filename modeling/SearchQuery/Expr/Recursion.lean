import SearchQuery.Expr.Assembly
import SearchQuery.Expr.Render
import SearchQuery.Expr.Traverse

/-!
# Readings of a tree by recursion on it

The terms, the depth and the written forms of an expression, each as a plain recursion on the
tree, and the proof that the readers which keep a list of pending subtrees compute the same.  For
each reader one statement covers every pending list; the equation for a single tree follows from
it.  The steps that build a tree are a recursion on it, too, and performed on a stack they leave it
there.

Main statements: `terms_eq_leaves`, `depth_eq_height`, `same_eq_true_iff`,
`inline_eq_inlineText`, `tree_eq_outline` and `run_steps_append`.
-/

namespace SearchQuery

/-! ### Terms and depth -/

namespace Expr

/-- The terms of a tree: those of the left side come before those of the right one. -/
def leaves : Expr → List String
  | .term value => [value]
  | .not operand => operand.leaves
  | .binary _ left right => left.leaves ++ right.leaves

/-- The number of levels of a tree: one more than that of its higher operand. -/
def height : Expr → Nat
  | .term _ => 1
  | .not operand => operand.height + 1
  | .binary _ left right => max left.height right.height + 1

/-- A tree has a level. -/
theorem height_pos (e : Expr) : 0 < e.height := by
  cases e <;> simp [height]

/-- The reader of terms collects those of the pending subtrees in turn. -/
theorem toList_collectTerms (done : Array String) (pending : List Expr) :
    (collectTerms done pending).toList = done.toList ++ pending.flatMap leaves := by
  fun_induction collectTerms done pending with
  | case1 => simp
  | case2 done value pending ih => simp [ih, leaves]
  | case3 done operand pending ih => simp [ih, leaves]
  | case4 done connective left right pending ih => simp [ih, leaves]

/-- The terms that are read are those of the tree. -/
theorem terms_eq_leaves (e : Expr) : e.terms = e.leaves := by
  simp [terms, toList_collectTerms]

/-- The deepest level among the nodes of the pending subtrees, and zero if there are none. -/
def lowestLevel : List (Nat × Expr) → Nat
  | [] => 0
  | (level, e) :: pending => max (level + e.height - 1) (lowestLevel pending)

/-- The reader of depths finds the deepest level of the pending subtrees. -/
theorem deepestLevel_eq (deepest : Nat) (pending : List (Nat × Expr)) :
    deepestLevel deepest pending = max deepest (lowestLevel pending) := by
  fun_induction deepestLevel deepest pending with
  | case1 => simp [lowestLevel]
  | case2 deepest level value pending ih =>
    simp only [ih, lowestLevel, height]
    omega
  | case3 deepest level operand pending ih =>
    have positive := operand.height_pos
    simp only [ih, lowestLevel, height]
    omega
  | case4 deepest level connective left right pending ih =>
    have leftLevel : level + 1 + left.height - 1 = level + left.height := by omega
    have rightLevel : level + 1 + right.height - 1 = level + right.height := by omega
    have bothLevels : level + (max left.height right.height + 1) - 1 =
        max (level + right.height) (level + left.height) := by
      rw [← Nat.add_assoc, Nat.add_sub_cancel, Nat.max_comm, Nat.add_max_add_left]
    have above : level ≤ level + right.height := Nat.le_add_right ..
    simp only [ih, lowestLevel, height, leftLevel, rightLevel, bothLevels]
    rw [Nat.max_assoc, ← Nat.max_assoc level, Nat.max_eq_right above, Nat.max_assoc]

/-- The depth that is read is the number of levels. -/
theorem depth_eq_height (e : Expr) : e.depth = e.height := by
  simp [depth, deepestLevel_eq, lowestLevel]

/-! ### Comparison -/

/-- The comparison succeeds if the trees of every pending pair are equal. -/
theorem samePairs_eq_true_iff (pending : List (Expr × Expr)) :
    samePairs pending = true ↔ ∀ pair ∈ pending, pair.1 = pair.2 := by
  fun_induction samePairs pending with
  | case1 => simp
  | case2 a b pending ih => simp [ih]
  | case3 a b pending ih => simp [ih]
  | case4 c a₁ a₂ d b₁ b₂ pending ih => simp [ih, and_assoc]
  | case5 pair pending terms nots binaries =>
    obtain ⟨a, b⟩ := pair
    have differ : a ≠ b := by
      rintro rfl
      cases a with
      | term value => exact terms value value rfl
      | not operand => exact nots operand operand rfl
      | binary connective left right =>
        exact binaries connective left right connective left right rfl
    simp [differ]

/-- The comparison finds exactly the equal trees. -/
theorem same_eq_true_iff (a b : Expr) : a.same b = true ↔ a = b := by
  simp [same, samePairs_eq_true_iff]

/-! ### Written forms -/

/-- A tree on one line. -/
def inlineText (layout : InlineLayout) : Expr → String
  | .term value => layout.term value
  | .not operand => layout.notOpen ++ operand.inlineText layout ++ layout.notClose
  | .binary connective left right =>
    layout.binaryOpen ++ left.inlineText layout ++ (" " ++ connective.keyword.text ++ " ") ++
      right.inlineText layout ++ layout.binaryClose

/-- The lines of a tree whose root is at the given level. -/
def outline (level : Nat) : Expr → String
  | .term value => indentation level ++ "Term(" ++ Quoted.string value ++ ")\n"
  | .not operand => indentation level ++ "NOT\n" ++ operand.outline (level + 1)
  | .binary connective left right =>
    indentation level ++ connective.keyword.text ++ "\n" ++ left.outline (level + 1) ++
      right.outline (level + 1)

end Expr

/-- The text that a piece stands for. -/
def Piece.written (layout : InlineLayout) : Piece → String
  | text s => s
  | node e => e.inlineText layout

/-- The text that pieces stand for, one after the other. -/
def Piece.allWritten (layout : InlineLayout) : List Piece → String
  | [] => ""
  | piece :: pieces => piece.written layout ++ allWritten layout pieces

namespace Expr

/-- The writer of one line writes the pending pieces in turn. -/
theorem writeInline_eq (layout : InlineLayout) (out : String) (pending : List Piece) :
    writeInline layout out pending = out ++ Piece.allWritten layout pending := by
  fun_induction writeInline layout out pending with
  | case1 out => rw [Piece.allWritten, String.append_empty]
  | case2 out s pending ih => rw [ih, Piece.allWritten, Piece.written, String.append_assoc]
  | case3 out value pending ih =>
    rw [ih, Piece.allWritten, Piece.written, inlineText, String.append_assoc]
  | case4 out operand pending ih =>
    rw [ih]
    simp only [Piece.allWritten, Piece.written, inlineText, String.append_assoc]
  | case5 out connective left right pending ih =>
    rw [ih]
    simp only [Piece.allWritten, Piece.written, inlineText, String.append_assoc]

/-- The line that is written is that of the tree. -/
theorem inline_eq_inlineText (layout : InlineLayout) (e : Expr) :
    e.inline layout = e.inlineText layout := by
  simp [inline, writeInline_eq, Piece.allWritten, Piece.written]

/-- The lines of pending subtrees, one after the other. -/
def outlines : List (Nat × Expr) → String
  | [] => ""
  | (level, e) :: pending => e.outline level ++ outlines pending

/-- The writer of outlines writes those of the pending subtrees in turn. -/
theorem writeTree_eq (out : String) (pending : List (Nat × Expr)) :
    writeTree out pending = out ++ outlines pending := by
  fun_induction writeTree out pending with
  | case1 out => rw [outlines, String.append_empty]
  | case2 out level value pending ih =>
    rw [ih]
    simp only [outlines, outline, String.append_assoc]
  | case3 out level operand pending ih =>
    rw [ih]
    simp only [outlines, outline, String.append_assoc]
  | case4 out level connective left right pending ih =>
    rw [ih]
    simp only [outlines, outline, String.append_assoc]

/-- The outline that is written is that of the tree. -/
theorem tree_eq_outline (e : Expr) : e.tree = e.outline 0 := by
  simp [tree, writeTree_eq, outlines]

/-! ### Assembly -/

/-- The steps that build a tree: those of its operands, then its own. -/
def steps : Expr → List Assembly
  | .term value => [.term value]
  | .not operand => operand.steps ++ [.not]
  | .binary connective left right => left.steps ++ right.steps ++ [.binary connective]

/-- Every step of a tree finds its operands, and together they leave the tree on the stack. -/
theorem run_steps_append (stack : List Expr) (e : Expr) (more : List Assembly) :
    Assembly.run stack (e.steps ++ more) = Assembly.run (e :: stack) more := by
  induction e generalizing stack more with
  | term value => simp [steps, Assembly.run, Assembly.apply]
  | not operand ih =>
    rw [steps, List.append_assoc, ih]
    simp [Assembly.run, Assembly.apply]
  | binary connective left right ihLeft ihRight =>
    rw [steps, List.append_assoc, List.append_assoc, ihLeft, ihRight]
    simp [Assembly.run, Assembly.apply]

end Expr

end SearchQuery

import Mathlib.Tactic.Lemma
import SearchQuery.Expr.Recursion
import SearchQuery.Proofs.Text.PrefixCode

/-!
# Readers of a tree and recursion on it

A reader that keeps a list of pending subtrees computes a plain recursion on the tree.  For the
depth, the terms and the writers this is known of every pending list; here it is shown of the reader
that gives one term at a time (`yields_leaves`), and the written forms are spelled out.

On one line, the two layouts give `compactText` and `queryText`.  An outline has one line for each
node, in the order in which a node comes before its operands (`preorder`, `tree_eq_join`); since no
label goes over the end of a line, there are as many lines as nodes (`count_newline_tree`).
-/

namespace SearchQuery

namespace Expr

/-! ## One term at a time -/

/-- Asked again and again, the reader gives these terms and then none. -/
inductive Yields : List Expr → List String → Prop
  | done {pending : List Expr} (h : nextTerm? pending = none) : Yields pending []
  | next {pending rest : List Expr} {value : String} {values : List String}
      (h : nextTerm? pending = some (value, rest)) (hrest : Yields rest values) :
      Yields pending (value :: values)

/-- The next term is the first leaf of the pending subtrees, and the others are still pending. -/
lemma leaves_eq_nextTerm? (pending : List Expr) :
    pending.flatMap leaves =
      match nextTerm? pending with
      | none => []
      | some (value, rest) => value :: rest.flatMap leaves := by
  fun_induction nextTerm? pending with
  | case1 => rfl
  | case2 value pending => rfl
  | case3 operand pending ih => exact ih
  | case4 connective left right pending ih =>
    rw [← ih, List.flatMap_cons, List.flatMap_cons, List.flatMap_cons, ← List.append_assoc]
    rfl

/-- What the pending subtrees yield are their leaves, from left to right. -/
lemma yields_leaves (pending : List Expr) : Yields pending (pending.flatMap leaves) := by
  generalize hvalues : pending.flatMap leaves = values
  rw [leaves_eq_nextTerm?] at hvalues
  induction values generalizing pending with
  | nil =>
    rcases hnext : nextTerm? pending with _ | ⟨value, rest⟩
    · exact .done hnext
    · simp [hnext] at hvalues
  | cons v values ih =>
    rcases hnext : nextTerm? pending with _ | ⟨value, rest⟩
    · simp [hnext] at hvalues
    · rw [hnext, List.cons.injEq] at hvalues
      obtain ⟨rfl, hrest⟩ := hvalues
      exact .next hnext (ih rest (leaves_eq_nextTerm? rest ▸ hrest))

/-! ## On one line -/

/-- The compact form: apostrophes around a term, braces around everything else. -/
def compactText : Expr → String
  | .term value => "'" ++ value ++ "'"
  | .not operand => "\x7bNOT " ++ operand.compactText ++ "\x7d"
  | .binary connective left right =>
    "\x7b" ++ left.compactText ++ " " ++ connective.keyword.text ++ " " ++ right.compactText ++
      "\x7d"

/-- The query: a term is quoted unless it is a plain word, and only binary expressions have
parentheses. -/
def queryText : Expr → String
  | .term value => if isBareWord value then value else "\"" ++ value ++ "\""
  | .not operand => "NOT " ++ operand.queryText
  | .binary connective left right =>
    "(" ++ left.queryText ++ " " ++ connective.keyword.text ++ " " ++ right.queryText ++ ")"

/-- The compact layout gives the compact form. -/
lemma inlineText_compact (e : Expr) : e.inlineText .compact = e.compactText := by
  induction e with
  | term value => rfl
  | not operand ih =>
    rw [inlineText, ih]
    rfl
  | binary connective left right ihl ihr =>
    rw [inlineText, ihl, ihr, compactText]
    simp only [InlineLayout.compact, String.append_assoc]

/-- The layout of queries gives the query. -/
lemma inlineText_query (e : Expr) : e.inlineText .query = e.queryText := by
  induction e with
  | term value => rfl
  | not operand ih =>
    rw [inlineText, ih, queryText]
    simp only [InlineLayout.query, String.append_empty]
  | binary connective left right ihl ihr =>
    rw [inlineText, ihl, ihr, queryText]
    simp only [InlineLayout.query, String.append_assoc]

/-! ## Line by line -/

/-- The text of a node in an outline. -/
def label : Expr → String
  | .term value => "Term(" ++ Quoted.string value ++ ")"
  | .not _ => "NOT"
  | .binary connective _ _ => connective.keyword.text

/-- The nodes of a tree with their levels, the root at the given one; a node comes before its
operands. -/
def preorder (level : Nat) : Expr → List (Nat × Expr)
  | .term value => [(level, .term value)]
  | .not operand => (level, .not operand) :: operand.preorder (level + 1)
  | .binary connective left right =>
    (level, .binary connective left right) ::
      (left.preorder (level + 1) ++ right.preorder (level + 1))

/-- The line of a node at a level: two spaces for each level and the label. -/
def line (node : Nat × Expr) : String :=
  String.ofList (List.replicate (2 * node.1) ' ') ++ node.2.label ++ "\n"

/-- The lines of a subtree are those of its nodes. -/
lemma outline_eq_join (e : Expr) (level : Nat) :
    e.outline level = String.join ((e.preorder level).map line) := by
  induction e generalizing level with
  | term value =>
    rw [preorder, List.map_singleton, String.join_cons, String.join_nil, String.append_empty]
    simp only [outline, line, label, indentation, String.append_assoc]
    rfl
  | not operand ih =>
    rw [preorder, List.map_cons, String.join_cons, ← ih]
    simp only [outline, line, label, indentation, String.append_assoc]
    rfl
  | binary connective left right ihl ihr =>
    rw [preorder, List.map_cons, List.map_append, String.join_cons, String.join_append, ← ihl,
      ← ihr]
    simp only [outline, line, label, indentation, String.append_assoc]

/-- An outline has one line for each node. -/
lemma tree_eq_join (e : Expr) : e.tree = String.join ((e.preorder 0).map line) := by
  rw [tree_eq_outline, outline_eq_join]

/-- The nodes of a tree are as many as its size. -/
lemma length_preorder (e : Expr) (level : Nat) : (e.preorder level).length = e.size := by
  induction e generalizing level with
  | term value => rfl
  | not operand ih => rw [preorder, List.length_cons, ih, size]
  | binary connective left right ihl ihr =>
    rw [preorder, List.length_cons, List.length_append, ihl, ihr, size]

/-! ## The ends of lines -/

/-- A label has no end of a line in it. -/
lemma newline_not_mem_label (e : Expr) : '\n' ∉ e.label.toList := by
  cases e with
  | term value =>
    rw [label, String.toList_append, String.toList_append, List.mem_append, List.mem_append, not_or,
      not_or]
    exact ⟨⟨by decide, Quoted.newline_not_mem_string value⟩, by decide⟩
  | not operand =>
    rw [label]
    decide
  | binary connective left right =>
    rw [label]
    cases connective <;> decide

/-- A line has one end. -/
lemma count_newline_line (node : Nat × Expr) : (line node).toList.count '\n' = 1 := by
  have hlabel : node.2.label.toList.count '\n' = 0 :=
    List.count_eq_zero.mpr (newline_not_mem_label node.2)
  rw [line, String.toList_append, String.toList_append, List.count_append, List.count_append,
    hlabel, String.toList_ofList, List.count_replicate]
  rfl

/-- There is one end of a line for each node. -/
lemma count_newline_join (nodes : List (Nat × Expr)) :
    (String.join (nodes.map line)).toList.count '\n' = nodes.length := by
  induction nodes with
  | nil => rfl
  | cons node nodes ih =>
    rw [List.map_cons, String.join_cons, String.toList_append, List.count_append,
      count_newline_line, ih, List.length_cons, Nat.add_comm]

/-- An outline has as many lines as the tree has nodes. -/
lemma count_newline_tree (e : Expr) : e.tree.toList.count '\n' = e.size := by
  rw [tree_eq_join, count_newline_join, length_preorder]

end Expr

/-- Every reader of a tree computes a plain recursion on it, whatever its shape and depth.  The
depth is the height; the terms are the leaves from left to right, also when they are asked for one
at a time; the two forms on one line are the compact text and the query.  There is an outline if its
deepest line can be indented, and it has one line for each node, which comes before its operands. -/
theorem readers_follow_the_tree (e : Expr) :
    e.depth = e.height ∧ e.terms = e.leaves ∧ Expr.Yields [e] e.leaves ∧
      e.compact = e.compactText ∧ e.query = e.queryText ∧
      (e.tree? = if 2 * (e.height - 1) ≤ Expr.indentationLimit then
        some (String.join ((e.preorder 0).map Expr.line)) else none) ∧
      (e.preorder 0).length = e.size ∧ e.tree.toList.count '\n' = e.size := by
  have hyields : Expr.Yields [e] e.leaves := by simpa using Expr.yields_leaves [e]
  refine ⟨e.depth_eq_height, e.terms_eq_leaves, hyields, ?_, ?_, ?_, e.length_preorder 0,
    e.count_newline_tree⟩
  · rw [Expr.compact, Expr.inline_eq_inlineText, Expr.inlineText_compact]
  · rw [Expr.query, Expr.inline_eq_inlineText, Expr.inlineText_query]
  · rw [Expr.tree?, Expr.depth_eq_height, Expr.tree_eq_join]

end SearchQuery

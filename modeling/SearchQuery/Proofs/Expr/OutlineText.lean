import SearchQuery.Proofs.Expr.Limits
import SearchQuery.Proofs.Expr.Traversal
import SearchQuery.Proofs.RoundTrip.ReadBack
import SearchQuery.Proofs.Text.PrefixCode

/-!
# An expression is identified by its outline

An outline is a list of lines, one for each node (`Expr.outlineLines`), and no value of a term can
forge one, since a quoted text does not go over the end of a line.  At every level outlines are a
prefix code (`Expr.isPrefixCode_outline`): the first line tells the kind of the node, and by that
how many operands follow, each at the next level.  Hence different expressions have different
outlines, also after the white space at the end is cut off.

An expression has an outline exactly if it has no more than 32768 levels.
-/

namespace SearchQuery

namespace Expr

/-! ## Lines -/

/-- The lines of an outline without their ends, one for each node. -/
def outlineLines (e : Expr) : List String :=
  (e.preorder 0).map fun node => indentation node.1 ++ node.2.label

/-- An outline consists of its lines, each with its end. -/
lemma tree_eq_join_outlineLines (e : Expr) :
    e.tree = String.join (e.outlineLines.map (· ++ "\n")) := by
  rw [tree_eq_join, outlineLines, List.map_map]
  rfl

/-- No line goes over its end. -/
lemma newline_not_mem_of_mem_outlineLines {e : Expr} {text : String}
    (htext : text ∈ e.outlineLines) : '\n' ∉ text.toList := by
  obtain ⟨node, -, rfl⟩ := List.mem_map.mp htext
  rw [String.toList_append, List.mem_append, not_or, indentation, String.toList_ofList]
  refine ⟨?_, newline_not_mem_label node.2⟩
  intro h
  exact absurd (List.eq_of_mem_replicate h) (by decide)

/-- The last node of a tree, each before its operands, is its last term. -/
lemma exists_preorder_eq_concat (e : Expr) (level : Nat) :
    ∃ front last value, e.preorder level = front ++ [(last, .term value)] ∧
      e.leaves.getLast? = some value := by
  induction e generalizing level with
  | term value => exact ⟨[], level, value, rfl, rfl⟩
  | not operand ih =>
    obtain ⟨front, last, value, hfront, hvalue⟩ := ih (level + 1)
    refine ⟨(level, .not operand) :: front, last, value, ?_, hvalue⟩
    rw [preorder, hfront, List.cons_append]
  | binary connective left right _ ih =>
    obtain ⟨front, last, value, hfront, hvalue⟩ := ih (level + 1)
    refine ⟨(level, .binary connective left right) :: (left.preorder (level + 1) ++ front), last,
      value, ?_, ?_⟩
    · rw [preorder, hfront, List.cons_append, List.append_assoc]
    · rw [leaves, List.getLast?_append, hvalue, Option.some_or]

/-- The last line of an outline is that of the last term. -/
lemma exists_getLast?_outlineLines (e : Expr) :
    ∃ level value, e.leaves.getLast? = some value ∧
      e.outlineLines.getLast? = some (indentation level ++ (Expr.term value).label) := by
  obtain ⟨front, level, value, hfront, hvalue⟩ := e.exists_preorder_eq_concat 0
  refine ⟨level, value, hvalue, ?_⟩
  rw [outlineLines, hfront, List.map_append, List.map_singleton, List.getLast?_concat]

/-! ## No two expressions have the same outline -/

/-- An outline can be told from whatever follows it. -/
lemma isPrefixCode_outline (level : Nat) :
    IsPrefixCode fun e : Expr => (e.outline level).toList := by
  intro a b r s h
  induction a generalizing b level r s with
  | term value =>
    cases b with
    | term other =>
      have hquoted : (Quoted.string value).toList ++ ')' :: '\n' :: r =
          (Quoted.string other).toList ++ ')' :: '\n' :: s := by
        simpa [outline] using h
      obtain ⟨rfl, hrest⟩ := Quoted.isPrefixCode_string hquoted
      exact ⟨rfl, by simpa using hrest⟩
    | not operand => simp [outline] at h
    | binary connective left right =>
      cases connective <;> simp [outline, Connective.keyword, Keyword.text] at h
  | not operand ih =>
    cases b with
    | term value => simp [outline] at h
    | not other =>
      have hoperand : (operand.outline (level + 1)).toList ++ r =
          (other.outline (level + 1)).toList ++ s := by
        simpa [outline] using h
      obtain ⟨rfl, hrest⟩ := ih (level + 1) hoperand
      exact ⟨rfl, hrest⟩
    | binary connective left right =>
      cases connective <;> simp [outline, Connective.keyword, Keyword.text] at h
  | binary connective left right ihl ihr =>
    cases b with
    | term value => cases connective <;> simp [outline, Connective.keyword, Keyword.text] at h
    | not operand => cases connective <;> simp [outline, Connective.keyword, Keyword.text] at h
    | binary other otherLeft otherRight =>
      have hsame : connective = other := by
        cases connective <;> cases other <;>
          first | rfl | simp [outline, Connective.keyword, Keyword.text] at h
      subst hsame
      have hsides : (left.outline (level + 1)).toList ++
          ((right.outline (level + 1)).toList ++ r) =
          (otherLeft.outline (level + 1)).toList ++
            ((otherRight.outline (level + 1)).toList ++ s) := by
        simpa [outline] using h
      obtain ⟨rfl, hright⟩ := ihl (level + 1) hsides
      obtain ⟨rfl, hrest⟩ := ihr (level + 1) hright
      exact ⟨rfl, hrest⟩

/-- No two expressions have the same outline. -/
lemma tree_injective : Function.Injective tree := by
  intro a b h
  rw [tree_eq_outline, tree_eq_outline] at h
  exact (isPrefixCode_outline 0).injective (congrArg String.toList h)

/-- Nor have they when the white space at the end is cut off. -/
lemma trimWhiteSpaceEnd_tree_injective :
    Function.Injective fun e : Expr => trimWhiteSpaceEnd e.tree := by
  intro a b h
  apply tree_injective
  rw [← trimWhiteSpaceEnd_tree a, ← trimWhiteSpaceEnd_tree b]
  exact congrArg (· ++ "\n") h

end Expr

/-! ## What an outline says -/

/-- The text tells the expression. -/
structure Identifies (text : String) (e : Expr) : Prop where
  /-- It consists of one line for each node, whatever the values of the terms are. -/
  text_eq : text = String.join (e.outlineLines.map (· ++ "\n"))
  length_lines : e.outlineLines.length = e.size
  newline_not_mem : ∀ line ∈ e.outlineLines, '\n' ∉ line.toList
  /-- The last line is that of the last term. -/
  last_line : ∃ level value, e.leaves.getLast? = some value ∧
    e.outlineLines.getLast? =
      some (Expr.indentation level ++ ("Term(" ++ Quoted.string value ++ ")"))
  /-- It is the outline of no other expression. -/
  eq_of_tree : ∀ other : Expr, other.tree = text → other = e
  /-- The outline of no other expression is printed like it. -/
  eq_of_printed : ∀ other : Expr,
    trimWhiteSpaceEnd other.tree = trimWhiteSpaceEnd text → other = e

/-- The text of an outline tells the expression. -/
lemma identifies_tree (e : Expr) : Identifies e.tree e := by
  constructor
  · exact e.tree_eq_join_outlineLines
  · rw [Expr.outlineLines, List.length_map, Expr.length_preorder]
  · intro line hline
    exact Expr.newline_not_mem_of_mem_outlineLines hline
  · exact e.exists_getLast?_outlineLines
  · intro other h
    exact Expr.tree_injective h
  · intro other h
    exact Expr.trimWhiteSpaceEnd_tree_injective h

/-- The text of an outline has one line for each node, whatever the values of the terms are, ends
with the line of a term, and is that of no other expression; the outline is written if and only if
the expression has no more than 32768 levels. -/
theorem outline_identifies (e : Expr) :
    Identifies e.tree e ∧
      ((∃ text, e.tree? = some text ∧ Identifies text e) ↔ e.depth ≤ 32768) := by
  refine ⟨identifies_tree e, ?_⟩
  constructor
  · rintro ⟨text, htext, -⟩
    exact (Expr.tree?_eq_some_iff.mp htext).1
  · intro hdepth
    exact ⟨e.tree, Expr.tree?_eq_some_iff.mpr ⟨hdepth, rfl⟩, identifies_tree e⟩

/-- A run of 32769 words is read as an expression without an outline. -/
theorem long_word_run_has_no_outline :
    ∃ e, parseQuery (wordRun 32768) = .ok e ∧
      ¬ ∃ text, e.tree? = some text ∧ text.toList.count '\n' = e.size := by
  obtain ⟨e, hread, hdeep⟩ := exists_parseQuery_wordRun_deep 32768
  refine ⟨e, hread, ?_⟩
  rintro ⟨text, htext, -⟩
  exact absurd (Expr.tree?_eq_some_iff.mp htext).1 (Nat.not_le.mpr hdeep)

end SearchQuery

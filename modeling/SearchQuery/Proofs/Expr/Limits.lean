import Mathlib.Tactic.Lemma
import SearchQuery.Expr.Recursion
import SearchQuery.Query
import SearchQuery.Text.Trim

/-!
# How deep an expression may be to be written

On one line every expression can be written.  An outline indents the deepest node most, and JSON
nests it deepest, so both are bounded by the number of levels alone: an outline exists up to 32768
levels (`tree?_eq_some_iff`), and a JSON form up to 512 (`Expr.toJson_eq`,
`SearchOption.toJson_eq`).
An outline ends with a term and the end of its line, of which only the latter is white space
(`trimWhiteSpaceEnd_tree`).
-/

namespace SearchQuery

namespace Expr

/-! ## Outlines -/

/-- What the last line of an outline ends with is a closing parenthesis. -/
lemma exists_toList_outline (e : Expr) (level : Nat) :
    ∃ front, (e.outline level).toList = front ++ [')', '\n'] := by
  induction e generalizing level with
  | term value =>
    refine ⟨(indentation level ++ "Term(" ++ Quoted.string value).toList, ?_⟩
    rw [outline, String.toList_append]
    rfl
  | not operand ih =>
    obtain ⟨front, hfront⟩ := ih (level + 1)
    refine ⟨(indentation level ++ "NOT\n").toList ++ front, ?_⟩
    rw [outline, String.toList_append, hfront, List.append_assoc]
  | binary connective left right _ ih =>
    obtain ⟨front, hfront⟩ := ih (level + 1)
    rw [outline, String.toList_append, hfront, ← List.append_assoc]
    exact ⟨_, rfl⟩

/-- Of an outline, the white space at the end is the end of the last line. -/
lemma trimWhiteSpaceEnd_tree (e : Expr) : trimWhiteSpaceEnd e.tree ++ "\n" = e.tree := by
  obtain ⟨front, hfront⟩ := exists_toList_outline e 0
  have hlist : e.tree.toList = front ++ [')'] ++ ['\n'] := by
    rw [tree_eq_outline, hfront, List.append_assoc]
    rfl
  have hnewline : ∀ d ∈ ['\n'], isWhiteSpace d = true := List.forall_mem_singleton.mpr (by decide)
  have hparen : dropEndWhile isWhiteSpace (front ++ [')']) = front ++ [')'] := by
    have hstop : isWhiteSpace ')' = false := by decide
    simp [dropEndWhile, hstop]
  apply String.toList_injective
  rw [trimWhiteSpaceEnd, hlist, dropEndWhile_append _ _ _ hnewline, hparen, String.toList_append,
    String.toList_ofList]
  rfl

/-- The most levels that an outline has. -/
def outlineDepth : Nat := 32768

/-- An outline has a bounded number of levels. -/
lemma tree?_eq_some_iff {e : Expr} {text : String} :
    e.tree? = some text ↔ e.depth ≤ outlineDepth ∧ e.tree = text := by
  have hbound : 2 * (e.depth - 1) ≤ indentationLimit ↔ e.depth ≤ outlineDepth := by
    unfold indentationLimit outlineDepth
    omega
  rw [tree?]
  by_cases hdepth : e.depth ≤ outlineDepth
  · simp [hbound.mpr hdepth, hdepth]
  · simp [mt hbound.mp hdepth, hdepth]

/-! ## JSON -/

/-- The JSON form of an expression, however deep it is. -/
def json : Expr → Json
  | .term value => .object [("type", .string "term"), ("value", .string value)]
  | .not operand =>
    .object [("type", .string "unary"), ("op", .string Keyword.not.text), ("operand", operand.json)]
  | .binary connective left right =>
    .object [("type", .string "binary"), ("op", .string connective.keyword.text),
      ("left", left.json), ("right", right.json)]

/-- The JSON form is written if the tree has no more levels than it may have. -/
lemma toJsonWithin_eq (levels : Nat) (e : Expr) :
    e.toJsonWithin levels = if e.height ≤ levels then .ok e.json else .error .nestedTooDeep := by
  induction e generalizing levels with
  | term value =>
    cases levels with
    | zero => rfl
    | succ levels => rw [toJsonWithin, if_pos (by simp [height]), json]
  | not operand ih =>
    cases levels with
    | zero => rfl
    | succ levels =>
      rw [toJsonWithin, ih, height]
      by_cases hlevels : operand.height ≤ levels
      · simp [hlevels, json]
      · simp [hlevels]
  | binary connective left right ihl ihr =>
    cases levels with
    | zero => rfl
    | succ levels =>
      have hlevels : max left.height right.height + 1 ≤ levels + 1 ↔
          left.height ≤ levels ∧ right.height ≤ levels := by omega
      rw [toJsonWithin, ihl, ihr, height]
      simp only [hlevels]
      by_cases hleft : left.height ≤ levels
      · by_cases hright : right.height ≤ levels
        · simp [hleft, hright, json]
        · simp [hleft, hright]
      · simp [hleft]

/-- The JSON form of an expression has a bounded number of levels. -/
lemma toJson_eq (e : Expr) :
    e.toJson = if e.depth ≤ serializeDepth then .ok e.json else .error .nestedTooDeep := by
  rw [toJson, toJsonWithin_eq, depth_eq_height]

end Expr

namespace SearchOption

/-- The JSON form of an option, however deep its expression is. -/
def json (option : SearchOption) : Json :=
  .object [("text", .string option.text), ("expression", option.expression.json)]

/-- The JSON form of an option is written if its expression is not too deep. -/
lemma toJson_eq (option : SearchOption) :
    option.toJson =
      if option.expression.depth ≤ serializeDepth then .ok option.json
      else .error .nestedTooDeep := by
  rw [toJson, Expr.toJson_eq]
  by_cases hdepth : option.expression.depth ≤ serializeDepth
  · rw [if_pos hdepth, if_pos hdepth, json]
  · rw [if_neg hdepth, if_neg hdepth]

/-- An option has a JSON form if its expression is not too deep. -/
lemma toJson_eq_ok_iff (option : SearchOption) :
    (∃ value, option.toJson = .ok value) ↔ option.expression.depth ≤ serializeDepth := by
  rw [toJson_eq]
  by_cases hdepth : option.expression.depth ≤ serializeDepth
  · simp [hdepth]
  · simp [hdepth]

end SearchOption

end SearchQuery

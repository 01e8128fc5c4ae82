import Mathlib.Data.List.Forall2
import SearchQuery.Proofs.Parser.Grammar

/-!
# What a parsed expression is made of

Reading tokens loses, duplicates and reorders nothing.  The terms of the tree are the values of the
words and phrases in their order, each `NOT` and each `OR` among the tokens is a node of the tree,
and only terms are negated.  All of this is seen along a derivation, rule by rule, so the order in
which the parser folds alternatives and conjunctions does not matter here.

An `AND` may be implied, so what is said of conjunctions is said of the tree: a tree has one
connective less than it has terms.  Hence a tree that negates only terms is no higher than it has
terms, but for one more level.
-/

namespace SearchQuery

namespace Expr

/-- Every negation in the tree is that of a term. -/
def NegatesTerms : Expr → Prop
  | .term _ => True
  | .not operand => ∃ value, operand = .term value
  | .binary _ left right => left.NegatesTerms ∧ right.NegatesTerms

/-- The number of negations in a tree. -/
def negationCount : Expr → Nat
  | .term _ => 0
  | .not operand => operand.negationCount + 1
  | .binary _ left right => left.negationCount + right.negationCount

/-- The number of nodes of a tree with the given connective. -/
def connectiveCount (connective : Connective) : Expr → Nat
  | .term _ => 0
  | .not operand => operand.connectiveCount connective
  | .binary c left right =>
    left.connectiveCount connective + right.connectiveCount connective +
      if c = connective then 1 else 0

/-! ### Trees and their terms -/

/-- Every tree has a term. -/
lemma length_leaves_pos (e : Expr) : 0 < e.leaves.length := by
  induction e with
  | term value => exact Nat.one_pos
  | not operand ih => exact ih
  | binary connective left right ihl _ =>
    rw [leaves, List.length_append]
    omega

/-- Each connective joins two trees, so all of them together leave one. -/
lemma connectiveCount_add_one (e : Expr) :
    e.connectiveCount .and + e.connectiveCount .or + 1 = e.leaves.length := by
  induction e with
  | term value => rfl
  | not operand ih => exact ih
  | binary connective left right ihl ihr =>
    rw [leaves, List.length_append, ← ihl, ← ihr]
    cases connective <;> simp [connectiveCount] <;> omega

/-- A tree that negates only terms has at most one level more than it has terms. -/
lemma height_le_length_leaves {e : Expr} (h : e.NegatesTerms) :
    e.height ≤ e.leaves.length + 1 := by
  induction e with
  | term value => exact Nat.le_succ 1
  | not operand _ =>
    obtain ⟨value, rfl⟩ := h
    exact Nat.le_refl 2
  | binary connective left right ihl ihr =>
    have hleft := ihl h.1
    have hright := ihr h.2
    have hposl := left.length_leaves_pos
    have hposr := right.length_leaves_pos
    rw [leaves, List.length_append, height]
    omega

end Expr

/-! ### Along a derivation -/

variable {x : Nonterminal} {n : Nat} {ts : List Token} {e : Expr}

/-- A tree that tokens derive negates only terms. -/
lemma negatesTerms_of_derives (h : Derives x n ts e) : e.NegatesTerms := by
  induction h with
  | single _ ih => exact ih
  | first _ ih => exact ih
  | ungrouped _ ih => exact ih
  | group _ _ _ ih => exact ih
  | alternative _ _ _ ihl ihr => exact ⟨ihl, ihr⟩
  | implied _ _ ihl ihr => exact ⟨ihl, ihr⟩
  | written _ _ _ ihl ihr => exact ⟨ihl, ihr⟩
  | literal _ => exact trivial
  | negated _ _ => exact ⟨_, rfl⟩

/-- Only words and phrases are literals, and each has the value that the parser takes it for. -/
lemma forall₂_hasValue_literals (ts : List Token) :
    List.Forall₂ HasValue (literals ts) ((literals ts).map Token.literal) := by
  rw [List.forall₂_map_right_iff, List.forall₂_same]
  intro t ht
  have hkind := (List.mem_filter.mp ht).2
  exact hasValue_literal (by simpa using hkind)

/-- A word or a phrase is no keyword. -/
lemma HasValue.kind_ne_keyword {t : Token} {v : String} (h : HasValue t v) (k : Keyword) :
    t.kind ≠ .keyword k := by
  rcases h.kind with hk | hk <;> simp [hk]

/-- Each `NOT` among the tokens is a negation in the tree. -/
lemma negationCount_of_derives (h : Derives x n ts e) :
    e.negationCount = ts.countP (·.kind = .keyword .not) := by
  induction h with
  | single _ ih => exact ih
  | first _ ih => exact ih
  | ungrouped _ ih => exact ih
  | alternative _ ht _ ihl ihr => simp [Expr.or, Expr.negationCount, ihl, ihr, ht]
  | implied _ _ ihl ihr => simp [Expr.and, Expr.negationCount, ihl, ihr]
  | written _ ht _ ihl ihr => simp [Expr.and, Expr.negationCount, ihl, ihr, ht]
  | group ho _ hc ih => simp [ih, ho, hc]
  | literal hv => simp [Expr.negationCount, hv.kind_ne_keyword]
  | negated ht hv => simp [Expr.negationCount, ht, hv.kind_ne_keyword]

/-- Each `OR` among the tokens is a node of the tree. -/
lemma connectiveCount_or_of_derives (h : Derives x n ts e) :
    e.connectiveCount .or = ts.countP (·.kind = .keyword .or) := by
  induction h with
  | single _ ih => exact ih
  | first _ ih => exact ih
  | ungrouped _ ih => exact ih
  | alternative _ ht _ ihl ihr =>
    simp [Expr.or, Expr.connectiveCount, ihl, ihr, ht, Nat.add_assoc]
  | implied _ _ ihl ihr => simp [Expr.and, Expr.connectiveCount, ihl, ihr]
  | written _ ht _ ihl ihr => simp [Expr.and, Expr.connectiveCount, ihl, ihr, ht]
  | group ho _ hc ih => simp [ih, ho, hc]
  | literal hv => simp [Expr.connectiveCount, hv.kind_ne_keyword]
  | negated ht hv => simp [Expr.connectiveCount, ht, hv.kind_ne_keyword]

/-! ### What reading keeps -/

/-- Reading tokens loses, duplicates and reorders nothing: the terms are the values of the words and
phrases, each `NOT` negates a term and each `OR` is a node, and neither the connectives nor the
levels of the tree are more than its terms ask for. -/
theorem parse_keeps_contents (h : parse ts = .ok e) :
    List.Forall₂ HasValue (ts.filter fun t => t.kind = .word ∨ t.kind = .phrase) e.terms ∧
      e.negationCount = ts.countP (·.kind = .keyword .not) ∧
      e.connectiveCount .or = ts.countP (·.kind = .keyword .or) ∧
      e.connectiveCount .and + e.connectiveCount .or + 1 = e.terms.length ∧
      e.NegatesTerms ∧
      e.depth ≤ e.terms.length + 1 := by
  have hderives := parse_eq_ok_iff_derives.mp h
  have hneg := negatesTerms_of_derives hderives
  rw [Expr.terms_eq_leaves, Expr.depth_eq_height]
  refine ⟨?_, negationCount_of_derives hderives, connectiveCount_or_of_derives hderives,
    e.connectiveCount_add_one, hneg, Expr.height_le_length_leaves hneg⟩
  rw [leaves_of_derives hderives]
  exact forall₂_hasValue_literals ts

/-- The tree of `(NOT a) "b c" OR d` has three terms, one negation and one alternative. -/
theorem grouped_negation_keeps_contents :
    let ts : List Token :=
      [⟨.openParen, "(", 0⟩, ⟨.keyword .not, "NOT", 1⟩, ⟨.word, "a", 5⟩, ⟨.closeParen, ")", 6⟩,
        ⟨.phrase, "\"b c\"", 8⟩, ⟨.keyword .or, "OR", 14⟩, ⟨.word, "d", 17⟩]
    let e : Expr := .or (.and (.not (.term "a")) (.term "b c")) (.term "d")
    parse ts = .ok e ∧
      List.Forall₂ HasValue (ts.filter fun t => t.kind = .word ∨ t.kind = .phrase) e.terms ∧
      e.negationCount = ts.countP (·.kind = .keyword .not) ∧
      e.connectiveCount .or = ts.countP (·.kind = .keyword .or) ∧
      e.connectiveCount .and + e.connectiveCount .or + 1 = e.terms.length ∧
      e.NegatesTerms ∧
      e.depth ≤ e.terms.length + 1 := by
  intro ts e
  have h : parse ts = .ok e := by cbv
  exact ⟨h, parse_keeps_contents h⟩

end SearchQuery

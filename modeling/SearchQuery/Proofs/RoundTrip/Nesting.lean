import SearchQuery.Proofs.Parser.Contents
import SearchQuery.Proofs.RoundTrip.Spelling

/-!
# How deep the groups of a written expression nest

A tree with operands of negations that are terms, and with at most `n` connectives on a path, is
derived by its spelling with groups nested at most `n` deep (`derives_spelling`).  No smaller depth
will do, for any tree: what derives anything within depth `n` has at no point more than `n` groups
open (`nested_of_derives`), whereas the spelling of a tree has, at some point, as many groups open
as there are connectives on one of its paths (`exists_openCount_spelling`).
-/

namespace SearchQuery

namespace Expr

/-- The most connectives on a path from the root to a term. -/
def connectiveDepth : Expr → Nat
  | .term _ => 0
  | .not operand => operand.connectiveDepth
  | .binary _ left right => max left.connectiveDepth right.connectiveDepth + 1

/-- An expression has more levels than connectives on a path. -/
lemma connectiveDepth_lt_depth (e : Expr) : e.connectiveDepth < e.depth := by
  rw [depth_eq_height]
  induction e with
  | term value => exact Nat.zero_lt_one
  | not operand ih => exact ih.trans (Nat.lt_succ_self _)
  | binary connective left right ihl ihr =>
    rw [connectiveDepth, height]
    omega

end Expr

/-! ## A depth that is enough -/

/-- The token that spells a term has it as its value. -/
lemma hasValue_spelling {offset : Nat} {value : String} :
    HasValue (Token.spelling offset value) value := by
  unfold Token.spelling
  split_ifs with hbare
  · exact .word rfl
  · exact .quoted rfl rfl

/-- Two operands with a keyword between them, in parentheses, derive what the keyword says. -/
lemma derives_binary {n : Nat} {o t c : Token} {ts us : List Token} {connective : Connective}
    {l r : Expr} (ho : o.kind = .openParen) (hleft : Derives .operand n ts l)
    (ht : t.kind = .keyword connective.keyword) (hright : Derives .operand n us r)
    (hc : c.kind = .closeParen) :
    Derives .operand (n + 1) (o :: (ts ++ t :: (us ++ [c]))) (.binary connective l r) := by
  have hexpr : Derives .expression n (ts ++ t :: us) (.binary connective l r) := by
    cases connective with
    | and => exact .single (.written (.first hleft) ht hright)
    | or => exact .alternative (.first hleft) ht (.single (.first hright))
  have hlist : o :: (ts ++ t :: (us ++ [c])) = o :: (ts ++ t :: us) ++ [c] := by simp
  rw [hlist]
  exact .group ho hexpr hc

/-- The spelling of a tree derives it when groups may nest as deep as its connectives do. -/
lemma derives_spelling {e : Expr} {n offset : Nat} (hneg : e.NegatesTerms)
    (hdepth : e.connectiveDepth ≤ n) : Derives .operand n (e.spelling offset) e := by
  induction e generalizing n offset with
  | term value => exact .ungrouped (.literal hasValue_spelling)
  | not operand ih =>
    obtain ⟨value, rfl⟩ := hneg
    exact .ungrouped (.negated rfl hasValue_spelling)
  | binary connective left right ihl ihr =>
    rw [Expr.connectiveDepth] at hdepth
    obtain ⟨m, rfl⟩ : ∃ m, n = m + 1 := ⟨n - 1, by omega⟩
    have hleft : left.connectiveDepth ≤ m := by omega
    have hright : right.connectiveDepth ≤ m := by omega
    exact derives_binary rfl (ihl hneg.1 hleft) rfl (ihr hneg.2 hright) rfl

/-! ## No smaller depth is enough -/

/-- The number of opening parentheses. -/
def openCount (ts : List Token) : Nat :=
  ts.countP (·.kind = .openParen)

/-- The number of closing parentheses. -/
def closeCount (ts : List Token) : Nat :=
  ts.countP (·.kind = .closeParen)

/-- No tokens open no groups. -/
@[simp] lemma openCount_nil : openCount [] = 0 := rfl

/-- No tokens close no groups. -/
@[simp] lemma closeCount_nil : closeCount [] = 0 := rfl

/-- The first token may open a group. -/
@[simp] lemma openCount_cons (t : Token) (ts : List Token) :
    openCount (t :: ts) = openCount ts + if t.kind = .openParen then 1 else 0 := by
  simp [openCount, List.countP_cons]

/-- The first token may close a group. -/
@[simp] lemma closeCount_cons (t : Token) (ts : List Token) :
    closeCount (t :: ts) = closeCount ts + if t.kind = .closeParen then 1 else 0 := by
  simp [closeCount, List.countP_cons]

/-- The groups that are opened in two parts. -/
@[simp] lemma openCount_append (ts us : List Token) :
    openCount (ts ++ us) = openCount ts + openCount us :=
  List.countP_append

/-- The groups that are closed in two parts. -/
@[simp] lemma closeCount_append (ts us : List Token) :
    closeCount (ts ++ us) = closeCount ts + closeCount us :=
  List.countP_append

/-- All groups in the tokens are closed, and never more than `n` of them are open. -/
structure Nested (n : Nat) (ts : List Token) : Prop where
  closed : openCount ts = closeCount ts
  bounded : ∀ p, p <+: ts → openCount p ≤ closeCount p + n

/-- No tokens are nested in any depth. -/
lemma nested_nil {n : Nat} : Nested n [] := by
  refine ⟨rfl, ?_⟩
  intro p hp
  rw [List.prefix_nil.mp hp]
  exact Nat.zero_le _

/-- A token that is no parenthesis changes nothing. -/
lemma Nested.cons {n : Nat} {t : Token} {ts : List Token} (h : Nested n ts)
    (ho : t.kind ≠ .openParen) (hc : t.kind ≠ .closeParen) : Nested n (t :: ts) := by
  refine ⟨by simpa [ho, hc] using h.closed, ?_⟩
  intro p hp
  rcases List.prefix_cons_iff.mp hp with rfl | ⟨q, rfl, hq⟩
  · exact Nat.zero_le _
  · simpa [ho, hc] using h.bounded q hq

/-- Groups that come one after the other do not nest deeper. -/
lemma Nested.append {n : Nat} {ts us : List Token} (hts : Nested n ts) (hus : Nested n us) :
    Nested n (ts ++ us) := by
  have hclosed := hts.closed
  refine ⟨by simp [hclosed, hus.closed], ?_⟩
  intro p hp
  rcases List.prefix_or_prefix_of_prefix hp (List.prefix_append ts us) with hin | ⟨q, rfl⟩
  · exact hts.bounded p hin
  · have hq := hus.bounded q ((List.prefix_append_right_inj ts).mp hp)
    rw [openCount_append, closeCount_append]
    omega

/-- A group is one deeper than what is in it. -/
lemma Nested.group {n : Nat} {o c : Token} {ts : List Token} (h : Nested n ts)
    (ho : o.kind = .openParen) (hc : c.kind = .closeParen) : Nested (n + 1) (o :: ts ++ [c]) := by
  have hclosed := h.closed
  refine ⟨by simp [ho, hc, hclosed], ?_⟩
  intro p hp
  rcases List.prefix_cons_iff.mp hp with rfl | ⟨q, rfl, hq⟩
  · exact Nat.zero_le _
  · rcases List.prefix_concat_iff.mp hq with rfl | hin
    · simp [ho, hc, hclosed]
    · have hbound := h.bounded q hin
      simp [ho]
      omega

/-- The groups of what derives a tree nest as deep as the derivation allows. -/
lemma nested_of_derives {x : Nonterminal} {n : Nat} {ts : List Token} {e : Expr}
    (h : Derives x n ts e) : Nested n ts := by
  induction h with
  | single _ ih => exact ih
  | first _ ih => exact ih
  | ungrouped _ ih => exact ih
  | alternative _ ht _ ihl ihr => exact ihl.append (ihr.cons (by simp [ht]) (by simp [ht]))
  | implied _ _ ihl ihr => exact ihl.append ihr
  | written _ ht _ ihl ihr => exact ihl.append (ihr.cons (by simp [ht]) (by simp [ht]))
  | group ho _ hc ih => exact ih.group ho hc
  | literal hv =>
    rcases hv.kind with hk | hk <;> exact nested_nil.cons (by simp [hk]) (by simp [hk])
  | negated ht hv =>
    refine Nested.cons ?_ (by simp [ht]) (by simp [ht])
    rcases hv.kind with hk | hk <;> exact nested_nil.cons (by simp [hk]) (by simp [hk])

/-- The token that spells a term is no parenthesis. -/
lemma kind_spelling {offset : Nat} {value : String} :
    (Token.spelling offset value).kind ≠ .openParen ∧
      (Token.spelling offset value).kind ≠ .closeParen := by
  unfold Token.spelling
  split_ifs <;> simp

/-- All groups in the spelling of a tree are closed. -/
lemma openCount_spelling {e : Expr} {offset : Nat} :
    openCount (e.spelling offset) = closeCount (e.spelling offset) := by
  induction e generalizing offset with
  | term value => simp [Expr.spelling, kind_spelling]
  | not operand ih => simp [Expr.spelling, ih]
  | binary connective left right ihl ihr =>
    simp [Expr.spelling, ihl, ihr]
    omega

/-- At some point in the spelling of a tree as many groups are open as there are connectives on one
of its paths. -/
lemma exists_openCount_spelling (e : Expr) (offset : Nat) :
    ∃ p, p <+: e.spelling offset ∧ openCount p = closeCount p + e.connectiveDepth := by
  induction e generalizing offset with
  | term value => exact ⟨[], List.nil_prefix, rfl⟩
  | not operand ih =>
    obtain ⟨p, hp, hopen⟩ := ih (offset + byteLength Keyword.not.text.toList + 1)
    refine ⟨⟨.keyword .not, Keyword.not.text, offset⟩ :: p, ?_, ?_⟩
    · exact (List.prefix_cons_inj _).mpr hp
    · simpa [Expr.connectiveDepth] using hopen
  | binary connective left right ihl ihr =>
    by_cases hle : right.connectiveDepth ≤ left.connectiveDepth
    · -- The deeper path is on the left, right after the parenthesis.
      obtain ⟨p, hp, hopen⟩ := ihl (offset + 1)
      refine ⟨⟨.openParen, "(", offset⟩ :: p, ?_, ?_⟩
      · exact (List.prefix_cons_inj _).mpr (hp.trans (List.prefix_append _ _))
      · simp [Expr.connectiveDepth, hopen]
        omega
    · -- It is on the right, where the groups on the left have been closed.
      let middle := offset + 1 + byteLength left.written + 1
      obtain ⟨p, hp, hopen⟩ := ihr (middle + byteLength connective.keyword.text.toList + 1)
      refine ⟨⟨.openParen, "(", offset⟩ :: (left.spelling (offset + 1) ++
        ⟨.keyword connective.keyword, connective.keyword.text, middle⟩ :: p), ?_, ?_⟩
      · refine (List.prefix_cons_inj _).mpr ((List.prefix_append_right_inj _).mpr ?_)
        exact (List.prefix_cons_inj _).mpr (hp.trans (List.prefix_append _ _))
      · simp [Expr.connectiveDepth, hopen, openCount_spelling]
        omega

/-- What derives anything from the spelling of a tree lets groups nest as deep as its connectives
do. -/
lemma connectiveDepth_le_of_derives {x : Nonterminal} {n offset : Nat} {e e' : Expr}
    (h : Derives x n (e.spelling offset) e') : e.connectiveDepth ≤ n := by
  obtain ⟨p, hp, hopen⟩ := exists_openCount_spelling e offset
  have hbound := (nested_of_derives h).bounded p hp
  omega

end SearchQuery

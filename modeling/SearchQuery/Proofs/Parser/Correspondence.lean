import Mathlib.Data.List.Forall2
import SearchQuery.Proofs.Parser.Readers

/-!
# What the parser does not look at

The parser decides by the kinds of the tokens alone.  The text of a word or a phrase goes into the
tree as a term, and the offset of some token goes into an error, but neither is ever looked at.

So if the tokens of two lists are of the same kinds, one by one, the parser takes the same course on
both.  Two relations stand for what it does not look at: one between the offsets of tokens in the
same place and one between their values.  Then the positions of errors are so related
(`ParseError.Corresponds`) and the terms in the same place of the trees (`Expr.Corresponds`),
whatever the relations are (`parse_inStep`).  Each reader keeps two lists in step, by induction on
what is left of them.
-/

namespace SearchQuery

/-! ## Errors, trees and tokens that correspond -/

/-- The same error at another position. -/
def LexError.mapPosition (f : Nat → Nat) : LexError → LexError
  | forbiddenCharacter c mode position => forbiddenCharacter c mode (f position)
  | alreadyFinished mode => alreadyFinished mode
  | notFinished mode position => notFinished mode (f position)

namespace ParseError

/-- The same error at another position. -/
def mapPosition (f : Nat → Nat) : ParseError → ParseError
  | noExpression position => noExpression (position.map f)
  | tokenizer e => tokenizer (e.mapPosition f)
  | invalidNotOperand found position => invalidNotOperand found (f position)
  | missingClose position => missingClose (f position)
  | unexpectedKind expected found position => unexpectedKind expected found (f position)
  | trailingToken found position => trailingToken found (f position)
  | missingOperand operator position => missingOperand operator (f position)
  | misplacedOperator operator position => misplacedOperator operator (f position)
  | nestingTooDeep limit position => nestingTooDeep limit (f position)
  | operatorAfterAnd operator position => operatorAfterAnd operator (f position)

/-- The errors differ in their positions only. -/
def SameCause (err err' : ParseError) : Prop :=
  err.mapPosition (fun _ => 0) = err'.mapPosition (fun _ => 0)

/-- The errors differ in their positions only, and these are related if there are any. -/
structure Corresponds (P : Nat → Nat → Prop) (err err' : ParseError) : Prop where
  cause : err.SameCause err'
  position : Option.Rel P err.position? err'.position?

end ParseError

/-- The trees differ in their terms only, and these are related. -/
inductive Expr.Corresponds (V : String → String → Prop) : Expr → Expr → Prop
  | term {v w : String} (h : V v w) : Corresponds V (.term v) (.term w)
  | not {x y : Expr} (h : Corresponds V x y) : Corresponds V (.not x) (.not y)
  | binary {c : Connective} {l r l' r' : Expr} (hl : Corresponds V l l')
      (hr : Corresponds V r r') : Corresponds V (.binary c l r) (.binary c l' r')

/-- The trees differ in their terms only. -/
def Expr.SameShape (e e' : Expr) : Prop :=
  e.Corresponds (fun _ _ => True) e'

/-- The tokens are of one kind, and their offsets and values are related. -/
structure Token.Corresponds (P : Nat → Nat → Prop) (V : String → String → Prop) (t u : Token) :
    Prop where
  kind_eq : t.kind = u.kind
  offset : P t.offset u.offset
  literal : V t.literal u.literal

/-- The computations both fail, with related errors, or both succeed, with related results. -/
inductive InStep {ε α : Type} (E : ε → ε → Prop) (A : α → α → Prop) :
    Except ε α → Except ε α → Prop
  | error {e e' : ε} (h : E e e') : InStep E A (.error e) (.error e')
  | ok {a a' : α} (h : A a a') : InStep E A (.ok a) (.ok a')

/-- Computations in two parts are in step when both parts are. -/
lemma InStep.bind {ε α β : Type} {E : ε → ε → Prop} {A : α → α → Prop} {B : β → β → Prop}
    {x y : Except ε α} {f g : α → Except ε β} (h : InStep E A x y)
    (hfg : ∀ a b, x = .ok a → y = .ok b → A a b → InStep E B (f a) (g b)) :
    InStep E B (x.bind f) (y.bind g) := by
  cases h with
  | error h => exact .error h
  | ok h => exact hfg _ _ rfl rfl h

namespace Parser

variable {P : Nat → Nat → Prop} {V : String → String → Prop}

/-- The results are trees that correspond and tokens left after them that do. -/
def ResultsCorrespond (P : Nat → Nat → Prop) (V : String → String → Prop)
    (p q : Expr × List Token) : Prop :=
  p.1.Corresponds V q.1 ∧ List.Forall₂ (Token.Corresponds P V) p.2 q.2

/-- The readings are in step. -/
abbrev ReadInStep (P : Nat → Nat → Prop) (V : String → String → Prop) : Outcome → Outcome → Prop :=
  InStep (ParseError.Corresponds P) (ResultsCorrespond P V)

/-! ## The parts of the readers that do not recurse -/

section

variable {t u : Token} {ts us : List Token} {e e' : Expr} {earlier earlier' : List Expr}

/-- What follows corresponding `NOT`s is read in step. -/
lemma negated_inStep (ht : t.Corresponds P V u)
    (hts : List.Forall₂ (Token.Corresponds P V) ts us) :
    ReadInStep P V (negated t.offset ts) (negated u.offset us) := by
  cases hts with
  | nil => exact .error ⟨rfl, .some ht.offset⟩
  | @cons v w vs ws hv hvs =>
    rw [negated, negated, hv.kind_eq]
    split
    · exact .ok ⟨.not (.term hv.literal), hvs⟩
    · exact .ok ⟨.not (.term hv.literal), hvs⟩
    · exact .error ⟨rfl, .some hv.offset⟩

/-- Groups that correspond are closed in step. -/
lemma closeGroup_inStep (ht : t.Corresponds P V u) {p q : Expr × List Token}
    (h : ResultsCorrespond P V p q) : ReadInStep P V (closeGroup t p) (closeGroup u q) := by
  obtain ⟨e, ts⟩ := p
  obtain ⟨e', us⟩ := q
  obtain ⟨he, hts⟩ := h
  cases hts with
  | nil => exact .error ⟨rfl, .some ht.offset⟩
  | @cons v w vs ws hv hvs =>
    rw [closeGroup, closeGroup, hv.kind_eq]
    split_ifs
    · exact .ok ⟨he, hvs⟩
    · exact .error ⟨rfl, .some hv.offset⟩

/-- Alternatives that correspond are joined to trees that correspond. -/
lemma joinAlternatives_corresponds (h : List.Forall₂ (Expr.Corresponds V) earlier earlier')
    (he : e.Corresponds V e') :
    (joinAlternatives earlier e).Corresponds V (joinAlternatives earlier' e') := by
  induction h generalizing e e' with
  | nil => exact he
  | cons hl _ ih => exact ih (.binary hl he)

/-- After conjunctions that correspond, the other alternatives are read in step if the expressions
after an `OR` are. -/
lemma readAlternatives_inStep {depth : Nat}
    (hearlier : List.Forall₂ (Expr.Corresponds V) earlier earlier') {p q : Expr × List Token}
    (h : ResultsCorrespond P V p q)
    (hmore : ∀ v w vs ws, p.2 = v :: vs → q.2 = w :: ws →
      List.Forall₂ (Token.Corresponds P V) vs ws →
        ReadInStep P V (readExpression depth (p.1 :: earlier) vs)
          (readExpression depth (q.1 :: earlier') ws)) :
    ReadInStep P V (readAlternatives depth earlier p) (readAlternatives depth earlier' q) := by
  obtain ⟨e, ts⟩ := p
  obtain ⟨e', us⟩ := q
  obtain ⟨he, hts⟩ := h
  have hjoin := joinAlternatives_corresponds hearlier he
  cases hts with
  | nil => exact .ok ⟨hjoin, .nil⟩
  | @cons v w vs ws hv hvs =>
    rw [readAlternatives, readAlternatives, hv.kind_eq]
    have hempty : vs.isEmpty = ws.isEmpty := by cases hvs <;> rfl
    rw [hempty]
    split_ifs
    · exact .error ⟨rfl, .some hv.offset⟩
    · exact hmore v w vs ws rfl rfl hvs
    · exact .ok ⟨hjoin, .cons hv hvs⟩

end

/-! ## The readers -/

mutual

/-- Operands are read in step. -/
lemma readOperand_inStep {ts us : List Token} (depth : Nat)
    (h : List.Forall₂ (Token.Corresponds P V) ts us) :
    ReadInStep P V (readOperand depth ts) (readOperand depth us) := by
  cases h with
  | nil =>
    rw [readOperand_nil]
    exact .error ⟨rfl, .none⟩
  | @cons t u ts us ht hts =>
    have hkind := ht.kind_eq
    by_cases ho : u.kind = .openParen
    · rw [readOperand_of_open (hkind.trans ho), readOperand_of_open ho]
      exact readGroup_inStep depth ht hts
    by_cases hn : u.kind = .keyword .not
    · rw [readOperand_of_not (hkind.trans hn), readOperand_of_not hn]
      exact negated_inStep ht hts
    by_cases hl : u.kind = .word ∨ u.kind = .phrase
    · rw [readOperand_of_literal (hkind ▸ hl), readOperand_of_literal hl]
      exact .ok ⟨.term ht.literal, hts⟩
    · have hk : u.kind.opensOperand = false := by
        rw [Bool.eq_false_iff, Ne, Kind.opensOperand_iff]
        simp [ho, hn, not_or.mp hl]
      rw [readOperand_of_not_opensOperand (hkind ▸ hk), readOperand_of_not_opensOperand hk, hkind]
      exact .error ⟨rfl, .some ht.offset⟩
termination_by 3 * ts.length

/-- Groups are read in step. -/
lemma readGroup_inStep {t u : Token} {ts us : List Token} (depth : Nat)
    (ht : t.Corresponds P V u) (h : List.Forall₂ (Token.Corresponds P V) ts us) :
    ReadInStep P V (readGroup depth t ts) (readGroup depth u us) := by
  rcases Nat.lt_or_ge depth groupLimit with hd | hd
  · cases h with
    | nil =>
      rw [readGroup_nil hd, readGroup_nil hd]
      exact .error ⟨rfl, .some ht.offset⟩
    | @cons v w vs ws hv hvs =>
      by_cases hw : w.kind = .closeParen
      · rw [readGroup_of_close hd (hv.kind_eq.trans hw), readGroup_of_close hd hw]
        exact .error ⟨rfl, .some ht.offset⟩
      · rw [readGroup_cons hd (hv.kind_eq ▸ hw), readGroup_cons hd hw]
        refine InStep.bind (readExpression_inStep (depth + 1) .nil (.cons hv hvs)) ?_
        exact fun p q _ _ hpq => closeGroup_inStep ht hpq
  · rw [readGroup_of_limit_le hd, readGroup_of_limit_le hd]
    exact .error ⟨rfl, .some ht.offset⟩
termination_by 3 * ts.length + 2

/-- The further operands of conjunctions that correspond are read in step. -/
lemma readConjunction_inStep {left left' : Expr} {ts us : List Token} (depth : Nat)
    (hleft : left.Corresponds V left') (h : List.Forall₂ (Token.Corresponds P V) ts us) :
    ReadInStep P V (readConjunction depth left ts) (readConjunction depth left' us) := by
  cases h with
  | nil =>
    rw [readConjunction_nil, readConjunction_nil]
    exact .ok ⟨hleft, .nil⟩
  | @cons t u ts us ht hts =>
    have hkind := ht.kind_eq
    by_cases hs : u.kind = .keyword .or ∨ u.kind = .closeParen
    · rw [readConjunction_of_stop (hkind ▸ hs), readConjunction_of_stop hs]
      exact .ok ⟨hleft, .cons ht hts⟩
    by_cases ha : u.kind = .keyword .and
    · cases hts with
      | nil =>
        rw [readConjunction_of_and_nil (hkind.trans ha), readConjunction_of_and_nil ha, hkind]
        exact .error ⟨rfl, .some ht.offset⟩
      | @cons v w vs ws hv hvs =>
        rcases hw : w.kind.isConnective
        · rw [readConjunction_of_and (hkind.trans ha) (hv.kind_eq ▸ hw),
            readConjunction_of_and ha hw]
          refine InStep.bind (readOperand_inStep depth (.cons hv hvs)) ?_
          rintro ⟨r, after⟩ ⟨r', after'⟩ hr - ⟨hright, hafter⟩
          have hlen : after.length < vs.length + 1 := length_of_readOperand hr
          exact readConjunction_inStep depth (.binary hleft hright) hafter
        · rw [readConjunction_of_and_connective (hkind.trans ha) (hv.kind_eq ▸ hw),
            readConjunction_of_and_connective ha hw, hv.kind_eq]
          exact .error ⟨rfl, .some hv.offset⟩
    · have hk : u.kind.opensOperand = true := Kind.opensOperand_of_ne ha hs
      rw [readConjunction_of_opensOperand (hkind ▸ hk), readConjunction_of_opensOperand hk]
      refine InStep.bind (readOperand_inStep depth (.cons ht hts)) ?_
      rintro ⟨r, after⟩ ⟨r', after'⟩ hr - ⟨hright, hafter⟩
      have hlen : after.length < ts.length + 1 := length_of_readOperand hr
      exact readConjunction_inStep depth (.binary hleft hright) hafter
termination_by 3 * ts.length + 1

/-- Expressions are read in step. -/
lemma readExpression_inStep {earlier earlier' : List Expr} {ts us : List Token} (depth : Nat)
    (hearlier : List.Forall₂ (Expr.Corresponds V) earlier earlier')
    (h : List.Forall₂ (Token.Corresponds P V) ts us) :
    ReadInStep P V (readExpression depth earlier ts) (readExpression depth earlier' us) := by
  cases h with
  | nil =>
    rw [readExpression_nil, readExpression_nil]
    exact .error ⟨rfl, .none⟩
  | @cons t u ts us ht hts =>
    have hkind := ht.kind_eq
    rcases hu : u.kind.isConnective
    · rw [readExpression_cons (hkind ▸ hu), readExpression_cons hu]
      refine InStep.bind (readOperand_inStep depth (.cons ht hts)) ?_
      rintro ⟨first, mid⟩ ⟨first', mid'⟩ hfirst - ⟨hleft, hmid⟩
      have hlen : mid.length < ts.length + 1 := length_of_readOperand hfirst
      refine InStep.bind (readConjunction_inStep depth hleft hmid) ?_
      rintro ⟨last, after⟩ ⟨last', after'⟩ hlast - ⟨hlasts, hafter⟩
      have hlen' : after.length ≤ mid.length := length_of_readConjunction hlast
      refine readAlternatives_inStep hearlier ⟨hlasts, hafter⟩ ?_
      rintro v w vs ws rfl - hvs
      have hshort : vs.length < ts.length + 1 := by
        rw [List.length_cons] at hlen'
        omega
      exact readExpression_inStep depth (.cons hlasts hearlier) hvs
    · rw [readExpression_of_connective (hkind ▸ hu), readExpression_of_connective hu, hkind]
      exact .error ⟨rfl, .some ht.offset⟩
termination_by 3 * ts.length + 1

end

end Parser

/-! ## Parsing -/

/-- What parsing does with an expression that is read: no token may be left. -/
def wholeExpression : Expr × List Token → Except ParseError Expr
  | (e, []) => .ok e
  | (_, t :: _) => .error (.trailingToken t.kind t.offset)

/-- Parsing is reading an expression and finding no token after it. -/
lemma parse_eq_bind (ts : List Token) :
    parse ts = (Parser.readExpression 0 [] ts).bind wholeExpression := by
  rcases ts with _ | ⟨t, ts⟩
  · rw [Parser.readExpression_nil]
    rfl
  · simp only [parse, Parser.readExpression]
    split
    · next hread =>
      rw [hread]
      rfl
    · next hread =>
      rw [hread]
      rfl
    · next hread =>
      rw [hread]
      rfl

/-- Tokens that correspond are parsed in step. -/
lemma parse_inStep {P : Nat → Nat → Prop} {V : String → String → Prop} {ts us : List Token}
    (h : List.Forall₂ (Token.Corresponds P V) ts us) :
    InStep (ParseError.Corresponds P) (Expr.Corresponds V) (parse ts) (parse us) := by
  rw [parse_eq_bind, parse_eq_bind]
  refine InStep.bind (Parser.readExpression_inStep 0 .nil h) ?_
  rintro ⟨e, rest⟩ ⟨e', rest'⟩ - - ⟨he, hrest⟩
  cases hrest with
  | nil => exact .ok he
  | cons ht _ =>
    rw [wholeExpression, wholeExpression, ht.kind_eq]
    exact .error ⟨rfl, .some ht.offset⟩

end SearchQuery

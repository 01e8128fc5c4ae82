import Mathlib.Tactic.Lemma
import SearchQuery.Parser.Basic

/-!
# The readers of the parser without their bounds

A reader of the parser returns the tokens that it leaves together with the fact that they are
fewer than those of the list that its caller started from.  The fact closes the recursion of the
readers, but it makes the type of a reading depend on that list, which no statement about
grammar or errors wants to mention.

`readOperand`, `readGroup`, `readExpression` and `readConjunction` are the readers with the fact
forgotten.  Each has one equation for each branch, under a condition on the kind of the next
token, and these equations are all that the theory of the parser uses.  The bounds come back as
`length_of_readOperand` and `length_of_readConjunction`.
-/

namespace SearchQuery

/-- A computation in two parts succeeds when both parts do. -/
lemma bind_eq_ok_iff {ε α β : Type} {x : Except ε α} {f : α → Except ε β} {b : β} :
    x.bind f = .ok b ↔ ∃ a, x = .ok a ∧ f a = .ok b := by
  cases x with
  | error e => simp [Except.bind]
  | ok a => simp [Except.bind]

/-- A computation in two parts fails when one of the parts does. -/
lemma bind_eq_error_iff {ε α β : Type} {x : Except ε α} {f : α → Except ε β} {err : ε} :
    x.bind f = .error err ↔ x = .error err ∨ ∃ a, x = .ok a ∧ f a = .error err := by
  cases x with
  | error e => simp [Except.bind]
  | ok a => simp [Except.bind]

/-- The kinds of token with which an operand may begin. -/
def Kind.opensOperand : Kind → Bool
  | openParen | keyword .not | word | phrase => true
  | keyword .and | keyword .or | closeParen => false

/-- The tokens that open no operand are the binary operators and the closing parenthesis. -/
lemma Kind.opensOperand_eq_false_iff {k : Kind} :
    k.opensOperand = false ↔ k = .keyword .and ∨ k = .keyword .or ∨ k = .closeParen := by
  rcases k with _ | _ | k | _ | _
  case keyword => cases k <;> simp [opensOperand]
  all_goals simp [opensOperand]

/-- A token that is no `AND` and ends no conjunction opens an operand. -/
lemma Kind.opensOperand_of_ne {k : Kind} (hand : k ≠ .keyword .and)
    (hstop : ¬ (k = .keyword .or ∨ k = .closeParen)) : k.opensOperand = true := by
  rw [← Bool.not_eq_false, opensOperand_eq_false_iff, not_or]
  exact ⟨hand, hstop⟩

/-- The tokens that open an operand are those of groups, negations, words and phrases. -/
lemma Kind.opensOperand_iff {k : Kind} :
    k.opensOperand = true ↔ k = .openParen ∨ k = .keyword .not ∨ k = .word ∨ k = .phrase := by
  rcases k with _ | _ | k | _ | _
  case keyword => cases k <;> simp [opensOperand]
  all_goals simp [opensOperand]

/-- A token that opens an operand is no binary operator. -/
lemma Kind.isConnective_eq_false_of_opensOperand {k : Kind} (hk : k.opensOperand = true) :
    k.isConnective = false := by
  rcases opensOperand_iff.mp hk with rfl | rfl | rfl | rfl <;> rfl

namespace Parser

/-- An expression and the tokens after it, or why there is none. -/
abbrev Outcome := Except ParseError (Expr × List Token)

/-- What a reading gives, without the bound on the tokens that it leaves. -/
def Reading.outcome {whole : List Token} (r : Reading whole) : Outcome :=
  r.map fun p => (p.1, p.2.1)

/-- A reading that fails has its error. -/
@[simp] lemma outcome_error {whole : List Token} (e : ParseError) :
    Reading.outcome (.error e : Reading whole) = .error e := rfl

/-- A reading that succeeds has its expression and the tokens it leaves. -/
@[simp] lemma outcome_ok {whole rest : List Token} (e : Expr)
    (h : rest.length < whole.length) :
    Reading.outcome (.ok (e, ⟨rest, h⟩) : Reading whole) = .ok (e, rest) := rfl

/-- The tokens that a reading leaves are fewer than those of the whole list. -/
lemma length_of_outcome {whole rest : List Token} {r : Reading whole} {e : Expr}
    (h : r.outcome = .ok (e, rest)) : rest.length < whole.length := by
  rcases r with _ | ⟨e', after, hlt⟩
  · simp at h
  · simp only [outcome_ok, Except.ok.injEq, Prod.mk.injEq] at h
    rw [← h.2]
    exact hlt

/-! ## The four readers -/

/-- Reads a group or a search term, with `depth` groups open. -/
def readOperand (depth : Nat) (tokens : List Token) : Outcome :=
  (operand depth tokens).outcome

/-- Reads the rest of the group that `opening` opens. -/
def readGroup (depth : Nat) (opening : Token) (tokens : List Token) : Outcome :=
  (group depth opening tokens).outcome

/-- Any list bounds the reading of its own tokens. -/
lemma length_le_self (tokens : List Token) : tokens.length ≤ tokens.length := Nat.le_refl _

/-- Reads an expression whose first conjunctions, nearest first, are in `earlier`. -/
def readExpression (depth : Nat) (earlier : List Expr) (tokens : List Token) : Outcome :=
  (expression depth tokens earlier tokens (length_le_self tokens)).outcome

/-- The tokens after some other one, which bound the reading of a conjunction. -/
def afterWord (tokens : List Token) : List Token :=
  ⟨.word, "", 0⟩ :: tokens

/-- The reading of a conjunction is bounded by its tokens after some other one. -/
lemma length_lt_afterWord (tokens : List Token) : tokens.length < (afterWord tokens).length :=
  Nat.lt_succ_self _

/-- Reads the further operands of the conjunction that begins with `left`. -/
def readConjunction (depth : Nat) (left : Expr) (tokens : List Token) : Outcome :=
  (conjunction depth (afterWord tokens) left tokens (length_lt_afterWord tokens)).outcome

/-- What a group does with the expression inside it: its closing parenthesis must follow. -/
def closeGroup (opening : Token) : Expr × List Token → Outcome
  | (_, []) => .error (.missingClose opening.offset)
  | (inner, closing :: rest) =>
    if closing.kind = .closeParen then .ok (inner, rest)
    else .error (.unexpectedKind .closeParen closing.kind closing.offset)

/-- What an expression does with its latest conjunction: after an `OR` there is more to read. -/
def readAlternatives (depth : Nat) (earlier : List Expr) : Expr × List Token → Outcome
  | (last, []) => .ok (joinAlternatives earlier last, [])
  | (last, next :: after) =>
    if next.kind = .keyword .or then
      if after.isEmpty then .error (.missingOperand next.kind next.offset)
      else readExpression depth (last :: earlier) after
    else .ok (joinAlternatives earlier last, next :: after)

/-! ### The outcome does not depend on the bounding list -/

/-- A conjunction is read alike whatever list bounds the reading. -/
lemma outcome_conjunction_congr (depth : Nat) {whole whole' : List Token} (left : Expr)
    (tokens : List Token) (h : tokens.length < whole.length)
    (h' : tokens.length < whole'.length) :
    (conjunction depth whole left tokens h).outcome =
      (conjunction depth whole' left tokens h').outcome := by
  induction hn : tokens.length using Nat.strongRecOn generalizing left tokens with
  | _ n ih =>
    subst hn
    rw [conjunction.eq_def, conjunction.eq_def depth whole']
    -- Both readings take the same branch, and differ at most where they go on with fewer tokens.
    split
    · rfl
    · next token others _ =>
      dsimp only
      split
      · rfl
      · rfl
      · split
        · rfl
        · next next more hlen _ _ =>
          split
          · rfl
          · split
            · rfl
            · next rest hlt _ =>
              exact ih rest.length (by simp only [List.length_cons] at hlt ⊢; omega) _ _ _ _ rfl
      all_goals
        split
        · rfl
        · next rest hlt _ =>
          exact ih rest.length hlt _ _ _ _ rfl

/-- An expression is read alike whatever list bounds the reading. -/
lemma outcome_expression_congr (depth : Nat) {whole whole' : List Token} (earlier : List Expr)
    (tokens : List Token) (h : tokens.length ≤ whole.length)
    (h' : tokens.length ≤ whole'.length) :
    (expression depth whole earlier tokens h).outcome =
      (expression depth whole' earlier tokens h').outcome := by
  induction hn : tokens.length using Nat.strongRecOn generalizing earlier tokens with
  | _ n ih =>
    subst hn
    rw [expression.eq_def, expression.eq_def depth whole']
    split
    · rfl
    · dsimp only
      split
      · rfl
      · split
        · rfl
        · split
          · rfl
          · rfl
          · next after hlt _ =>
            split
            · split
              · rfl
              · exact ih after.length (by simp only [List.length_cons] at hlt ⊢; omega) _ _ _ _ rfl
            · rfl

/-! ### Operands and groups -/

variable {depth : Nat} {t : Token} {ts : List Token}

/-- There is no operand at the end of the tokens. -/
@[simp] lemma readOperand_nil : readOperand depth [] = .error (.noExpression none) := by
  simp [readOperand, operand]

/-- An opening parenthesis begins a group. -/
lemma readOperand_of_open (ht : t.kind = .openParen) :
    readOperand depth (t :: ts) = readGroup depth t ts := by
  simp [readOperand, readGroup, operand, ht]

/-- A `NOT` begins a negated term. -/
lemma readOperand_of_not (ht : t.kind = .keyword .not) :
    readOperand depth (t :: ts) = negated t.offset ts := by
  rw [readOperand, operand.eq_def]
  simp only [ht]
  split
  · next h => exact h.symm
  · next h => exact h.symm

/-- A word or a phrase is an operand by itself. -/
lemma readOperand_of_literal (ht : t.kind = .word ∨ t.kind = .phrase) :
    readOperand depth (t :: ts) = .ok (.term t.literal, ts) := by
  rcases ht with ht | ht <;> simp [readOperand, operand, ht]

/-- No operand begins with another kind of token. -/
lemma readOperand_of_not_opensOperand (ht : t.kind.opensOperand = false) :
    readOperand depth (t :: ts) = .error (.unexpectedKind .word t.kind t.offset) := by
  rw [readOperand, operand.eq_def]
  rcases Kind.opensOperand_eq_false_iff.mp ht with ht | ht | ht <;> simp [ht]

/-- Past the limit no group is read. -/
lemma readGroup_of_limit_le (hd : groupLimit ≤ depth) :
    readGroup depth t ts = .error (.nestingTooDeep groupLimit t.offset) := by
  rw [readGroup, group.eq_def, if_pos hd, outcome_error]

/-- A group at the end of the tokens is empty. -/
lemma readGroup_nil (hd : depth < groupLimit) :
    readGroup depth t [] = .error (.noExpression (some t.offset)) := by
  simp [readGroup, group, Nat.not_le.mpr hd]

/-- A group that is closed at once is empty. -/
lemma readGroup_of_close {u : Token} (hd : depth < groupLimit) (hu : u.kind = .closeParen) :
    readGroup depth t (u :: ts) = .error (.noExpression (some t.offset)) := by
  simp [readGroup, group, Nat.not_le.mpr hd, hu]

/-- A group holds an expression, read one level deeper, and ends with its parenthesis. -/
lemma readGroup_cons {u : Token} (hd : depth < groupLimit) (hu : u.kind ≠ .closeParen) :
    readGroup depth t (u :: ts) =
      (readExpression (depth + 1) [] (u :: ts)).bind (closeGroup t) := by
  rw [readGroup, group.eq_def, readExpression]
  simp only [if_neg (Nat.not_le.mpr hd), if_neg hu]
  split
  · next h => rw [h]; rfl
  · next h => rw [h]; rfl
  · next closing _ _ h =>
    rw [h]
    by_cases hc : closing.kind = .closeParen
    · simp [hc, closeGroup, Except.bind]
    · simp [hc, closeGroup, Except.bind]

/-! ### Conjunctions and expressions -/

variable {left : Expr} {earlier : List Expr}

/-- A conjunction may end at the end of the tokens. -/
@[simp] lemma readConjunction_nil : readConjunction depth left [] = .ok (left, []) := by
  simp [readConjunction, conjunction]

/-- An `OR` or a closing parenthesis ends a conjunction. -/
lemma readConjunction_of_stop (ht : t.kind = .keyword .or ∨ t.kind = .closeParen) :
    readConjunction depth left (t :: ts) = .ok (left, t :: ts) := by
  rw [readConjunction, conjunction.eq_def]
  rcases ht with ht | ht <;> simp [ht]

/-- An `AND` needs something after it. -/
lemma readConjunction_of_and_nil (ht : t.kind = .keyword .and) :
    readConjunction depth left [t] = .error (.missingOperand t.kind t.offset) := by
  simp [readConjunction, conjunction, ht]

/-- A binary operator cannot follow an `AND`. -/
lemma readConjunction_of_and_connective {u : Token} (ht : t.kind = .keyword .and)
    (hu : u.kind.isConnective = true) :
    readConjunction depth left (t :: u :: ts) =
      .error (.operatorAfterAnd u.kind u.offset) := by
  simp [readConjunction, conjunction, ht, hu]

/-- An operand after a written `AND` is taken into the left side. -/
lemma readConjunction_of_and {u : Token} (ht : t.kind = .keyword .and)
    (hu : u.kind.isConnective = false) :
    readConjunction depth left (t :: u :: ts) =
      (readOperand depth (u :: ts)).bind fun p => readConjunction depth (.and left p.1) p.2 := by
  rw [readConjunction, conjunction.eq_def, readOperand]
  simp only [ht, hu, Bool.false_eq_true, if_false]
  split
  · next h => rw [h]; rfl
  · next h => rw [h]; exact outcome_conjunction_congr _ _ _ _ _

/-- An operand that follows directly is taken into the left side. -/
lemma readConjunction_of_opensOperand (ht : t.kind.opensOperand = true) :
    readConjunction depth left (t :: ts) =
      (readOperand depth (t :: ts)).bind fun p => readConjunction depth (.and left p.1) p.2 := by
  rw [readConjunction, conjunction.eq_def, readOperand]
  rcases Kind.opensOperand_iff.mp ht with ht | ht | ht | ht
  all_goals
    simp only [ht]
    split
    · next h => rw [h]; rfl
    · next h => rw [h]; exact outcome_conjunction_congr _ _ _ _ _

/-- There is no expression at the end of the tokens. -/
@[simp] lemma readExpression_nil :
    readExpression depth earlier [] = .error (.noExpression none) := by
  simp [readExpression, expression]

/-- A binary operator has nothing on its left at the start of an expression. -/
lemma readExpression_of_connective (ht : t.kind.isConnective = true) :
    readExpression depth earlier (t :: ts) = .error (.misplacedOperator t.kind t.offset) := by
  simp [readExpression, expression, ht]

/-- An expression is a first operand, the rest of its conjunction, and what an `OR` adds. -/
lemma readExpression_cons (ht : t.kind.isConnective = false) :
    readExpression depth earlier (t :: ts) =
      (readOperand depth (t :: ts)).bind fun p =>
        (readConjunction depth p.1 p.2).bind (readAlternatives depth earlier) := by
  rw [readExpression, expression.eq_def, readOperand]
  simp only [ht, Bool.false_eq_true, if_false]
  split
  · next h => rw [h]; rfl
  · next first rest hlt h =>
    have hcongr : readConjunction depth first rest =
        (conjunction depth (t :: ts) first rest hlt).outcome :=
      outcome_conjunction_congr _ _ _ _ _
    simp only [h, outcome_ok, Except.bind, hcongr]
    split
    · next h' => rw [h']; rfl
    · next h' => rw [h']; rfl
    · next next after hlt' h' =>
      simp only [h', outcome_ok, readAlternatives]
      split
      · split
        · rfl
        · exact outcome_expression_congr _ _ _ _ _
      · rfl

/-! ### What a successful reading has done -/

variable {e : Expr} {rest : List Token}

/-- A group that is read is not too deep, and its parenthesis follows its expression. -/
lemma readGroup_eq_ok (h : readGroup depth t ts = .ok (e, rest)) :
    depth < groupLimit ∧
      ∃ c, readExpression (depth + 1) [] ts = .ok (e, c :: rest) ∧ c.kind = .closeParen := by
  rcases Nat.lt_or_ge depth groupLimit with hd | hd
  · refine ⟨hd, ?_⟩
    rcases ts with _ | ⟨u, us⟩
    · simp [readGroup_nil hd] at h
    · by_cases hu : u.kind = .closeParen
      · simp [readGroup_of_close hd hu] at h
      · rw [readGroup_cons hd hu, bind_eq_ok_iff] at h
        obtain ⟨⟨inner, after⟩, hinner, hclose⟩ := h
        rcases after with _ | ⟨c, after⟩
        · simp [closeGroup] at hclose
        · by_cases hc : c.kind = .closeParen
          · simp only [closeGroup, hc, if_true, Except.ok.injEq, Prod.mk.injEq] at hclose
            obtain ⟨rfl, rfl⟩ := hclose
            exact ⟨c, hinner, hc⟩
          · simp [closeGroup, hc] at hclose
  · simp [readGroup_of_limit_le hd] at h

/-- An operand that is read is a group, a negated term, or a word or phrase. -/
lemma readOperand_eq_ok (h : readOperand depth ts = .ok (e, rest)) :
    ∃ t us, ts = t :: us ∧
      (t.kind = .openParen ∧ readGroup depth t us = .ok (e, rest) ∨
        t.kind = .keyword .not ∧ negated t.offset us = .ok (e, rest) ∨
        (t.kind = .word ∨ t.kind = .phrase) ∧ e = .term t.literal ∧ rest = us) := by
  rcases ts with _ | ⟨t, us⟩
  · simp at h
  · refine ⟨t, us, rfl, ?_⟩
    by_cases ho : t.kind = .openParen
    · exact Or.inl ⟨ho, by rwa [readOperand_of_open ho] at h⟩
    by_cases hn : t.kind = .keyword .not
    · exact Or.inr (Or.inl ⟨hn, by rwa [readOperand_of_not hn] at h⟩)
    by_cases hl : t.kind = .word ∨ t.kind = .phrase
    · rw [readOperand_of_literal hl, Except.ok.injEq, Prod.mk.injEq] at h
      exact Or.inr (Or.inr ⟨hl, h.1.symm, h.2.symm⟩)
    · have hk : t.kind.opensOperand = false := by
        rw [Bool.eq_false_iff, Ne, Kind.opensOperand_iff]
        simp [ho, hn, not_or.mp hl]
      simp [readOperand_of_not_opensOperand hk] at h

/-- A conjunction that is read takes no further operand, since there is none, or one with or without
an `AND` before it and then those that follow. -/
lemma readConjunction_eq_ok (h : readConjunction depth left ts = .ok (e, rest)) :
    (e = left ∧ rest = ts ∧ ∀ t ∈ ts.head?, t.kind = .keyword .or ∨ t.kind = .closeParen) ∨
      ∃ and us r after, ts = and ++ us ∧ (and = [] ∨ ∃ t, and = [t] ∧ t.kind = .keyword .and) ∧
        readOperand depth us = .ok (r, after) ∧
        readConjunction depth (.and left r) after = .ok (e, rest) := by
  rcases ts with _ | ⟨t, us⟩
  · rw [readConjunction_nil, Except.ok.injEq, Prod.mk.injEq] at h
    exact Or.inl ⟨h.1.symm, h.2.symm, by simp⟩
  by_cases hs : t.kind = .keyword .or ∨ t.kind = .closeParen
  · rw [readConjunction_of_stop hs, Except.ok.injEq, Prod.mk.injEq] at h
    exact Or.inl ⟨h.1.symm, h.2.symm, by simpa using hs⟩
  by_cases ha : t.kind = .keyword .and
  · rcases us with _ | ⟨u, us⟩
    · simp [readConjunction_of_and_nil ha] at h
    · rcases hu : u.kind.isConnective
      · rw [readConjunction_of_and ha hu, bind_eq_ok_iff] at h
        obtain ⟨⟨r, after⟩, hr, hrest⟩ := h
        exact Or.inr ⟨[t], u :: us, r, after, rfl, Or.inr ⟨t, rfl, ha⟩, hr, hrest⟩
      · simp [readConjunction_of_and_connective ha hu] at h
  · have hk : t.kind.opensOperand = true := Kind.opensOperand_of_ne ha hs
    rw [readConjunction_of_opensOperand hk, bind_eq_ok_iff] at h
    obtain ⟨⟨r, after⟩, hr, hrest⟩ := h
    exact Or.inr ⟨[], t :: us, r, after, rfl, Or.inl rfl, hr, hrest⟩

/-- An expression that is read has a conjunction first, which ends it unless an `OR` follows. -/
lemma readExpression_eq_ok (h : readExpression depth earlier ts = .ok (e, rest)) :
    ∃ first mid last after, readOperand depth ts = .ok (first, mid) ∧
      readConjunction depth first mid = .ok (last, after) ∧
      (e = joinAlternatives earlier last ∧ rest = after ∧
          (∀ t ∈ after.head?, t.kind ≠ .keyword .or) ∨
        ∃ t us, after = t :: us ∧ t.kind = .keyword .or ∧
          readExpression depth (last :: earlier) us = .ok (e, rest)) := by
  rcases ts with _ | ⟨t, ts⟩
  · simp at h
  rcases ht : t.kind.isConnective
  · rw [readExpression_cons ht, bind_eq_ok_iff] at h
    obtain ⟨⟨first, mid⟩, hfirst, h⟩ := h
    rw [bind_eq_ok_iff] at h
    obtain ⟨⟨last, after⟩, hlast, h⟩ := h
    refine ⟨first, mid, last, after, hfirst, hlast, ?_⟩
    rcases after with _ | ⟨u, us⟩
    · rw [readAlternatives, Except.ok.injEq, Prod.mk.injEq] at h
      exact Or.inl ⟨h.1.symm, h.2.symm, by simp⟩
    · by_cases hu : u.kind = .keyword .or
      · rw [readAlternatives, if_pos hu] at h
        split at h
        · simp at h
        · exact Or.inr ⟨u, us, rfl, hu, h⟩
      · rw [readAlternatives, if_neg hu, Except.ok.injEq, Prod.mk.injEq] at h
        exact Or.inl ⟨h.1.symm, h.2.symm, by simpa using hu⟩
  · simp [readExpression_of_connective ht] at h

/-! ### Progress -/

/-- Reading an operand takes at least one token. -/
lemma length_of_readOperand (h : readOperand depth ts = .ok (e, rest)) : rest.length < ts.length :=
  length_of_outcome h

/-- Reading the further operands of a conjunction adds no token. -/
lemma length_of_readConjunction
    (h : readConjunction depth left ts = .ok (e, rest)) : rest.length ≤ ts.length :=
  Nat.le_of_lt_succ (length_of_outcome h)

end Parser

/-- A list of tokens spells an expression when reading one leaves nothing. -/
lemma parse_eq_ok_iff {ts : List Token} {e : Expr} :
    parse ts = .ok e ↔ Parser.readExpression 0 [] ts = .ok (e, []) := by
  rcases ts with _ | ⟨t, ts⟩
  · simp [parse]
  · simp only [parse, Parser.readExpression]
    split
    · next h => simp [h]
    · next h => simp [h]
    · next h => simp [h]

/-- Parsing fails when reading an expression does, or when it leaves a token. -/
lemma parse_eq_error {ts : List Token} {err : ParseError} (h : parse ts = .error err) :
    Parser.readExpression 0 [] ts = .error err ∨
      ∃ e t rest, Parser.readExpression 0 [] ts = .ok (e, t :: rest) ∧
        err = .trailingToken t.kind t.offset := by
  rcases ts with _ | ⟨t, ts⟩
  · rw [Parser.readExpression_nil]
    exact Or.inl (by simpa [parse] using h)
  · simp only [parse] at h
    rw [Parser.readExpression]
    split at h
    · next hread => simpa [hread] using h
    · simp at h
    · next e u rest _ hread =>
      exact Or.inr ⟨e, u, rest, by rw [hread]; rfl, (Except.error.inj h).symm⟩

end SearchQuery

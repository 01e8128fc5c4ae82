import SearchQuery.Proofs.Parser.Correspondence
import SearchQuery.Proofs.Parser.Cursor

/-!
# Progress and bounded recursion

Neither the loops of the parser nor its recursion need a bound of their own.  A turn of a loop that
goes on has consumed a token, so no loop turns more often than there are tokens left, and once more
to find that it ends.  And a group is read one level deeper than the one around it, but never below
`groupLimit`, so no more than 257 expressions are ever read inside each other.

Both are stated of the parser that moves a cursor, for which such bounds can be given.  It reads
what the readers of the parser read as soon as they are high enough (`agrees_expression`), and so
gives the same as `parse`.
-/

namespace SearchQuery

namespace Cursor

variable {σ : Type} {c c' : Cursor} {e left left' : Expr} {earlier : List Expr}
  {nested : Cursor → Result Expr} {turns levels : Nat}

/-! ## Every turn consumes a token -/

/-- Taking an operand takes at least one token. -/
lemma position_lt_of_takeOperand {s : Turn Expr} (hnested : ∀ c, (nested c).Lawful c)
    (h : c.takeOperand nested left = .returned s c') : c.position < c'.position := by
  obtain ⟨right, c₁, hright, hagain⟩ := Result.bind_eq_returned_iff.mp h
  cases hagain
  exact position_lt_of_operand hnested hright

/-- A conjunction goes on after an operand only. -/
lemma position_lt_of_conjunctionTurn (hnested : ∀ c, (nested c).Lawful c)
    (h : conjunctionTurn nested left c = .returned (.again left') c') :
    c.position < c'.position := by
  unfold conjunctionTurn at h
  split at h
  · cases h
  · cases h
  · cases h
  · obtain ⟨u, c₁, hand, htake⟩ := Result.bind_eq_returned_iff.mp h
    have hle := ((andKeyword_lawful c).completes u c₁ hand).position_le
    exact hle.trans_lt (position_lt_of_takeOperand hnested htake)
  · exact position_lt_of_takeOperand hnested h

/-- A conjunction does not end by taking an operand. -/
lemma takeOperand_ne_done : c.takeOperand nested left ≠ .returned (.done e) c' := by
  intro h
  obtain ⟨right, c₁, -, hagain⟩ := Result.bind_eq_returned_iff.mp h
  cases hagain

/-- The kind of the next token, if there is one. -/
lemma kind_of_map_peek {kind : Kind} (h : c.peek.map Token.kind = some kind) :
    ∀ t ∈ c.peek, t.kind = kind := by
  intro t ht
  rw [ht] at h
  exact Option.some.inj h

/-- A conjunction ends before an `OR`, before a closing parenthesis, or at the end of the tokens. -/
lemma kind_of_conjunctionTurn_done (h : conjunctionTurn nested left c = .returned (.done e) c') :
    ∀ t ∈ c'.peek, t.kind = .keyword .or ∨ t.kind = .closeParen := by
  unfold conjunctionTurn at h
  split at h
  · next hpeek =>
    cases h
    rw [Option.map_eq_none_iff.mp hpeek]
    rintro _ ⟨⟩
  · next hpeek =>
    cases h
    exact fun t ht => Or.inr (kind_of_map_peek hpeek t ht)
  · next hpeek =>
    cases h
    exact fun t ht => Or.inl (kind_of_map_peek hpeek t ht)
  · obtain ⟨u, c₁, -, htake⟩ := Result.bind_eq_returned_iff.mp h
    exact absurd htake takeOperand_ne_done
  · exact absurd h takeOperand_ne_done

/-- An expression does not end before an `OR`. -/
lemma kind_of_orKeyword_done {last : Expr} (h : c.orKeyword earlier last = .returned (.done e) c') :
    c' = c ∧ ∀ t ∈ c.peek, t.kind ≠ .keyword .or := by
  unfold orKeyword at h
  split at h
  · next hnext =>
    cases h
    exact ⟨rfl, nextIf_eq_none_iff.mp hnext⟩
  · split at h
    · cases h
    · cases h

/-- A turn of the loop over alternatives reads a conjunction, and the `OR` after it. -/
lemma expressionTurn_eq_returned {s : Turn (List Expr)}
    (h : expressionTurn turns nested earlier c = .returned s c') :
    ∃ first last c₁ c₂, c.operand nested = .returned first c₁ ∧
      c₁.conjunction turns nested first = .returned last c₂ ∧
      c₂.orKeyword earlier last = .returned s c' := by
  unfold expressionTurn at h
  split at h
  · cases h
  · obtain ⟨first, c₁, hfirst, hmore⟩ := Result.bind_eq_returned_iff.mp h
    obtain ⟨last, c₂, hlast, hend⟩ := Result.bind_eq_returned_iff.mp hmore
    exact ⟨first, last, c₁, c₂, hfirst, hlast, hend⟩

/-- Whether the loop over alternatives goes on or not, its turn has consumed a token. -/
lemma position_lt_of_expressionTurn {s : Turn (List Expr)} (hnested : ∀ c, (nested c).Lawful c)
    (h : expressionTurn turns nested earlier c = .returned s c') : c.position < c'.position := by
  obtain ⟨first, last, c₁, c₂, hfirst, hlast, hend⟩ := expressionTurn_eq_returned h
  have hlt := position_lt_of_operand hnested hfirst
  have hle := ((conjunction_lawful hnested turns first c₁).completes last c₂ hlast).position_le
  have hle' := ((orKeyword_lawful earlier last c₂).completes s c' hend).position_le
  exact hlt.trans_le (hle.trans hle')

/-- A loop of which every turn consumes a token consumes one, since it does not end without a
turn. -/
lemma position_lt_of_loop {turn : σ → Cursor → Result (Turn σ)} {s : σ}
    (hturn : ∀ s c, (turn s c).Lawful c)
    (hlt : ∀ s c t c', turn s c = .returned t c' → c.position < c'.position)
    (h : loop turn turns s c = .returned e c') : c.position < c'.position := by
  rcases turns with _ | turns
  · cases h
  · obtain ⟨s' | e', c₁, hfirst, hrest⟩ := Result.bind_eq_returned_iff.mp h
    · have hle := ((loop_lawful hturn turns s' c₁).completes e c' hrest).position_le
      exact (hlt s c _ c₁ hfirst).trans_le hle
    · cases hrest
      exact hlt s c _ _ hfirst

/-- An expression takes at least one token. -/
lemma position_lt_of_expression (h : expression turns levels c = .returned e c') :
    c.position < c'.position := by
  rcases levels with _ | levels
  · cases h
  · have hnested := expression_lawful turns levels
    apply position_lt_of_loop (expressionTurn_lawful hnested turns) _ h
    intro earlier c s c' hturn
    exact position_lt_of_expressionTurn hnested hturn

/-- Only a closing parenthesis can stand after an expression that is read. -/
lemma kind_of_expression (h : expression turns levels c = .returned e c') :
    ∀ t ∈ c'.peek, t.kind = .closeParen := by
  rcases levels with _ | levels
  · cases h
  · obtain ⟨earlier, c₀, hturn⟩ := exists_last_turn h
    obtain ⟨first, last, c₁, c₂, -, hlast, hend⟩ := expressionTurn_eq_returned hturn
    obtain ⟨rfl, hor⟩ := kind_of_orKeyword_done hend
    -- No `OR` follows, so of the places where a conjunction ends two are left.
    obtain ⟨left, c₃, hdone⟩ := exists_last_turn hlast
    intro t ht
    exact (kind_of_conjunctionTurn_done hdone t ht).resolve_left (hor t ht)

/-! ## The same readings -/

/-- A call ends as a reading does: with the same expression and the same tokens left, or with the
same error. -/
inductive Agrees : Parser.Outcome → Result Expr → Prop
  | ok (e : Expr) (c : Cursor) : Agrees (.ok (e, c.rest)) (.returned e c)
  | error (err : ParseError) (c : Cursor) : Agrees (.error err) (.stopped (.failed err) c)

/-- A reading that leaves `rest`. -/
lemma Agrees.of_rest {rest : List Token} (h : c.rest = rest) :
    Agrees (.ok (e, rest)) (.returned e c) :=
  h ▸ .ok e c

/-- A call in two parts agrees with a reading in two parts if both parts do. -/
lemma Agrees.bind {x : Parser.Outcome} {r : Result Expr} {f : Expr × List Token → Parser.Outcome}
    {g : Expr → Cursor → Result Expr} (h : Agrees x r)
    (hfg : ∀ e c', x = .ok (e, c'.rest) → r = .returned e c' → Agrees (f (e, c'.rest)) (g e c')) :
    Agrees (x.bind f) (r.bind g) := by
  cases h with
  | ok e c => exact hfg e c rfl rfl
  | error err c => exact .error err c

/-- A call in three parts may be taken as two in two ways. -/
lemma Result.bind_assoc {α β γ : Type} (r : Result α) (f : α → Cursor → Result β)
    (g : β → Cursor → Result γ) : (r.bind f).bind g = r.bind fun a c => (f a c).bind g := by
  cases r <;> rfl

variable {t : Token} {ts : List Token}

/-- A word or a phrase that is next is read. -/
lemma literal_eq (hpeek : c.peek = some t) (ht : t.kind = .word ∨ t.kind = .phrase) :
    c.literal = .returned (.term t.literal) c.next := by
  rw [literal, hpeek]
  rcases ht with ht | ht <;> simp [ht]

/-- A word or a phrase is a search term by itself. -/
lemma agrees_searchTerm_of_literal (hrest : c.rest = t :: ts)
    (ht : t.kind = .word ∨ t.kind = .phrase) :
    Agrees (.ok (.term t.literal, ts)) c.searchTerm := by
  have hpeek := peek_of_rest hrest
  have hnot : c.nextIf (.keyword .not) = none := by
    rw [nextIf_eq_none_iff, hpeek]
    rcases ht with ht | ht <;> simp [ht]
  rw [searchTerm, hnot]
  change Agrees _ c.literal
  rw [literal_eq hpeek ht]
  exact .of_rest (rest_next hrest)

/-- After a `NOT` a word or a phrase is read. -/
lemma agrees_searchTerm_of_not (hrest : c.rest = t :: ts) (ht : t.kind = .keyword .not) :
    Agrees (Parser.negated t.offset ts) c.searchTerm := by
  have hnot : c.nextIf (.keyword .not) = some (t, c.next) :=
    nextIf_eq_some_iff.mpr ⟨peek_of_rest hrest, ht, rfl⟩
  have hrest' := rest_next hrest
  rw [searchTerm, hnot]
  rcases ts with _ | ⟨u, us⟩
  · simp only [peek_of_rest_eq_nil hrest']
    exact .error _ _
  · have hpeek := peek_of_rest hrest'
    have hrest'' := rest_next hrest'
    simp only [hpeek, Parser.negated]
    cases hu : u.kind with
    | word =>
      rw [literal_eq hpeek (.inl hu)]
      exact .of_rest hrest''
    | phrase =>
      rw [literal_eq hpeek (.inr hu)]
      exact .of_rest hrest''
    | openParen => exact .error _ _
    | closeParen => exact .error _ _
    | keyword k => exact .error _ _

/-- What a group does once its expression has been read. -/
lemma agrees_expectClose (inner : Expr) (c : Cursor) (opening : Token) :
    Agrees (Parser.closeGroup opening (inner, c.rest))
      ((c.expectClose opening.offset).bind fun _ c => .returned inner c) := by
  rcases hrest : c.rest with _ | ⟨t, ts⟩
  · rw [expectClose, peek_of_rest_eq_nil hrest]
    exact .error _ _
  · simp only [expectClose, peek_of_rest hrest, Parser.closeGroup]
    split
    · exact .of_rest (rest_next hrest)
    · exact .error _ _

/-- The expressions of groups are read alike, with `depth` groups open around them and fewer than
`turns` tokens left. -/
def AgreesInside (turns depth : Nat) (nested : Cursor → Result Expr) : Prop :=
  depth < groupLimit → ∀ c : Cursor, c.depth = depth + 1 → c.rest.length < turns →
    Agrees (Parser.readExpression c.depth [] c.rest) (nested c)

/-- A group is read alike if the expressions inside groups are. -/
lemma agrees_group (hinside : AgreesInside turns c.depth nested) (hrest : c.rest = t :: ts)
    (hturns : c.rest.length ≤ turns) : Agrees (Parser.readGroup c.depth t ts) (c.group nested) := by
  have hinner : c.noteEntry.next.rest = ts := rest_next hrest
  simp only [group, peek_of_rest hrest]
  split
  · next hlimit =>
    have hdeep : groupLimit ≤ c.depth := hlimit
    rw [Parser.readGroup_of_limit_le hdeep]
    exact .error _ _
  · next hlimit =>
    have hlt : c.depth < groupLimit := Nat.not_le.mp hlimit
    rcases ts with _ | ⟨u, us⟩
    · rw [Parser.readGroup_nil hlt, peek_of_rest_eq_nil hinner]
      exact .error _ _
    · rw [peek_of_rest hinner]
      split
      · next hkind => cases hkind
      · next hkind =>
        rw [Parser.readGroup_of_close hlt (Option.some.inj hkind)]
        exact .error _ _
      · next hu hkind =>
        cases hkind
        have hread := hinside hlt c.noteEntry.next.deeper rfl (by
          change c.noteEntry.next.rest.length < turns
          rw [hrest, List.length_cons] at hturns
          rwa [hinner])
        rw [Parser.readGroup_cons hlt hu, ← hinner]
        exact hread.bind fun inner c' _ _ => agrees_expectClose inner c'.shallower t

/-- An operand is read alike if the expressions inside groups are. -/
lemma agrees_operand (hinside : AgreesInside turns c.depth nested)
    (hturns : c.rest.length ≤ turns) :
    Agrees (Parser.readOperand c.depth c.rest) (c.operand nested) := by
  rcases hrest : c.rest with _ | ⟨t, ts⟩
  · rw [Parser.readOperand_nil, operand, peek_of_rest_eq_nil hrest]
    exact .error _ _
  · simp only [operand, peek_of_rest hrest]
    split
    · next hk =>
      rw [Parser.readOperand_of_open hk]
      exact agrees_group hinside hrest hturns
    · next hk =>
      rw [Parser.readOperand_of_not hk]
      exact agrees_searchTerm_of_not hrest hk
    · next hk =>
      rw [Parser.readOperand_of_literal (.inl hk)]
      exact agrees_searchTerm_of_literal hrest (.inl hk)
    · next hk =>
      rw [Parser.readOperand_of_literal (.inr hk)]
      exact agrees_searchTerm_of_literal hrest (.inr hk)
    · next hopen hnot hword hphrase =>
      have hk : t.kind.opensOperand = false := by
        rw [Bool.eq_false_iff, Ne, Kind.opensOperand_iff, not_or, not_or, not_or]
        exact ⟨hopen, hnot, hword, hphrase⟩
      rw [Parser.readOperand_of_not_opensOperand hk]
      exact .error _ _

/-! ### Loops -/

/-- A loop that goes on later than at `c`, and with the same groups open, agrees with what a reader
does then. -/
def AgreesAfter (c : Cursor) (read : σ → List Token → Parser.Outcome)
    (goOn : σ → Cursor → Result Expr) : Prop :=
  ∀ s (c' : Cursor), c'.depth = c.depth → c'.rest.length < c.rest.length →
    Agrees (read s c'.rest) (goOn s c')

/-- What holds later than at `c` holds later than at any place that comes after `c`. -/
lemma AgreesAfter.of_le {read : σ → List Token → Parser.Outcome} {goOn : σ → Cursor → Result Expr}
    (h : c.AgreesAfter read goOn) (hdepth : c'.depth = c.depth)
    (hle : c'.rest.length ≤ c.rest.length) : c'.AgreesAfter read goOn := by
  intro s c'' hdepth' hlt
  exact h s c'' (hdepth'.trans hdepth) (hlt.trans_le hle)

variable {bound depth : Nat}

/-- A loop agrees with a reader if each of its turns does, whatever it goes on with: every turn
leaves fewer tokens, so there are enough turns. -/
lemma agrees_loop {read : σ → List Token → Parser.Outcome} {turn : σ → Cursor → Result (Turn σ)}
    (hturn : ∀ s (c : Cursor) goOn, c.depth = depth → c.rest.length < bound →
      c.AgreesAfter read goOn → Agrees (read s c.rest) ((turn s c).bind (Turn.resume goOn)))
    (s : σ) (hdepth : c.depth = depth) (hbound : c.rest.length < bound)
    (hturns : c.rest.length < turns) : Agrees (read s c.rest) (loop turn turns s c) := by
  induction turns generalizing s c with
  | zero => exact absurd hturns (Nat.not_lt_zero _)
  | succ turns ih =>
    apply hturn s c _ hdepth hbound
    intro s' c' hdepth' hlt
    exact ih s' (hdepth'.trans hdepth) (hlt.trans hbound) (by omega)

/-- An operand is taken alike, and leaves fewer tokens for those that follow. -/
lemma agrees_takeOperand {goOn : Expr → Cursor → Result Expr}
    (hnested : ∀ c, (nested c).Lawful c) (hinside : AgreesInside bound c.depth nested)
    (hbound : c.rest.length ≤ bound)
    (hmore : c.AgreesAfter (Parser.readConjunction c.depth) goOn) :
    Agrees
      ((Parser.readOperand c.depth c.rest).bind fun p =>
        Parser.readConjunction c.depth (.and left p.1) p.2)
      ((c.takeOperand nested left).bind (Turn.resume goOn)) := by
  rw [takeOperand, Result.bind_assoc]
  apply (agrees_operand hinside hbound).bind
  intro right c' hread hreturned
  have hdone := (operand_lawful hnested c).completes right c' hreturned
  exact hmore _ c' hdone.depth_eq (Parser.length_of_readOperand hread)

/-- A turn of the loop of a conjunction agrees with the reader, whatever it goes on with. -/
lemma agrees_conjunctionTurn {goOn : Expr → Cursor → Result Expr}
    (hnested : ∀ c, (nested c).Lawful c) (hinside : AgreesInside bound c.depth nested)
    (hbound : c.rest.length ≤ bound)
    (hmore : c.AgreesAfter (Parser.readConjunction c.depth) goOn) :
    Agrees (Parser.readConjunction c.depth left c.rest)
      ((conjunctionTurn nested left c).bind (Turn.resume goOn)) := by
  rw [conjunctionTurn]
  rcases hrest : c.rest with _ | ⟨t, ts⟩
  · rw [Parser.readConjunction_nil, peek_of_rest_eq_nil hrest]
    exact .of_rest hrest
  rw [peek_of_rest hrest]
  split
  · next hkind => cases hkind
  · next hkind =>
    rw [Parser.readConjunction_of_stop (.inr (Option.some.inj hkind))]
    exact .of_rest hrest
  · next hkind =>
    rw [Parser.readConjunction_of_stop (.inl (Option.some.inj hkind))]
    exact .of_rest hrest
  · next hkind =>
    have hand : t.kind = .keyword .and := Option.some.inj hkind
    have hnext : c.nextIf (.keyword .and) = some (t, c.next) :=
      nextIf_eq_some_iff.mpr ⟨peek_of_rest hrest, hand, rfl⟩
    have hrest' := rest_next hrest
    have hle : c.next.rest.length ≤ c.rest.length := by
      rw [hrest', hrest]
      exact Nat.le_succ _
    rw [andKeyword, hnext]
    rcases ts with _ | ⟨u, us⟩
    · simp only [peek_of_rest_eq_nil hrest', Parser.readConjunction_of_and_nil hand]
      exact .error _ _
    · simp only [peek_of_rest hrest']
      split
      · next hu =>
        rw [Parser.readConjunction_of_and_connective hand hu]
        exact .error _ _
      · next hu =>
        rw [Parser.readConjunction_of_and hand (Bool.eq_false_iff.mpr hu), ← hrest']
        exact agrees_takeOperand hnested hinside (hle.trans hbound) (hmore.of_le rfl hle)
  · next hclose hor hand hkind =>
    have hopens : t.kind.opensOperand = true := by
      cases hkind
      exact Kind.opensOperand_of_ne hand (not_or.mpr ⟨hor, hclose⟩)
    rw [Parser.readConjunction_of_opensOperand hopens, ← hrest]
    exact agrees_takeOperand hnested hinside hbound hmore

/-- The further operands of a conjunction are read alike if the expressions inside groups are. -/
lemma agrees_conjunction (hnested : ∀ c, (nested c).Lawful c) (left : Expr)
    (hdepth : c.depth = depth) (hinside : AgreesInside bound depth nested)
    (hbound : c.rest.length < bound) (hturns : c.rest.length < turns) :
    Agrees (Parser.readConjunction depth left c.rest) (c.conjunction turns nested left) := by
  apply agrees_loop _ left hdepth hbound hturns
  rintro left c goOn rfl hbound hmore
  exact agrees_conjunctionTurn hnested hinside hbound.le hmore

/-- What follows a conjunction is read alike. -/
lemma agrees_orKeyword {goOn : List Expr → Cursor → Result Expr} (last : Expr)
    (hmore : c.AgreesAfter (Parser.readExpression c.depth) goOn) :
    Agrees (Parser.readAlternatives c.depth earlier (last, c.rest))
      ((c.orKeyword earlier last).bind (Turn.resume goOn)) := by
  rcases hrest : c.rest with _ | ⟨t, ts⟩
  · have hnext : c.nextIf (.keyword .or) = none := by
      rw [nextIf, peek_of_rest_eq_nil hrest]
    rw [orKeyword, hnext]
    exact .of_rest hrest
  · have hrest' := rest_next hrest
    by_cases ht : t.kind = .keyword .or
    · have hnext : c.nextIf (.keyword .or) = some (t, c.next) :=
        nextIf_eq_some_iff.mpr ⟨peek_of_rest hrest, ht, rfl⟩
      have hlt : c.next.rest.length < c.rest.length := by
        rw [hrest', hrest]
        exact Nat.lt_succ_self _
      have hgo := hmore (last :: earlier) c.next rfl hlt
      rw [orKeyword, hnext, Parser.readAlternatives, if_pos ht]
      rcases ts with _ | ⟨u, us⟩
      · simp only [peek_of_rest_eq_nil hrest']
        exact .error _ _
      · rw [hrest'] at hgo
        simp only [peek_of_rest hrest', List.isEmpty_cons, Bool.false_eq_true, if_false]
        exact hgo
    · have hnext : c.nextIf (.keyword .or) = none := by
        rw [nextIf_eq_none_iff, peek_of_rest hrest]
        simpa using ht
      rw [orKeyword, hnext, Parser.readAlternatives, if_neg ht]
      exact .of_rest hrest

/-- A turn of the loop over alternatives agrees with the reader, whatever it goes on with. -/
lemma agrees_expressionTurn {goOn : List Expr → Cursor → Result Expr}
    (hnested : ∀ c, (nested c).Lawful c) (hinside : AgreesInside bound c.depth nested)
    (hbound : c.rest.length < bound)
    (hmore : c.AgreesAfter (Parser.readExpression c.depth) goOn) :
    Agrees (Parser.readExpression c.depth earlier c.rest)
      ((expressionTurn bound nested earlier c).bind (Turn.resume goOn)) := by
  rw [expressionTurn]
  rcases hrest : c.rest with _ | ⟨t, ts⟩
  · rw [Parser.readExpression_nil, peek_of_rest_eq_nil hrest, Option.filter_none, operand,
      peek_of_rest_eq_nil hrest]
    exact .error _ _
  rw [peek_of_rest hrest, Option.filter_some]
  rcases ht : t.kind.isConnective with _ | _
  · rw [Parser.readExpression_cons ht, ← hrest, if_neg Bool.false_ne_true, Result.bind_assoc]
    apply (agrees_operand hinside hbound.le).bind
    intro first c₁ hfirst hfirst'
    have hdone := (operand_lawful hnested c).completes first c₁ hfirst'
    have hlt := Parser.length_of_readOperand hfirst
    rw [Result.bind_assoc]
    apply (agrees_conjunction hnested first hdone.depth_eq hinside (by omega) (by omega)).bind
    intro last c₂ hlast hlast'
    have hdone' := (conjunction_lawful hnested bound first c₁).completes last c₂ hlast'
    have hle := Parser.length_of_readConjunction hlast
    have hdepth := hdone'.depth_eq.trans hdone.depth_eq
    rw [← hdepth] at hmore ⊢
    exact agrees_orKeyword last (hmore.of_le hdepth (by omega))
  · rw [Parser.readExpression_of_connective ht, if_pos rfl]
    exact .error _ _

/-- The parser that moves a cursor reads what the readers read, if its loops may turn as often as
there are tokens left, and once more, and if it may read as many expressions inside each other as
groups may still be opened, and one more. -/
lemma agrees_expression (hdepth : c.depth ≤ groupLimit) (hlevels : groupLimit < levels + c.depth)
    (hturns : c.rest.length < turns) :
    Agrees (Parser.readExpression c.depth [] c.rest) (expression turns levels c) := by
  induction levels generalizing c with
  | zero => omega
  | succ levels ih =>
    -- A group inside costs one level, but it also has one group more around it.
    have hinside : AgreesInside turns c.depth (expression turns levels) := by
      intro hlt inside hdepth' hrest
      exact ih (by omega) (by omega) hrest
    apply agrees_loop _ [] rfl hturns hturns
    intro earlier c' goOn hdepth' hbound hmore
    rw [← hdepth'] at hinside hmore ⊢
    exact agrees_expressionTurn (expression_lawful turns levels) hinside hbound hmore

/-! ## The bounds -/

/-- A call that began at `c` has read on within the tokens, and left the counter as it found it. -/
structure Keeps (c c' : Cursor) : Prop where
  tokens_eq : c'.tokens = c.tokens
  within : c'.position ≤ c.tokens.length
  depth_eq : c'.depth = c.depth

/-- What has been completed within the tokens has been kept. -/
lemma Completes.keeps (h : c.Completes c') (hc : c.position ≤ c.tokens.length) : c.Keeps c' :=
  ⟨h.tokens_eq, h.within hc, h.depth_eq⟩

/-- How the calls of the parser move its cursor, if its loops may turn `turns` times and if it may
read `levels` expressions inside each other. -/
structure Progresses (turns levels : Nat) : Prop where
  /-- An operand takes at least one token. -/
  operand : ∀ (c : Cursor) e c', c.position ≤ c.tokens.length →
    c.operand (expression turns levels) = .returned e c' →
      c.position < c'.position ∧ c.Keeps c'
  /-- A conjunction may take no more tokens than its first operand. -/
  conjunction : ∀ (c : Cursor) left e c', c.position ≤ c.tokens.length →
    c.conjunction turns (expression turns levels) left = .returned e c' →
      c.position ≤ c'.position ∧ c.Keeps c'
  /-- An expression takes at least one token, and only a closing parenthesis can follow. -/
  expression : ∀ (c : Cursor) e c', c.position ≤ c.tokens.length →
    expression turns levels c = .returned e c' →
      c.position < c'.position ∧ c.Keeps c' ∧ ∀ t ∈ c'.peek, t.kind = .closeParen
  /-- A conjunction that goes on has taken at least one token in that turn. -/
  conjunctionTurn : ∀ (c : Cursor) left left' c',
    conjunctionTurn (Cursor.expression turns levels) left c = .returned (.again left') c' →
      c.position < c'.position
  /-- So has an expression, whether it goes on or not. -/
  expressionTurn : ∀ (c : Cursor) earlier s c',
    expressionTurn turns (Cursor.expression turns levels) earlier c = .returned s c' →
      c.position < c'.position
  /-- However the reading ends, the counter told how many groups were open whenever one was
  entered. -/
  entries : ∀ ts, ∀ entry ∈ (Cursor.expression turns levels (start ts)).cursor.entries,
    entry.2 = (openGroups (ts.take entry.1)).length
  /-- From any place the readers of the parser read the same, if `levels` and `turns` are high
  enough there. -/
  reads : ∀ c : Cursor, c.depth ≤ groupLimit → groupLimit ≤ levels + c.depth →
    c.rest.length < turns →
      Agrees (Parser.readOperand c.depth c.rest) (c.operand (Cursor.expression turns levels)) ∧
        (∀ left, Agrees (Parser.readConjunction c.depth left c.rest)
          (c.conjunction turns (Cursor.expression turns levels) left)) ∧
        Agrees (Parser.readExpression c.depth [] c.rest)
          (Cursor.expression turns (levels + 1) c)
  /-- More turns than there are tokens, and 257 expressions inside each other, are always enough. -/
  parses : ∀ ts, ts.length < turns → 257 ≤ levels →
    parseWithin turns levels ts = (parse ts).mapError Stop.failed

/-- Before anything has been read no group is open. -/
lemma start_sound (ts : List Token) : (start ts).Sound where
  depth_eq := rfl
  entries := List.forall_mem_nil _

/-- With bounds that are high enough at a place, an operand and the rest of a conjunction are read
there as they are without bounds. -/
lemma agreesInside_expression (hlevels : groupLimit ≤ levels + c.depth) :
    AgreesInside turns c.depth (expression turns levels) := by
  intro hlt inside hinside hrest
  apply agrees_expression _ _ hrest
  · omega
  · omega

end Cursor

/-- Bounds that are high enough change nothing. -/
lemma parseWithin_eq {turns levels : Nat} {ts : List Token} (hturns : ts.length < turns)
    (hlevels : groupLimit < levels) :
    parseWithin turns levels ts = (parse ts).mapError Cursor.Stop.failed := by
  have h : Cursor.Agrees (Parser.readExpression 0 [] ts)
      (Cursor.expression turns levels (.start ts)) :=
    Cursor.agrees_expression (c := .start ts) (Nat.zero_le _) hlevels hturns
  rw [parse_eq_bind, parseWithin]
  rcases ts with _ | ⟨t, ts⟩
  · rw [Parser.readExpression_nil]
    rfl
  · generalize Parser.readExpression 0 [] (t :: ts) = x at h ⊢
    generalize Cursor.expression turns levels (.start (t :: ts)) = r at h ⊢
    cases h with
    | error err c => rfl
    | ok e c =>
      rcases hrest : c.rest with _ | ⟨u, us⟩
      · simp [Cursor.peek_of_rest_eq_nil hrest, Except.bind, wholeExpression, Except.mapError]
      · simp [Cursor.peek_of_rest hrest, Except.bind, wholeExpression, Except.mapError]

/-- The parser consumes tokens whenever it turns a loop, keeps its counter right, and needs no more
than 257 expressions inside each other. -/
theorem readers_progress_within_bounds (turns levels : Nat) :
    Cursor.Progresses turns levels := by
  have hnested := Cursor.expression_lawful turns levels
  constructor
  case operand =>
    intro c e c' hc h
    have hdone := (Cursor.operand_lawful hnested c).completes e c' h
    exact ⟨Cursor.position_lt_of_operand hnested h, hdone.keeps hc⟩
  case conjunction =>
    intro c left e c' hc h
    have hdone := (Cursor.conjunction_lawful hnested turns left c).completes e c' h
    exact ⟨hdone.position_le, hdone.keeps hc⟩
  case expression =>
    intro c e c' hc h
    have hdone := (hnested c).completes e c' h
    exact ⟨Cursor.position_lt_of_expression h, hdone.keeps hc, Cursor.kind_of_expression h⟩
  case conjunctionTurn =>
    intro c left left' c' h
    exact Cursor.position_lt_of_conjunctionTurn hnested h
  case expressionTurn =>
    intro c earlier s c' h
    exact Cursor.position_lt_of_expressionTurn hnested h
  case entries =>
    intro ts
    exact (hnested (.start ts)).entries (Cursor.start_sound ts)
  case reads =>
    intro c hdepth hlevels hturns
    have hinside : Cursor.AgreesInside turns c.depth (Cursor.expression turns levels) :=
      Cursor.agreesInside_expression hlevels
    refine ⟨Cursor.agrees_operand hinside hturns.le, ?_, ?_⟩
    · intro left
      exact Cursor.agrees_conjunction hnested left rfl hinside hturns hturns
    · exact Cursor.agrees_expression hdepth (by omega) hturns
  case parses =>
    intro ts hturns hlevels
    exact parseWithin_eq hturns hlevels

/-- In `((a) b) OR (c)` a group inside another is entered with one group open, and its sibling after
both with none. -/
theorem sibling_group_is_entered_with_none_open :
    let ts : List Token :=
      [⟨.openParen, "(", 0⟩, ⟨.openParen, "(", 1⟩, ⟨.word, "a", 2⟩, ⟨.closeParen, ")", 3⟩,
        ⟨.word, "b", 5⟩, ⟨.closeParen, ")", 6⟩, ⟨.keyword .or, "OR", 8⟩, ⟨.openParen, "(", 11⟩,
        ⟨.word, "c", 12⟩, ⟨.closeParen, ")", 13⟩]
    (Cursor.expression 11 257 (.start ts)).cursor.entries = [(7, 0), (1, 1), (0, 0)] ∧
      (∀ entry ∈ (Cursor.expression 11 257 (.start ts)).cursor.entries,
        entry.2 = (openGroups (ts.take entry.1)).length) ∧
      (∃ e c', Cursor.expression 11 257 (.start ts) = .returned e c' ∧ 0 < c'.position ∧
        (Cursor.start ts).Keeps c' ∧ ∀ t ∈ c'.peek, t.kind = .closeParen) ∧
      parseWithin 11 257 ts = (parse ts).mapError Cursor.Stop.failed := by
  intro ts
  have hbounds := readers_progress_within_bounds 11 257
  refine ⟨by cbv, hbounds.entries ts, ⟨_, _, rfl, ?_⟩, hbounds.parses ts (by decide) (by decide)⟩
  exact hbounds.expression (.start ts) _ _ (by decide) rfl

end SearchQuery

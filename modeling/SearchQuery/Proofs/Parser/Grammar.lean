import Mathlib.Data.Set.Subsingleton
import SearchQuery.Expr.Recursion
import SearchQuery.Proofs.Parser.Readers

/-!
# The grammar of search expressions

The grammar is given as one inductive relation: `Derives x n ts e` says that the tokens `ts`
derive the tree `e` from the nonterminal `x`, with groups nested at most `n` deep.  It names no
reader, no position and no error, and its rules for conjunctions recurse on the left where the
parser loops to the right.

The parser accepts exactly the token lists that derive an expression with at most `groupLimit`
nested groups, and builds the tree that they derive.  Soundness (`derives_of_readExpression`)
follows the recursion of the readers, each reader returning the tokens that it leaves.
Completeness (`Derives.isRead`) is an induction on derivations; what is carried through it for
each nonterminal, with arbitrary tokens after the derived ones, is `IsRead`.
-/

namespace SearchQuery

/-! ## Derivations -/

/-- The value of the token of a word or a phrase: a phrase loses its quotes, if it has both. -/
inductive HasValue : Token → String → Prop
  | word {t : Token} (ht : t.kind = .word) : HasValue t t.text
  | quoted {t : Token} {v : String} (ht : t.kind = .phrase)
      (hv : t.text = "\"" ++ v ++ "\"") : HasValue t v
  | bare {t : Token} (ht : t.kind = .phrase) (hv : ∀ v : String, t.text ≠ "\"" ++ v ++ "\"") :
      HasValue t t.text

/-- The nonterminals of the grammar. -/
inductive Nonterminal where
  | expression
  | conjunction
  | operand
  | searchTerm

/-- The tokens derive the tree from the nonterminal, with groups nested at most `n` deep. -/
inductive Derives : Nonterminal → Nat → List Token → Expr → Prop
  | single {n : Nat} {ts : List Token} {e : Expr} :
      Derives .conjunction n ts e → Derives .expression n ts e
  | alternative {n : Nat} {ts us : List Token} {t : Token} {l r : Expr} :
      Derives .conjunction n ts l → t.kind = .keyword .or → Derives .expression n us r →
        Derives .expression n (ts ++ t :: us) (.or l r)
  | first {n : Nat} {ts : List Token} {e : Expr} :
      Derives .operand n ts e → Derives .conjunction n ts e
  | implied {n : Nat} {ts us : List Token} {l r : Expr} :
      Derives .conjunction n ts l → Derives .operand n us r →
        Derives .conjunction n (ts ++ us) (.and l r)
  | written {n : Nat} {ts us : List Token} {t : Token} {l r : Expr} :
      Derives .conjunction n ts l → t.kind = .keyword .and → Derives .operand n us r →
        Derives .conjunction n (ts ++ t :: us) (.and l r)
  | group {n : Nat} {o c : Token} {ts : List Token} {e : Expr} :
      o.kind = .openParen → Derives .expression n ts e → c.kind = .closeParen →
        Derives .operand (n + 1) (o :: ts ++ [c]) e
  | ungrouped {n : Nat} {ts : List Token} {e : Expr} :
      Derives .searchTerm n ts e → Derives .operand n ts e
  | literal {n : Nat} {t : Token} {v : String} :
      HasValue t v → Derives .searchTerm n [t] (.term v)
  | negated {n : Nat} {t u : Token} {v : String} :
      t.kind = .keyword .not → HasValue u v → Derives .searchTerm n [t, u] (.not (.term v))

/-! ### Values of words and phrases -/

/-- Only words and phrases have values. -/
lemma HasValue.kind {t : Token} {v : String} (h : HasValue t v) :
    t.kind = .word ∨ t.kind = .phrase := by
  cases h with
  | word ht => exact Or.inl ht
  | quoted ht _ => exact Or.inr ht
  | bare ht _ => exact Or.inr ht

/-- Text between two quotes has lost them in the value of a phrase. -/
lemma literal_of_quoted {t : Token} {v : String} (ht : t.kind = .phrase)
    (hv : t.text = "\"" ++ v ++ "\"") : t.literal = v := by
  have hlist : t.text.toList = '"' :: (v.toList ++ ['"']) := by simp [hv]
  simp [Token.literal, ht, hlist]

/-- Text that lacks one of the quotes is the value of a phrase as it stands. -/
lemma literal_of_bare {t : Token} (ht : t.kind = .phrase)
    (hv : ∀ v : String, t.text ≠ "\"" ++ v ++ "\"") : t.literal = t.text := by
  rw [Token.literal, ht]
  dsimp only
  split
  · next inner hinner =>
    split
    · next hlast =>
      obtain ⟨body, rfl⟩ := List.getLast?_eq_some_iff.mp hlast
      refine absurd ?_ (hv (String.ofList body))
      rw [← String.toList_inj, hinner]
      simp
    · rfl
  · rfl

/-- The value of a token is what the parser takes it for. -/
lemma HasValue.eq_literal {t : Token} {v : String} (h : HasValue t v) : v = t.literal := by
  cases h with
  | word ht => simp [Token.literal, ht]
  | quoted ht hv => exact (literal_of_quoted ht hv).symm
  | bare ht hv => exact (literal_of_bare ht hv).symm

/-- Words and phrases have values. -/
lemma hasValue_literal {t : Token} (ht : t.kind = .word ∨ t.kind = .phrase) :
    HasValue t t.literal := by
  rcases ht with ht | ht
  · have hlit : t.literal = t.text := by simp [Token.literal, ht]
    rw [hlit]
    exact .word ht
  · by_cases hv : ∃ v : String, t.text = "\"" ++ v ++ "\""
    · obtain ⟨v, hv⟩ := hv
      rw [literal_of_quoted ht hv]
      exact .quoted ht hv
    · have hbare : ∀ v : String, t.text ≠ "\"" ++ v ++ "\"" := fun v h => hv ⟨v, h⟩
      rw [literal_of_bare ht hbare]
      exact .bare ht hbare

/-! ### The first token of a derivation -/

/-- What derives anything begins with a token that opens an operand. -/
lemma Derives.exists_cons {x : Nonterminal} {n : Nat} {ts : List Token} {e : Expr}
    (h : Derives x n ts e) : ∃ t us, ts = t :: us ∧ t.kind.opensOperand = true := by
  induction h with
  | single _ ih => exact ih
  | first _ ih => exact ih
  | ungrouped _ ih => exact ih
  | alternative _ _ _ ih _ =>
    obtain ⟨t, us, rfl, ht⟩ := ih
    exact ⟨t, _, rfl, ht⟩
  | implied _ _ ih _ =>
    obtain ⟨t, us, rfl, ht⟩ := ih
    exact ⟨t, _, rfl, ht⟩
  | written _ _ _ ih _ =>
    obtain ⟨t, us, rfl, ht⟩ := ih
    exact ⟨t, _, rfl, ht⟩
  | group ho _ _ _ => exact ⟨_, _, rfl, by simp [ho, Kind.opensOperand]⟩
  | literal hv =>
    refine ⟨_, _, rfl, ?_⟩
    rcases hv.kind with hk | hk <;> simp [hk, Kind.opensOperand]
  | negated ht _ => exact ⟨_, _, rfl, by simp [ht, Kind.opensOperand]⟩

/-! ### The terms of a derivation -/

/-- The tokens of the words and phrases among the given ones. -/
def literals (ts : List Token) : List Token :=
  ts.filter fun t => t.kind = .word ∨ t.kind = .phrase

/-- The terms of a derived tree are the values of the words and phrases, in their order. -/
lemma leaves_of_derives {x : Nonterminal} {n : Nat} {ts : List Token} {e : Expr}
    (h : Derives x n ts e) : e.leaves = (literals ts).map Token.literal := by
  induction h with
  | single _ ih => exact ih
  | first _ ih => exact ih
  | ungrouped _ ih => exact ih
  | alternative _ ht _ ihl ihr => simp [Expr.or, Expr.leaves, literals, ihl, ihr, ht]
  | implied _ _ ihl ihr => simp [Expr.and, Expr.leaves, literals, ihl, ihr]
  | written _ ht _ ihl ihr => simp [Expr.and, Expr.leaves, literals, ihl, ihr, ht]
  | group ho _ hc ih => simp [literals, ih, ho, hc]
  | literal hv => simp [Expr.leaves, literals, hv.kind, hv.eq_literal]
  | negated ht hv => simp [Expr.leaves, literals, ht, hv.kind, hv.eq_literal]

namespace Parser

/-! ## Soundness -/

/-- A negated term that is read derives its tree. -/
lemma derives_of_negated {n : Nat} {t : Token} {ts rest : List Token} {e : Expr}
    (ht : t.kind = .keyword .not) (h : negated t.offset ts = .ok (e, rest)) :
    ∃ used, t :: ts = used ++ rest ∧ Derives .searchTerm n used e := by
  rcases ts with _ | ⟨u, us⟩
  · simp [negated] at h
  · by_cases hu : u.kind = .word ∨ u.kind = .phrase
    · have hread : negated t.offset (u :: us) = .ok (.not (.term u.literal), us) := by
        rcases hu with hu | hu <;> simp [negated, hu]
      rw [hread, Except.ok.injEq, Prod.mk.injEq] at h
      obtain ⟨rfl, rfl⟩ := h
      exact ⟨[t, u], rfl, .negated ht (hasValue_literal hu)⟩
    · rw [negated] at h
      split at h
      · next hk => exact absurd (Or.inl hk) hu
      · next hk => exact absurd (Or.inr hk) hu
      · simp at h

mutual

/-- The tokens that an operand takes derive it. -/
lemma derives_of_readOperand {n depth : Nat} {ts rest : List Token} {e : Expr}
    (hn : depth + n = groupLimit) (h : readOperand depth ts = .ok (e, rest)) :
    ∃ used, ts = used ++ rest ∧ Derives .operand n used e := by
  obtain ⟨t, us, hts, hcases⟩ := readOperand_eq_ok h
  have hus : us.length < ts.length := by simp [hts]
  rcases hcases with ⟨ho, hgroup⟩ | ⟨hnot, hterm⟩ | ⟨hl, rfl, rfl⟩
  · obtain ⟨hd, c, hinner, hc⟩ := readGroup_eq_ok hgroup
    obtain ⟨m, rfl⟩ : ∃ m, n = m + 1 := ⟨n - 1, by omega⟩
    obtain ⟨used, last, hused, hlast, rfl⟩ :=
      derives_of_readExpression (n := m) (by omega) hinner
    exact ⟨t :: used ++ [c], by simp [hts, hused], .group ho hlast hc⟩
  · obtain ⟨used, hused, hnegated⟩ := derives_of_negated hnot hterm
    exact ⟨used, hts.trans hused, .ungrouped hnegated⟩
  · exact ⟨[t], hts, .ungrouped (.literal (hasValue_literal hl))⟩
termination_by 3 * ts.length

/-- The tokens that a conjunction takes continue the derivation of its left side. -/
lemma derives_of_readConjunction {n depth : Nat} {left : Expr} {prior ts rest : List Token}
    {e : Expr} (hn : depth + n = groupLimit) (hleft : Derives .conjunction n prior left)
    (h : readConjunction depth left ts = .ok (e, rest)) :
    ∃ used, ts = used ++ rest ∧ Derives .conjunction n (prior ++ used) e := by
  rcases readConjunction_eq_ok h with ⟨rfl, rfl, -⟩ | ⟨and, us, r, after, hts, hand, hr, hend⟩
  · exact ⟨[], rfl, by simpa using hleft⟩
  have hus : us.length ≤ ts.length := by simp [hts]
  have hafter : after.length < us.length := length_of_readOperand hr
  obtain ⟨used₁, hused₁, hright⟩ := derives_of_readOperand hn hr
  have hboth : Derives .conjunction n (prior ++ (and ++ used₁)) (.and left r) := by
    rcases hand with rfl | ⟨t, rfl, ht⟩
    · exact .implied hleft hright
    · exact .written hleft ht hright
  obtain ⟨used₂, hused₂, hall⟩ := derives_of_readConjunction hn hboth hend
  exact ⟨and ++ used₁ ++ used₂, by simp [hts, hused₁, hused₂], by simpa using hall⟩
termination_by 3 * ts.length + 1

/-- The tokens that an expression takes derive its last alternative, when the parser has read the
earlier ones. -/
lemma derives_of_readExpression {n depth : Nat} {earlier : List Expr} {ts rest : List Token}
    {e : Expr} (hn : depth + n = groupLimit)
    (h : readExpression depth earlier ts = .ok (e, rest)) :
    ∃ used last, ts = used ++ rest ∧ Derives .expression n used last ∧
      e = joinAlternatives earlier last := by
  obtain ⟨first, mid, last, after, hfirst, hlast, hend⟩ := readExpression_eq_ok h
  have hmid : mid.length < ts.length := length_of_readOperand hfirst
  have hafter : after.length ≤ mid.length := length_of_readConjunction hlast
  obtain ⟨used₁, hused₁, hoperand⟩ := derives_of_readOperand hn hfirst
  obtain ⟨used₂, hused₂, hconj⟩ := derives_of_readConjunction hn (.first hoperand) hlast
  rcases hend with ⟨rfl, rfl, -⟩ | ⟨t, us, hafterEq, ht, hus⟩
  · exact ⟨used₁ ++ used₂, last, by simp [hused₁, hused₂], .single hconj, rfl⟩
  · have hlen : us.length < after.length := by simp [hafterEq]
    obtain ⟨used₃, tail, hused₃, htail, rfl⟩ := derives_of_readExpression hn hus
    exact ⟨used₁ ++ used₂ ++ t :: used₃, .or last tail, by simp [hused₁, hused₂, hafterEq, hused₃],
      .alternative hconj ht htail, rfl⟩
termination_by 3 * ts.length + 2

end

/-! ## Completeness -/

/-- The tokens after an expression: there are none, or a closing parenthesis comes first. -/
def EndsExpression (rest : List Token) : Prop :=
  ∀ t ∈ rest.head?, t.kind = .closeParen

/-- What the reader of a nonterminal does with tokens that derive a tree from it, whatever
follows them.  A conjunction goes on to read what follows, so all that is said of it is that it
has got as far as the tree; an expression stops only where nothing can extend it. -/
def IsRead : Nonterminal → Nat → List Token → Expr → Prop
  | .expression, n, ts, e => ∀ (depth : Nat) (earlier : List Expr) (rest : List Token),
      depth + n ≤ groupLimit → EndsExpression rest →
        readExpression depth earlier (ts ++ rest) = .ok (joinAlternatives earlier e, rest)
  | .conjunction, n, ts, e => ∀ (depth : Nat) (rest : List Token), depth + n ≤ groupLimit →
      ∃ first mid, readOperand depth (ts ++ rest) = .ok (first, mid) ∧
        readConjunction depth first mid = readConjunction depth e rest
  | .operand, n, ts, e | .searchTerm, n, ts, e => ∀ (depth : Nat) (rest : List Token),
      depth + n ≤ groupLimit → readOperand depth (ts ++ rest) = .ok (e, rest)

/-- A conjunction ends where an expression does. -/
lemma readConjunction_of_endsExpression {depth : Nat} {left : Expr} {rest : List Token}
    (h : EndsExpression rest) : readConjunction depth left rest = .ok (left, rest) := by
  rcases rest with _ | ⟨t, rest⟩
  · exact readConjunction_nil
  · exact readConjunction_of_stop (Or.inr (h t rfl))

/-- No alternative follows where an expression ends. -/
lemma readAlternatives_of_endsExpression {depth : Nat} {earlier : List Expr} {last : Expr}
    {rest : List Token} (h : EndsExpression rest) :
    readAlternatives depth earlier (last, rest) = .ok (joinAlternatives earlier last, rest) := by
  rcases rest with _ | ⟨t, rest⟩
  · rfl
  · have ht : t.kind = .closeParen := h t rfl
    simp [readAlternatives, ht]

/-- Once its first conjunction has been read, an expression goes on with what follows it. -/
lemma readExpression_of_conjunction {n depth : Nat} {ts rest : List Token} {e : Expr}
    (earlier : List Expr) (h : Derives .conjunction n ts e) (hread : IsRead .conjunction n ts e)
    (hd : depth + n ≤ groupLimit) :
    readExpression depth earlier (ts ++ rest) =
      (readConjunction depth e rest).bind (readAlternatives depth earlier) := by
  obtain ⟨first, mid, hfirst, hmid⟩ := hread depth rest hd
  obtain ⟨t, us, rfl, ht⟩ := h.exists_cons
  rw [List.cons_append] at hfirst ⊢
  rw [readExpression_cons (Kind.isConnective_eq_false_of_opensOperand ht), hfirst, ← hmid]
  rfl

/-- What derives a tree is read as that tree. -/
lemma isRead_of_derives {x : Nonterminal} {n : Nat} {ts : List Token} {e : Expr}
    (h : Derives x n ts e) : IsRead x n ts e := by
  induction h with
  | single hconj ih =>
    intro depth earlier rest hd hend
    rw [readExpression_of_conjunction earlier hconj ih hd, readConjunction_of_endsExpression hend]
    exact readAlternatives_of_endsExpression hend
  | @alternative n ts us t l r hconj ht hexpr ihl ihr =>
    intro depth earlier rest hd hend
    obtain ⟨u, us', rfl, -⟩ := hexpr.exists_cons
    have hstop : readConjunction depth l (t :: u :: us' ++ rest) =
        .ok (l, t :: u :: us' ++ rest) := readConjunction_of_stop (Or.inl ht)
    have hjoin : joinAlternatives (l :: earlier) r = joinAlternatives earlier (.or l r) := rfl
    rw [List.append_assoc, readExpression_of_conjunction earlier hconj ihl hd, hstop, ← hjoin]
    simpa [Except.bind, readAlternatives, ht] using ihr depth (l :: earlier) rest hd hend
  | first _ ih =>
    intro depth rest hd
    exact ⟨_, rest, ih depth rest hd, rfl⟩
  | @implied n ts us l r _ hop ihl ihr =>
    intro depth rest hd
    obtain ⟨first, mid, hfirst, hmid⟩ := ihl depth (us ++ rest) hd
    obtain ⟨u, us', rfl, hu⟩ := hop.exists_cons
    refine ⟨first, mid, by rw [List.append_assoc, hfirst], hmid.trans ?_⟩
    rw [List.cons_append, readConjunction_of_opensOperand hu, ← List.cons_append, ihr depth rest hd]
    rfl
  | @written n ts us t l r _ ht hop ihl ihr =>
    intro depth rest hd
    obtain ⟨first, mid, hfirst, hmid⟩ := ihl depth (t :: us ++ rest) hd
    obtain ⟨u, us', rfl, hu⟩ := hop.exists_cons
    have hnot := Kind.isConnective_eq_false_of_opensOperand hu
    refine ⟨first, mid, by rw [List.append_assoc, hfirst], hmid.trans ?_⟩
    rw [List.cons_append, List.cons_append, readConjunction_of_and ht hnot, ← List.cons_append,
      ihr depth rest hd]
    rfl
  | @group n o c ts e ho hexpr hc ih =>
    intro depth rest hd
    obtain ⟨u, us', rfl, hu⟩ := hexpr.exists_cons
    have hopen : u.kind ≠ .closeParen := by
      intro hclose
      simp [hclose, Kind.opensOperand] at hu
    have hinner : readExpression (depth + 1) [] (u :: us' ++ c :: rest) = .ok (e, c :: rest) :=
      ih (depth + 1) [] (c :: rest) (by omega) (by simp [EndsExpression, hc])
    have hgroup : readGroup depth o (u :: us' ++ c :: rest) = .ok (e, rest) := by
      rw [List.cons_append, readGroup_cons (by omega) hopen, ← List.cons_append, hinner]
      simp [Except.bind, closeGroup, hc]
    simpa [readOperand_of_open ho] using hgroup
  | ungrouped _ ih => exact ih
  | literal hv =>
    intro depth rest _
    rw [List.singleton_append, readOperand_of_literal hv.kind, hv.eq_literal]
  | @negated n t u v ht hv =>
    intro depth rest _
    have hread : negated t.offset (u :: rest) = .ok (.not (.term v), rest) := by
      rcases hv.kind with hk | hk <;> simp [negated, hk, hv.eq_literal]
    exact (readOperand_of_not ht).trans hread

end Parser

/-! ## The language of the parser -/

/-- The parser accepts what derives an expression with at most `groupLimit` nested groups, and
nothing else. -/
lemma parse_eq_ok_iff_derives {ts : List Token} {e : Expr} :
    parse ts = .ok e ↔ Derives .expression groupLimit ts e := by
  rw [parse_eq_ok_iff]
  constructor
  · intro h
    obtain ⟨used, last, hused, hlast, rfl⟩ :=
      Parser.derives_of_readExpression (Nat.zero_add groupLimit) h
    rw [List.append_nil] at hused
    rwa [hused]
  · intro h
    have hread := Parser.isRead_of_derives h 0 [] [] (Nat.le_of_eq (Nat.zero_add groupLimit))
    rw [List.append_nil] at hread
    exact hread (by simp [Parser.EndsExpression])

/-- The parser accepts exactly the tokens that derive an expression with groups nested at most 256
deep and builds the tree that they derive; no tokens derive two trees. -/
theorem parse_accepts_grammar (ts : List Token) :
    (∀ e : Expr, parse ts = .ok e ↔ Derives .expression 256 ts e) ∧
      {e : Expr | Derives .expression 256 ts e}.Subsingleton := by
  refine ⟨fun e => parse_eq_ok_iff_derives, ?_⟩
  intro e he e' he'
  have h : parse ts = .ok e := parse_eq_ok_iff_derives.mpr he
  have h' : parse ts = .ok e' := parse_eq_ok_iff_derives.mpr he'
  exact Except.ok.inj (h.symm.trans h')

end SearchQuery

import SearchQuery.Proofs.Parser.Contents

/-!
# Written and implied conjunctions

An `AND` between two operands may be left out, and where none is written between two operands one
may be added: the tokens spell the same tree, and groups and alternatives around the place make no
difference.  This holds of any number of places at once.

In the grammar the two spellings of a conjunction are two rules with the same tree, `written` and
`implied`, so a derivation of the one list becomes a derivation of the other by exchanging these
rules where an `AND` goes or comes (`Derives.of_dropsAnds`, `Derives.of_addsAnds`).  The tokens of a
derivation are those of its parts with some between them, so what is left of them, or what they
become, is taken apart in the same way (`DropsAnds.of_append`, `AddsAnds.of_append`); an `AND` that
comes between two parts can only stand before an operand, and never before an `OR` or a closing
parenthesis.
-/

namespace SearchQuery

/-- The kinds of token with which an operand may end. -/
def Kind.endsOperand : Kind → Bool
  | word | phrase | closeParen => true
  | keyword _ | openParen => false

/-- The second list is the first one without some of its `AND`s. -/
inductive DropsAnds : List Token → List Token → Prop
  | nil : DropsAnds [] []
  | keep {t : Token} {ts us : List Token} : DropsAnds ts us → DropsAnds (t :: ts) (t :: us)
  | drop {t : Token} {ts us : List Token} (ht : t.kind = .keyword .and) :
      DropsAnds ts us → DropsAnds (t :: ts) us

/-- The second list is the first one with an `AND` added in some of the places between a token that
ends an operand and a token that begins one. -/
inductive AddsAnds : List Token → List Token → Prop
  | nil : AddsAnds [] []
  | keep {t : Token} {ts us : List Token} : AddsAnds ts us → AddsAnds (t :: ts) (t :: us)
  | add {t u a : Token} {ts us : List Token} (ht : t.kind.endsOperand = true)
      (hu : u.kind.opensOperand = true) (ha : a.kind = .keyword .and) :
      AddsAnds (u :: ts) us → AddsAnds (t :: u :: ts) (t :: a :: us)

section

variable {x : Nonterminal} {n : Nat} {t u a : Token} {ts us ws : List Token} {e : Expr}

/-! ## Leaving out -/

namespace DropsAnds

/-- Nothing need be left out. -/
lemma refl (ts : List Token) : DropsAnds ts ts := by
  induction ts with
  | nil => exact .nil
  | cons t ts ih => exact .keep ih

/-- A token that is no `AND` is kept. -/
lemma of_cons (ht : t.kind ≠ .keyword .and) (h : DropsAnds (t :: ts) ws) :
    ∃ ts', DropsAnds ts ts' ∧ ws = t :: ts' := by
  cases h with
  | keep h => exact ⟨_, h, rfl⟩
  | drop hand _ => exact absurd hand ht

/-- So is one that is alone. -/
lemma eq_singleton (ht : t.kind ≠ .keyword .and) (h : DropsAnds [t] ws) : ws = [t] := by
  obtain ⟨ts', hts, rfl⟩ := h.of_cons ht
  cases hts
  rfl

/-- What is left of two lists is what is left of the one and then of the other. -/
lemma of_append (h : DropsAnds (ts ++ us) ws) :
    ∃ ts' us', DropsAnds ts ts' ∧ DropsAnds us us' ∧ ws = ts' ++ us' := by
  induction ts generalizing ws with
  | nil => exact ⟨[], ws, .nil, h, rfl⟩
  | cons t ts ih =>
    cases h with
    | keep h =>
      obtain ⟨ts', us', hts, hus, rfl⟩ := ih h
      exact ⟨t :: ts', us', .keep hts, hus, rfl⟩
    | drop ht h =>
      obtain ⟨ts', us', hts, hus, rfl⟩ := ih h
      exact ⟨ts', us', .drop ht hts, hus, rfl⟩

end DropsAnds

/-- Tokens derive the same tree without some of their `AND`s. -/
lemma Derives.of_dropsAnds (h : Derives x n ts e) (hdrop : DropsAnds ts ws) :
    Derives x n ws e := by
  induction h generalizing ws with
  | single _ ih => exact .single (ih hdrop)
  | first _ ih => exact .first (ih hdrop)
  | ungrouped _ ih => exact .ungrouped (ih hdrop)
  | alternative _ ht _ ihl ihr =>
    obtain ⟨ts', us', hts, hus, rfl⟩ := hdrop.of_append
    obtain ⟨vs, hvs, rfl⟩ := hus.of_cons (by simp [ht])
    exact .alternative (ihl hts) ht (ihr hvs)
  | implied _ _ ihl ihr =>
    obtain ⟨ts', us', hts, hus, rfl⟩ := hdrop.of_append
    exact .implied (ihl hts) (ihr hus)
  | written _ ht _ ihl ihr =>
    obtain ⟨ts', us', hts, hus, rfl⟩ := hdrop.of_append
    -- This is where an `AND` is left out, or not.
    cases hus with
    | keep hus => exact .written (ihl hts) ht (ihr hus)
    | drop _ hus => exact .implied (ihl hts) (ihr hus)
  | group ho _ hc ih =>
    obtain ⟨os, cs, hos, hcs, rfl⟩ := hdrop.of_append
    obtain ⟨ts', hts, rfl⟩ := hos.of_cons (by simp [ho])
    obtain rfl := hcs.eq_singleton (by simp [hc])
    exact .group ho (ih hts) hc
  | literal hv =>
    obtain rfl := hdrop.eq_singleton (hv.kind_ne_keyword .and)
    exact .literal hv
  | negated ht hv =>
    obtain ⟨us, hus, rfl⟩ := hdrop.of_cons (by simp [ht])
    obtain rfl := hus.eq_singleton (hv.kind_ne_keyword .and)
    exact .negated ht hv

/-! ## Adding -/

namespace AddsAnds

/-- Nothing need be added. -/
lemma refl (ts : List Token) : AddsAnds ts ts := by
  induction ts with
  | nil => exact .nil
  | cons t ts ih => exact .keep ih

/-- To one token nothing is added. -/
lemma eq_singleton (h : AddsAnds [t] ws) : ws = [t] := by
  cases h with
  | keep h =>
    cases h
    rfl

/-- After a token that ends no operand nothing is added. -/
lemma of_cons (ht : t.kind.endsOperand = false) (h : AddsAnds (t :: ts) ws) :
    ∃ ts', AddsAnds ts ts' ∧ ws = t :: ts' := by
  cases h with
  | keep h => exact ⟨_, h, rfl⟩
  | add hends _ _ _ => simp [ht] at hends

/-- What two lists become is what the one and the other become, with an `AND` between them at most
if the second begins an operand. -/
lemma of_append (h : AddsAnds (ts ++ us) ws) :
    ∃ ts' us', AddsAnds ts ts' ∧ AddsAnds us us' ∧
      (ws = ts' ++ us' ∨ (∃ u ∈ us.head?, u.kind.opensOperand = true) ∧
        ∃ a : Token, a.kind = .keyword .and ∧ ws = ts' ++ a :: us') := by
  induction ts generalizing ws with
  | nil => exact ⟨[], ws, .nil, h, Or.inl rfl⟩
  | cons t ts ih =>
    rcases ts with _ | ⟨u, ts⟩
    · rw [List.singleton_append] at h
      cases h with
      | keep h => exact ⟨[t], _, refl [t], h, Or.inl rfl⟩
      | add ht hu ha h => exact ⟨[t], _, refl [t], h, Or.inr ⟨⟨_, rfl, hu⟩, _, ha, rfl⟩⟩
    · cases h with
      | keep h =>
        obtain ⟨ts', us', hts, hus, rfl | ⟨hhead, a, ha, rfl⟩⟩ := ih h
        · exact ⟨t :: ts', us', .keep hts, hus, Or.inl rfl⟩
        · exact ⟨t :: ts', us', .keep hts, hus, Or.inr ⟨hhead, a, ha, rfl⟩⟩
      | @add _ _ b _ _ ht hu hb h =>
        obtain ⟨ts', us', hts, hus, rfl | ⟨hhead, a, ha, rfl⟩⟩ := ih h
        · exact ⟨t :: b :: ts', us', .add ht hu hb hts, hus, Or.inl rfl⟩
        · exact ⟨t :: b :: ts', us', .add ht hu hb hts, hus, Or.inr ⟨hhead, a, ha, rfl⟩⟩

/-- Before a token that begins no operand nothing is added. -/
lemma of_append_cons (hu : u.kind.opensOperand = false) (h : AddsAnds (ts ++ u :: us) ws) :
    ∃ ts' us', AddsAnds ts ts' ∧ AddsAnds (u :: us) us' ∧ ws = ts' ++ us' := by
  obtain ⟨ts', us', hts, hus, rfl | ⟨⟨v, ⟨⟩, hv⟩, -⟩⟩ := h.of_append
  · exact ⟨ts', us', hts, hus, rfl⟩
  · simp [hu] at hv

end AddsAnds

/-- One `AND` is added between two tokens. -/
lemma addsAnds_between (ht : t.kind.endsOperand = true) (hu : u.kind.opensOperand = true)
    (ha : a.kind = .keyword .and) :
    AddsAnds (ts ++ t :: u :: us) (ts ++ t :: a :: u :: us) := by
  induction ts with
  | nil => exact .add ht hu ha (.refl (u :: us))
  | cons v ts ih => exact .keep ih

/-- Tokens derive the same tree with `AND`s added between operands. -/
lemma Derives.of_addsAnds (h : Derives x n ts e) (hadd : AddsAnds ts ws) : Derives x n ws e := by
  induction h generalizing ws with
  | single _ ih => exact .single (ih hadd)
  | first _ ih => exact .first (ih hadd)
  | ungrouped _ ih => exact .ungrouped (ih hadd)
  | alternative _ ht _ ihl ihr =>
    obtain ⟨ts', us', hts, hus, rfl⟩ := hadd.of_append_cons (by simp [ht, Kind.opensOperand])
    obtain ⟨vs, hvs, rfl⟩ := hus.of_cons (by simp [ht, Kind.endsOperand])
    exact .alternative (ihl hts) ht (ihr hvs)
  | implied _ _ ihl ihr =>
    obtain ⟨ts', us', hts, hus, rfl | ⟨-, a, ha, rfl⟩⟩ := hadd.of_append
    · exact .implied (ihl hts) (ihr hus)
    · -- This is where an `AND` is added.
      exact .written (ihl hts) ha (ihr hus)
  | written _ ht _ ihl ihr =>
    obtain ⟨ts', us', hts, hus, rfl⟩ := hadd.of_append_cons (by simp [ht, Kind.opensOperand])
    obtain ⟨vs, hvs, rfl⟩ := hus.of_cons (by simp [ht, Kind.endsOperand])
    exact .written (ihl hts) ht (ihr hvs)
  | group ho _ hc ih =>
    obtain ⟨os, cs, hos, hcs, rfl⟩ := hadd.of_append_cons (by simp [hc, Kind.opensOperand])
    obtain ⟨ts', hts, rfl⟩ := hos.of_cons (by simp [ho, Kind.endsOperand])
    obtain rfl := hcs.eq_singleton
    exact .group ho (ih hts) hc
  | literal hv =>
    obtain rfl := hadd.eq_singleton
    exact .literal hv
  | negated ht hv =>
    obtain ⟨us, hus, rfl⟩ := hadd.of_cons (by simp [ht, Kind.endsOperand])
    obtain rfl := hus.eq_singleton
    exact .negated ht hv

/-! ## Both spellings -/

/-- A conjunction is read alike whether its `AND` is written or implied: what tokens spell, they
spell without any of their `AND`s, with one more between any two tokens of which the first ends an
operand and the second begins one, and with one more in any number of such places at once. -/
theorem written_and_implied_and_agree (h : parse ts = .ok e) :
    (∀ us, DropsAnds ts us → parse us = .ok e) ∧
      (∀ before after t u a, ts = before ++ t :: u :: after →
        t.kind.endsOperand = true → u.kind.opensOperand = true → a.kind = .keyword .and →
          parse (before ++ t :: a :: u :: after) = .ok e) ∧
      ∀ us, AddsAnds ts us → parse us = .ok e := by
  rw [parse_eq_ok_iff_derives] at h
  simp only [parse_eq_ok_iff_derives]
  refine ⟨fun us hdrop => h.of_dropsAnds hdrop, ?_, fun us hadd => h.of_addsAnds hadd⟩
  rintro before after t u a rfl ht hu ha
  exact h.of_addsAnds (addsAnds_between ht hu ha)

end

/-- The tokens of `a AND (b "c d" OR NOT e) AND f`, without the first `AND`, and with one more in
the group. -/
theorem and_before_group_is_implied :
    let before : List Token := [⟨.word, "a", 0⟩]
    let group : List Token := [⟨.openParen, "(", 6⟩, ⟨.word, "b", 7⟩]
    let after : List Token :=
      [⟨.keyword .or, "OR", 15⟩, ⟨.keyword .not, "NOT", 18⟩, ⟨.word, "e", 22⟩,
        ⟨.closeParen, ")", 23⟩, ⟨.keyword .and, "AND", 25⟩, ⟨.word, "f", 29⟩]
    let phrase : Token := ⟨.phrase, "\"c d\"", 9⟩
    let and : Token := ⟨.keyword .and, "AND", 2⟩
    let e : Expr := .and (.and (.term "a") (.or (.and (.term "b") (.term "c d"))
      (.not (.term "e")))) (.term "f")
    parse (before ++ and :: group ++ phrase :: after) = .ok e ∧
      parse (before ++ group ++ phrase :: after) = .ok e ∧
      parse (before ++ and :: group ++ and :: phrase :: after) = .ok e := by
  intro before group after phrase and e
  have h : parse (before ++ and :: group ++ phrase :: after) = .ok e := by cbv
  obtain ⟨hdrop, hadd, -⟩ := written_and_implied_and_agree h
  refine ⟨h, hdrop _ ?_, ?_⟩
  · exact .keep (.drop rfl (.refl _))
  · exact hadd (before ++ [and, ⟨.openParen, "(", 6⟩]) after ⟨.word, "b", 7⟩ phrase and rfl rfl rfl
      rfl

end SearchQuery

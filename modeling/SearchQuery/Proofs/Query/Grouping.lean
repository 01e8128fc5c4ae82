import Mathlib.Data.List.Infix
import SearchQuery.Proofs.Lexer.Composition
import SearchQuery.Proofs.Parser.Admission
import SearchQuery.Query

/-!
# Queries in parentheses

A query in parentheses is an operand of a larger query, and stands there for the expression that it
spells on its own.  Two things could get in the way.  The parenthesis after the query is read as
part of no other token, because the last token of what derives an expression is a word, a phrase or
a parenthesis itself (`mayPrecede_closeParen`).  And each group of the query is one deeper inside
the parentheses than it was outside, so the query must leave room for one more (`OpensAtMost`): what
is never open deeper than some bound also derives its tree within that bound
(`Derives.of_opensWithin`).  With both, the query in parentheses is an operand wherever it stands
(`readsAsOperand_of_parseQuery`).
-/

namespace SearchQuery

open MaximalMunch

/-! ## How many groups are open -/

/-- At no point of the tokens are more than `n` groups open besides those in `groups`. -/
def OpensWithin (n : Nat) (groups ts : List Token) : Prop :=
  ∀ p, p <+: ts → (p.foldl Token.nest groups).length ≤ groups.length + n

section

variable {x : Nonterminal} {n m : Nat} {groups ts us : List Token} {t o c : Token} {e : Expr}

/-- What holds of all tokens holds of the first of them. -/
lemma OpensWithin.left (h : OpensWithin n groups (ts ++ us)) : OpensWithin n groups ts := by
  intro p hp
  exact h p (hp.trans (List.prefix_append ts us))

/-- What holds of all tokens holds of those after some that close all groups they open. -/
lemma OpensWithin.right (h : OpensWithin n groups (ts ++ us))
    (hts : ts.foldl Token.nest groups = groups) : OpensWithin n groups us := by
  intro p hp
  have hall := h (ts ++ p) ((List.prefix_append_right_inj ts).mpr hp)
  rwa [List.foldl_append, hts] at hall

/-- A keyword opens no group. -/
lemma OpensWithin.tail {k : Keyword} (h : OpensWithin n groups (t :: ts))
    (ht : t.kind = .keyword k) : OpensWithin n groups ts := by
  have hsame : [t].foldl Token.nest groups = groups := by
    rw [List.foldl_cons, List.foldl_nil, nest_of_ne (by simp [ht]) (by simp [ht])]
  have hcons : OpensWithin n groups ([t] ++ ts) := h
  exact hcons.right hsame

/-- Inside a group one more is open. -/
lemma OpensWithin.inside (h : OpensWithin n groups (o :: ts ++ [c])) (ho : o.kind = .openParen) :
    ∃ m, n = m + 1 ∧ OpensWithin m (o :: groups) ts := by
  have hone := h [o] ((List.prefix_cons_inj o).mpr List.nil_prefix)
  rw [List.foldl_cons, List.foldl_nil, nest_of_open ho, List.length_cons] at hone
  obtain ⟨m, rfl⟩ : ∃ m, n = m + 1 := ⟨n - 1, by omega⟩
  refine ⟨m, rfl, ?_⟩
  intro p hp
  have hall := h (o :: p) ((List.prefix_cons_inj o).mpr (hp.trans (List.prefix_append ts [c])))
  rw [List.foldl_cons, nest_of_open ho] at hall
  rw [List.length_cons]
  omega

/-- What derives a tree closes all groups that it opens. -/
lemma foldl_nest_of_derives (h : Derives x n ts e) (groups : List Token) :
    ts.foldl Token.nest groups = groups := by
  induction h generalizing groups with
  | single _ ih => exact ih groups
  | first _ ih => exact ih groups
  | ungrouped _ ih => exact ih groups
  | alternative _ ht _ ihl ihr =>
    rw [List.foldl_append, ihl, List.foldl_cons, nest_of_ne (by simp [ht]) (by simp [ht]), ihr]
  | implied _ _ ihl ihr => rw [List.foldl_append, ihl, ihr]
  | written _ ht _ ihl ihr =>
    rw [List.foldl_append, ihl, List.foldl_cons, nest_of_ne (by simp [ht]) (by simp [ht]), ihr]
  | group ho _ hc ih =>
    rw [List.cons_append, List.foldl_cons, nest_of_open ho, List.foldl_append, ih, List.foldl_cons,
      List.foldl_nil, nest_of_close hc, List.tail_cons]
  | literal hv =>
    rw [List.foldl_cons, List.foldl_nil]
    rcases hv.kind with hk | hk <;> exact nest_of_ne (by simp [hk]) (by simp [hk])
  | negated ht hv =>
    rw [List.foldl_cons, nest_of_ne (by simp [ht]) (by simp [ht]), List.foldl_cons, List.foldl_nil]
    rcases hv.kind with hk | hk <;> exact nest_of_ne (by simp [hk]) (by simp [hk])

/-- A bound on the groups that are open is a bound on how deep they nest. -/
lemma Derives.of_opensWithin (h : Derives x n ts e) (hopens : OpensWithin m groups ts) :
    Derives x m ts e := by
  induction h generalizing m groups with
  | single _ ih => exact .single (ih hopens)
  | first _ ih => exact .first (ih hopens)
  | ungrouped _ ih => exact .ungrouped (ih hopens)
  | alternative hl ht _ ihl ihr =>
    exact .alternative (ihl hopens.left) ht
      (ihr ((hopens.right (foldl_nest_of_derives hl groups)).tail ht))
  | implied hl _ ihl ihr =>
    exact .implied (ihl hopens.left) (ihr (hopens.right (foldl_nest_of_derives hl groups)))
  | written hl ht _ ihl ihr =>
    exact .written (ihl hopens.left) ht
      (ihr ((hopens.right (foldl_nest_of_derives hl groups)).tail ht))
  | group ho _ hc ih =>
    obtain ⟨m, rfl, hinside⟩ := hopens.inside ho
    exact .group ho (ih hinside) hc
  | literal hv => exact .literal hv
  | negated ht hv => exact .negated ht hv

/-- The value of a token does not depend on where it stands. -/
lemma HasValue.shift {v : String} (h : HasValue t v) (k : Nat) : HasValue (t.shift k) v := by
  cases h with
  | word ht => exact .word ht
  | quoted ht hv => exact .quoted ht hv
  | bare ht hv => exact .bare ht hv

/-- Tokens derive the same tree wherever they stand. -/
lemma Derives.shift (h : Derives x n ts e) (k : Nat) :
    Derives x n (ts.map (Token.shift k)) e := by
  induction h with
  | single _ ih => exact .single ih
  | first _ ih => exact .first ih
  | ungrouped _ ih => exact .ungrouped ih
  | alternative _ ht _ ihl ihr =>
    rw [List.map_append, List.map_cons]
    exact .alternative ihl ht ihr
  | implied _ _ ihl ihr =>
    rw [List.map_append]
    exact .implied ihl ihr
  | written _ ht _ ihl ihr =>
    rw [List.map_append, List.map_cons]
    exact .written ihl ht ihr
  | group ho _ hc ih =>
    rw [List.map_append, List.map_cons]
    exact .group ho ih hc
  | literal hv => exact .literal (hv.shift k)
  | negated ht hv => exact .negated ht (hv.shift k)

end

/-! ## Reading on after a group -/

/-- The query neither begins nor ends with a character up to the space. -/
def IsUnpadded (query : String) : Prop :=
  (∀ c ∈ query.toList.head?, ' ' < c) ∧ ∀ c ∈ query.toList.getLast?, ' ' < c

/-- At no point of the query are more than `n` groups open. -/
def OpensAtMost (n : Nat) (query : String) : Prop :=
  ∀ ts, tokenize query = .ok ts → ∀ p, p <+: ts → (openGroups p).length ≤ n

/-- How many groups are open is seen from the tokens. -/
lemma opensAtMost_of_inits {n : Nat} {query : String} {ts : List Token}
    (htokens : tokenize query = .ok ts) (h : ∀ p ∈ ts.inits, (openGroups p).length ≤ n) :
    OpensAtMost n query := by
  intro us hus p hp
  obtain rfl := Except.ok.inj (htokens.symm.trans hus)
  exact h p ((List.mem_inits p ts).mpr hp)

/-- Wherever the characters stand and whatever follows them, they are read as an operand that stands
for the tree, and reading goes on after them. -/
def ReadsAsOperand (cs : List Char) (e : Expr) : Prop :=
  ∀ offset : Nat, ∃ ts, Derives .operand groupLimit ts e ∧
    ∀ (afterBlank : Bool) (rest : List Char) (us : List Token),
      munch false (offset + byteLength cs) rest = .ok us →
        munch afterBlank offset (cs ++ rest) = .ok (ts ++ us)

section

variable {query : String} {ts : List Token} {rest : List Char} {e : Expr}

/-- A character above the space is no padding. -/
lemma isPadding_eq_false_of_space_lt {c : Char} (hc : ' ' < c) : isPadding c = false := by
  rw [isPadding_eq, decide_eq_false_iff_not]
  exact Char.not_le.mpr hc

/-- Nothing is stripped from a query without padding at its ends. -/
lemma tokenize_of_isUnpadded (h : IsUnpadded query) :
    tokenize query = munch false 0 query.toList := by
  have hself : unpadded query.toList = (0, query.toList) := by
    rcases List.eq_nil_or_concat query.toList with hnil | ⟨ds, d, hconcat⟩
    · rw [hnil]
      rfl
    · obtain ⟨c, cs, hcons⟩ : ∃ c cs, query.toList = c :: cs :=
        List.exists_cons_of_ne_nil (by simp [hconcat])
      have hc : ' ' < c := h.1 c (by simp [hcons])
      have hd : ' ' < d := h.2 d (by simp [hconcat])
      exact unpadded_eq_self hcons (isPadding_eq_false_of_space_lt hc) (by simpa using hconcat)
        (isPadding_eq_false_of_space_lt hd)
  rw [tokenize_eq_munch, hself]

/-- Whether a query is padded is seen from its first and last characters. -/
lemma isUnpadded_of_ends {c d : Char} (hfirst : query.toList.head? = some c)
    (hlast : query.toList.getLast? = some d) (hc : ' ' < c) (hd : ' ' < d) : IsUnpadded query := by
  refine ⟨?_, ?_⟩
  · intro x hx
    obtain rfl := Option.some.inj (hfirst.symm.trans hx)
    exact hc
  · intro x hx
    obtain rfl := Option.some.inj (hlast.symm.trans hx)
    exact hd

/-- No parenthesis is padding. -/
lemma isUnpadded_of_parens (cs : List Char) (hquery : query.toList = '(' :: cs ++ [')']) :
    IsUnpadded query := by
  have hlast : query.toList.getLast? = some ')' := by rw [hquery, List.getLast?_concat]
  exact isUnpadded_of_ends (by rw [hquery]; rfl) hlast (by decide) (by decide)

/-- A parenthesis may close an operand: it ends the last token. -/
lemma mayPrecede_closeParen (h : EndsOperand ts) :
    ∀ t ∈ ts.getLast?, MayPrecede t (')' :: rest) := by
  intro t ht
  have hlast : lastKind? ts = some t.kind := lastKind?_of_getLast? ht
  have hkind : t.kind = .word ∨ t.kind = .phrase ∨ t.kind = .closeParen := by
    simpa [EndsOperand, hlast] using h
  unfold MayPrecede
  rcases hkind with hk | hk | hk
  · rw [hk]
    exact endsWord_closeParen
  · rw [hk]
    trivial
  · rw [hk]
    trivial

/-- What derives a tree ends an operand. -/
lemma endsOperand_of_derives {x : Nonterminal} (h : Derives x groupLimit ts e) :
    EndsOperand ts := by
  have hadmits : AdmitsOperand [] ts := admitsOperand_of_derives h (by simp) (Nat.le_refl 256)
  exact hadmits.ends

/-- A query in parentheses is an operand that stands for the expression of the query, if the query
leaves room for one more group. -/
lemma readsAsOperand_of_parseQuery (hquery : IsUnpadded query) (hparse : parseQuery query = .ok e)
    (hopens : OpensAtMost 255 query) : ReadsAsOperand ('(' :: query.toList ++ [')']) e := by
  obtain ⟨ts, htokens, hts⟩ := parseQuery_eq_ok_iff.mp hparse
  have hderives : Derives .expression groupLimit ts e := parse_eq_ok_iff_derives.mp hts
  have hwithin : OpensWithin 255 [] ts := by
    intro p hp
    simpa [openGroups] using hopens ts htokens p hp
  have hinner : Derives .expression 255 ts e := hderives.of_opensWithin hwithin
  rw [tokenize_of_isUnpadded hquery] at htokens
  obtain ⟨c, cs, hcons⟩ : ∃ c cs, query.toList = c :: cs := by
    refine List.exists_cons_of_ne_nil ?_
    intro hnil
    rw [hnil, munch] at htokens
    obtain rfl := Except.ok.inj htokens
    obtain ⟨t, us, hts, -⟩ := hderives.exists_cons
    simp at hts
  have hblank : ¬ isBlank c = true := by
    intro hblank
    have hpad := isPadding_eq_false_of_space_lt (hquery.1 c (by simp [hcons]))
    simp [isPadding_of_isBlank hblank] at hpad
  intro offset
  let o : Token := ⟨.openParen, "(", offset⟩
  let inner : List Token := ts.map (Token.shift (offset + 1))
  let close : Token := ⟨.closeParen, ")", offset + 1 + byteLength query.toList⟩
  refine ⟨o :: inner ++ [close], .group rfl (hinner.shift (offset + 1)) rfl, ?_⟩
  intro afterBlank rest us hrest
  have hsize : byteLength ('(' :: query.toList ++ [')']) = 1 + byteLength query.toList + 1 := by
    rw [byteLength_append, byteLength_cons]
    rfl
  have hclose : munch false (offset + 1 + byteLength query.toList) (')' :: rest) =
      .ok (close :: us) := by
    rw [hsize, ← Nat.add_assoc, ← Nat.add_assoc] at hrest
    rw [munch_closeParen, hrest]
    rfl
  have hall : munch false (offset + 1) (query.toList ++ ')' :: rest) =
      .ok (inner ++ close :: us) :=
    munch_append (munch_shift_of_ok (offset + 1) htokens)
      (mayPrecede_closeParen (endsOperand_of_derives (hderives.shift (offset + 1)))) hclose
  have hlist : '(' :: query.toList ++ [')'] ++ rest = '(' :: (query.toList ++ ')' :: rest) := by
    simp
  rw [hlist, hcons, List.cons_append, munch_openParen hblank, ← List.cons_append, ← hcons, hall]
  simp [Except.map, o]

end

/-! ## Two groups side by side -/

/-- Wherever the characters stand, reading goes on after them, and they are read as the tokens. -/
def ReadsAsTokens (cs : List Char) (tokens : Nat → List Token) : Prop :=
  ∀ (offset : Nat) (rest : List Char) (us : List Token),
    munch true (offset + byteLength cs) rest = .ok us →
      munch false offset (cs ++ rest) = .ok (tokens offset ++ us)

/-- A space is passed over. -/
lemma readsAsTokens_space : ReadsAsTokens [' '] fun _ => [] := by
  intro offset rest us hrest
  rw [List.singleton_append, munch_space]
  exact hrest

/-- A keyword between spaces is read. -/
lemma readsAsTokens_keyword (k : Keyword) :
    ReadsAsTokens (' ' :: k.text.toList ++ [' ']) fun offset =>
      [⟨.keyword k, k.text, offset + 1⟩] := by
  intro offset rest us hrest
  have hsize : offset + byteLength (' ' :: k.text.toList ++ [' ']) =
      offset + 1 + byteLength k.text.toList + 1 := by
    rw [byteLength_append, byteLength_cons, show byteLength [' '] = 1 from rfl,
      show ' '.utf8Size = 1 from rfl]
    omega
  have hlist : ' ' :: k.text.toList ++ [' '] ++ rest = ' ' :: (k.text.toList ++ ' ' :: rest) := by
    simp
  rw [hsize] at hrest
  rw [hlist, munch_space, munch_keyword, hrest]
  rfl

section

variable {query : String} {as between bs : List Char} {mid : Nat → List Token} {ea eb e : Expr}

/-- A query that is one operand stands for what the operand stands for. -/
lemma parseQuery_of_operand (hquery : IsUnpadded query) (h : ReadsAsOperand query.toList e) :
    parseQuery query = .ok e := by
  obtain ⟨ts, hts, hread⟩ := h 0
  have htokens : tokenize query = .ok (ts ++ []) := by
    rw [tokenize_of_isUnpadded hquery, ← hread false [] [] (by rw [munch]), List.append_nil]
  rw [List.append_nil] at htokens
  exact parseQuery_eq_ok_iff.mpr
    ⟨ts, htokens, parse_eq_ok_iff_derives.mpr (.single (.first hts))⟩

/-- A query that is two operands, with something between them, stands for the expression that the
tokens of both derive with those between them. -/
lemma parseQuery_of_operands (query : String) (hquery : query.toList = as ++ (between ++ bs))
    (hunpadded : IsUnpadded query) (ha : ReadsAsOperand as ea) (hmid : ReadsAsTokens between mid)
    (hb : ReadsAsOperand bs eb)
    (hderives : ∀ ts offset us, Derives .operand groupLimit ts ea →
      Derives .operand groupLimit us eb →
        Derives .expression groupLimit (ts ++ (mid offset ++ us)) e) :
    parseQuery query = .ok e := by
  obtain ⟨ts, hts, hreada⟩ := ha 0
  obtain ⟨us, hus, hreadb⟩ := hb (0 + byteLength as + byteLength between)
  have hright : munch true (0 + byteLength as + byteLength between) bs = .ok us := by
    have hread := hreadb true [] [] (by rw [munch])
    rwa [List.append_nil, List.append_nil] at hread
  have htokens : tokenize query = .ok (ts ++ (mid (0 + byteLength as) ++ us)) := by
    rw [tokenize_of_isUnpadded hunpadded, hquery]
    exact hreada false _ _ (hmid _ _ _ hright)
  exact parseQuery_eq_ok_iff.mpr
    ⟨_, htokens, parse_eq_ok_iff_derives.mpr (hderives ts _ us hts hus)⟩

end

/-- Queries compose by parentheses: two queries that are not padded and leave room for one more
group stand in parentheses for their own expressions, alone and under each connective. -/
theorem grouped_queries_compose {a b : String} {ea eb : Expr} (ha : IsUnpadded a)
    (hb : IsUnpadded b) (hparsea : parseQuery a = .ok ea) (hparseb : parseQuery b = .ok eb)
    (hopensa : OpensAtMost 255 a) (hopensb : OpensAtMost 255 b) :
    parseQuery ("(" ++ a ++ ")") = .ok ea ∧
      parseQuery ("(" ++ a ++ ") AND (" ++ b ++ ")") = .ok (.and ea eb) ∧
      parseQuery ("(" ++ a ++ ") (" ++ b ++ ")") = .ok (.and ea eb) ∧
      parseQuery ("(" ++ a ++ ") OR (" ++ b ++ ")") = .ok (.or ea eb) := by
  have hreada := readsAsOperand_of_parseQuery ha hparsea hopensa
  have hreadb := readsAsOperand_of_parseQuery hb hparseb hopensb
  refine ⟨?_, ?_, ?_, ?_⟩
  · have hquery : ("(" ++ a ++ ")").toList = '(' :: a.toList ++ [')'] := by simp
    refine parseQuery_of_operand (isUnpadded_of_parens _ hquery) ?_
    rwa [hquery]
  · refine parseQuery_of_operands ("(" ++ a ++ ") AND (" ++ b ++ ")") (by simp [Keyword.text])
      (isUnpadded_of_parens (a.toList ++ ") AND (".toList ++ b.toList) (by simp))
      hreada (readsAsTokens_keyword .and) hreadb ?_
    intro ts offset us hts hus
    exact .single (.written (.first hts) rfl hus)
  · refine parseQuery_of_operands ("(" ++ a ++ ") (" ++ b ++ ")") (by simp)
      (isUnpadded_of_parens (a.toList ++ ") (".toList ++ b.toList) (by simp))
      hreada readsAsTokens_space hreadb ?_
    intro ts offset us hts hus
    exact .single (.implied (.first hts) hus)
  · refine parseQuery_of_operands ("(" ++ a ++ ") OR (" ++ b ++ ")") (by simp [Keyword.text])
      (isUnpadded_of_parens (a.toList ++ ") OR (".toList ++ b.toList) (by simp))
      hreada (readsAsTokens_keyword .or) hreadb ?_
    intro ts offset us hts hus
    exact .alternative (.first hts) rfl (.single (.first hus))

/-- A group and the beginning of a keyword beside a negated phrase. -/
theorem group_before_negation_composes :
    let a := "(green OR black) te NO"
    let b := "NOT \"earl grey\""
    let ea : Expr := .and (.and (.or (.term "green") (.term "black")) (.term "te")) (.term "NO")
    let eb : Expr := .not (.term "earl grey")
    (IsUnpadded a ∧ IsUnpadded b ∧ parseQuery a = .ok ea ∧ parseQuery b = .ok eb ∧
      OpensAtMost 255 a ∧ OpensAtMost 255 b) ∧
    parseQuery ("(" ++ a ++ ")") = .ok ea ∧
      parseQuery ("(" ++ a ++ ") AND (" ++ b ++ ")") = .ok (.and ea eb) ∧
      parseQuery ("(" ++ a ++ ") (" ++ b ++ ")") = .ok (.and ea eb) ∧
      parseQuery ("(" ++ a ++ ") OR (" ++ b ++ ")") = .ok (.or ea eb) := by
  intro a b ea eb
  have htokensa : tokenize a =
      .ok [⟨.openParen, "(", 0⟩, ⟨.word, "green", 1⟩, ⟨.keyword .or, "OR", 7⟩,
        ⟨.word, "black", 10⟩, ⟨.closeParen, ")", 15⟩, ⟨.word, "te", 17⟩, ⟨.word, "NO", 20⟩] := by
    decide +kernel
  have htokensb : tokenize b =
      .ok [⟨.keyword .not, "NOT", 0⟩, ⟨.phrase, "\"earl grey\"", 4⟩] := by decide +kernel
  have ha : IsUnpadded a :=
    isUnpadded_of_ends (c := '(') (d := 'O') (by decide) (by decide) (by decide) (by decide)
  have hb : IsUnpadded b :=
    isUnpadded_of_ends (c := 'N') (d := '"') (by decide) (by decide) (by decide) (by decide)
  have hparsea : parseQuery a = .ok ea := by
    rw [parseQuery, htokensa]
    cbv
  have hparseb : parseQuery b = .ok eb := by
    rw [parseQuery, htokensb]
    cbv
  have hopensa : OpensAtMost 255 a := opensAtMost_of_inits htokensa (by decide)
  have hopensb : OpensAtMost 255 b := opensAtMost_of_inits htokensb (by decide)
  exact ⟨⟨ha, hb, hparsea, hparseb, hopensa, hopensb⟩,
    grouped_queries_compose ha hb hparsea hparseb hopensa hopensb⟩

end SearchQuery

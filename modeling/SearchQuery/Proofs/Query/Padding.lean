import SearchQuery.Proofs.Lexer.Padding
import SearchQuery.Proofs.Parser.Correspondence
import SearchQuery.Query

/-!
# Padding around a query

Padding before and after a query leaves its body as it is, so the lexer finds the same tokens or the
same error in it, only further on (`tokenize_pad`).  The parser, which does not look at offsets,
then reads the same tree or stops with the same error, whose position has moved with the tokens
(`parse_map_shift`, `parseQuery_pad`).

For the latter, the tokens correspond to those that have been moved: the offsets are related by the
move and the texts are equal.  That the parser looks at kinds only is another instance, where
offsets are related if they are those of tokens with the same index (`AtSameIndex`).
-/

namespace SearchQuery

/-! ## Moving errors -/

/-- Moving the position of an error of the lexer on is a case of giving it another one. -/
lemma LexError.mapPosition_add (n : Nat) : LexError.mapPosition (n + ·) = LexError.shift n := by
  funext e
  cases e <;> rfl

/-- The error of the lexer has the new position. -/
lemma LexError.position?_mapPosition (f : Nat → Nat) (e : LexError) :
    (e.mapPosition f).position? = e.position?.map f := by
  cases e <;> rfl

/-- The position of an error of the lexer can be changed twice at once. -/
lemma LexError.mapPosition_mapPosition (f g : Nat → Nat) (e : LexError) :
    (e.mapPosition f).mapPosition g = e.mapPosition fun position => g (f position) := by
  cases e <;> rfl

namespace ParseError

variable {err err' : ParseError}

/-- The same error, `n` bytes further on. -/
def shift (n : Nat) : ParseError → ParseError :=
  mapPosition (n + ·)

/-- The error has the new position. -/
lemma position?_mapPosition (f : Nat → Nat) (err : ParseError) :
    (err.mapPosition f).position? = err.position?.map f := by
  cases err with
  | tokenizer e => exact e.position?_mapPosition f
  | _ => rfl

/-- The position of an error can be changed twice at once. -/
lemma mapPosition_mapPosition (f g : Nat → Nat) (err : ParseError) :
    (err.mapPosition f).mapPosition g = err.mapPosition fun position => g (f position) := by
  cases err with
  | noExpression position => simp [mapPosition, Function.comp_def]
  | tokenizer e => rw [mapPosition, mapPosition, e.mapPosition_mapPosition, mapPosition]
  | _ => rfl

/-- An error that is given the position it has is unchanged. -/
lemma mapPosition_position (err : ParseError) :
    err.mapPosition (fun _ => err.position?.getD 0) = err := by
  cases err with
  | noExpression position => cases position <;> rfl
  | tokenizer e => cases e <;> rfl
  | _ => rfl

/-- There is at most one position in an error, which is all that its cause leaves open. -/
lemma eq_of_sameCause (hcause : err.SameCause err') (hposition : err.position? = err'.position?) :
    err = err' := by
  rw [SameCause] at hcause
  calc
    err = (err.mapPosition fun _ => 0).mapPosition fun _ => err.position?.getD 0 := by
      rw [mapPosition_mapPosition, mapPosition_position]
    _ = (err'.mapPosition fun _ => 0).mapPosition fun _ => err'.position?.getD 0 := by
      rw [hcause, hposition]
    _ = err' := by
      rw [mapPosition_mapPosition, mapPosition_position]

/-- An error that corresponds to another one, in a place that is `n` bytes further on, is that one
moved. -/
lemma Corresponds.eq_shift {n : Nat} (h : err.Corresponds (fun a b => b = n + a) err') :
    err' = err.shift n := by
  have hcause : err'.SameCause (err.shift n) := by
    rw [SameCause, shift, mapPosition_mapPosition]
    exact h.cause.symm
  refine eq_of_sameCause hcause ?_
  rw [shift, position?_mapPosition]
  have hposition := h.position
  generalize err.position? = place at hposition ⊢
  generalize err'.position? = place' at hposition ⊢
  cases hposition with
  | some heq => rw [heq, Option.map_some]
  | none => rfl

end ParseError

/-- Trees whose terms are equal are equal. -/
lemma Expr.Corresponds.eq {e e' : Expr} (h : e.Corresponds Eq e') : e = e' := by
  induction h with
  | term h => rw [h]
  | not _ ih => rw [ih]
  | binary _ _ ihl ihr => rw [ihl, ihr]

/-! ## Moving the tokens -/

/-- Tokens correspond to those that have been moved. -/
lemma forall₂_corresponds_shift (n : Nat) (ts : List Token) :
    List.Forall₂ (Token.Corresponds (fun a b => b = n + a) Eq) ts (ts.map (Token.shift n)) := by
  rw [List.forall₂_map_right_iff, List.forall₂_same]
  exact fun t _ => ⟨rfl, rfl, rfl⟩

/-- Tokens that have been moved are parsed alike, up to the position of an error. -/
lemma parse_map_shift (n : Nat) (ts : List Token) :
    parse (ts.map (Token.shift n)) = (parse ts).mapError (ParseError.shift n) := by
  have h := parse_inStep (forall₂_corresponds_shift n ts)
  generalize parse ts = outcome at h ⊢
  generalize parse (ts.map (Token.shift n)) = outcome' at h ⊢
  cases h with
  | error h =>
    rw [h.eq_shift]
    rfl
  | ok h =>
    rw [h.eq]
    rfl

/-! ## Padding a query -/

section

variable {p s : String}

/-- More padding leaves the body as it is. -/
lemma PaddedAs.pad {q : String} {lead body trail : List Char} (h : PaddedAs q lead body trail)
    (hp : ∀ c ∈ p.toList, c ≤ ' ') (hs : ∀ c ∈ s.toList, c ≤ ' ') :
    PaddedAs (p ++ q ++ s) (p.toList ++ lead) body (trail ++ s.toList) where
  toList_eq := by simp [h.toList_eq]
  lead_le := List.forall_mem_append.mpr ⟨hp, h.lead_le⟩
  trail_le := List.forall_mem_append.mpr ⟨h.trail_le, hs⟩
  lt_head := h.lt_head
  lt_last := h.lt_last

/-- The tokens of a query that is padded, or the error in it, are those of the query, moved by the
padding before it. -/
lemma tokenize_pad (hp : ∀ c ∈ p.toList, c ≤ ' ') (hs : ∀ c ∈ s.toList, c ≤ ' ') (q : String) :
    tokenize (p ++ q ++ s) =
      ((tokenize q).mapError (LexError.shift p.utf8ByteSize)).map
        (List.map (Token.shift p.utf8ByteSize)) := by
  obtain ⟨lead, body, trail, h⟩ := exists_paddedAs q
  rw [h.tokenize_eq_munch, (h.pad hp hs).tokenize_eq_munch, byteLength_append,
    MaximalMunch.munch_shift, utf8ByteSize_eq_byteLength]

/-- A query that is padded is read alike, up to the position of an error. -/
lemma parseQuery_pad (hp : ∀ c ∈ p.toList, c ≤ ' ') (hs : ∀ c ∈ s.toList, c ≤ ' ') (q : String) :
    parseQuery (p ++ q ++ s) =
      (parseQuery q).mapError
        fun e => ⟨e.error.shift p.utf8ByteSize, p ++ q ++ s⟩ := by
  have htokens := tokenize_pad hp hs q
  rcases htokenize : tokenize q with lexError | ts
  · rw [htokenize] at htokens
    have hpadded : tokenize (p ++ q ++ s) = .error (lexError.shift p.utf8ByteSize) := htokens
    simp only [parseQuery, htokenize, hpadded, Except.mapError, ParseError.shift,
      ParseError.mapPosition, LexError.mapPosition_add]
  · rw [htokenize] at htokens
    have hpadded : tokenize (p ++ q ++ s) = .ok (ts.map (Token.shift p.utf8ByteSize)) := htokens
    have hparse := parse_map_shift p.utf8ByteSize ts
    simp only [parseQuery, htokenize, hpadded, hparse]
    cases parse ts <;> rfl

end

/-! ## Tokens of the same kinds -/

/-- The offsets are those of tokens that have the same index in the two lists. -/
def AtSameIndex (ts us : List Token) (p q : Nat) : Prop :=
  ∃ i : Nat, ts[i]?.map Token.offset = some p ∧ us[i]?.map Token.offset = some q

/-- Tokens of the same kinds correspond, whatever their texts and wherever they stand. -/
lemma forall₂_corresponds_of_map_kind_eq {ts us : List Token}
    (hkinds : ts.map Token.kind = us.map Token.kind) :
    List.Forall₂ (Token.Corresponds (AtSameIndex ts us) fun _ _ => True) ts us := by
  have hlength : ts.length = us.length := by simpa using congrArg List.length hkinds
  rw [List.forall₂_iff_get]
  refine ⟨hlength, fun i hi hi' => ⟨?_, ⟨i, ?_, ?_⟩, trivial⟩⟩
  · have hkind : (ts.map Token.kind)[i]? = (us.map Token.kind)[i]? := by rw [hkinds]
    simpa [hi, hi'] using hkind
  · rw [List.getElem?_eq_getElem hi]
    rfl
  · rw [List.getElem?_eq_getElem hi']
    rfl

/-- Padding only moves positions.  The tokens of a query with padding before and after it, or the
error in it, are those of the query, moved by the size of the padding before it; and it is read to
the same tree, or with the same error, whose position is moved likewise.  More generally, the parser
looks at the kinds of the tokens only: where these are the same, it reads trees that differ in their
terms only, or finds errors that differ in their positions only, and these are the offsets of tokens
with the same index. -/
theorem padding_only_moves_positions :
    (∀ p q s : String, (∀ c ∈ p.toList, c ≤ ' ') → (∀ c ∈ s.toList, c ≤ ' ') →
      tokenize (p ++ q ++ s) =
          ((tokenize q).mapError (LexError.shift p.utf8ByteSize)).map
            (List.map (Token.shift p.utf8ByteSize)) ∧
        parseQuery (p ++ q ++ s) =
          (parseQuery q).mapError fun e => ⟨e.error.shift p.utf8ByteSize, p ++ q ++ s⟩) ∧
    ∀ ts us : List Token, ts.map Token.kind = us.map Token.kind →
      InStep (ParseError.Corresponds (AtSameIndex ts us)) Expr.SameShape (parse ts) (parse us) := by
  refine ⟨fun p q s hp hs => ⟨tokenize_pad hp hs q, parseQuery_pad hp hs q⟩, ?_⟩
  intro ts us hkinds
  exact parse_inStep (forall₂_corresponds_of_map_kind_eq hkinds)

/-- A group that is not closed, three bytes further on, and with other words in it. -/
theorem padding_moves_missing_close :
    let p := "\t\n "
    let q := "(né (b"
    let s := "\r"
    let ts : List Token := [⟨.openParen, "(", 0⟩, ⟨.word, "né", 1⟩, ⟨.openParen, "(", 5⟩,
      ⟨.word, "b", 6⟩]
    let us : List Token := [⟨.openParen, "(", 9⟩, ⟨.word, "c", 7⟩, ⟨.openParen, "(", 2⟩,
      ⟨.word, "d", 4⟩]
    ((∀ c ∈ p.toList, c ≤ ' ') ∧ (∀ c ∈ s.toList, c ≤ ' ') ∧
      ts.map Token.kind = us.map Token.kind) ∧
    tokenize q = .ok ts ∧ tokenize (p ++ q ++ s) = .ok (ts.map (Token.shift 3)) ∧
    parseQuery q = .error ⟨.missingClose 5, q⟩ ∧
    parseQuery (p ++ q ++ s) = .error ⟨.missingClose 8, p ++ q ++ s⟩ ∧
    parse us = .error (.missingClose 2) ∧
    InStep (ParseError.Corresponds (AtSameIndex ts us)) Expr.SameShape (parse ts) (parse us) := by
  intro p q s ts us
  have hp : ∀ c ∈ p.toList, c ≤ ' ' := by simp [p]
  have hs : ∀ c ∈ s.toList, c ≤ ' ' := by simp [s]
  have hkinds : ts.map Token.kind = us.map Token.kind := by decide
  have hq : tokenize q = .ok ts := by decide +kernel
  have hts : parse ts = .error (.missingClose 5) := by cbv
  have hparse : parseQuery q = .error ⟨.missingClose 5, q⟩ := by simp only [parseQuery, hq, hts]
  have hother : parse us = .error (.missingClose 2) := by cbv
  obtain ⟨htokens, hquery⟩ := padding_only_moves_positions.1 p q s hp hs
  rw [hq] at htokens
  rw [hparse] at hquery
  exact ⟨⟨hp, hs, hkinds⟩, hq, htokens, hparse, hquery, hother,
    padding_only_moves_positions.2 ts us hkinds⟩

end SearchQuery

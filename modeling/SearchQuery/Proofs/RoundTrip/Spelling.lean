import SearchQuery.Expr.Recursion
import SearchQuery.Proofs.Lexer.Simulation
import SearchQuery.Proofs.Text.PrefixCode

/-!
# The tokens of a written expression

The query text of an expression is read as it was written.  `Expr.written` is that text as a
recursion on the tree, and `Expr.spelling` the tokens that it consists of.  `munch_written` says
that maximal munch finds them, whatever follows the text, provided that it ends a word.

Nothing is asked of the shape of the tree here, only of its terms: `IsSpellable` texts are those
that a word or a phrase can spell.  A term is written as a phrase unless it reads back as a bare
word, so a keyword in it, or next to a parenthesis, does no harm.
-/

namespace SearchQuery

open MaximalMunch

/-- A text that a word or a phrase can spell. -/
structure IsSpellable (value : String) : Prop where
  ne_empty : value ≠ ""
  chars : ∀ c ∈ value.toList, isWordChar c = true ∨ c.isDigit = true ∨
    c ∈ ['-', '.', '_', '~', ':', '@', '/', '$', '\'', '='] ∨ c = ' ' ∨ c = '\t'

/-- What a word or a phrase can spell is what may stand between the quotes of a phrase. -/
lemma isSpellable_iff {value : String} :
    IsSpellable value ↔
      value.toList ≠ [] ∧ ∀ c ∈ value.toList, isPhraseContent c = true := by
  have hchar : ∀ c : Char, isPhraseContent c = true ↔ isWordChar c = true ∨ c.isDigit = true ∨
      c ∈ ['-', '.', '_', '~', ':', '@', '/', '$', '\'', '='] ∨ c = ' ' ∨ c = '\t' := by
    intro c
    simp [isPhraseContent, isPhraseChar, isPhrasePunctuation, isBlank, or_assoc]
  have hempty : value ≠ "" ↔ value.toList ≠ [] := by
    rw [Ne, ← String.toList_inj, String.toList_empty]
  constructor
  · rintro ⟨hne, hvalue⟩
    exact ⟨hempty.mp hne, fun c hc => (hchar c).mpr (hvalue c hc)⟩
  · rintro ⟨hne, hvalue⟩
    exact ⟨hempty.mpr hne, fun c hc => (hchar c).mp (hvalue c hc)⟩

/-- Mapping twice is mapping once. -/
lemma except_map_map {ε α β γ : Type} (f : α → β) (g : β → γ) (x : Except ε α) :
    (x.map f).map g = x.map (g ∘ f) := by
  cases x <;> rfl

/-! ## Reading one token of a text -/

namespace MaximalMunch

/-- What may follow a word: nothing, a blank, or a closing parenthesis. -/
def EndsWord (rest : List Char) : Prop :=
  ∀ c ∈ rest.head?, isBlank c = true ∨ c = ')'

/-- A space may follow a word. -/
lemma endsWord_space {cs : List Char} : EndsWord (' ' :: cs) := by
  rintro c ⟨⟩
  exact Or.inl (by decide)

/-- A closing parenthesis may follow a word. -/
lemma endsWord_closeParen {cs : List Char} : EndsWord (')' :: cs) := by
  rintro c ⟨⟩
  exact Or.inr rfl

/-- No word character may follow a word. -/
lemma EndsWord.isWordChar_eq_false {cs : List Char} (h : EndsWord cs) :
    ∀ c ∈ cs.head?, isWordChar c = false := by
  intro c hc
  rcases h c hc with hblank | rfl
  · by_contra hword
    rw [Bool.not_eq_false] at hword
    simp [isBlank_eq_false_of_isWordChar hword] at hblank
  · decide

variable {afterBlank : Bool} {offset : Nat} {c : Char} {w cs rest : List Char} {t : Token}

/-- A token that is read comes before those of the characters after it. -/
lemma munch_of_lexeme (hblank : ¬ isBlank c = true)
    (h : lexeme afterBlank offset c cs = .ok (t, rest)) :
    munch afterBlank offset (c :: cs) =
      (munch false (offset + byteLength t.text.toList) rest).map (t :: ·) := by
  rw [munch, if_neg hblank]
  split
  · next e he => simp [h] at he
  · next t' rest' ht' =>
    rw [h, Except.ok.injEq, Prod.mk.injEq] at ht'
    obtain ⟨rfl, rfl⟩ := ht'
    rfl

/-- A blank is passed over. -/
lemma munch_space : munch afterBlank offset (' ' :: cs) = munch true (offset + 1) cs := by
  rw [munch, if_pos (by decide)]
  rfl

/-- A closing parenthesis is read. -/
lemma munch_closeParen :
    munch afterBlank offset (')' :: cs) =
      (munch false (offset + 1) cs).map (⟨.closeParen, ")", offset⟩ :: ·) := by
  have hsize : byteLength ")".toList = 1 := by decide
  rw [munch_of_lexeme (by decide) rfl, hsize]

/-- An opening parenthesis is read unless a blank follows it. -/
lemma munch_openParen (hc : ¬ isBlank c = true) :
    munch afterBlank offset ('(' :: c :: cs) =
      (munch false (offset + 1) (c :: cs)).map (⟨.openParen, "(", offset⟩ :: ·) := by
  have hsize : byteLength "(".toList = 1 := by decide
  have hlex : lexeme afterBlank offset '(' (c :: cs) =
      .ok (⟨.openParen, "(", offset⟩, c :: cs) := by
    rw [lexeme, if_pos rfl, openLexeme, if_neg hc]
  rw [munch_of_lexeme (by decide) hlex, hsize]

/-- A word is read up to where it ends. -/
lemma munch_word (hne : w ≠ []) (hw : ∀ c ∈ w, isWordChar c = true) (hrest : EndsWord rest)
    (hend : endWord offset w rest = .ok (t, rest)) :
    munch afterBlank offset (w ++ rest) =
      (munch false (offset + byteLength t.text.toList) rest).map (t :: ·) := by
  obtain ⟨htake, hdrop⟩ := span_append hw hrest.isWordChar_eq_false
  obtain ⟨c, w, rfl⟩ := List.exists_cons_of_ne_nil hne
  have hc : isWordChar c = true := hw c List.mem_cons_self
  have hblank : ¬ isBlank c = true := by simp [isBlank_eq_false_of_isWordChar hc]
  rw [List.cons_append] at htake hdrop ⊢
  refine munch_of_lexeme hblank ?_
  rw [lexeme, if_neg (ne_of_isWordChar hc (by decide)), if_neg (ne_of_isWordChar hc (by decide)),
    if_neg (ne_of_isWordChar hc (by decide)), if_pos hc, wordLexeme, htake, hdrop, hend]

/-- A word that is no keyword is read as a word wherever it ends. -/
lemma munch_bareWord (hne : w ≠ []) (hw : ∀ c ∈ w, isWordChar c = true)
    (hkind : wordKind w = .word) (hrest : EndsWord rest) :
    munch afterBlank offset (w ++ rest) =
      (munch false (offset + byteLength w) rest).map
        (⟨.word, String.ofList w, offset⟩ :: ·) := by
  have hend : endWord offset w rest = .ok (⟨.word, String.ofList w, offset⟩, rest) := by
    rcases rest with _ | ⟨c, rest⟩
    · rw [endWord, hkind]
    · rw [endWord, hkind]
      split_ifs with hblank hclose
      · rfl
      · rfl
      · exact absurd (hrest c rfl) (by simp [hblank, hclose])
  rw [munch_word hne hw hrest hend, String.toList_ofList]

/-- A keyword is read as such before a space. -/
lemma munch_keyword {k : Keyword} :
    munch afterBlank offset (k.text.toList ++ ' ' :: cs) =
      (munch true (offset + byteLength k.text.toList + 1) cs).map
        (⟨.keyword k, k.text, offset⟩ :: ·) := by
  have hkind : wordKind k.text.toList = .keyword k := by cases k <;> decide
  have hend : endWord offset k.text.toList (' ' :: cs) =
      .ok (⟨.keyword k, k.text, offset⟩, ' ' :: cs) := by
    rw [endWord, if_pos (by decide), hkind, String.ofList_toList]
  have hne : k.text.toList ≠ [] := by cases k <;> decide
  rw [munch_word hne (fun c hc => Lexer.isWordChar_of_mem_keyword hc) endsWord_space hend,
    munch_space]

/-- A phrase is read with its quotes. -/
lemma munch_phrase (hne : w ≠ []) (hw : ∀ c ∈ w, isPhraseContent c = true) :
    munch afterBlank offset ('"' :: w ++ '"' :: cs) =
      (munch false (offset + byteLength ('"' :: w ++ ['"'])) cs).map
        (⟨.phrase, String.ofList ('"' :: w ++ ['"']), offset⟩ :: ·) := by
  have hstop : ∀ c ∈ ('"' :: cs).head?, isPhraseContent c = false := by
    rintro c ⟨⟩
    decide
  obtain ⟨htake, hdrop⟩ := span_append hw hstop
  have hlex : lexeme afterBlank offset '"' (w ++ '"' :: cs) =
      .ok (⟨.phrase, String.ofList ('"' :: w ++ ['"']), offset⟩, cs) := by
    rw [lexeme, if_neg (by decide), if_neg (by decide), if_pos rfl, phraseLexeme, htake, hdrop,
      endPhrase, if_pos ⟨rfl, hne⟩]
  rw [List.cons_append, munch_of_lexeme (by decide) hlex, String.toList_ofList]

end MaximalMunch

/-! ## The written form -/

/-- A word character is no padding. -/
lemma isPadding_eq_false_of_isWordChar {c : Char} (hc : isWordChar c = true) :
    isPadding c = false := by
  by_contra hpad
  have hle : c.toNat < 33 := by
    have hle : c.toNat ≤ 32 := by simpa [isPadding] using hpad
    omega
  have hall : ∀ n : Fin 33, isWordChar (Char.ofNat n) = false := by decide
  have hword := hall ⟨c.toNat, hle⟩
  rw [Char.ofNat_toNat] at hword
  simp [hword] at hc

/-- Nothing is stripped from characters that have no padding at their ends. -/
lemma unpadded_eq_self {c d : Char} {cs ds es : List Char} (hcons : es = c :: cs)
    (hc : isPadding c = false) (hconcat : es = ds ++ [d]) (hd : isPadding d = false) :
    unpadded es = (0, es) := by
  have hstart : es.takeWhile isPadding = [] ∧ es.dropWhile isPadding = es := by
    rw [hcons]
    simp [hc]
  have hend : dropEndWhile isPadding es = es := by
    rw [hconcat, dropEndWhile, List.reverse_append]
    simp [hd]
  rw [unpadded, hstart.1, hstart.2, hend]
  rfl

/-- A bare word is a run of word characters that is no keyword. -/
lemma isBareWord_iff {value : String} :
    isBareWord value = true ↔ value.toList ≠ [] ∧ wordKind value.toList = .word ∧
      ∀ c ∈ value.toList, isWordChar c = true := by
  have hkind : wordKind value.toList = .word ↔
      ∀ k ∈ Keyword.all, ¬ k.text = value := by
    unfold wordKind
    split
    · next k hk =>
      have hmem := List.mem_of_find?_eq_some hk
      have hspell : k.text.toList = value.toList := by simpa using List.find?_some hk
      simp only [reduceCtorEq, false_iff, not_forall, not_not]
      exact ⟨k, hmem, String.toList_inj.mp hspell⟩
    · next hnone =>
      simpa [String.toList_inj] using hnone
  rw [hkind]
  simp [isBareWord, and_assoc]

/-- The token that spells a term at byte `offset`. -/
def Token.spelling (offset : Nat) (value : String) : Token :=
  if isBareWord value then ⟨.word, value, offset⟩
  else ⟨.phrase, "\"" ++ value ++ "\"", offset⟩

namespace Expr

/-- The characters of the query text of an expression. -/
def written : Expr → List Char
  | .term value => (InlineLayout.query.term value).toList
  | .not operand => Keyword.not.text.toList ++ ' ' :: operand.written
  | .binary connective left right =>
    '(' :: (left.written ++ ' ' :: (connective.keyword.text.toList ++
      ' ' :: (right.written ++ [')'])))

/-- The tokens of the query text of an expression that begins at byte `offset`. -/
def spelling (offset : Nat) : Expr → List Token
  | .term value => [Token.spelling offset value]
  | .not operand =>
    ⟨.keyword .not, Keyword.not.text, offset⟩ ::
      operand.spelling (offset + byteLength Keyword.not.text.toList + 1)
  | .binary connective left right =>
    let middle := offset + 1 + byteLength left.written + 1
    let after := middle + byteLength connective.keyword.text.toList + 1
    ⟨.openParen, "(", offset⟩ :: (left.spelling (offset + 1) ++
      ⟨.keyword connective.keyword, connective.keyword.text, middle⟩ :: (right.spelling after ++
        [⟨.closeParen, ")", after + byteLength right.written⟩]))

/-- The query text of an expression is its written form. -/
lemma toList_query (e : Expr) : e.query.toList = e.written := by
  have hnotOpen : InlineLayout.query.notOpen = "NOT " := rfl
  have hnotClose : InlineLayout.query.notClose = "" := rfl
  have hopen : InlineLayout.query.binaryOpen = "(" := rfl
  have hclose : InlineLayout.query.binaryClose = ")" := rfl
  rw [query, inline_eq_inlineText]
  induction e with
  | term value => rfl
  | not operand ih => simp [inlineText, written, ih, hnotOpen, hnotClose, Keyword.text]
  | binary connective left right ihl ihr =>
    simp [inlineText, written, ihl, ihr, hopen, hclose]

/-- The written form of a term is that of its value between quotes, unless it is a bare word. -/
lemma written_term {value : String} :
    (Expr.term value).written =
      if isBareWord value then value.toList else '"' :: value.toList ++ ['"'] := by
  have hterm : InlineLayout.query.term value =
      if isBareWord value then value else "\"" ++ value ++ "\"" := rfl
  rw [written, hterm]
  split_ifs <;> simp

/-- A written form begins with a character that is no padding. -/
lemma exists_written_eq_cons (e : Expr) :
    ∃ c cs, e.written = c :: cs ∧ isPadding c = false := by
  rcases e with value | operand | ⟨connective, left, right⟩
  · rw [written_term]
    split_ifs with hbare
    · obtain ⟨hne, -, hword⟩ := isBareWord_iff.mp hbare
      obtain ⟨c, cs, hcs⟩ := List.exists_cons_of_ne_nil hne
      have hc : isWordChar c = true := hword c (by simp [hcs])
      exact ⟨c, cs, hcs, isPadding_eq_false_of_isWordChar hc⟩
    · exact ⟨'"', _, rfl, by decide⟩
  · exact ⟨'N', _, rfl, by decide⟩
  · exact ⟨'(', _, rfl, by decide⟩

/-- A written form ends with a character that is no padding. -/
lemma exists_written_eq_concat (e : Expr) :
    ∃ cs c, e.written = cs ++ [c] ∧ isPadding c = false := by
  induction e with
  | term value =>
    rw [written_term]
    split_ifs with hbare
    · obtain ⟨hne, -, hword⟩ := isBareWord_iff.mp hbare
      refine ⟨_, _, (List.dropLast_append_getLast hne).symm, ?_⟩
      exact isPadding_eq_false_of_isWordChar (hword _ (List.getLast_mem hne))
    · exact ⟨'"' :: value.toList, '"', rfl, by decide⟩
  | not operand ih =>
    obtain ⟨cs, c, hcs, hc⟩ := ih
    exact ⟨Keyword.not.text.toList ++ ' ' :: cs, c, by simp [written, hcs], hc⟩
  | binary connective left right _ _ =>
    exact ⟨'(' :: (left.written ++ ' ' :: (connective.keyword.text.toList ++
      ' ' :: right.written)), ')', by simp [written], by decide⟩

/-- A written form has no padding at its ends. -/
lemma unpadded_written (e : Expr) : unpadded e.written = (0, e.written) := by
  obtain ⟨c, cs, hcons, hc⟩ := e.exists_written_eq_cons
  obtain ⟨ds, d, hconcat, hd⟩ := e.exists_written_eq_concat
  exact unpadded_eq_self hcons hc hconcat hd

/-! ## Reading the written form -/

/-- A written term is read as the token that spells it. -/
lemma munch_written_term {afterBlank : Bool} {offset : Nat} {value : String} {rest : List Char}
    (hvalue : IsSpellable value) (hrest : EndsWord rest) :
    munch afterBlank offset ((Expr.term value).written ++ rest) =
      (munch false (offset + byteLength (Expr.term value).written) rest).map
        (Token.spelling offset value :: ·) := by
  obtain ⟨hne, hchars⟩ := isSpellable_iff.mp hvalue
  rw [written_term, Token.spelling]
  split_ifs with hbare
  · obtain ⟨-, hkind, hword⟩ := isBareWord_iff.mp hbare
    rw [munch_bareWord hne hword hkind hrest, String.ofList_toList]
  · have htext : String.ofList ('"' :: value.toList ++ ['"']) = "\"" ++ value ++ "\"" := by
      rw [← String.toList_inj]
      simp
    rw [List.append_assoc, List.singleton_append, munch_phrase hne hchars, htext]

/-- An opening parenthesis is read before a written form. -/
lemma munch_openParen_written {afterBlank : Bool} {offset : Nat} {e : Expr} {rest : List Char} :
    munch afterBlank offset ('(' :: (e.written ++ rest)) =
      (munch false (offset + 1) (e.written ++ rest)).map (⟨.openParen, "(", offset⟩ :: ·) := by
  obtain ⟨c, cs, hcons, hc⟩ := e.exists_written_eq_cons
  have hblank : ¬ isBlank c = true := by
    intro hblank
    simp [isPadding_of_isBlank hblank] at hc
  rw [hcons, List.cons_append, munch_openParen hblank]

/-- The written form of an expression is read as the tokens that spell it. -/
lemma munch_written {afterBlank : Bool} {offset : Nat} {e : Expr} {rest : List Char}
    (hterms : ∀ value ∈ e.leaves, IsSpellable value) (hrest : EndsWord rest) :
    munch afterBlank offset (e.written ++ rest) =
      (munch false (offset + byteLength e.written) rest).map (e.spelling offset ++ ·) := by
  have hspace : ' '.utf8Size = 1 := rfl
  induction e generalizing afterBlank offset rest with
  | term value =>
    exact munch_written_term (hterms value (by simp [leaves])) hrest
  | not operand ih =>
    rw [written, List.append_assoc, List.cons_append, munch_keyword, ih hterms hrest,
      except_map_map]
    simp only [spelling, byteLength_append, byteLength_cons, hspace, Nat.add_assoc,
      Function.comp_def, List.cons_append]
  | binary connective left right ihl ihr =>
    have hleft : ∀ value ∈ left.leaves, IsSpellable value :=
      fun value hv => hterms value (by simp [leaves, hv])
    have hright : ∀ value ∈ right.leaves, IsSpellable value :=
      fun value hv => hterms value (by simp [leaves, hv])
    rw [written, List.cons_append, List.append_assoc, munch_openParen_written]
    simp only [List.append_assoc, List.cons_append]
    -- A space follows the left operand and a parenthesis the right one: both end a last word.
    rw [ihl hleft endsWord_space, munch_space, munch_keyword, ihr hright endsWord_closeParen,
      List.nil_append, munch_closeParen]
    simp only [spelling, except_map_map, byteLength_append, byteLength_cons, byteLength_nil, hspace,
      Nat.add_assoc, Function.comp_def, List.cons_append, List.append_assoc, List.nil_append]
    rfl

/-- The query text of an expression consists of the tokens that spell it. -/
lemma tokenize_query {e : Expr} (hterms : ∀ value ∈ e.leaves, IsSpellable value) :
    tokenize e.query = .ok (e.spelling 0) := by
  have hread : munch false 0 (e.written ++ []) =
      (munch false (0 + byteLength e.written) []).map (e.spelling 0 ++ ·) :=
    munch_written hterms (by simp [EndsWord])
  rw [tokenize_eq_munch, toList_query, unpadded_written, ← List.append_nil e.written, hread, munch]
  simp [Except.map]

end Expr

end SearchQuery

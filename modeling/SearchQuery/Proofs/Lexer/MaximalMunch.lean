import Mathlib.Data.List.DropRight
import SearchQuery.Lexer.Tokenize

/-!
# A reference lexer by maximal munch

The reference reads a query with unlimited look-ahead.  Between tokens it passes over blanks;
elsewhere it takes the longest run of characters that a token of the class at hand may hold and
looks at the character after the run.  It has no state but the position and whether a blank has
just been passed over, which is all that the name of the state in an error needs.

`lexeme` reads one token and `munch` all of them; `maximalMunch` strips the query first.
-/

namespace SearchQuery

namespace MaximalMunch

/-- A character that may stand between the quotes of a phrase. -/
def isPhraseContent (c : Char) : Bool :=
  isPhraseChar c || isBlank c

/-- The kind of a word that a blank or the end of the query follows. -/
def wordKind (w : List Char) : Kind :=
  match Keyword.all.find? fun k => k.text.toList = w with
  | some k => .keyword k
  | none => .word

/-- Reads what follows an opening parenthesis at byte `offset`: no blank may. -/
def openLexeme (offset : Nat) : List Char → Except LexError (Token × List Char)
  | [] => .ok (⟨.openParen, "(", offset⟩, [])
  | c :: cs =>
    if isBlank c then .error (.forbiddenCharacter c .openParen (offset + 1))
    else .ok (⟨.openParen, "(", offset⟩, c :: cs)

/-- Reads the end of the phrase with the given content whose opening quote is at byte `offset`:
there must be some content, and a quote after it. -/
def endPhrase (offset : Nat) (content : List Char) :
    List Char → Except LexError (Token × List Char)
  | [] => .error (.notFinished .phrase offset)
  | c :: cs =>
    if c = '"' ∧ content ≠ [] then
      .ok (⟨.phrase, String.ofList ('"' :: content ++ ['"']), offset⟩, cs)
    else .error (.forbiddenCharacter c .phrase (offset + 1 + byteLength content))

/-- Reads what follows an opening quote at byte `offset`: the longest run of phrase characters and
blanks, and the end of the phrase. -/
def phraseLexeme (offset : Nat) (cs : List Char) : Except LexError (Token × List Char) :=
  endPhrase offset (cs.takeWhile isPhraseContent) (cs.dropWhile isPhraseContent)

/-- Reads the end of the word `w` at byte `offset`: the end of the query, a blank or a closing
parenthesis must follow it.  Before a parenthesis a keyword is a word like any other. -/
def endWord (offset : Nat) (w : List Char) : List Char → Except LexError (Token × List Char)
  | [] => .ok (⟨wordKind w, String.ofList w, offset⟩, [])
  | c :: cs =>
    if isBlank c then .ok (⟨wordKind w, String.ofList w, offset⟩, c :: cs)
    else if c = ')' then .ok (⟨.word, String.ofList w, offset⟩, c :: cs)
    else .error (.forbiddenCharacter c .word (offset + byteLength w))

/-- Reads the word at byte `offset`: the longest run of word characters, and its end. -/
def wordLexeme (offset : Nat) (cs : List Char) : Except LexError (Token × List Char) :=
  endWord offset (cs.takeWhile isWordChar) (cs.dropWhile isWordChar)

/-- What an error between tokens says of the lexer: whether a blank has just been passed over. -/
def boundaryMode (afterBlank : Bool) : Mode :=
  if afterBlank then .blank else .expression

/-- Reads the token that begins at byte `offset` with `c`, and gives the characters after it. -/
def lexeme (afterBlank : Bool) (offset : Nat) (c : Char) (cs : List Char) :
    Except LexError (Token × List Char) :=
  if c = '(' then openLexeme offset cs
  else if c = ')' then .ok (⟨.closeParen, ")", offset⟩, cs)
  else if c = '"' then phraseLexeme offset cs
  else if isWordChar c then wordLexeme offset (c :: cs)
  else .error (.forbiddenCharacter c (boundaryMode afterBlank) offset)

/-! ### Character classes -/

/-- No blank is a word character. -/
lemma isBlank_eq_false_of_isWordChar {c : Char} (hc : isWordChar c = true) :
    isBlank c = false := by
  by_contra hblank
  rw [Bool.not_eq_false] at hblank
  have hcases : c = ' ' ∨ c = '\t' := by simpa [isBlank] using hblank
  rcases hcases with rfl | rfl <;> exact absurd hc (by decide)

/-- No word character has a meaning of its own to the lexer. -/
lemma ne_of_isWordChar {c d : Char} (hc : isWordChar c = true) (hd : isWordChar d = false) :
    c ≠ d := by
  rintro rfl
  simp [hc] at hd

end MaximalMunch

/-! ### What a token is made of -/

/-- The text of a token is one that its kind may have. -/
def Token.WellFormed (t : Token) : Prop :=
  match t.kind with
  | .word => t.text.toList ≠ [] ∧ ∀ c ∈ t.text.toList, isWordChar c = true
  | .phrase => ∃ run : List Char, run ≠ [] ∧
      (∀ c ∈ run, MaximalMunch.isPhraseContent c = true) ∧ t.text.toList = '"' :: run ++ ['"']
  | .keyword k => t.text = k.text
  | .openParen => t.text = "("
  | .closeParen => t.text = ")"

namespace MaximalMunch

/-- The token stands at byte `offset` at the head of the characters, with `rest` after it. -/
structure IsLexeme (offset : Nat) (cs : List Char) (t : Token) (rest : List Char) : Prop where
  /-- The characters are those of the token, then the others. -/
  chars_eq : cs = t.text.toList ++ rest
  offset_eq : t.offset = offset
  wellFormed : t.WellFormed

/-- The text of a well-formed token is not empty. -/
lemma toList_ne_nil_of_wellFormed {t : Token} (h : t.WellFormed) : t.text.toList ≠ [] := by
  unfold Token.WellFormed at h
  split at h
  · exact h.1
  · obtain ⟨run, -, -, htext⟩ := h
    simp [htext]
  · next k _ => cases k <;> simp [h, Keyword.text]
  · simp [h]
  · simp [h]

/-- What an opening parenthesis is read as. -/
lemma isLexeme_of_openLexeme {offset : Nat} {cs rest : List Char} {t : Token}
    (h : openLexeme offset cs = .ok (t, rest)) : IsLexeme offset ('(' :: cs) t rest := by
  rcases cs with _ | ⟨c, cs⟩
  · simp only [openLexeme, Except.ok.injEq, Prod.mk.injEq] at h
    obtain ⟨rfl, rfl⟩ := h
    exact ⟨by simp, rfl, rfl⟩
  · by_cases hc : isBlank c = true
    · simp [openLexeme, hc] at h
    · simp only [openLexeme, hc, Bool.false_eq_true, if_false, Except.ok.injEq, Prod.mk.injEq] at h
      obtain ⟨rfl, rfl⟩ := h
      exact ⟨by simp, rfl, rfl⟩

/-- What an opening quote is read as. -/
lemma isLexeme_of_phraseLexeme {offset : Nat} {cs rest : List Char} {t : Token}
    (h : phraseLexeme offset cs = .ok (t, rest)) : IsLexeme offset ('"' :: cs) t rest := by
  have hcs := List.takeWhile_append_dropWhile (p := isPhraseContent) (l := cs)
  unfold phraseLexeme endPhrase at h
  split at h
  · simp at h
  · next c after hdrop =>
    split at h
    · next hc =>
      obtain ⟨rfl, hrun⟩ := hc
      simp only [Except.ok.injEq, Prod.mk.injEq] at h
      obtain ⟨rfl, rfl⟩ := h
      refine ⟨?_, rfl, cs.takeWhile isPhraseContent, hrun, ?_, by simp⟩
      · rw [hdrop] at hcs
        simp [hcs]
      · exact fun c hc => List.mem_takeWhile_imp hc
    · simp at h

/-- A run of word characters is a word. -/
lemma wellFormed_word {offset : Nat} {w : List Char} (hne : w ≠ [])
    (hw : ∀ c ∈ w, isWordChar c = true) :
    Token.WellFormed ⟨.word, String.ofList w, offset⟩ := by
  simpa [Token.WellFormed] using ⟨hne, hw⟩

/-- The kind of a run of word characters agrees with its spelling. -/
lemma wellFormed_wordKind {offset : Nat} {w : List Char} (hne : w ≠ [])
    (hw : ∀ c ∈ w, isWordChar c = true) :
    Token.WellFormed ⟨wordKind w, String.ofList w, offset⟩ := by
  unfold wordKind
  split
  · next k hk =>
    have hspell : k.text.toList = w := by simpa using List.find?_some hk
    simp [Token.WellFormed, ← hspell]
  · exact wellFormed_word hne hw

/-- What a run of word characters is read as. -/
lemma isLexeme_of_wordLexeme {offset : Nat} {c : Char} {cs rest : List Char} {t : Token}
    (hc : isWordChar c = true) (h : wordLexeme offset (c :: cs) = .ok (t, rest)) :
    IsLexeme offset (c :: cs) t rest := by
  have hcs := List.takeWhile_append_dropWhile (p := isWordChar) (l := c :: cs)
  have hne : (c :: cs).takeWhile isWordChar ≠ [] := by simp [hc]
  have hw : ∀ d ∈ (c :: cs).takeWhile isWordChar, isWordChar d = true :=
    fun d hd => List.mem_takeWhile_imp hd
  unfold wordLexeme endWord at h
  split at h
  · next hdrop =>
    simp only [Except.ok.injEq, Prod.mk.injEq] at h
    obtain ⟨rfl, rfl⟩ := h
    exact ⟨by simpa [hdrop] using hcs.symm, rfl, wellFormed_wordKind hne hw⟩
  · next d after hdrop =>
    rw [hdrop] at hcs
    split at h
    · simp only [Except.ok.injEq, Prod.mk.injEq] at h
      obtain ⟨rfl, rfl⟩ := h
      exact ⟨by simpa using hcs.symm, rfl, wellFormed_wordKind hne hw⟩
    · split at h
      · simp only [Except.ok.injEq, Prod.mk.injEq] at h
        obtain ⟨rfl, rfl⟩ := h
        exact ⟨by simpa using hcs.symm, rfl, wellFormed_word hne hw⟩
      · simp at h

/-- A token that is read stands where it is read, and its text is one that its kind may have. -/
lemma isLexeme_of_lexeme {afterBlank : Bool} {offset : Nat} {c : Char} {cs rest : List Char}
    {t : Token} (h : lexeme afterBlank offset c cs = .ok (t, rest)) :
    IsLexeme offset (c :: cs) t rest := by
  unfold lexeme at h
  split_ifs at h with hopen hclose hquote hword
  · subst hopen
    exact isLexeme_of_openLexeme h
  · simp only [Except.ok.injEq, Prod.mk.injEq] at h
    obtain ⟨rfl, rfl⟩ := h
    subst hclose
    exact ⟨by simp, rfl, rfl⟩
  · subst hquote
    exact isLexeme_of_phraseLexeme h
  · exact isLexeme_of_wordLexeme hword h

/-- The characters after a token are fewer than those that it was read from. -/
lemma length_of_lexeme {afterBlank : Bool} {offset : Nat} {c : Char} {cs rest : List Char}
    {t : Token} (h : lexeme afterBlank offset c cs = .ok (t, rest)) :
    rest.length < (c :: cs).length := by
  have hlex := isLexeme_of_lexeme h
  have hpos := List.length_pos_of_ne_nil (toList_ne_nil_of_wellFormed hlex.wellFormed)
  rw [hlex.chars_eq, List.length_append]
  omega

/-! ### All tokens -/

/-- Reads all tokens of the characters from byte `offset` on. -/
def munch (afterBlank : Bool) (offset : Nat) : List Char → Except LexError (List Token)
  | [] => .ok []
  | c :: cs =>
    if isBlank c then munch true (offset + c.utf8Size) cs
    else
      match _hlex : lexeme afterBlank offset c cs with
      | .error e => .error e
      | .ok (token, rest) =>
        (munch false (offset + byteLength token.text.toList) rest).map (token :: ·)
termination_by cs => cs.length
decreasing_by
  · exact Nat.lt_succ_self _
  · exact length_of_lexeme _hlex

end MaximalMunch

/-- The tokens of a query by maximal munch: the characters up to U+0020 are stripped from both
ends, and offsets count from the start of the whole query. -/
def maximalMunch (query : String) : Except LexError (List Token) :=
  MaximalMunch.munch false (byteLength (query.toList.takeWhile (· ≤ ' ')))
    ((query.toList.dropWhile (· ≤ ' ')).rdropWhile (· ≤ ' '))

end SearchQuery

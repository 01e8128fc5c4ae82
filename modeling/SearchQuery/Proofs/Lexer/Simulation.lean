import SearchQuery.Proofs.Lexer.MaximalMunch
import SearchQuery.Proofs.Lexer.Tokens

/-!
# The lexer reads by maximal munch

The lexer sees one character at a time, and the reference lexer sees whole runs.  The two are
related by what the lexer has read of a run.  Inside a word it is `reading w start`: the text
`w` so far, in the mode of the keyword that `w` begins, or in that of a word if it begins none.
One lemma says what such a lexer does with one more word character, one what it does with any
other character, and one what it does at the end of the query; phrases are alike, and a
parenthesis is a run of one character.  Together they give `tokens_eq_lexeme`: between tokens the
lexer reads the token that the reference reads and is between tokens again, and
`tokens_eq_munch` follows by induction along the reference.
-/

namespace SearchQuery

open MaximalMunch

namespace Lexer

/-! ## Words -/

/-- The mode of a lexer that has read the word characters `w` since a token began. -/
def readingMode (w : List Char) : Mode :=
  match Keyword.all.find? fun k => w.isPrefixOf k.text.toList with
  | some k => .keyword k
  | none => .word

/-- The lexer that has read the word characters `w` of the token at byte `start`. -/
def reading (w : List Char) (start : Nat) : Lexer :=
  ⟨readingMode w, String.ofList w, start⟩

/-- The list of all keywords has every one of them. -/
lemma mem_all_keywords (k : Keyword) : k ∈ Keyword.all := by
  cases k <;> simp [Keyword.all]

/-- The first letter of a keyword tells which it is. -/
lemma keyword_eq_of_isPrefix {w : List Char} {k k' : Keyword} (hw : w ≠ [])
    (h : w <+: k.text.toList) (h' : w <+: k'.text.toList) : k = k' := by
  obtain ⟨c, w, rfl⟩ := List.exists_cons_of_ne_nil hw
  cases k <;> cases k' <;> simp_all [Keyword.text]

/-- While the text begins a keyword, the mode is that of the keyword. -/
lemma reading_of_isPrefix {w : List Char} {k : Keyword} {start : Nat} (hw : w ≠ [])
    (h : w <+: k.text.toList) : reading w start = ⟨.keyword k, String.ofList w, start⟩ := by
  unfold reading readingMode
  split
  · next k' hk' =>
    have hprefix : w <+: k'.text.toList := by simpa using List.find?_some hk'
    rw [keyword_eq_of_isPrefix hw hprefix h]
  · next hnone =>
    have hk := List.find?_eq_none.mp hnone k (mem_all_keywords k)
    exact absurd h (by simpa using hk)

/-- When the text begins no keyword, the mode is that of a word. -/
lemma reading_of_not_isPrefix {w : List Char} {start : Nat}
    (h : ∀ k : Keyword, ¬ w <+: k.text.toList) :
    reading w start = ⟨.word, String.ofList w, start⟩ := by
  unfold reading readingMode
  split
  · next k hk => exact absurd (by simpa using List.find?_some hk) (h k)
  · rfl

/-- What the text so far leaves of the keyword that it begins. -/
lemma head?_drop_of_isPrefix {w l : List Char} {c : Char} (h : w <+: l) :
    (l.drop w.length).head? = some c ↔ w ++ [c] <+: l := by
  obtain ⟨t, rfl⟩ := h
  rw [List.drop_left, List.prefix_append_right_inj]
  rcases t with _ | ⟨d, t⟩
  · simp
  · simp [eq_comm]

/-- The characters of keywords are word characters. -/
lemma isWordChar_of_mem_keyword {k : Keyword} {c : Char} (hc : c ∈ k.text.toList) :
    isWordChar c = true := by
  cases k <;> simp [Keyword.text] at hc <;> rcases hc with rfl | rfl | rfl <;> decide

/-- The characters of keywords take one byte each. -/
lemma byteLength_of_isPrefix {w : List Char} {k : Keyword} (h : w <+: k.text.toList) :
    byteLength w = w.length := by
  have hsize : ∀ c ∈ w, c.utf8Size = 1 := by
    intro c hc
    have hmem : c ∈ k.text.toList := h.subset hc
    cases k <;> simp [Keyword.text] at hmem <;> rcases hmem with rfl | rfl | rfl <;> rfl
  clear h
  induction w with
  | nil => rfl
  | cons c w ih =>
    rw [byteLength_cons, hsize c List.mem_cons_self,
      ih fun d hd => hsize d (List.mem_cons_of_mem c hd), List.length_cons, Nat.add_comm]

/-- A text that begins a keyword and is as long is the keyword. -/
lemma byteLength_eq_iff_of_isPrefix {w : List Char} {k : Keyword} (h : w <+: k.text.toList) :
    byteLength w = byteLength k.text.toList ↔ w = k.text.toList := by
  rw [byteLength_of_isPrefix h, byteLength_of_isPrefix (List.prefix_refl k.text.toList)]
  exact ⟨h.eq_of_length, congrArg List.length⟩

/-- A text of word characters is carried on as a word. -/
lemma fallBackToWord_of_isWordChar {lexer : Lexer} {goOn : Lexer → Step}
    (h : ∀ c ∈ lexer.text.toList, isWordChar c = true) :
    lexer.fallBackToWord goOn = goOn { lexer with mode := .word } := by
  rw [fallBackToWord, List.dropWhile_eq_nil_iff.mpr h]

/-- An abandoned keyword is carried on as a word. -/
lemma fallBackToWord_of_isPrefix {w : List Char} {k : Keyword} {start : Nat}
    {goOn : Lexer → Step} (h : w <+: k.text.toList) :
    (⟨.keyword k, String.ofList w, start⟩ : Lexer).fallBackToWord goOn =
      goOn ⟨.word, String.ofList w, start⟩ := by
  refine fallBackToWord_of_isWordChar ?_
  intro c hc
  rw [String.toList_ofList] at hc
  exact isWordChar_of_mem_keyword (h.subset hc)

/-- While the text begins a keyword, one of its letters or a blank after it is looked for first. -/
lemma push_keyword {w : List Char} {k : Keyword} {start offset : Nat} {c : Char}
    (h : w <+: k.text.toList) :
    (⟨.keyword k, String.ofList w, start⟩ : Lexer).push offset c =
      if w ++ [c] <+: k.text.toList then extend ⟨.keyword k, String.ofList w, start⟩ c
      else if w = k.text.toList ∧ isBlank c = true then
        finishAtBlank ⟨.keyword k, String.ofList w, start⟩ (.keyword k)
      else pushWord ⟨.word, String.ofList w, start⟩ offset c := by
  simp only [push, pushKeyword, String.toList_ofList, fallBackToWord_of_isPrefix h,
    byteLength_eq_iff_of_isPrefix h, Bool.and_eq_true, decide_eq_true_eq]
  rw [byteLength_of_isPrefix h]
  simp only [head?_drop_of_isPrefix h]

/-- A word character carries the text on, in the mode of a keyword as long as it begins one. -/
lemma push_reading_of_isWordChar {w : List Char} {start offset : Nat} {c : Char} (hw : w ≠ [])
    (hc : isWordChar c = true) :
    (reading w start).push offset c = { lexer := reading (w ++ [c]) start } := by
  have htext : (String.ofList w).push c = String.ofList (w ++ [c]) := by
    rw [← String.toList_inj]
    simp
  have hword : (∀ k : Keyword, ¬ w ++ [c] <+: k.text.toList) →
      pushWord ⟨.word, String.ofList w, start⟩ offset c =
        { lexer := reading (w ++ [c]) start } := by
    intro hnone
    rw [pushWord, if_pos hc, extend, reading_of_not_isPrefix hnone, htext]
  by_cases hk : ∃ k : Keyword, w <+: k.text.toList
  · obtain ⟨k, hk⟩ := hk
    rw [reading_of_isPrefix hw hk, push_keyword hk]
    split_ifs with hext hblank
    · rw [extend, reading_of_isPrefix (by simp) hext, htext]
    · simp [isBlank_eq_false_of_isWordChar hc] at hblank
    · apply hword
      intro k' hk'
      have hsame : k = k' := keyword_eq_of_isPrefix hw hk ((List.prefix_append w [c]).trans hk')
      exact hext (hsame ▸ hk')
  · have hnone : ∀ k : Keyword, ¬ w <+: k.text.toList := fun k h => hk ⟨k, h⟩
    rw [reading_of_not_isPrefix hnone, push]
    exact hword fun k h => hnone k ((List.prefix_append w [c]).trans h)

/-- A run that begins a keyword is the keyword when it is all of it, and a word otherwise. -/
lemma wordKind_of_isPrefix {w : List Char} {k : Keyword} (hw : w ≠ []) (h : w <+: k.text.toList) :
    wordKind w = if w = k.text.toList then .keyword k else .word := by
  unfold wordKind
  split
  · next k' hk' =>
    have hspell : w = k'.text.toList := by simpa [eq_comm] using List.find?_some hk'
    obtain rfl : k' = k := keyword_eq_of_isPrefix hw (by simp [hspell]) h
    rw [if_pos hspell]
  · next hnone =>
    have hk := List.find?_eq_none.mp hnone k (mem_all_keywords k)
    rw [if_neg (by simpa [eq_comm] using hk)]

/-- A run that begins no keyword is a word. -/
lemma wordKind_of_not_isPrefix {w : List Char} (h : ∀ k : Keyword, ¬ w <+: k.text.toList) :
    wordKind w = .word := by
  unfold wordKind
  split
  · next k hk =>
    have hspell : k.text.toList = w := by simpa using List.find?_some hk
    exact absurd (by simp [hspell]) (h k)
  · rfl

/-- What a lexer does with the first character after a word. -/
lemma push_reading_of_not_isWordChar {w : List Char} {start offset : Nat} {c : Char} (hw : w ≠ [])
    (hc : isWordChar c = false) :
    (reading w start).push offset c =
      if isBlank c then finishAtBlank ⟨.word, String.ofList w, start⟩ (wordKind w)
      else pushWord ⟨.word, String.ofList w, start⟩ offset c := by
  have hblank : isBlank c = true → pushWord ⟨.word, String.ofList w, start⟩ offset c =
      finishAtBlank ⟨.word, String.ofList w, start⟩ .word := by
    intro hblank
    simp [pushWord, hc, hblank]
  by_cases hk : ∃ k : Keyword, w <+: k.text.toList
  · obtain ⟨k, hk⟩ := hk
    have hext : ¬ w ++ [c] <+: k.text.toList := by
      rintro ⟨t, ht⟩
      have hmem : c ∈ k.text.toList := by simp [← ht]
      simp [isWordChar_of_mem_keyword hmem] at hc
    rw [reading_of_isPrefix hw hk, push_keyword hk, if_neg hext, wordKind_of_isPrefix hw hk]
    by_cases hb : isBlank c = true
    · rw [if_pos hb]
      by_cases hspell : w = k.text.toList
      · rw [if_pos ⟨hspell, hb⟩, if_pos hspell]
        rfl
      · rw [if_neg fun h => hspell h.1, if_neg hspell, hblank hb]
    · rw [if_neg fun h => hb h.2, if_neg hb]
  · have hnone : ∀ k : Keyword, ¬ w <+: k.text.toList := fun k h => hk ⟨k, h⟩
    rw [reading_of_not_isPrefix hnone, wordKind_of_not_isPrefix hnone, push]
    split_ifs with hb
    · exact hblank hb
    · rfl

/-- At the end of the query a lexer hands out the word that it has read. -/
lemma close_reading {w : List Char} {start : Nat} (hw : w ≠ []) :
    (reading w start).close =
      finishAtEnd ⟨.word, String.ofList w, start⟩ (wordKind w) := by
  by_cases hk : ∃ k : Keyword, w <+: k.text.toList
  · obtain ⟨k, hk⟩ := hk
    have htext : String.ofList w = k.text ↔ w = k.text.toList := by
      rw [← String.toList_inj, String.toList_ofList]
    rw [reading_of_isPrefix hw hk, wordKind_of_isPrefix hw hk, close]
    dsimp only
    rw [fallBackToWord_of_isPrefix hk]
    by_cases hspell : w = k.text.toList
    · rw [if_pos (htext.mpr hspell), if_pos hspell]
      rfl
    · rw [if_neg fun h => hspell (htext.mp h), if_neg hspell]
  · have hnone : ∀ k : Keyword, ¬ w <+: k.text.toList := fun k h => hk ⟨k, h⟩
    rw [reading_of_not_isPrefix hnone, wordKind_of_not_isPrefix hnone, close]

/-- The first character of a word sets the mode that the word so far asks for. -/
lemma opening?_of_isWordChar {c : Char} (hc : isWordChar c = true) :
    opening? c = some (readingMode [c]) := by
  have hopen : c ≠ '(' := ne_of_isWordChar hc (by decide)
  have hclose : c ≠ ')' := ne_of_isWordChar hc (by decide)
  have hquote : c ≠ '"' := ne_of_isWordChar hc (by decide)
  have hblank : isBlank c = false := isBlank_eq_false_of_isWordChar hc
  unfold opening?
  rw [if_neg hopen, if_neg hclose, if_neg hquote, hblank]
  by_cases hn : c = 'N'
  · subst hn
    decide
  by_cases ha : c = 'A'
  · subst ha
    decide
  by_cases ho : c = 'O'
  · subst ho
    decide
  simp [hn, ha, ho, hc, readingMode, Keyword.all, Keyword.text]

/-- Between tokens a word character begins a word. -/
lemma push_of_isWordChar {lexer : Lexer} {offset : Nat} {c : Char} (h : lexer.AtBoundary)
    (hc : isWordChar c = true) : lexer.push offset c = { lexer := reading [c] offset } := by
  have hblank : ¬ isBlank c = true := by simp [isBlank_eq_false_of_isWordChar hc]
  rw [push_of_opening h hblank (opening?_of_isWordChar hc), reading]

/-! ## One token -/

/-- The tokens from one on that the reference has read, the others as a new lexer reads them. -/
def tokensFrom (offset : Nat) (p : Token × List Char) : Except LexError (List Token) :=
  (Lexer.new.tokens (offset + byteLength p.1.text.toList) p.2).map (p.1 :: ·)

/-- A lexer whose token has been handed out reads on like a new one. -/
lemma tokens_cleared (lexer : Lexer) (offset : Nat) (cs : List Char) :
    lexer.cleared.tokens offset cs = Lexer.new.tokens offset cs :=
  tokens_congr_of_mode rfl (atBoundary_cleared lexer) ⟨Or.inl rfl, rfl⟩

/-- A lexer in the middle of a word completes it as the reference does. -/
lemma tokens_reading {w : List Char} {start : Nat} {cs : List Char} (hw : w ≠ [])
    (hcs : ∀ c ∈ cs.head?, isWordChar c = false) :
    (reading w start).tokens (start + byteLength w) cs =
      (endWord start w cs).bind (tokensFrom start) := by
  rcases cs with _ | ⟨c, rest⟩
  · rw [tokens_nil_of_finishAtEnd (close_reading hw)]
    rfl
  · have hc : isWordChar c = false := hcs c rfl
    have hpush : (reading w start).push (start + byteLength w) c = _ :=
      push_reading_of_not_isWordChar hw hc
    have hcleared := tokens_cleared ⟨.word, String.ofList w, start⟩
    rw [endWord]
    split_ifs with hblank hclose
    · rw [if_pos hblank] at hpush
      rw [tokens_of_finishAtBlank hblank hpush, hcleared, Except.bind, tokensFrom,
        String.toList_ofList, pending]
    · rw [if_neg hblank, pushWord, if_neg (by simp [hc]), if_neg hblank, if_pos hclose] at hpush
      rw [tokens_of_finishThenStart hpush, hcleared, Except.bind, tokensFrom,
        String.toList_ofList, pending]
    · rw [if_neg hblank, pushWord, if_neg (by simp [hc]), if_neg hblank, if_neg hclose] at hpush
      exact tokens_of_forbid hpush

/-- The head of what is left after a run is not in the class of the run. -/
lemma head?_dropWhile_eq_false (p : Char → Bool) (cs : List Char) :
    ∀ c ∈ (cs.dropWhile p).head?, p c = false := by
  intro c hc
  have hhead := List.head?_dropWhile_not p cs
  rw [hc] at hhead
  simpa using hhead

/-- Between tokens a lexer reads a word as the reference does. -/
lemma tokens_eq_wordLexeme {lexer : Lexer} {offset : Nat} {c : Char} {cs : List Char}
    (h : lexer.AtBoundary) (hc : isWordChar c = true) :
    lexer.tokens offset (c :: cs) = (wordLexeme offset (c :: cs)).bind (tokensFrom offset) := by
  have hcarry : ∀ (w : List Char) (position : Nat) (d : Char), isWordChar d = true →
      (reading (c :: w) offset).push position d = { lexer := reading (c :: (w ++ [d])) offset } :=
    fun w position d hd => push_reading_of_isWordChar (by simp) hd
  have hread : lexer.tokens offset (c :: cs) =
      (reading (c :: cs.takeWhile isWordChar) offset).tokens
        (offset + byteLength (c :: cs.takeWhile isWordChar)) (cs.dropWhile isWordChar) := by
    rw [tokens_of_step (push_of_isWordChar h hc), byteLength_cons, ← Nat.add_assoc]
    exact tokens_takeWhile hcarry [] cs (offset + c.utf8Size)
  rw [hread, tokens_reading (by simp) (head?_dropWhile_eq_false isWordChar cs), wordLexeme,
    List.takeWhile_cons_of_pos hc, List.dropWhile_cons_of_pos hc]

/-- The lexer that has read the content so far of the phrase at byte `start`. -/
def quoting (content : List Char) (start : Nat) : Lexer :=
  ⟨.phrase, String.ofList ('"' :: content), start⟩

/-- Inside a phrase its characters and blanks carry the content on, and a quote ends it unless
there is none. -/
lemma push_quoting {content : List Char} {start offset : Nat} {c : Char} :
    (quoting content start).push offset c =
      if isPhraseContent c then { lexer := quoting (content ++ [c]) start }
      else if c = '"' ∧ content ≠ [] then
        { lexer := (quoting content start).cleared
          completed := some ⟨.phrase, String.ofList ('"' :: content ++ ['"']), start⟩ }
      else (quoting content start).forbid offset c := by
  have hpush : (quoting content start).push offset c =
      (quoting content start).pushPhrase offset c := rfl
  have hcarry : (quoting content start).text.push c = String.ofList ('"' :: content ++ [c]) := by
    rw [quoting, ← String.toList_inj]
    simp
  have hempty : byteLength (quoting content start).text.toList = 1 ↔ content = [] := by
    have hquote : '"'.utf8Size = 1 := rfl
    rw [quoting, String.toList_ofList, byteLength_cons, hquote]
    rcases content with _ | ⟨d, content⟩
    · simp
    · have hpos := d.utf8Size_pos
      rw [byteLength_cons]
      simp only [reduceCtorEq, iff_false]
      omega
  rw [hpush, pushPhrase]
  by_cases hquote : c = '"'
  · subst hquote
    have hcontent : ¬ isPhraseContent '"' = true := by decide
    rw [if_pos rfl, if_neg hcontent, hcarry]
    by_cases hnil : content = []
    · rw [if_pos (hempty.mpr hnil), if_neg fun h => h.2 hnil]
    · rw [if_neg fun h => hnil (hempty.mp h), if_pos ⟨rfl, hnil⟩]
      rfl
  · have hend : ¬ (c = '"' ∧ content ≠ []) := fun h => hquote h.1
    rw [if_neg hquote, if_neg hend, extend, hcarry]
    rfl

/-- A lexer in the middle of a phrase completes it as the reference does. -/
lemma tokens_quoting {content : List Char} {start : Nat} {cs : List Char}
    (hcs : ∀ c ∈ cs.head?, isPhraseContent c = false) :
    (quoting content start).tokens (start + 1 + byteLength content) cs =
      (endPhrase start content cs).bind (tokensFrom start) := by
  rcases cs with _ | ⟨c, rest⟩
  · exact tokens_nil_of_phrase rfl
  · have hc : ¬ isPhraseContent c = true := by simp [hcs c rfl]
    have hpush : (quoting content start).push (start + 1 + byteLength content) c = _ :=
      push_quoting.trans (if_neg hc)
    rw [endPhrase]
    split_ifs at hpush ⊢ with hend
    · have hsize : byteLength ('"' :: content ++ ['"']) = 1 + byteLength content + c.utf8Size := by
        simp [hend.1, show '"'.utf8Size = 1 from rfl]
        omega
      rw [tokens_of_completed hpush, tokens_cleared, Except.bind, tokensFrom, String.toList_ofList,
        hsize, Nat.add_assoc, Nat.add_assoc, Nat.add_assoc]
    · exact tokens_of_forbid hpush

/-- Between tokens a lexer reads a phrase as the reference does. -/
lemma tokens_eq_phraseLexeme {lexer : Lexer} {offset : Nat} {cs : List Char}
    (h : lexer.AtBoundary) :
    lexer.tokens offset ('"' :: cs) = (phraseLexeme offset cs).bind (tokensFrom offset) := by
  have hpush : lexer.push offset '"' = { lexer := quoting [] offset } := by
    rw [push_of_opening h (by decide) rfl]
    rfl
  have hcarry : ∀ (w : List Char) (position : Nat) (c : Char), isPhraseContent c = true →
      (quoting w offset).push position c = { lexer := quoting (w ++ [c]) offset } :=
    fun w position c hc => push_quoting.trans (if_pos hc)
  have hread : lexer.tokens offset ('"' :: cs) =
      (quoting (cs.takeWhile isPhraseContent) offset).tokens
        (offset + 1 + byteLength (cs.takeWhile isPhraseContent))
        (cs.dropWhile isPhraseContent) := by
    rw [tokens_of_step hpush]
    exact tokens_takeWhile hcarry [] cs (offset + 1)
  rw [hread, tokens_quoting (head?_dropWhile_eq_false isPhraseContent cs), phraseLexeme]

/-- Between tokens a lexer reads an opening parenthesis as the reference does. -/
lemma tokens_eq_openLexeme {lexer : Lexer} {offset : Nat} {cs : List Char}
    (h : lexer.AtBoundary) :
    lexer.tokens offset ('(' :: cs) = (openLexeme offset cs).bind (tokensFrom offset) := by
  have hpush : lexer.push offset '(' = { lexer := ⟨.openParen, "(", offset⟩ } := by
    rw [push_of_opening h (by decide) rfl]
  rw [tokens_of_step hpush]
  rcases cs with _ | ⟨c, rest⟩
  · rfl
  · rw [openLexeme]
    split_ifs with hblank
    · have hforbid : (⟨.openParen, "(", offset⟩ : Lexer).push (offset + 1) c = _ := if_pos hblank
      exact tokens_of_forbid hforbid
    · have hstart : (⟨.openParen, "(", offset⟩ : Lexer).push (offset + 1) c = _ := if_neg hblank
      have hsize : byteLength "(".toList = '('.utf8Size := by decide
      rw [Except.bind, tokensFrom, hsize, ← tokens_cleared ⟨.openParen, "(", offset⟩]
      exact tokens_of_finishThenStart hstart

/-- Between tokens a lexer reads a closing parenthesis and goes on with what follows it. -/
lemma tokens_closeParen {lexer : Lexer} {offset : Nat} {cs : List Char} (h : lexer.AtBoundary) :
    lexer.tokens offset (')' :: cs) = tokensFrom offset (⟨.closeParen, ")", offset⟩, cs) := by
  have hpush : lexer.push offset ')' = { lexer := ⟨.closeParen, ")", offset⟩ } := by
    rw [push_of_opening h (by decide) rfl]
  rw [tokens_of_step hpush]
  rcases cs with _ | ⟨c, rest⟩
  · rfl
  · have hstart : (⟨.closeParen, ")", offset⟩ : Lexer).push (offset + 1) c =
      (⟨.closeParen, ")", offset⟩ : Lexer).finishThenStart .closeParen (offset + 1) c := rfl
    have hsize : byteLength ")".toList = ')'.utf8Size := by decide
    rw [tokensFrom, hsize, ← tokens_cleared ⟨.closeParen, ")", offset⟩]
    exact tokens_of_finishThenStart hstart

/-- A character of no class begins no token. -/
lemma opening?_eq_none {c : Char} (hopen : c ≠ '(') (hclose : c ≠ ')') (hquote : c ≠ '"')
    (hblank : ¬ isBlank c = true) (hword : ¬ isWordChar c = true) : opening? c = none := by
  have hletter : ∀ d : Char, isWordChar d = true → c ≠ d := by
    rintro d hd rfl
    exact hword hd
  unfold opening?
  rw [if_neg hopen, if_neg hclose, if_neg hquote, if_neg hblank,
    if_neg (hletter 'N' (by decide)), if_neg (hletter 'A' (by decide)),
    if_neg (hletter 'O' (by decide)), if_neg hword]

/-- Between tokens a lexer reads a token as the reference does, and reads on like a new one. -/
lemma tokens_eq_lexeme {lexer : Lexer} {afterBlank : Bool} {offset : Nat} {c : Char}
    {cs : List Char} (h : lexer.AtBoundary) (hmode : lexer.mode = boundaryMode afterBlank)
    (hblank : ¬ isBlank c = true) :
    lexer.tokens offset (c :: cs) =
      (lexeme afterBlank offset c cs).bind (tokensFrom offset) := by
  unfold lexeme
  split_ifs with hopen hclose hquote hword
  · rw [hopen, tokens_eq_openLexeme h]
  · rw [hclose, tokens_closeParen h]
    rfl
  · rw [hquote, tokens_eq_phraseLexeme h]
  · exact tokens_eq_wordLexeme h hword
  · have hnone := opening?_eq_none hopen hclose hquote hblank hword
    rw [tokens_of_forbid ((push_of_atBoundary h).trans (beginToken_of_none hnone)), hmode]
    rfl

/-! ## All tokens -/

/-- A lexer between tokens reads all of them as the reference does. -/
lemma tokens_eq_munch {lexer : Lexer} {afterBlank : Bool} {offset : Nat} {cs : List Char}
    (h : lexer.AtBoundary) (hmode : lexer.mode = boundaryMode afterBlank) :
    lexer.tokens offset cs = munch afterBlank offset cs := by
  fun_induction munch afterBlank offset cs generalizing lexer with
  | case1 afterBlank offset =>
    rcases h.mode with hm | hm <;> simp [tokens, close, hm, Step.result, Except.map]
  | case2 afterBlank offset c cs hblank ih =>
    rw [tokens_of_step ((push_of_atBoundary h).trans (beginToken_of_blank hblank))]
    exact ih h.blank rfl
  | case3 afterBlank offset c cs hblank e hlex =>
    rw [tokens_eq_lexeme h hmode hblank, hlex]
    rfl
  | case4 afterBlank offset c cs hblank token rest hlex ih =>
    rw [tokens_eq_lexeme h hmode hblank, hlex, Except.bind, tokensFrom, ih ⟨Or.inl rfl, rfl⟩ rfl]

end Lexer

/-- The padding of a query is made of the characters up to the space. -/
lemma isPadding_eq : isPadding = fun c => decide (c ≤ ' ') := by
  funext c
  rw [isPadding, decide_eq_decide, Char.le_def, UInt32.le_iff_toNat_le]
  rfl

/-- The tokens of a query are those that the reference reads between its padding. -/
lemma tokenize_eq_munch (query : String) :
    tokenize query = munch false (unpadded query.toList).1 (unpadded query.toList).2 := by
  have hnew : Lexer.new.AtBoundary := ⟨Or.inl rfl, rfl⟩
  have hmode : Lexer.new.mode = MaximalMunch.boundaryMode false := rfl
  rw [tokenize_eq_tokens, Lexer.tokens_eq_munch hnew hmode]

/-- The lexer, which never looks ahead, completes the tokens that maximal munch finds, and refuses
what maximal munch refuses, with the same error. -/
theorem tokenize_eq_maximalMunch (query : String) : tokenize query = maximalMunch query := by
  rw [tokenize_eq_munch, maximalMunch, unpadded, isPadding_eq]
  rfl

/-- Right before a parenthesis a keyword is a word. -/
example : tokenize "(NOT AND)" =
    .ok [⟨.openParen, "(", 0⟩, ⟨.keyword .not, "NOT", 1⟩, ⟨.word, "AND", 5⟩,
      ⟨.closeParen, ")", 8⟩] := by decide

end SearchQuery

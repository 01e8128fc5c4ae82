import SearchQuery.Proofs.RoundTrip.Spelling

/-!
# Reading a text as part of another

Inside a longer text, a text is read as it is on its own: its tokens come out the same, moved to
where the text stands (`munch_shift`), and reading goes on after it (`munch_append`).  Nothing is
asked of what comes before.  What comes after must not change how the last token is read, and
whether it does depends on the kind of the token and on one character (`MayPrecede`).
-/

namespace SearchQuery

/-! ## Moving tokens -/

/-- The same token, `n` bytes further on. -/
def Token.shift (n : Nat) (t : Token) : Token :=
  { t with offset := n + t.offset }

/-- The same error, `n` bytes further on. -/
def LexError.shift (n : Nat) : LexError → LexError
  | forbiddenCharacter c mode position => forbiddenCharacter c mode (n + position)
  | alreadyFinished mode => alreadyFinished mode
  | notFinished mode position => notFinished mode (n + position)

namespace MaximalMunch

variable {afterBlank : Bool} {offset : Nat} {c : Char} {cs after rest : List Char} {t : Token}
  {ts us : List Token}

/-- A token is read alike wherever it stands. -/
lemma lexeme_shift (n : Nat) :
    lexeme afterBlank (n + offset) c cs =
      ((lexeme afterBlank offset c cs).mapError (LexError.shift n)).map
        fun p => (p.1.shift n, p.2) := by
  unfold lexeme
  split_ifs
  · unfold openLexeme
    cases cs with
    | nil => rfl
    | cons d cs =>
      dsimp only
      split_ifs <;> rfl
  · rfl
  · unfold phraseLexeme endPhrase
    cases cs.dropWhile isPhraseContent with
    | nil => rfl
    | cons d after =>
      dsimp only
      split_ifs
      · rfl
      · simp only [Except.mapError, Except.map, LexError.shift, Nat.add_assoc]
  · unfold wordLexeme endWord
    cases (c :: cs).dropWhile isWordChar with
    | nil => rfl
    | cons d after =>
      dsimp only
      split_ifs
      · rfl
      · rfl
      · simp only [Except.mapError, Except.map, LexError.shift, Nat.add_assoc]
  · rfl

/-- An error in a token is an error in the text. -/
lemma munch_of_lexeme_eq_error {e : LexError} (hblank : ¬ isBlank c = true)
    (h : lexeme afterBlank offset c cs = .error e) :
    munch afterBlank offset (c :: cs) = .error e := by
  rw [munch, if_neg hblank]
  split
  · next e' he' =>
    rw [h] at he'
    exact congrArg _ (Except.error.inj he').symm
  · next t rest ht => simp [h] at ht

/-- A text is read alike wherever it stands. -/
lemma munch_shift (n : Nat) :
    munch afterBlank (n + offset) cs =
      ((munch afterBlank offset cs).mapError (LexError.shift n)).map
        (List.map (Token.shift n)) := by
  fun_induction munch afterBlank offset cs with
  | case1 =>
    rw [munch]
    rfl
  | case2 afterBlank offset c cs hblank ih =>
    rw [munch, if_pos hblank, Nat.add_assoc, ih]
  | case3 afterBlank offset c cs hblank e hlex =>
    have hmoved : lexeme afterBlank (n + offset) c cs = .error (e.shift n) := by
      rw [lexeme_shift, hlex]
      rfl
    rw [munch_of_lexeme_eq_error hblank hmoved]
    rfl
  | case4 afterBlank offset c cs hblank token rest hlex ih =>
    have hmoved : lexeme afterBlank (n + offset) c cs = .ok (token.shift n, rest) := by
      rw [lexeme_shift, hlex]
      rfl
    have htext : (token.shift n).text = token.text := rfl
    rw [munch_of_lexeme hblank hmoved, htext, Nat.add_assoc, ih]
    cases munch false (offset + byteLength token.text.toList) rest <;> rfl

/-- The tokens of a text are the same wherever it stands. -/
lemma munch_shift_of_ok (n : Nat) (h : munch afterBlank offset cs = .ok ts) :
    munch afterBlank (n + offset) cs = .ok (ts.map (Token.shift n)) := by
  rw [munch_shift, h]
  rfl

/-! ## Reading on -/

/-- What may follow the text of a token without changing how it is read. -/
def MayPrecede (t : Token) (rest : List Char) : Prop :=
  match t.kind with
  | .word => EndsWord rest
  | .keyword _ => ∀ c ∈ rest.head?, isBlank c = true
  | .openParen => ∀ c ∈ rest.head?, isBlank c = false
  | .phrase | .closeParen => True

/-- What follows a run of characters does not change where the run ends, if it ends before that. -/
lemma span_append_of_dropWhile {p : Char → Bool} {d : Char} (h : cs.dropWhile p = d :: after)
    (rest : List Char) :
    (cs ++ rest).takeWhile p = cs.takeWhile p ∧ (cs ++ rest).dropWhile p = d :: after ++ rest := by
  have hcs : cs.takeWhile p ++ (d :: after) = cs := h ▸ List.takeWhile_append_dropWhile
  have hd : p d = false := by
    have hhead := List.head?_dropWhile_not p cs
    simpa [h] using hhead
  have hrun : ∀ x ∈ cs.takeWhile p, p x = true := fun x hx => List.mem_takeWhile_imp hx
  have hsplit : cs ++ rest = cs.takeWhile p ++ (d :: after ++ rest) := by
    rw [← List.append_assoc, hcs]
  have hhead : ∀ x ∈ (d :: after ++ rest).head?, p x = false := by
    rintro x ⟨⟩
    exact hd
  rw [hsplit]
  exact span_append hrun hhead

/-- A run of word characters is a word or a keyword. -/
lemma wordKind_eq_word_or (w : List Char) : wordKind w = .word ∨ ∃ k, wordKind w = .keyword k := by
  unfold wordKind
  split
  · next k _ => exact Or.inr ⟨k, rfl⟩
  · exact Or.inl rfl

/-- What may follow a run of word characters ends a word. -/
lemma endsWord_of_mayPrecede {w : List Char} {text : String}
    (h : MayPrecede ⟨wordKind w, text, offset⟩ rest) : EndsWord rest := by
  rcases wordKind_eq_word_or w with hk | ⟨k, hk⟩
  · rw [hk] at h
    exact h
  · rw [hk] at h
    exact fun c hc => Or.inl (h c hc)

/-- A word at the end of a text is read alike when something follows that may. -/
lemma endWord_of_mayPrecede {w : List Char}
    (h : MayPrecede ⟨wordKind w, String.ofList w, offset⟩ rest) :
    endWord offset w rest = .ok (⟨wordKind w, String.ofList w, offset⟩, rest) := by
  rcases rest with _ | ⟨c, rest⟩
  · rfl
  · rw [endWord]
    rcases wordKind_eq_word_or w with hk | ⟨k, hk⟩
    · rw [hk] at h ⊢
      rcases h c rfl with hblank | rfl
      · rw [if_pos hblank]
      · rw [if_neg (by decide), if_pos rfl]
    · rw [hk] at h ⊢
      rw [if_pos (h c rfl)]

/-- A token is read alike when something follows the text, provided that it may follow the token if
the text ends with it. -/
lemma lexeme_append (h : lexeme afterBlank offset c cs = .ok (t, after))
    (hend : after = [] → MayPrecede t rest) :
    lexeme afterBlank offset c (cs ++ rest) = .ok (t, after ++ rest) := by
  unfold lexeme at h ⊢
  split_ifs at h ⊢ with hopen hclose hquote hword
  · rcases cs with _ | ⟨d, cs⟩
    · rw [openLexeme, Except.ok.injEq, Prod.mk.injEq] at h
      obtain ⟨rfl, rfl⟩ := h
      rcases rest with _ | ⟨d, rest⟩
      · rfl
      · have hblank : isBlank d = false := hend rfl d rfl
        rw [List.nil_append, openLexeme, hblank]
        rfl
    · rw [openLexeme] at h
      split_ifs at h with hblank
      rw [Except.ok.injEq, Prod.mk.injEq] at h
      obtain ⟨rfl, rfl⟩ := h
      rw [List.cons_append, openLexeme, if_neg hblank]
  · rw [Except.ok.injEq, Prod.mk.injEq] at h
    obtain ⟨rfl, rfl⟩ := h
    rfl
  · rw [phraseLexeme] at h ⊢
    rcases hdrop : cs.dropWhile isPhraseContent with _ | ⟨d, left⟩
    · simp [hdrop, endPhrase] at h
    · obtain ⟨htake, hdrop'⟩ := span_append_of_dropWhile hdrop rest
      rw [hdrop, endPhrase] at h
      rw [htake, hdrop', List.cons_append, endPhrase]
      split_ifs at h ⊢
      rw [Except.ok.injEq, Prod.mk.injEq] at h
      obtain ⟨rfl, rfl⟩ := h
      rfl
  · rw [wordLexeme] at h ⊢
    rw [← List.cons_append]
    rcases hdrop : (c :: cs).dropWhile isWordChar with _ | ⟨d, left⟩
    · have hw : ∀ d ∈ c :: cs, isWordChar d = true := List.dropWhile_eq_nil_iff.mp hdrop
      have hall : (c :: cs).takeWhile isWordChar = c :: cs := List.takeWhile_eq_self_iff.mpr hw
      rw [hdrop, hall, endWord, Except.ok.injEq, Prod.mk.injEq] at h
      obtain ⟨rfl, rfl⟩ := h
      have hmay := hend rfl
      obtain ⟨htake, hdrop'⟩ :=
        span_append hw (endsWord_of_mayPrecede hmay).isWordChar_eq_false
      rw [htake, hdrop', endWord_of_mayPrecede hmay]
      rfl
    · obtain ⟨htake, hdrop'⟩ := span_append_of_dropWhile hdrop rest
      rw [hdrop, endWord] at h
      rw [htake, hdrop', List.cons_append, endWord]
      split_ifs at h ⊢
      · rw [Except.ok.injEq, Prod.mk.injEq] at h
        obtain ⟨rfl, rfl⟩ := h
        rfl
      · rw [Except.ok.injEq, Prod.mk.injEq] at h
        obtain ⟨rfl, rfl⟩ := h
        rfl

/-- Whether a blank has just been passed over matters to errors only. -/
lemma munch_congr_of_ok {afterBlank' : Bool} (h : munch afterBlank offset cs = .ok ts) :
    munch afterBlank' offset cs = .ok ts := by
  rcases cs with _ | ⟨c, cs⟩
  · rwa [munch] at h ⊢
  by_cases hblank : isBlank c = true
  · rwa [munch, if_pos hblank] at h ⊢
  rcases hlex : lexeme afterBlank offset c cs with e | ⟨t, after⟩
  · simp [munch_of_lexeme_eq_error hblank hlex] at h
  · have hlex' : lexeme afterBlank' offset c cs = .ok (t, after) := by
      unfold lexeme at hlex ⊢
      split_ifs at hlex ⊢ <;> exact hlex
    rw [munch_of_lexeme hblank hlex] at h
    rwa [munch_of_lexeme hblank hlex']

/-- A text is read alike when something follows it that may follow its last token, and reading goes
on after it. -/
lemma munch_append (h : munch afterBlank offset cs = .ok ts)
    (hlast : ∀ t ∈ ts.getLast?, MayPrecede t rest)
    (hrest : munch false (offset + byteLength cs) rest = .ok us) :
    munch afterBlank offset (cs ++ rest) = .ok (ts ++ us) := by
  fun_induction munch afterBlank offset cs generalizing ts with
  | case1 =>
    obtain rfl := Except.ok.inj h
    exact munch_congr_of_ok hrest
  | case2 afterBlank offset c cs hblank ih =>
    rw [List.cons_append, munch, if_pos hblank]
    refine ih h hlast ?_
    rwa [Nat.add_assoc, ← byteLength_cons]
  | case3 => simp at h
  | case4 afterBlank offset c cs hblank token left hlex ih =>
    rcases hleft : munch false (offset + byteLength token.text.toList) left with e | ts'
    · simp [hleft, Except.map] at h
    · rw [hleft] at h
      obtain rfl := Except.ok.inj h
      have hchars := (isLexeme_of_lexeme hlex).chars_eq
      have hmore : lexeme afterBlank offset c (cs ++ rest) = .ok (token, left ++ rest) := by
        refine lexeme_append hlex ?_
        rintro rfl
        obtain rfl := Except.ok.inj (hleft.symm.trans (by rw [munch]))
        exact hlast token (by simp)
      have hlast' : ∀ t ∈ ts'.getLast?, MayPrecede t rest := by
        intro t ht
        refine hlast t ?_
        rw [List.getLast?_cons, Option.mem_def.mp ht]
        rfl
      rw [hchars, byteLength_append, ← Nat.add_assoc] at hrest
      rw [List.cons_append, munch_of_lexeme hblank hmore, ih hleft hlast' hrest]
      rfl

end MaximalMunch

end SearchQuery

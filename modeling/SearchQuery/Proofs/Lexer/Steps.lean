import SearchQuery.Proofs.Lexer.Reachable

/-!
# What a push can come to

A push takes one of a few courses, whatever mode the lexer is in (`Pushed`): the character is
refused, it is passed over, it begins a token, it carries the token in progress on, or it ends a
phrase.  What else is to be said about pushes is read off these courses.

When the character is refused, the lexer mostly is as it was.  There are two exceptions, in which it
changes before it finds out that it cannot read the character (`Leaves`).  A parenthesis that waits
for the character after it is handed out by that character, and is lost if none begins so
(`LosesParenthesis`); and a keyword that the character disagrees with has become a word by the time
the word refuses the character, too (`MatchesKeyword`).
-/

namespace SearchQuery

open MaximalMunch

namespace Lexer

variable {lexer lexer' : Lexer} {text : String} {start offset : Nat} {c : Char} {kind : Kind}

/-! ## Refusals -/

/-- A parenthesis waits to be handed out, and the character cannot begin any token: between tokens,
where a blank is passed over, it would be refused, too. -/
def LosesParenthesis (lexer : Lexer) (c : Char) : Prop :=
  (lexer.mode = .openParen ∨ lexer.mode = .closeParen) ∧ opening? c = none

/-- The text in progress is held as the beginning of a keyword. -/
def MatchesKeyword (lexer : Lexer) : Prop :=
  ∃ k, lexer.mode = .keyword k

/-- What a refused character leaves of a lexer. -/
inductive Leaves (lexer : Lexer) (c : Char) : Lexer → Prop
  /-- The parenthesis is gone. -/
  | lost : lexer.LosesParenthesis c → Leaves lexer c lexer.cleared
  /-- The keyword is a word. -/
  | word : lexer.MatchesKeyword → Leaves lexer c { lexer with mode := .word }
  /-- Nothing has changed. -/
  | kept : ¬ lexer.LosesParenthesis c → ¬ lexer.MatchesKeyword → Leaves lexer c lexer

/-- No keyword is in progress while a parenthesis waits to be handed out. -/
lemma LosesParenthesis.not_matchesKeyword (h : lexer.LosesParenthesis c) :
    ¬ lexer.MatchesKeyword := by
  rintro ⟨k, hk⟩
  rcases h.1 with hm | hm <;> simp [hk] at hm

namespace Leaves

/-- A lost parenthesis leaves a lexer between tokens. -/
lemma eq_cleared (h : Leaves lexer c lexer') (hlost : lexer.LosesParenthesis c) :
    lexer' = lexer.cleared := by
  cases h with
  | lost => rfl
  | word hmatches => exact absurd hmatches hlost.not_matchesKeyword
  | kept hparenthesis => exact absurd hlost hparenthesis

/-- An abandoned keyword leaves a lexer in the middle of a word. -/
lemma eq_word (h : Leaves lexer c lexer') (hmatches : lexer.MatchesKeyword) :
    lexer' = { lexer with mode := .word } := by
  cases h with
  | lost hlost => exact absurd hmatches hlost.not_matchesKeyword
  | word => rfl
  | kept _ hkeyword => exact absurd hmatches hkeyword

/-- Otherwise the lexer is the same. -/
lemma eq_self (h : Leaves lexer c lexer') (hparenthesis : ¬ lexer.LosesParenthesis c)
    (hkeyword : ¬ lexer.MatchesKeyword) : lexer' = lexer := by
  cases h with
  | lost hlost => exact absurd hlost hparenthesis
  | word hmatches => exact absurd hmatches hkeyword
  | kept => rfl

end Leaves

/-- In most modes nothing changes. -/
lemma leaves_self (hopen : lexer.mode ≠ .openParen) (hclose : lexer.mode ≠ .closeParen)
    (hkeyword : ∀ k, lexer.mode ≠ .keyword k) : Leaves lexer c lexer := by
  apply Leaves.kept
  · rintro ⟨hmode | hmode, -⟩
    · exact hopen hmode
    · exact hclose hmode
  · rintro ⟨k, hk⟩
    exact hkeyword k hk

/-! ## One push -/

/-- What a push can come to. -/
inductive Pushed (lexer : Lexer) (offset : Nat) (c : Char) : Step → Prop
  /-- The query has ended before. -/
  | ended : lexer.mode = .finished →
      Pushed lexer offset c ⟨lexer, none, some (.alreadyFinished .finished)⟩
  /-- The character is refused. -/
  | refused {left : Lexer} {completed : Option Token} : lexer.mode ≠ .finished →
      Leaves lexer c left → (left.mode = .phrase ↔ lexer.mode = .phrase) →
        Pushed lexer offset c ⟨left, completed, some (.forbiddenCharacter c left.mode offset)⟩
  /-- The character is a blank between tokens. -/
  | passed {completed : Option Token} : lexer.mode ≠ .phrase → isBlank c = true →
      Pushed lexer offset c ⟨⟨.blank, "", lexer.start⟩, completed, none⟩
  /-- The character begins a token. -/
  | begun {mode : Mode} {completed : Option Token} : lexer.mode ≠ .phrase →
      opening? c = some mode → mode ≠ .blank →
        Pushed lexer offset c ⟨⟨mode, String.ofList [c], offset⟩, completed, none⟩
  /-- The character carries a word or a keyword on. -/
  | spelled {mode : Mode} : lexer.mode ≠ .phrase → isWordChar c = true →
      mode = .word ∨ (∃ k, mode = .keyword k) →
        Pushed lexer offset c ⟨⟨mode, lexer.text.push c, lexer.start⟩, none, none⟩
  /-- The character carries a phrase on. -/
  | quoted : lexer.mode = .phrase → isPhraseContent c = true →
      Pushed lexer offset c ⟨⟨.phrase, lexer.text.push c, lexer.start⟩, none, none⟩
  /-- The character ends a phrase. -/
  | unquoted {completed : Option Token} : lexer.mode = .phrase → c = '"' →
      Pushed lexer offset c ⟨⟨.expression, "", lexer.start⟩, completed, none⟩

/-- Only a blank is passed over. -/
lemma ne_blank_of_opening? {mode : Mode} (hblank : ¬ isBlank c = true)
    (hc : opening? c = some mode) : mode ≠ .blank := by
  rintro rfl
  grind [opening?]

/-- Between tokens a character is a blank, begins a token, or is refused. -/
lemma pushed_beginToken (h : lexer.AtBoundary) :
    Pushed lexer offset c (lexer.beginToken offset c) := by
  have hmode : lexer.mode ≠ .finished ∧ lexer.mode ≠ .phrase ∧ lexer.mode ≠ .openParen ∧
      lexer.mode ≠ .closeParen ∧ ∀ k, lexer.mode ≠ .keyword k := by
    rcases h.mode with hm | hm <;> simp [hm]
  obtain ⟨hfinished, hphrase, hopen, hclose, hkeyword⟩ := hmode
  by_cases hblank : isBlank c = true
  · rw [beginToken_of_blank hblank, h.text]
    exact .passed hphrase hblank
  rcases hc : opening? c with _ | mode
  · rw [beginToken_of_none hc]
    exact .refused hfinished (leaves_self hopen hclose hkeyword) Iff.rfl
  · rw [← push_of_atBoundary h, push_of_opening h hblank hc]
    exact .begun hphrase hc (ne_blank_of_opening? hblank hc)

/-- After a token a character is a blank, begins another, or is refused, and then the token is gone
if it is a parenthesis. -/
lemma pushed_finishThenStart (hfinished : lexer.mode ≠ .finished) (hphrase : lexer.mode ≠ .phrase)
    (hleaves : opening? c = none → Leaves lexer c lexer.cleared) :
    Pushed lexer offset c (lexer.finishThenStart kind offset c) := by
  unfold finishThenStart
  by_cases hblank : isBlank c = true
  · rw [beginToken_of_blank hblank]
    exact .passed hphrase hblank
  rcases hc : opening? c with _ | mode
  · rw [beginToken_of_none hc]
    refine .refused hfinished (hleaves hc) ?_
    simp [forbid, cleared, hphrase]
  · rw [← push_of_atBoundary (atBoundary_cleared lexer),
      push_of_opening (atBoundary_cleared lexer) hblank hc]
    exact .begun hphrase hc (ne_blank_of_opening? hblank hc)

/-- A word is carried on, ends, or refuses the character. -/
lemma pushed_pushWord (hmode : lexer.mode = .word ∨ lexer.MatchesKeyword)
    (hleaves : Leaves lexer c { lexer with mode := .word }) :
    Pushed lexer offset c (pushWord { lexer with mode := .word } offset c) := by
  have hother : lexer.mode ≠ .finished ∧ lexer.mode ≠ .phrase := by
    rcases hmode with hm | ⟨k, hm⟩ <;> simp [hm]
  unfold pushWord
  split_ifs with hword hblank hclose
  · exact .spelled hother.2 hword (Or.inl rfl)
  · exact .passed hother.2 hblank
  · subst hclose
    have hopening : opening? ')' = some .closeParen := rfl
    exact .begun hother.2 hopening (by simp)
  · exact .refused hother.1 hleaves (by simp [hother.2])

/-- A phrase is carried on, ends, or refuses the character. -/
lemma pushed_pushPhrase (hmode : lexer.mode = .phrase) :
    Pushed lexer offset c (lexer.pushPhrase offset c) := by
  have hfinished : lexer.mode ≠ .finished := by simp [hmode]
  have hleaves : Leaves lexer c lexer :=
    leaves_self (by simp [hmode]) (by simp [hmode]) (by simp [hmode])
  unfold pushPhrase
  split_ifs with hquote hempty hcontent
  · exact .refused hfinished hleaves Iff.rfl
  · exact .unquoted hmode hquote
  · rw [extend, hmode]
    exact .quoted hmode hcontent
  · exact .refused hfinished hleaves Iff.rfl

/-- A keyword is carried on, ends, or is taken for a word. -/
lemma pushed_pushKeyword {k : Keyword} (hvalid : Valid ⟨.keyword k, text, start⟩) :
    Pushed ⟨.keyword k, text, start⟩ offset c
      (pushKeyword ⟨.keyword k, text, start⟩ k offset c) := by
  have hmatched : byteLength text.toList = text.toList.length := byteLength_of_isPrefix hvalid.2
  unfold pushKeyword
  dsimp only
  split_ifs with hnext hwhole
  · have hword : isWordChar c = true := by
      rw [hmatched, head?_drop_of_isPrefix hvalid.2] at hnext
      exact isWordChar_of_mem_keyword (hnext.subset (by simp))
    exact .spelled (by simp) hword (Or.inr ⟨k, rfl⟩)
  · rw [Bool.and_eq_true] at hwhole
    exact .passed (by simp) hwhole.2
  · rw [fallBackToWord_of_valid hvalid]
    exact pushed_pushWord (Or.inr ⟨k, rfl⟩) (.word ⟨k, rfl⟩)

/-- Every push of a valid lexer comes to one of these. -/
lemma pushed_push (hvalid : lexer.Valid) : Pushed lexer offset c (lexer.push offset c) := by
  obtain ⟨mode, text, start⟩ := lexer
  cases mode with
  | expression => exact pushed_beginToken ⟨Or.inl rfl, hvalid⟩
  | blank => exact pushed_beginToken ⟨Or.inr rfl, hvalid⟩
  | openParen =>
    rw [push]
    split_ifs with hblank
    · -- A blank is refused before the parenthesis is handed out.
      refine .refused (by simp) (.kept ?_ (by simp [MatchesKeyword])) Iff.rfl
      rintro ⟨-, hnone⟩
      have hcases : c = ' ' ∨ c = '\t' := by simpa [isBlank] using hblank
      rcases hcases with rfl | rfl <;> exact absurd hnone (by decide)
    · exact pushed_finishThenStart (by simp) (by simp) fun hnone => .lost ⟨Or.inl rfl, hnone⟩
  | closeParen =>
    exact pushed_finishThenStart (by simp) (by simp) fun hnone => .lost ⟨Or.inr rfl, hnone⟩
  | word => exact pushed_pushWord (Or.inl rfl) (leaves_self (by simp) (by simp) (by simp))
  | phrase => exact pushed_pushPhrase rfl
  | keyword k => exact pushed_pushKeyword hvalid
  | finished => exact .ended rfl

/-- A refused character leaves the lexer as it was, unless it costs a parenthesis or a keyword. -/
lemma leaves_of_refused (hvalid : lexer.Valid) (h : (lexer.push offset c).error ≠ none) :
    Leaves lexer c (lexer.push offset c).lexer := by
  have hpushed : Pushed lexer offset c (lexer.push offset c) := pushed_push hvalid
  generalize lexer.push offset c = step at h hpushed ⊢
  cases hpushed with
  | ended hmode => exact leaves_self (by simp [hmode]) (by simp [hmode]) (by simp [hmode])
  | refused _ hleaves => exact hleaves
  | _ => exact absurd rfl h

/-! ## Ending a query -/

/-- The end of a query is refused inside a phrase, and after it. -/
lemma mode_of_refused_close (hvalid : lexer.Valid) (h : lexer.close.error ≠ none) :
    lexer.mode = .phrase ∨ lexer.mode = .finished := by
  obtain ⟨mode, text, start⟩ := lexer
  cases mode with
  | phrase => exact Or.inl rfl
  | finished => exact Or.inr rfl
  | keyword k =>
    rw [close] at h
    dsimp only at h
    split_ifs at h
    · exact absurd rfl h
    · rw [fallBackToWord_of_valid hvalid] at h
      exact absurd rfl h
  | _ => exact absurd rfl h

end Lexer

end SearchQuery

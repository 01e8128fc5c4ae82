import Mathlib.Tactic.Lemma
import SearchQuery.Lexer.Tokenize

/-!
# The tokens that a lexer has still to complete

Reading a query carries an array of the tokens completed so far.  `Lexer.tokens` says the same
without it: the tokens that a lexer completes from here to the end of the characters, by a plain
recursion on them, and `tokenize_eq_tokens` gives the tokens of a query in its terms.

A step of the lexer takes one of a few courses, each with an equation for `tokens`: it goes on
without completing anything (`tokens_of_step`), refuses the character (`tokens_of_forbid`),
completes a token with the character (`tokens_of_completed`), or hands out the token in progress
before it looks at the character, which then begins another token (`tokens_of_finishThenStart`)
or is a blank (`tokens_of_finishAtBlank`).  The last two say the same of what follows: handing a
token out late changes nothing.  `tokens_takeWhile` is the run of a lexer that goes on in the
same way for a whole run of characters.
-/

namespace SearchQuery

namespace Lexer

/-- The tokens that the lexer completes in reading the characters, the first of them at byte
`offset`, and then the end of the query. -/
def tokens (lexer : Lexer) (offset : Nat) : List Char → Except LexError (List Token)
  | [] => lexer.close.result.map Option.toList
  | c :: cs =>
    (lexer.push offset c).result.bind fun completed =>
      (tokens (lexer.push offset c).lexer (offset + c.utf8Size) cs).map (completed.toList ++ ·)

/-- A scan gives the tokens completed before it and those that the lexer has still to complete. -/
lemma result_scan (lexer : Lexer) (offset : Nat) (done : Array Token) (cs : List Char) :
    (lexer.scan offset done cs).result = (lexer.tokens offset cs).map (done.toList ++ ·) := by
  induction cs generalizing lexer offset done with
  | nil =>
    simp only [scan, tokens, Scan.result, Step.result, Step.addTo]
    cases lexer.close.error <;> cases lexer.close.completed <;> simp [Except.map]
  | cons c cs ih =>
    simp only [scan, tokens, Step.result, Step.addTo]
    cases (lexer.push offset c).error with
    | some e => rfl
    | none =>
      simp only [ih, Except.bind]
      cases tokens (lexer.push offset c).lexer (offset + c.utf8Size) cs <;>
        cases (lexer.push offset c).completed <;> simp [Except.map]

/-! ### Between tokens -/

variable {lexer lexer' : Lexer} {offset : Nat} {c : Char} {cs : List Char} {kind : Kind}

/-- No token is in progress, and the query has not ended. -/
structure AtBoundary (lexer : Lexer) : Prop where
  mode : lexer.mode = .expression ∨ lexer.mode = .blank
  text : lexer.text = ""

/-- Once its token has been handed out, a lexer is between tokens. -/
lemma atBoundary_cleared (lexer : Lexer) : lexer.cleared.AtBoundary := ⟨Or.inl rfl, rfl⟩

/-- After a blank, a lexer between tokens still is. -/
lemma AtBoundary.blank (h : lexer.AtBoundary) : { lexer with mode := .blank }.AtBoundary :=
  ⟨Or.inr rfl, h.text⟩

/-- Between tokens a lexer begins one, or passes over a blank. -/
lemma push_of_atBoundary (h : lexer.AtBoundary) :
    lexer.push offset c = lexer.beginToken offset c := by
  rcases h.mode with hm | hm <;> rw [push, hm]

/-- A blank begins no token. -/
lemma beginToken_of_blank (hc : isBlank c = true) :
    lexer.beginToken offset c = { lexer := { lexer with mode := .blank } } := by
  have hblank : c = ' ' ∨ c = '\t' := by simpa [isBlank] using hc
  rcases hblank with rfl | rfl <;> rfl

/-- A character with which no token begins is refused. -/
lemma beginToken_of_none (hc : opening? c = none) :
    lexer.beginToken offset c = lexer.forbid offset c := by
  rw [beginToken, hc]

/-- Any other character is the first of a token. -/
lemma beginToken_of_some {mode : Mode} (hblank : ¬ isBlank c = true)
    (hc : opening? c = some mode) :
    lexer.beginToken offset c = { lexer := ⟨mode, lexer.text.push c, offset⟩ } := by
  have hmode : mode ≠ .blank := by
    rintro rfl
    grind [opening?]
  rw [beginToken, hc]
  cases mode <;> simp_all

/-- Between tokens the first character of a token is all of its text. -/
lemma push_of_opening {mode : Mode} (h : lexer.AtBoundary) (hblank : ¬ isBlank c = true)
    (hc : opening? c = some mode) :
    lexer.push offset c = { lexer := ⟨mode, String.ofList [c], offset⟩ } := by
  have htext : lexer.text.push c = String.ofList [c] := by
    rw [h.text, ← String.toList_inj]
    simp
  rw [push_of_atBoundary h, beginToken_of_some hblank hc, htext]

/-! ### The courses of a step -/

/-- A step that completes nothing leaves all to the lexer after it. -/
lemma tokens_of_step (h : lexer.push offset c = { lexer := lexer' }) :
    lexer.tokens offset (c :: cs) = lexer'.tokens (offset + c.utf8Size) cs := by
  rw [tokens, h]
  simp only [Step.result, Except.bind]
  cases lexer'.tokens (offset + c.utf8Size) cs <;> rfl

/-- A refused character ends the reading. -/
lemma tokens_of_forbid (h : lexer.push offset c = lexer'.forbid offset c) :
    lexer.tokens offset (c :: cs) = .error (.forbiddenCharacter c lexer'.mode offset) := by
  rw [tokens, h]
  rfl

/-- Beginning a token completes none. -/
lemma completed_beginToken (lexer : Lexer) (offset : Nat) (c : Char) :
    (lexer.beginToken offset c).completed = none := by
  unfold beginToken
  split <;> rfl

/-- A token handed out on the first character after it might have been handed out before. -/
lemma tokens_of_finishThenStart (h : lexer.push offset c = lexer'.finishThenStart kind offset c) :
    lexer.tokens offset (c :: cs) =
      (lexer'.cleared.tokens offset (c :: cs)).map (lexer'.pending kind :: ·) := by
  rw [tokens, tokens, h, push_of_atBoundary (atBoundary_cleared lexer')]
  simp only [finishThenStart, Step.result, completed_beginToken]
  cases (lexer'.cleared.beginToken offset c).error with
  | some e => rfl
  | none =>
    simp only [Except.bind]
    cases tokens (lexer'.cleared.beginToken offset c).lexer (offset + c.utf8Size) cs <;> rfl

/-- A token that a step completes comes before those of the lexer after it. -/
lemma tokens_of_completed {token : Token}
    (h : lexer.push offset c = { lexer := lexer', completed := some token }) :
    lexer.tokens offset (c :: cs) =
      (lexer'.tokens (offset + c.utf8Size) cs).map (token :: ·) := by
  rw [tokens, h]
  rfl

/-- A token handed out on a blank might have been handed out before it. -/
lemma tokens_of_finishAtBlank (hc : isBlank c = true)
    (h : lexer.push offset c = lexer'.finishAtBlank kind) :
    lexer.tokens offset (c :: cs) =
      (lexer'.cleared.tokens offset (c :: cs)).map (lexer'.pending kind :: ·) := by
  have hblank : lexer'.cleared.push offset c =
      { lexer := { lexer'.cleared with mode := .blank } } := by
    rw [push_of_atBoundary (atBoundary_cleared lexer'), beginToken_of_blank hc]
  rw [tokens_of_step hblank]
  exact tokens_of_completed h

/-- A lexer that carries its token on with each character of a class reads on to the end of the
longest run of them. -/
lemma tokens_takeWhile {state : List Char → Lexer} {p : Char → Bool}
    (hpush : ∀ (w : List Char) (offset : Nat) (c : Char), p c = true →
      (state w).push offset c = { lexer := state (w ++ [c]) })
    (w cs : List Char) (offset : Nat) :
    (state w).tokens offset cs =
      (state (w ++ cs.takeWhile p)).tokens (offset + byteLength (cs.takeWhile p))
        (cs.dropWhile p) := by
  induction cs generalizing w offset with
  | nil => simp
  | cons c cs ih =>
    by_cases hc : p c = true
    · rw [tokens_of_step (hpush w offset c hc), ih, List.takeWhile_cons_of_pos hc,
        List.dropWhile_cons_of_pos hc, List.append_assoc, List.singleton_append, byteLength_cons,
        Nat.add_assoc]
    · rw [List.takeWhile_cons_of_neg hc, List.dropWhile_cons_of_neg hc, List.append_nil,
        byteLength_nil, Nat.add_zero]

/-- A token in progress at the end of the query is the last one. -/
lemma tokens_nil_of_finishAtEnd (h : lexer.close = lexer'.finishAtEnd kind) :
    lexer.tokens offset [] = .ok [lexer'.pending kind] := by
  rw [tokens, h]
  rfl

/-- A phrase in progress at the end of the query is an error. -/
lemma tokens_nil_of_phrase (h : lexer.mode = .phrase) :
    lexer.tokens offset [] = .error (.notFinished .phrase lexer.start) := by
  simp [tokens, close, h, Step.result, Except.map]

/-- Between tokens only the mode of a lexer matters. -/
lemma tokens_congr_of_mode (hmode : lexer.mode = lexer'.mode) (h : lexer.AtBoundary)
    (h' : lexer'.AtBoundary) : lexer.tokens offset cs = lexer'.tokens offset cs := by
  induction cs generalizing lexer lexer' offset with
  | nil => rcases h'.mode with hm | hm <;> simp [tokens, close, hmode, hm, Step.result]
  | cons c cs ih =>
    have hpush : lexer.push offset c = lexer.beginToken offset c := push_of_atBoundary h
    have hpush' : lexer'.push offset c = lexer'.beginToken offset c := push_of_atBoundary h'
    by_cases hblank : isBlank c = true
    · rw [tokens_of_step (hpush.trans (beginToken_of_blank hblank)),
        tokens_of_step (hpush'.trans (beginToken_of_blank hblank))]
      exact ih rfl h.blank h'.blank
    · rcases hopen : opening? c with _ | mode
      · rw [tokens_of_forbid (hpush.trans (beginToken_of_none hopen)),
          tokens_of_forbid (hpush'.trans (beginToken_of_none hopen)), hmode]
      · rw [tokens_of_step (hpush.trans (beginToken_of_some hblank hopen)),
          tokens_of_step (hpush'.trans (beginToken_of_some hblank hopen)), h.text, h'.text]

end Lexer

/-- The tokens of a query are those that a new lexer completes in reading it without padding. -/
lemma tokenize_eq_tokens (query : String) :
    tokenize query =
      Lexer.new.tokens (unpadded query.toList).1 (unpadded query.toList).2 := by
  rw [tokenize, scanQuery, Lexer.result_scan]
  cases Lexer.new.tokens (unpadded query.toList).1 (unpadded query.toList).2 <;> rfl

end SearchQuery

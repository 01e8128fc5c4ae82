import SearchQuery.Proofs.Lexer.Padding
import SearchQuery.Proofs.Lexer.Reachable

/-!
# Feeding a query as it comes

A caller that has no whole query to strip feeds the lexer every character, padding included, and
then ends the query (`streamed`).  Padding other than blanks is refused, of course.  Padding made of
blanks makes no difference, except in two places.  After a last opening parenthesis a blank is
refused, although nothing follows it.  And after blanks at the start the lexer knows that it has
passed over some, so an error at the first character after them names another mode
(`munch_true_eq_or`).  Nothing else about an error depends on the padding.
-/

namespace SearchQuery

open MaximalMunch

namespace Lexer

/-- Makes the calls until one is refused, and gives the tokens that they give. -/
def run (lexer : Lexer) : List Call → Except LexError (List Token)
  | [] => .ok []
  | call :: calls =>
    (lexer.perform call).result.bind fun completed =>
      (run (lexer.perform call).lexer calls).map (completed.toList ++ ·)

/-- The pushes of the characters, the first of them at byte `offset`. -/
def pushes (offset : Nat) : List Char → List Call
  | [] => []
  | c :: cs => .push offset c :: pushes (offset + c.utf8Size) cs

/-- To push the characters and end the query is to read them. -/
lemma run_pushes_close (lexer : Lexer) (offset : Nat) (cs : List Char) :
    lexer.run (pushes offset cs ++ [.close]) = lexer.tokens offset cs := by
  induction cs generalizing lexer offset with
  | nil =>
    rw [pushes, List.nil_append, run, perform, tokens]
    cases lexer.close.result <;> simp [run, Except.bind, Except.map]
  | cons c cs ih => rw [pushes, List.cons_append, run, perform, ih, tokens]

end Lexer

/-- The tokens of a query that is fed to a new lexer as it is, each character at its byte offset,
until one is refused, and then ended. -/
def streamed (query : String) : Except LexError (List Token) :=
  Lexer.new.run (Lexer.pushes 0 query.toList ++ [.close])

/-- A query that is fed as it is, is read from its first byte. -/
lemma streamed_eq_munch (query : String) : streamed query = munch false 0 query.toList := by
  have hnew : Lexer.new.mode = boundaryMode false := rfl
  rw [streamed, Lexer.run_pushes_close, Lexer.tokens_eq_munch ⟨Or.inl rfl, rfl⟩ hnew]

/-! ## Padding made of blanks -/

/-- All that is stripped from the query is blanks. -/
structure IsBlankPadded (query : String) : Prop where
  lead : ∀ c ∈ query.toList.takeWhile (· ≤ ' '), c = ' ' ∨ c = '\t'
  trail : ∀ c ∈ query.toList.rtakeWhile (· ≤ ' '), c = ' ' ∨ c = '\t'

/-- The query ends with an opening parenthesis and blanks after it. -/
def EndsInOpenBlanks (query : String) : Prop :=
  ∃ before w, query.toList = before ++ '(' :: w ∧ w ≠ [] ∧ ∀ c ∈ w, c = ' ' ∨ c = '\t'

section

variable {query : String} {lead body trail : List Char} {offset : Nat} {c : Char} {cs : List Char}

/-- The padding before the body of a blank padded query is blanks. -/
lemma PaddedAs.isBlank_lead (h : PaddedAs query lead body trail) (hblank : IsBlankPadded query) :
    ∀ c ∈ lead, isBlank c = true := by
  intro c hc
  apply isBlank_eq_true_iff.mpr
  apply hblank.lead
  have hlead : ∀ d ∈ lead, decide (d ≤ ' ') = true := by simpa using h.lead_le
  rw [h.toList_eq, List.append_assoc, List.takeWhile_append_of_pos hlead]
  exact List.mem_append_left _ hc

/-- The padding after the body of a blank padded query is blanks. -/
lemma PaddedAs.isBlank_trail (h : PaddedAs query lead body trail) (hblank : IsBlankPadded query) :
    ∀ c ∈ trail, isBlank c = true := by
  intro c hc
  apply isBlank_eq_true_iff.mpr
  apply hblank.trail
  have htrail : ∀ d ∈ trail.reverse, decide (d ≤ ' ') = true := by simpa using h.trail_le
  rw [h.toList_eq, List.rtakeWhile, List.reverse_append, List.takeWhile_append_of_pos htrail]
  simp [hc]

/-- The blanks after the body change nothing. -/
lemma PaddedAs.munch_append_trail {afterBlank : Bool} (h : PaddedAs query lead body trail)
    (hblank : IsBlankPadded query) (hopen : ¬ EndsInOpenBlanks query) :
    munch afterBlank offset (body ++ trail) = munch afterBlank offset body := by
  have htrail := h.isBlank_trail hblank
  by_cases hnil : trail = []
  · rw [hnil, List.append_nil]
  · refine munch_append_blanks ?_ htrail
    rintro ⟨before, rfl⟩
    apply hopen
    refine ⟨lead ++ before, trail, by simp [h.toList_eq], hnil, ?_⟩
    exact fun c hc => isBlank_eq_true_iff.mp (htrail c hc)

/-- Whether blanks have been passed over makes a difference to an error at the first character
only, and there to the mode that it names. -/
lemma munch_true_eq_or (hc : isBlank c = false) :
    munch true offset (c :: cs) = munch false offset (c :: cs) ∨
      munch false offset (c :: cs) = .error (.forbiddenCharacter c .expression offset) ∧
        munch true offset (c :: cs) = .error (.forbiddenCharacter c .blank offset) := by
  have hblank : ¬ isBlank c = true := by simp [hc]
  by_cases hclass : c = '(' ∨ c = ')' ∨ c = '"' ∨ isWordChar c = true
  · left
    have hlexeme : lexeme true offset c cs = lexeme false offset c cs := by
      unfold lexeme
      split_ifs with hopen hclose hquote hword
      · rfl
      · rfl
      · rfl
      · rfl
      · simp [hopen, hclose, hquote, hword] at hclass
    rcases hlex : lexeme false offset c cs with e | ⟨t, rest⟩
    · rw [munch_of_lexeme_eq_error hblank hlex,
        munch_of_lexeme_eq_error hblank (hlexeme.trans hlex)]
    · rw [munch_of_lexeme hblank hlex, munch_of_lexeme hblank (hlexeme.trans hlex)]
  · right
    simp only [not_or] at hclass
    obtain ⟨hopen, hclose, hquote, hword⟩ := hclass
    have hlexeme : ∀ afterBlank, lexeme afterBlank offset c cs =
        .error (.forbiddenCharacter c (boundaryMode afterBlank) offset) := by
      intro afterBlank
      rw [lexeme, if_neg hopen, if_neg hclose, if_neg hquote, if_neg hword]
    exact ⟨munch_of_lexeme_eq_error hblank (hlexeme false),
      munch_of_lexeme_eq_error hblank (hlexeme true)⟩

/-- Feeding a query as it is gives the tokens of the query, or its error, if the padding is made of
blanks and none comes after a last opening parenthesis.  The one exception is the mode that is named
by an error at the first character after leading blanks: it says that there were some. -/
theorem streamed_agrees_with_tokenize (hblank : IsBlankPadded query)
    (hopen : ¬ EndsInOpenBlanks query) :
    streamed query = tokenize query ∨
      ∃ lead c rest, query.toList = lead ++ c :: rest ∧ lead ≠ [] ∧
        (∀ d ∈ lead, d = ' ' ∨ d = '\t') ∧ ¬ (c = ' ' ∨ c = '\t') ∧
        tokenize query = .error (.forbiddenCharacter c .expression (byteLength lead)) ∧
        streamed query = .error (.forbiddenCharacter c .blank (byteLength lead)) := by
  obtain ⟨lead, body, trail, h⟩ := exists_paddedAs query
  have hlead := h.isBlank_lead hblank
  rw [streamed_eq_munch, h.tokenize_eq_munch, h.toList_eq, List.append_assoc]
  by_cases hnil : lead = []
  · left
    rw [hnil, List.nil_append, byteLength_nil, h.munch_append_trail hblank hopen]
  rw [munch_blanks_append hlead hnil, Nat.zero_add, h.munch_append_trail hblank hopen]
  rcases body with _ | ⟨c, body⟩
  · left
    rw [munch, munch]
  · have hc : isBlank c = false := by
      by_contra htrue
      rw [Bool.not_eq_false] at htrue
      exact absurd (le_space_of_isBlank htrue) (Char.not_le.mpr (h.lt_head c rfl))
    have hmodes := @munch_true_eq_or (byteLength lead) c body hc
    obtain heq | ⟨herr, herr'⟩ := hmodes
    · exact Or.inl heq
    · refine Or.inr ⟨lead, c, body ++ trail, rfl, hnil, ?_, ?_, herr, herr'⟩
      · exact fun d hd => isBlank_eq_true_iff.mp (hlead d hd)
      · rw [← isBlank_eq_true_iff, hc]
        decide

/-- Whether blanks follow a last opening parenthesis is seen when they are taken away. -/
lemma not_endsInOpenBlanks (h : (dropEndWhile isBlank query.toList).getLast? ≠ some '(') :
    ¬ EndsInOpenBlanks query := by
  rintro ⟨before, w, hquery, -, hw⟩
  apply h
  have hblank : ∀ c ∈ w, isBlank c = true := fun c hc => isBlank_eq_true_iff.mpr (hw c hc)
  have hopen : ¬ isBlank '(' = true := by decide
  rw [hquery, List.append_cons, dropEndWhile_append _ _ _ hblank, dropEndWhile,
    List.reverse_append, List.reverse_singleton, List.singleton_append,
    List.dropWhile_cons_of_neg hopen]
  simp

end

/-- A group that is not closed, with blanks around it and a keyword before those at the end. -/
theorem blank_padded_group_streams :
    let query := "\t (é AND NOT\t "
    (IsBlankPadded query ∧ ¬ EndsInOpenBlanks query) ∧
      (streamed query = tokenize query ∨
        ∃ lead c rest, query.toList = lead ++ c :: rest ∧ lead ≠ [] ∧
          (∀ d ∈ lead, d = ' ' ∨ d = '\t') ∧ ¬ (c = ' ' ∨ c = '\t') ∧
          tokenize query = .error (.forbiddenCharacter c .expression (byteLength lead)) ∧
          streamed query = .error (.forbiddenCharacter c .blank (byteLength lead))) := by
  intro query
  have hlead : query.toList.takeWhile (· ≤ ' ') = ['\t', ' '] := by decide
  have htrail : query.toList.rtakeWhile (· ≤ ' ') = ['\t', ' '] := by decide
  have hblank : IsBlankPadded query := ⟨by simp [hlead], by simp [htrail]⟩
  have hopen : ¬ EndsInOpenBlanks query := not_endsInOpenBlanks (by decide)
  exact ⟨⟨hblank, hopen⟩, streamed_agrees_with_tokenize hblank hopen⟩

/-- The mode in an error at the first character tells whether blanks were fed before it. -/
example : tokenize " %" = .error (.forbiddenCharacter '%' .expression 1) ∧
    streamed " %" = .error (.forbiddenCharacter '%' .blank 1) := by decide

end SearchQuery

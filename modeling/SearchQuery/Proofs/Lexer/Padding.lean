import SearchQuery.Proofs.Lexer.Composition
import SearchQuery.Proofs.Lexer.Tiling

/-!
# Padding and blanks around what the lexer is fed

Every query is padding, a body that neither begins nor ends with padding, and padding again
(`PaddedAs`, `exists_paddedAs`).  The lexer is fed the body, at the byte where it stands in the
query (`PaddedAs.tokenize_eq_tokens`); any such division of a query tells what is read of it.

The blanks among the padding would do the lexer no harm.  Those before the body are passed over
(`munch_blanks_append`), and those after it change nothing either, neither the tokens nor an error,
unless there is an opening parenthesis right before them (`munch_append_blanks`).
-/

namespace SearchQuery

open MaximalMunch

/-! ## The body of a query -/

/-- The query is padding, a body without padding at its ends, and padding again. -/
structure PaddedAs (query : String) (lead body trail : List Char) : Prop where
  toList_eq : query.toList = lead ++ body ++ trail
  lead_le : ∀ c ∈ lead, c ≤ ' '
  trail_le : ∀ c ∈ trail, c ≤ ' '
  lt_head : ∀ c ∈ body.head?, ' ' < c
  lt_last : ∀ c ∈ body.getLast?, ' ' < c

section

variable {query : String} {lead body trail : List Char}

/-- Padding is what is stripped. -/
lemma isPadding_eq_true_iff {c : Char} : isPadding c = true ↔ c ≤ ' ' := by
  rw [isPadding_eq, decide_eq_true_eq]

/-- What is above the space is not stripped. -/
lemma isPadding_eq_false_iff {c : Char} : isPadding c = false ↔ ' ' < c := by
  rw [isPadding_eq, decide_eq_false_iff_not, Char.not_le]

/-- Where the padding at the start is known, the rest is a body and padding. -/
lemma exists_paddedAs_of_append {cs : List Char} (hquery : query.toList = lead ++ cs)
    (hlead : ∀ c ∈ lead, c ≤ ' ') (hhead : ∀ c ∈ cs.head?, ' ' < c) :
    ∃ body trail, cs = body ++ trail ∧ PaddedAs query lead body trail := by
  obtain ⟨trail, hcs, htrail⟩ := exists_dropEndWhile_append isPadding cs
  refine ⟨dropEndWhile isPadding cs, trail, hcs, ?_, hlead, ?_, ?_, ?_⟩
  · rw [hquery, List.append_assoc, ← hcs]
  · exact fun c hc => le_space_of_isPadding (htrail c hc)
  · intro c hc
    apply hhead
    rw [hcs]
    exact List.mem_head?_append_of_mem_head? hc
  · intro c hc
    have hlast : c ∈ (cs.reverse.dropWhile isPadding).head? := by
      rwa [dropEndWhile, List.getLast?_reverse] at hc
    exact isPadding_eq_false_iff.mp (Lexer.head?_dropWhile_eq_false isPadding cs.reverse c hlast)

/-- Every query has a body. -/
lemma exists_paddedAs (query : String) : ∃ lead body trail, PaddedAs query lead body trail := by
  have hquery : query.toList =
      query.toList.takeWhile isPadding ++ query.toList.dropWhile isPadding :=
    List.takeWhile_append_dropWhile.symm
  obtain ⟨body, trail, -, h⟩ := exists_paddedAs_of_append hquery
    (fun c hc => le_space_of_isPadding (List.mem_takeWhile_imp hc))
    (fun c hc => isPadding_eq_false_iff.mp (Lexer.head?_dropWhile_eq_false isPadding _ c hc))
  exact ⟨_, body, trail, h⟩

namespace PaddedAs

/-- The body of a query that has one is what is left when the padding is stripped. -/
lemma unpadded_eq (h : PaddedAs query lead body trail) (hbody : body ≠ []) :
    unpadded query.toList = (byteLength lead, body) := by
  have hhead : ∀ c ∈ (body ++ trail).head?, isPadding c = false := by
    intro c hc
    rw [List.head?_append_of_ne_nil _ hbody] at hc
    exact isPadding_eq_false_iff.mpr (h.lt_head c hc)
  have hlead : ∀ c ∈ lead, isPadding c = true :=
    fun c hc => isPadding_eq_true_iff.mpr (h.lead_le c hc)
  have htrail : ∀ c ∈ trail, isPadding c = true :=
    fun c hc => isPadding_eq_true_iff.mpr (h.trail_le c hc)
  obtain ⟨htake, hdrop⟩ := span_append hlead hhead
  have hend : dropEndWhile isPadding body = body := by
    have hlast : ¬ isPadding (body.getLast hbody) = true := by
      rw [isPadding_eq_true_iff, Char.not_le]
      exact h.lt_last _ (List.getLast?_eq_some_getLast hbody)
    exact List.rdropWhile_eq_self_iff.mpr fun _ => hlast
  rw [unpadded, h.toList_eq, List.append_assoc, htake, hdrop, dropEndWhile_append _ _ _ htrail,
    hend]

/-- The tokens of a query are those of its body. -/
lemma tokenize_eq_tokens (h : PaddedAs query lead body trail) :
    tokenize query = Lexer.new.tokens (byteLength lead) body := by
  by_cases hbody : body = []
  · subst hbody
    apply tokenize_of_le_space
    rw [h.toList_eq, List.append_nil, List.forall_mem_append]
    exact ⟨h.lead_le, h.trail_le⟩
  · rw [SearchQuery.tokenize_eq_tokens, h.unpadded_eq hbody]

/-- The tokens of a query are those that the reference finds in its body. -/
lemma tokenize_eq_munch (h : PaddedAs query lead body trail) :
    tokenize query = munch false (byteLength lead) body := by
  have hnew : Lexer.new.mode = boundaryMode false := rfl
  rw [h.tokenize_eq_tokens, Lexer.tokens_eq_munch ⟨Or.inl rfl, rfl⟩ hnew]

end PaddedAs

end

/-! ## Blanks -/

/-- Blanks are spaces and tabs. -/
lemma isBlank_eq_true_iff {c : Char} : isBlank c = true ↔ c = ' ' ∨ c = '\t' := by
  simp [isBlank]

namespace MaximalMunch

variable {afterBlank : Bool} {offset : Nat} {c : Char} {cs w rest left : List Char} {t : Token}
  {e : LexError}

/-- Blanks before the others are passed over. -/
lemma munch_blanks_append (hw : ∀ c ∈ w, isBlank c = true) (hne : w ≠ []) :
    munch afterBlank offset (w ++ cs) = munch true (offset + byteLength w) cs := by
  induction w generalizing afterBlank offset with
  | nil => exact absurd rfl hne
  | cons d w ih =>
    rw [List.forall_mem_cons] at hw
    rw [List.cons_append, munch, if_pos hw.1, byteLength_cons, ← Nat.add_assoc]
    by_cases hnil : w = []
    · rw [hnil]
      rfl
    · exact ih hw.2 hnil

/-- There is nothing to read in blanks. -/
lemma munch_blanks (hw : ∀ c ∈ w, isBlank c = true) : munch afterBlank offset w = .ok [] := by
  by_cases hne : w = []
  · rw [hne, munch]
  · rw [← List.append_nil w, munch_blanks_append hw hne, munch]

/-- A blank may follow any token but an opening parenthesis. -/
lemma mayPrecede_of_isBlank (ht : t.kind ≠ .openParen) (hc : isBlank c = true) :
    MayPrecede t (c :: rest) := by
  unfold MayPrecede
  split
  · rintro d ⟨⟩
    exact Or.inl hc
  · rintro d ⟨⟩
    exact hc
  · next hk => exact absurd hk ht
  · trivial
  · trivial

/-- Nothing at all may follow any token. -/
lemma mayPrecede_nil : MayPrecede t [] := by
  unfold MayPrecede
  split <;> simp [EndsWord]

/-- Blanks may follow a text that does not end with an opening parenthesis. -/
lemma mayPrecede_blanks (ht : t.WellFormed) (hopen : ¬ ['('] <:+ t.text.toList)
    (hw : ∀ c ∈ w, isBlank c = true) : MayPrecede t w := by
  rcases w with _ | ⟨c, w⟩
  · exact mayPrecede_nil
  · refine mayPrecede_of_isBlank ?_ (hw c List.mem_cons_self)
    intro hk
    have htext : t.text = "(" := by simpa [Token.WellFormed, hk] using ht
    rw [htext] at hopen
    exact hopen (by decide)

/-- Blanks at the end of the query do not mend an error. -/
lemma lexeme_append_of_error (h : lexeme afterBlank offset c cs = .error e)
    (hw : ∀ c ∈ w, isBlank c = true) : lexeme afterBlank offset c (cs ++ w) = .error e := by
  unfold lexeme at h ⊢
  split_ifs at h ⊢ with hopen hclose hquote hword
  · rcases cs with _ | ⟨d, cs⟩
    · simp [openLexeme] at h
    · rw [openLexeme] at h
      rw [List.cons_append, openLexeme]
      split_ifs at h ⊢
      exact h
  · rw [phraseLexeme] at h ⊢
    rcases hdrop : cs.dropWhile isPhraseContent with _ | ⟨d, after⟩
    · -- The phrase goes on over the blanks.
      have hcontent : ∀ d ∈ cs ++ w, isPhraseContent d = true := by
        rw [List.forall_mem_append]
        refine ⟨List.dropWhile_eq_nil_iff.mp hdrop, ?_⟩
        intro d hd
        simp [isPhraseContent, hw d hd]
      rw [hdrop, endPhrase] at h
      rw [List.dropWhile_eq_nil_iff.mpr hcontent, endPhrase]
      exact h
    · obtain ⟨htake, hdrop'⟩ := span_append_of_dropWhile hdrop w
      rw [hdrop, endPhrase] at h
      rw [htake, hdrop', List.cons_append, endPhrase]
      split_ifs at h ⊢
      exact h
  · rw [wordLexeme] at h ⊢
    rw [← List.cons_append]
    rcases hdrop : (c :: cs).dropWhile isWordChar with _ | ⟨d, after⟩
    · simp [hdrop, endWord] at h
    · obtain ⟨htake, hdrop'⟩ := span_append_of_dropWhile hdrop w
      rw [hdrop, endWord] at h
      rw [htake, hdrop', List.cons_append, endWord]
      split_ifs at h ⊢
      exact h
  · exact h

/-- Blanks after a text that does not end with an opening parenthesis change nothing. -/
lemma munch_append_blanks (hopen : ¬ ['('] <:+ cs) (hw : ∀ c ∈ w, isBlank c = true) :
    munch afterBlank offset (cs ++ w) = munch afterBlank offset cs := by
  fun_induction munch afterBlank offset cs with
  | case1 => exact munch_blanks hw
  | case2 afterBlank offset c cs hblank ih =>
    rw [List.cons_append, munch, if_pos hblank]
    exact ih fun h => hopen (h.trans (List.suffix_cons c cs))
  | case3 afterBlank offset c cs hblank e hlex =>
    rw [List.cons_append, munch_of_lexeme_eq_error hblank (lexeme_append_of_error hlex hw)]
  | case4 afterBlank offset c cs hblank token left hlex ih =>
    obtain ⟨hchars, -, hwell⟩ := isLexeme_of_lexeme hlex
    rw [hchars] at hopen
    have hmore : lexeme afterBlank offset c (cs ++ w) = .ok (token, left ++ w) := by
      refine lexeme_append hlex ?_
      rintro rfl
      rw [List.append_nil] at hopen
      exact mayPrecede_blanks hwell hopen hw
    rw [List.cons_append, munch_of_lexeme hblank hmore,
      ih fun h => hopen (h.trans (List.suffix_append token.text.toList left))]

end MaximalMunch

end SearchQuery

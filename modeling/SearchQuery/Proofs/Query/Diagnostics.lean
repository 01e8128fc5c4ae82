import Mathlib.Algebra.Group.Nat.Even
import SearchQuery.Proofs.Lexer.Tiling
import SearchQuery.Proofs.Parser.ErrorPlacement
import SearchQuery.Query

/-!
# Where diagnostics point

The position of a query error comes from one of two places.  The lexer counts bytes of the whole
query as it goes, and names the character that it refuses or the quote that opened a phrase it
cannot end (`exists_stopsAt_of_tokenize`).  The parser only knows tokens, and names the offset of
one of those it was given (`exists_token_of_parse_error`), which is the first character of that
token as far as the query is concerned.

Either way there is a character at that byte, unless the query has no tokens at all.  So the caret
is never dropped from a diagnostic, and stands below that character.
-/

namespace SearchQuery

open MaximalMunch

/-! ## Errors of the lexer -/

/-- Reading stops with the error on account of the character `c` at byte `position`, which has these
characters before and after it: it is refused, or it opens a phrase that never ends.  It opens one
when the quotes before it come in pairs. -/
inductive StopsAt (before : List Char) (c : Char) (after : List Char) (position : Nat) :
    LexError → Prop
  | forbidden {mode : Mode} :
      StopsAt before c after position (.forbiddenCharacter c mode position)
  | unfinished (hquote : c = '"') (hpairs : Even (before.count '"')) (hlast : '"' ∉ after) :
      StopsAt before c after position (.notFinished .phrase position)

section

variable {before after lead trail cs : List Char} {c : Char} {position offset : Nat}
  {afterBlank : Bool} {e : LexError} {t : Token}

/-- Characters around the others change nothing, as long as their quotes come in pairs before the
others and there are none after them. -/
lemma StopsAt.widen (h : StopsAt before c after position e) (hlead : Even (lead.count '"'))
    (htrail : '"' ∉ trail) : StopsAt (lead ++ before) c (after ++ trail) position e := by
  cases h with
  | forbidden => exact .forbidden
  | unfinished hquote hpairs hlast =>
    refine .unfinished hquote ?_ ?_
    · rw [List.count_append]
      exact hlead.add hpairs
    · rw [List.mem_append]
      exact not_or.mpr ⟨hlast, htrail⟩

/-- A quote is no phrase character, and no blank. -/
lemma quote_notMem_of_isPhraseContent (h : ∀ c ∈ cs, isPhraseContent c = true) : '"' ∉ cs := by
  intro hquote
  exact absurd (h '"' hquote) (by decide)

/-- A quote is no padding. -/
lemma quote_notMem_of_le_space (h : ∀ c ∈ cs, c ≤ ' ') : '"' ∉ cs := by
  intro hquote
  exact absurd (h '"' hquote) (by decide)

/-- The quotes of a token come in pairs. -/
lemma even_count_quote_of_wellFormed (h : t.WellFormed) : Even (t.text.toList.count '"') := by
  unfold Token.WellFormed at h
  split at h
  · have hnone : '"' ∉ t.text.toList := by
      intro hquote
      exact absurd (h.2 '"' hquote) (by decide)
    rw [List.count_eq_zero.mpr hnone]
    exact Even.zero
  · obtain ⟨run, -, hrun, htext⟩ := h
    have hnone : run.count '"' = 0 :=
      List.count_eq_zero.mpr (quote_notMem_of_isPhraseContent hrun)
    have hcount : ('"' :: run ++ ['"']).count '"' = 2 := by simp [hnone]
    rw [htext, hcount]
    exact ⟨1, rfl⟩
  · next k _ =>
    rw [h]
    cases k <;> decide
  · rw [h]
    decide
  · rw [h]
    decide

/-- A token that is not read stops the reading at one of its characters or at the one after it. -/
lemma exists_stopsAt_of_lexeme (h : lexeme afterBlank offset c cs = .error e) :
    ∃ before d after, c :: cs = before ++ d :: after ∧
      StopsAt before d after (offset + byteLength before) e := by
  unfold lexeme at h
  split_ifs at h with hopen hclose hquote hword
  · subst hopen
    rcases cs with _ | ⟨d, cs⟩
    · simp [openLexeme] at h
    · rw [openLexeme] at h
      split_ifs at h with hblank
      obtain rfl := Except.error.inj h
      exact ⟨['('], d, cs, rfl, .forbidden⟩
  · subst hquote
    have hcs := List.takeWhile_append_dropWhile (p := isPhraseContent) (l := cs)
    have hrun : ∀ d ∈ cs.takeWhile isPhraseContent, isPhraseContent d = true :=
      fun d hd => List.mem_takeWhile_imp hd
    have hsize : '"'.utf8Size = 1 := rfl
    rw [phraseLexeme] at h
    rcases hdrop : cs.dropWhile isPhraseContent with _ | ⟨d, after⟩
    · -- The phrase goes on to the end.
      rw [hdrop, endPhrase] at h
      obtain rfl := Except.error.inj h
      rw [hdrop, List.append_nil] at hcs
      refine ⟨[], '"', cs, rfl, .unfinished rfl (by simp) ?_⟩
      rw [← hcs]
      exact quote_notMem_of_isPhraseContent hrun
    · rw [hdrop, endPhrase] at h
      split_ifs at h
      obtain rfl := Except.error.inj h
      rw [hdrop] at hcs
      refine ⟨'"' :: cs.takeWhile isPhraseContent, d, after, ?_, ?_⟩
      · rw [List.cons_append, hcs]
      · rw [byteLength_cons, hsize, ← Nat.add_assoc]
        exact .forbidden
  · have hcs := List.takeWhile_append_dropWhile (p := isWordChar) (l := c :: cs)
    rw [wordLexeme] at h
    rcases hdrop : (c :: cs).dropWhile isWordChar with _ | ⟨d, after⟩
    · simp [hdrop, endWord] at h
    · rw [hdrop, endWord] at h
      split_ifs at h
      obtain rfl := Except.error.inj h
      rw [hdrop] at hcs
      exact ⟨_, d, after, hcs.symm, .forbidden⟩
  · obtain rfl := Except.error.inj h
    exact ⟨[], c, cs, rfl, .forbidden⟩

/-- Reading stops at one of the characters.  The tokens before it have their quotes in pairs. -/
lemma exists_stopsAt_of_munch (h : munch afterBlank offset cs = .error e) :
    ∃ before d after, cs = before ++ d :: after ∧
      StopsAt before d after (offset + byteLength before) e := by
  fun_induction munch afterBlank offset cs generalizing e with
  | case1 => simp at h
  | case2 afterBlank offset c cs hblank ih =>
    obtain ⟨before, d, after, rfl, hstops⟩ := ih h
    have hne : c ≠ '"' := by
      rintro rfl
      exact absurd hblank (by decide)
    have hcount : Even ([c].count '"') := by simp [hne]
    refine ⟨c :: before, d, after, rfl, ?_⟩
    rw [byteLength_cons, ← Nat.add_assoc]
    simpa using hstops.widen hcount (List.not_mem_nil)
  | case3 afterBlank offset c cs hblank e' hlex =>
    obtain rfl := Except.error.inj h
    exact exists_stopsAt_of_lexeme hlex
  | case4 afterBlank offset c cs hblank token rest hlex ih =>
    obtain ⟨hchars, -, hwell⟩ := isLexeme_of_lexeme hlex
    rcases hrest : munch false (offset + byteLength token.text.toList) rest with e' | ts
    · rw [hrest] at h
      obtain rfl := Except.error.inj h
      obtain ⟨before, d, after, rfl, hstops⟩ := ih hrest
      refine ⟨token.text.toList ++ before, d, after, by rw [hchars, List.append_assoc], ?_⟩
      rw [byteLength_append, ← Nat.add_assoc]
      simpa using hstops.widen (even_count_quote_of_wellFormed hwell) (List.not_mem_nil)
    · simp [hrest, Except.map] at h

/-- A query that is not split into tokens stops the reading at one of its characters. -/
lemma exists_stopsAt_of_tokenize {query : String} (h : tokenize query = .error e) :
    ∃ before d after, query.toList = before ++ d :: after ∧
      StopsAt before d after (byteLength before) e := by
  obtain ⟨lead, trail, hquery, hlength, hlead, htrail⟩ := exists_unpadded query
  rw [tokenize_eq_munch, ← hlength] at h
  obtain ⟨before, d, after, hbody, hstops⟩ := exists_stopsAt_of_munch h
  have hcount : lead.count '"' = 0 := List.count_eq_zero.mpr (quote_notMem_of_le_space hlead)
  refine ⟨lead ++ before, d, after ++ trail, ?_, ?_⟩
  · rw [hquery, hbody]
    simp
  · rw [byteLength_append]
    exact hstops.widen (hcount ▸ Even.zero) (quote_notMem_of_le_space htrail)

end

/-! ## Errors of the parser -/

section

variable {before ts : List Token} {t o : Token} {err : ParseError}

/-- The open groups are among the tokens. -/
lemma mem_of_mem_openGroups (ho : o ∈ openGroups before) : o ∈ before := by
  induction before using List.reverseRecOn with
  | nil => simp [openGroups] at ho
  | append_singleton before t ih =>
    have hmem : o ∈ t :: openGroups before := by
      rw [openGroups_concat, Token.nest] at ho
      split at ho
      · exact ho
      · exact List.mem_cons_of_mem t (List.mem_of_mem_tail ho)
      · exact List.mem_cons_of_mem t ho
    rcases List.mem_cons.mp hmem with rfl | hmem
    · simp
    · simp [ih hmem]

/-- The error points at a token, and is one of the parser's own. -/
structure PointsAtToken (err : ParseError) (t : Token) : Prop where
  position : err.position? = some t.offset
  ne_tokenizer : ∀ e, err ≠ .tokenizer e

/-- An error about a token that offends points at it, or at the parenthesis before it. -/
lemma Offends.exists_pointsAtToken (h : Offends before t err) :
    ∃ u ∈ before ++ [t], PointsAtToken err u := by
  cases h with
  | emptyGroup hplace _ _ =>
    exact ⟨_, by simp [List.mem_of_getLast? hplace], rfl, by simp⟩
  | _ => exact ⟨t, by simp, rfl, by simp⟩

/-- An error about what is missing at the end points at a token, unless there are none. -/
lemma Unfinished.exists_pointsAtToken (h : Unfinished ts err) :
    ts = [] ∧ err = .noExpression none ∨ ∃ u ∈ ts, PointsAtToken err u := by
  cases h with
  | empty hnil => exact Or.inl ⟨hnil, rfl⟩
  | missingOperand hlast _ => exact Or.inr ⟨_, List.mem_of_getLast? hlast, rfl, by simp⟩
  | invalidNotOperand hlast _ => exact Or.inr ⟨_, List.mem_of_getLast? hlast, rfl, by simp⟩
  | emptyGroup hlast _ => exact Or.inr ⟨_, List.mem_of_getLast? hlast, rfl, by simp⟩
  | missingClose _ hgroups =>
    exact Or.inr ⟨_, mem_of_mem_openGroups (List.mem_of_mem_head? hgroups), rfl, by simp⟩

/-- A parse error points at one of the tokens, unless there are none. -/
lemma exists_token_of_parse_error (h : parse ts = .error err) :
    ts = [] ∧ err = .noExpression none ∨ ∃ t ∈ ts, PointsAtToken err t := by
  rcases (fails_of_parse h).exists_split with ⟨used, t, rest, rfl, -, hoff⟩ | ⟨-, hend⟩
  · obtain ⟨u, hu, hpoints⟩ := hoff.exists_pointsAtToken
    refine Or.inr ⟨u, ?_, hpoints⟩
    rcases List.mem_append.mp hu with hu | hu
    · exact List.mem_append_left _ (by simpa using hu)
    · simp [List.mem_singleton.mp hu]
  · exact hend.exists_pointsAtToken

end

/-! ## Characters and carets -/

/-- What stands at the position of the error is what the error is about: the character that it
names, the quote that opens the phrase that never ends, or the first character of a token.  The
character is `c`, and the query has these characters before and after it. -/
def ParseError.PointsAt (err : ParseError) (query : String) (before : List Char) (c : Char)
    (after : List Char) : Prop :=
  match err with
  | .tokenizer (.forbiddenCharacter named _ _) => c = named
  | .tokenizer (.notFinished _ _) => c = '"' ∧ Even (before.count '"') ∧ '"' ∉ after
  | _ => ∃ tokens, tokenize query = .ok tokens ∧
      ∃ t ∈ tokens, t.offset = byteLength before ∧ c ∈ t.text.toList.head?

section

variable {query : String} {before after rest : List Char} {c : Char} {tokens : List Token}
  {t : Token} {err : ParseError} {e : QueryError}

/-- An error of the lexer points at what it is about. -/
lemma StopsAt.pointsAt {lexError : LexError} {position : Nat}
    (h : StopsAt before c after position lexError) (query : String) :
    lexError.position? = some position ∧
      (ParseError.tokenizer lexError).PointsAt query before c after := by
  cases h with
  | forbidden => exact ⟨rfl, rfl⟩
  | unfinished hquote hpairs hlast => exact ⟨rfl, hquote, hpairs, hlast⟩

/-- An error of the parser points at the first character of a token. -/
lemma PointsAtToken.pointsAt (h : PointsAtToken err t) (htokens : tokenize query = .ok tokens)
    (ht : t ∈ tokens) (hoffset : t.offset = byteLength before) (hc : c ∈ t.text.toList.head?) :
    err.PointsAt query before c after := by
  unfold ParseError.PointsAt
  split
  · exact absurd rfl (h.ne_tokenizer _)
  · exact absurd rfl (h.ne_tokenizer _)
  · exact ⟨tokens, htokens, t, ht, hoffset, hc⟩

/-- A token begins at a character of the query. -/
lemma exists_char_of_mem_tokenize (h : tokenize query = .ok tokens) (ht : t ∈ tokens) :
    ∃ before c after, query.toList = before ++ c :: after ∧ byteLength before = t.offset ∧
      c ∈ t.text.toList.head? := by
  obtain ⟨lead, body, trail, hquery, -, -, htiles⟩ := exists_tiles_of_tokenize h
  have hwell : t.WellFormed := htiles.wellFormed t ht
  obtain ⟨c, cs, hchars⟩ := List.exists_cons_of_ne_nil (toList_ne_nil_of_wellFormed hwell)
  obtain ⟨earlier, later, rfl⟩ := List.append_of_mem ht
  obtain ⟨before, rest, rfl, hbefore, -⟩ := htiles.exists_token
  refine ⟨lead ++ before, c, cs ++ rest ++ trail, ?_, ?_, ?_⟩
  · simp [hquery, hchars]
  · rw [byteLength_append, hbefore]
  · simp [hchars]

/-- An error points at a character of the query, unless the query is all padding. -/
lemma exists_pointsAt_of_parseQuery (h : parseQuery query = .error e) :
    (e.error.position? = none ∧ ∀ c ∈ query.toList, c ≤ ' ') ∨
      ∃ before c after, query.toList = before ++ c :: after ∧
        e.error.position? = some (byteLength before) ∧ e.error.PointsAt query before c after := by
  obtain ⟨-, ⟨lexError, htokens, herr⟩ | ⟨tokens, htokens, hparse⟩⟩ := parseQuery_eq_error h
  · obtain ⟨before, c, after, hquery, hstops⟩ := exists_stopsAt_of_tokenize htokens
    obtain ⟨hposition, hpoints⟩ := hstops.pointsAt query
    rw [herr]
    exact Or.inr ⟨before, c, after, hquery, hposition, hpoints⟩
  · rcases exists_token_of_parse_error hparse with ⟨hnil, herr⟩ | ⟨t, ht, hpoints⟩
    · rw [herr]
      exact Or.inl ⟨rfl, (tokens_eq_nil_iff htokens).mp hnil⟩
    · obtain ⟨before, c, after, hquery, hoffset, hc⟩ := exists_char_of_mem_tokenize htokens ht
      refine Or.inr ⟨before, c, after, hquery, ?_, ?_⟩
      · rw [hpoints.position, hoffset]
      · exact hpoints.pointsAt htokens ht hoffset.symm hc

/-- A query that is all padding is refused without a position. -/
lemma parseQuery_of_le_space (h : ∀ c ∈ query.toList, c ≤ ' ') :
    parseQuery query = .error ⟨.noExpression none, query⟩ := by
  rw [parseQuery, tokenize_of_le_space h]
  rfl

/-- The column of the caret is the number of characters before the position. -/
lemma column?_eq (hquery : e.query.toList = before ++ rest)
    (hposition : e.error.position? = some (byteLength before)) :
    e.column? = some before.length := by
  have hle : byteLength before ≤ e.query.utf8ByteSize := by
    rw [utf8ByteSize_eq_byteLength, hquery, byteLength_append]
    exact Nat.le_add_right _ _
  rw [QueryError.column?, hposition]
  dsimp only
  rw [Nat.min_eq_left hle, hquery, charactersBefore_append, Nat.zero_add]

/-- A diagnostic with a column has its caret on a line of its own, in that column. -/
lemma display_of_column? {column : Nat} (h : e.column? = some column) :
    e.display =
      "search syntax error [" ++ e.key ++ "]: " ++ e.error.message ++ "\n" ++
        "  " ++ e.query ++ "\n" ++
        "  " ++ String.ofList (List.replicate column ' ') ++ "^" ++ "\n" ++
        (e.suggestion?.map ("hint: " ++ ·)).getD "" := by
  have hline : "\n  " = "\n" ++ "  " := rfl
  have hcaret : "^\n" = "^" ++ "\n" := rfl
  unfold QueryError.display
  rw [h, hline]
  simp only [hcaret, String.append_assoc]
  cases e.suggestion? <;> rfl

/-- Every diagnostic points into its query.  It keeps the query as it is, and it has a position
unless the query is all padding.  At that byte stands a character of the query, and it is the one
that the error is about; the caret stands on a line of its own after two spaces and one more for
each character before the position. -/
theorem diagnostic_points_into_query (h : parseQuery query = .error e) :
    e.query = query ∧
      (e.error.position? = none ↔ ∀ c ∈ query.toList, c ≤ ' ') ∧
      ∀ position ∈ e.error.position?, position < query.utf8ByteSize ∧
        ∃ before c after, query.toList = before ++ c :: after ∧ byteLength before = position ∧
          e.error.PointsAt query before c after ∧
          e.display =
            "search syntax error [" ++ e.key ++ "]: " ++ e.error.message ++ "\n" ++
              "  " ++ query ++ "\n" ++
              "  " ++ String.ofList (List.replicate before.length ' ') ++ "^" ++ "\n" ++
              (e.suggestion?.map ("hint: " ++ ·)).getD "" := by
  have hsame : e.query = query := (parseQuery_eq_error h).1
  refine ⟨hsame, ?_, ?_⟩
  · constructor
    · intro hnone
      rcases exists_pointsAt_of_parseQuery h with ⟨-, hle⟩ | ⟨before, c, after, -, hposition, -⟩
      · exact hle
      · simp [hnone] at hposition
    · intro hle
      obtain rfl := Except.error.inj ((parseQuery_of_le_space hle).symm.trans h)
      rfl
  · intro position hmem
    rcases exists_pointsAt_of_parseQuery h with ⟨hnone, -⟩ | hpoints
    · simp [hnone] at hmem
    obtain ⟨before, c, after, hquery, hposition, hpoints⟩ := hpoints
    obtain rfl : byteLength before = position :=
      Option.some.inj (hposition.symm.trans hmem)
    have hcolumn : e.column? = some before.length := column?_eq (hsame ▸ hquery) hposition
    refine ⟨?_, before, c, after, hquery, rfl, hpoints, ?_⟩
    · have hpos : 0 < c.utf8Size := c.utf8Size_pos
      rw [utf8ByteSize_eq_byteLength, hquery, byteLength_append, byteLength_cons]
      omega
    · rw [display_of_column? hcolumn, hsame]

/-- The parenthesis that is never closed stands after a character of two bytes. -/
theorem open_group_is_pointed_at :
    let query := " né (tea"
    let e : QueryError := ⟨.missingClose 5, query⟩
    parseQuery query = .error e ∧ e.query = query ∧
      (e.error.position? = none ↔ ∀ c ∈ query.toList, c ≤ ' ') ∧
      ∀ position ∈ e.error.position?, position < query.utf8ByteSize ∧
        ∃ before c after, query.toList = before ++ c :: after ∧ byteLength before = position ∧
          e.error.PointsAt query before c after ∧
          e.display =
            "search syntax error [" ++ e.key ++ "]: " ++ e.error.message ++ "\n" ++
              "  " ++ query ++ "\n" ++
              "  " ++ String.ofList (List.replicate before.length ' ') ++ "^" ++ "\n" ++
              (e.suggestion?.map ("hint: " ++ ·)).getD "" := by
  intro query e
  have htokens : tokenize query =
      .ok [⟨.word, "né", 1⟩, ⟨.openParen, "(", 5⟩, ⟨.word, "tea", 6⟩] := by decide +kernel
  have h : parseQuery query = .error e := by
    rw [parseQuery, htokens]
    cbv
  exact ⟨h, diagnostic_points_into_query h⟩

end

end SearchQuery

import SearchQuery.Proofs.Lexer.Eagerness
import SearchQuery.Proofs.Query.Diagnostics
import SearchQuery.Proofs.Query.Grouping

/-!
# Hints can be followed

A diagnostic ends with a hint what to do about the query.  Four of the hints say what is wrong at a
place, or what is missing at the end, and they are right about it (`HintsHold`).

What is missing is added to the query without the padding at its end (`trimPaddingEnd`), so the
question is how the last token reads when something follows it.  Where closing parentheses are
missing, the tokens end an operand, and a parenthesis ends every token that does; the parentheses
are then read one by one, and close one group each.  Where a phrase never ends, whether a quote ends
it is decided at the quote that opens it, since the tokens before are read alike
(`exists_opening_of_munch`).
-/

namespace SearchQuery

open MaximalMunch

/-! ## The end of a query -/

/-- A query without the padding at its end. -/
def trimPaddingEnd (query : String) : String :=
  String.ofList (query.toList.rdropWhile (· ≤ ' '))

namespace PaddedAs

variable {query : String} {lead body trail : List Char}

/-- What is left of a query that has a body ends with the body. -/
lemma toList_trimPaddingEnd (h : PaddedAs query lead body trail) (hbody : body ≠ []) :
    (trimPaddingEnd query).toList = lead ++ body := by
  have htrail : ∀ c ∈ trail, decide (c ≤ ' ') = true :=
    fun c hc => decide_eq_true (h.trail_le c hc)
  have hne : lead ++ body ≠ [] := List.append_ne_nil_of_right_ne_nil lead hbody
  have hlast : ¬ decide ((lead ++ body).getLast hne ≤ ' ') = true := by
    rw [decide_eq_true_eq, Char.not_le, List.getLast_append_of_ne_nil _ hbody]
    exact h.lt_last _ (List.getLast?_eq_some_getLast hbody)
  have hdrop : (lead ++ body ++ trail).rdropWhile (· ≤ ' ') =
      (lead ++ body).rdropWhile (· ≤ ' ') := dropEndWhile_append _ _ _ htrail
  rw [trimPaddingEnd, String.toList_ofList, h.toList_eq, hdrop]
  exact List.rdropWhile_eq_self_iff.mpr fun _ => hlast

/-- A body goes on with what is added to the end of the query, unless that ends with padding. -/
lemma append (h : PaddedAs query lead body trail) (hbody : body ≠ []) {more : List Char}
    (hmore : ∀ c ∈ more.getLast?, ' ' < c) :
    PaddedAs (trimPaddingEnd query ++ String.ofList more) lead (body ++ more) [] := by
  refine ⟨?_, h.lead_le, by simp, ?_, ?_⟩
  · rw [String.toList_append, h.toList_trimPaddingEnd hbody, String.toList_ofList,
      List.append_nil, List.append_assoc]
  · intro c hc
    rw [List.head?_append_of_ne_nil _ hbody] at hc
    exact h.lt_head c hc
  · intro c hc
    by_cases hnil : more = []
    · rw [hnil, List.append_nil] at hc
      exact h.lt_last c hc
    · rw [List.getLast?_append_of_ne_nil _ hnil] at hc
      exact hmore c hc

end PaddedAs

/-! ## Missing parentheses -/

/-- The tokens of `n` closing parentheses, the first of them at byte `offset`. -/
def closeTokens (offset : Nat) : Nat → List Token
  | 0 => []
  | n + 1 => ⟨.closeParen, ")", offset⟩ :: closeTokens (offset + 1) n

/-- Closing parentheses close groups. -/
lemma kind_of_mem_closeTokens {offset n : Nat} {t : Token} (ht : t ∈ closeTokens offset n) :
    t.kind = .closeParen := by
  induction n generalizing offset with
  | zero => simp [closeTokens] at ht
  | succ n ih =>
    rcases List.mem_cons.mp ht with rfl | ht
    · rfl
    · exact ih ht

/-- Each parenthesis is a token. -/
lemma length_closeTokens (offset n : Nat) : (closeTokens offset n).length = n := by
  induction n generalizing offset with
  | zero => rfl
  | succ n ih => rw [closeTokens, List.length_cons, ih]

/-- Closing parentheses are read one by one. -/
lemma munch_replicate_closeParen {afterBlank : Bool} {offset n : Nat} :
    munch afterBlank offset (List.replicate n ')') = .ok (closeTokens offset n) := by
  induction n generalizing afterBlank offset with
  | zero => rw [List.replicate_zero, munch, closeTokens]
  | succ n ih =>
    rw [List.replicate_succ, munch_closeParen, ih]
    rfl

section

variable {query : String} {ts : List Token} {position : Nat}

/-- Where a closing parenthesis is missing, the tokens are admitted up to the end of an operand. -/
lemma admits_of_missingClose (h : parse ts = .error (.missingClose position)) :
    Admits [] ts ∧ EndsOperand ts := by
  rcases (fails_of_parse h).exists_split with ⟨used, t, rest, -, -, hoff⟩ | ⟨hadmits, hend⟩
  · cases hoff
  · cases hend with
    | missingClose hplace _ => exact ⟨hadmits, hplace⟩

/-- Operands that groups are open after are completed by closing parentheses. -/
lemma exists_parseQuery_of_closing (htokens : tokenize query = .ok ts) (hadmits : Admits [] ts)
    (hends : EndsOperand ts) :
    ∃ e, parseQuery (trimPaddingEnd query ++
      String.ofList (List.replicate (openGroups ts).length ')')) = .ok e := by
  obtain ⟨lead, body, trail, hpadded⟩ := exists_paddedAs query
  rw [hpadded.tokenize_eq_munch] at htokens
  have hbody : body ≠ [] := by
    rintro rfl
    rw [munch] at htokens
    obtain rfl := Except.ok.inj htokens
    simp [EndsOperand] at hends
  let closing := closeTokens (byteLength lead + byteLength body) (openGroups ts).length
  have hlast : ∀ c ∈ (List.replicate (openGroups ts).length ')').getLast?, ' ' < c := by
    intro c hc
    rw [List.eq_of_mem_replicate (List.mem_of_getLast? hc)]
    decide
  have hmay : ∀ t ∈ ts.getLast?, MayPrecede t (List.replicate (openGroups ts).length ')') := by
    cases (openGroups ts).length with
    | zero => exact fun t _ => mayPrecede_nil
    | succ n => exact mayPrecede_closeParen hends
  have hread : tokenize (trimPaddingEnd query ++
      String.ofList (List.replicate (openGroups ts).length ')')) = .ok (ts ++ closing) := by
    rw [(hpadded.append hbody hlast).tokenize_eq_munch]
    exact munch_append htokens hmay munch_replicate_closeParen
  obtain ⟨hclosing, hdone, hgroups⟩ :=
    admits_closing hends (fun t => kind_of_mem_closeTokens (t := t))
      (length_closeTokens (byteLength lead + byteLength body) (openGroups ts).length)
  obtain ⟨e, hparse⟩ :=
    exists_parse_of_admits (admits_append.mpr ⟨hadmits, hclosing⟩) hdone hgroups
  exact ⟨e, parseQuery_eq_ok_iff.mpr ⟨_, hread, hparse⟩⟩

end

/-! ## Phrases that never end -/

namespace MaximalMunch

variable {afterBlank : Bool} {offset position : Nat} {c : Char} {cs : List Char} {mode : Mode}

/-- Only a phrase never ends: it goes on to the end of the query. -/
lemma lexeme_eq_notFinished
    (h : lexeme afterBlank offset c cs = .error (.notFinished mode position)) :
    c = '"' ∧ position = offset ∧ ∀ d ∈ cs, isPhraseContent d = true := by
  unfold lexeme at h
  split_ifs at h with hopen hclose hquote hword
  · rcases cs with _ | ⟨d, cs⟩
    · simp [openLexeme] at h
    · rw [openLexeme] at h
      split_ifs at h
      simp at h
  · rw [phraseLexeme] at h
    rcases hdrop : cs.dropWhile isPhraseContent with _ | ⟨d, after⟩
    · rw [hdrop, endPhrase, Except.error.injEq, LexError.notFinished.injEq] at h
      exact ⟨hquote, h.2.symm, List.dropWhile_eq_nil_iff.mp hdrop⟩
    · rw [hdrop, endPhrase] at h
      split_ifs at h
      simp at h
  · rw [wordLexeme] at h
    rcases hdrop : (c :: cs).dropWhile isWordChar with _ | ⟨d, after⟩
    · simp [hdrop, endWord] at h
    · rw [hdrop, endWord] at h
      split_ifs at h
      simp at h
  · simp at h

/-- A quote ends a phrase that has some content. -/
lemma exists_munch_quote_iff (hcs : ∀ d ∈ cs, isPhraseContent d = true) :
    (∃ ts, munch afterBlank offset ('"' :: cs ++ ['"']) = .ok ts) ↔ cs ≠ [] := by
  constructor
  · rintro ⟨ts, hts⟩ rfl
    have hempty : lexeme afterBlank offset '"' ['"'] =
        .error (.forbiddenCharacter '"' .phrase (offset + 1)) := rfl
    have herror : munch afterBlank offset ['"', '"'] =
        .error (.forbiddenCharacter '"' .phrase (offset + 1)) :=
      munch_of_lexeme_eq_error (by decide) hempty
    rw [List.cons_append, List.nil_append, herror] at hts
    cases hts
  · intro hne
    rw [munch_phrase hne hcs, munch]
    exact ⟨_, rfl⟩

/-- A phrase that never ends begins with a quote, and another quote at the end ends it if and only
if there is something in between. -/
lemma exists_opening_of_munch
    (h : munch afterBlank offset cs = .error (.notFinished mode position)) :
    ∃ before inner, cs = before ++ '"' :: inner ∧ offset + byteLength before = position ∧
      ((∃ ts, munch afterBlank offset (cs ++ ['"']) = .ok ts) ↔ inner ≠ []) := by
  fun_induction munch afterBlank offset cs with
  | case1 => simp at h
  | case2 afterBlank offset c cs hblank ih =>
    obtain ⟨before, inner, rfl, hposition, hiff⟩ := ih h
    refine ⟨c :: before, inner, rfl, ?_, ?_⟩
    · rw [byteLength_cons, ← Nat.add_assoc, hposition]
    · rw [List.cons_append, munch, if_pos hblank]
      exact hiff
  | case3 afterBlank offset c cs hblank e hlex =>
    obtain rfl := Except.error.inj h
    obtain ⟨rfl, rfl, hcs⟩ := lexeme_eq_notFinished hlex
    exact ⟨[], cs, rfl, rfl, exists_munch_quote_iff hcs⟩
  | case4 afterBlank offset c cs hblank token rest hlex ih =>
    rcases hrest : munch false (offset + byteLength token.text.toList) rest with e | ts
    · rw [hrest] at h
      obtain rfl := Except.error.inj h
      obtain ⟨before, inner, rfl, hposition, hiff⟩ := ih hrest
      have hmore : lexeme afterBlank offset c (cs ++ ['"']) =
          .ok (token, before ++ '"' :: inner ++ ['"']) :=
        lexeme_append hlex (by simp)
      refine ⟨token.text.toList ++ before, inner, ?_, ?_, ?_⟩
      · rw [(isLexeme_of_lexeme hlex).chars_eq, List.append_assoc]
      · rw [byteLength_append, ← Nat.add_assoc, hposition]
      · rw [List.cons_append, munch_of_lexeme hblank hmore, ← hiff]
        cases munch false (offset + byteLength token.text.toList)
          (before ++ '"' :: inner ++ ['"']) <;> simp [Except.map]
    · simp [hrest, Except.map] at h

end MaximalMunch

/-- A quote at the end of a query ends the phrase that the query leaves open, unless that is the
quote at its end. -/
lemma exists_opening_of_tokenize {query : String} {mode : Mode} {position : Nat}
    (h : tokenize query = .error (.notFinished mode position)) :
    ∃ before inner, (trimPaddingEnd query).toList = before ++ '"' :: inner ∧
      byteLength before = position ∧
        ((∃ ts, tokenize (trimPaddingEnd query ++ "\"") = .ok ts) ↔ inner ≠ []) := by
  obtain ⟨lead, body, trail, hpadded⟩ := exists_paddedAs query
  rw [hpadded.tokenize_eq_munch] at h
  obtain ⟨before, inner, rfl, hposition, hiff⟩ := exists_opening_of_munch h
  have hbody : before ++ '"' :: inner ≠ [] := by simp
  have hlast : ∀ c ∈ ['"'].getLast?, ' ' < c := by
    rintro c ⟨⟩
    decide
  have hadded := hpadded.append hbody hlast
  refine ⟨lead ++ before, inner, ?_, ?_, ?_⟩
  · rw [hpadded.toList_trimPaddingEnd hbody, List.append_assoc]
  · rw [byteLength_append, hposition]
  · rw [show "\"" = String.ofList ['"'] from rfl, hadded.tokenize_eq_munch]
    exact hiff

/-! ## Blanks after an opening parenthesis -/

namespace Lexer

variable {lexer left : Lexer} {offset position : Nat} {c d : Char} {cs : List Char}

/-- Only a lexer that has just read an opening parenthesis refuses a character there, and the
character is a blank. -/
lemma of_refused_openParen (hvalid : lexer.Valid)
    (h : (lexer.push offset c).error = some (.forbiddenCharacter d .openParen position)) :
    lexer.mode = .openParen ∧ isBlank c = true := by
  have hmode : lexer.mode = .openParen := by
    have hpushed : Pushed lexer offset c (lexer.push offset c) := pushed_push hvalid
    generalize lexer.push offset c = step at h hpushed
    cases hpushed with
    | refused _ hleaves _ =>
      have hleft := (LexError.forbiddenCharacter.inj (Option.some.inj h)).2.1
      cases hleaves with
      | lost => cases hleft
      | word => cases hleft
      | kept => exact hleft
    | _ => simp at h
  refine ⟨hmode, ?_⟩
  by_contra hblank
  have hpush : lexer.push offset c = lexer.finishThenStart .openParen offset c := by
    rw [push, hmode]
    exact if_neg hblank
  rw [hpush, finishThenStart, beginToken] at h
  split at h <;> simp [forbid, cleared] at h

/-- The last character that such a lexer has read is the parenthesis, and it is the last token. -/
lemma Reads.exists_openParen (h : Reads offset cs left) (hmode : left.mode = .openParen) :
    ∃ before ts, cs = before ++ ['('] ∧
      new.tokens offset cs = .ok (ts ++ [⟨.openParen, "(", offset + byteLength before⟩]) := by
  obtain ⟨done, hdone⟩ := h.exists_tokens
  have hall := hdone []
  cases h with
  | nil => simp [new] at hmode
  | @snoc cs lexer c hreads haccepted =>
    have hpushed : Pushed lexer (offset + byteLength cs) c
        (lexer.push (offset + byteLength cs) c) := pushed_push hreads.valid
    generalize lexer.push (offset + byteLength cs) c = step at hmode hall haccepted hpushed
    cases hpushed with
    | begun _ hopening _ =>
      obtain rfl : _ = Mode.openParen := hmode
      have hparen : c = '(' := by
        unfold opening? at hopening
        split_ifs at hopening with hopen <;> simp_all
      subst hparen
      rw [List.append_nil] at hall
      exact ⟨cs, done, rfl, hall⟩
    | spelled _ _ hnext =>
      obtain rfl : _ = Mode.openParen := hmode
      rcases hnext with hnext | ⟨k, hnext⟩ <;> cases hnext
    | _ => simp at hmode haccepted

end Lexer

section

open Lexer

variable {query : String} {c : Char} {mode : Mode} {position : Nat} {e : LexError}

/-- A character that is refused in the mode of an opening parenthesis is a blank, and stands right
after one. -/
lemma exists_openParen_of_tokenize
    (h : tokenize query = .error (.forbiddenCharacter c .openParen position)) :
    isBlank c = true ∧ ∃ before after ts, query.toList = before ++ '(' :: c :: after ∧
      byteLength before + 1 = position ∧ tokenize (String.ofList (before ++ ['('])) =
        .ok (ts ++ [⟨.openParen, "(", byteLength before⟩]) := by
  obtain ⟨lead, body, trail, hpadded, ⟨cs, d, after, left, rfl, hreads, hrefused⟩ |
    ⟨left, -, -, he⟩⟩ := exists_reads_of_tokenize_eq_error h
  · obtain ⟨hmode, hblank⟩ := of_refused_openParen hreads.valid hrefused
    obtain ⟨mode', he, -⟩ := error_push hreads.valid hreads.mode_ne_finished hrefused
    obtain ⟨rfl, -, rfl⟩ := LexError.forbiddenCharacter.inj he
    obtain ⟨before, ts, rfl, htokens⟩ := hreads.exists_openParen hmode
    have hparen : byteLength ['('] = 1 := rfl
    have hquery : (String.ofList (lead ++ before ++ ['('])).toList =
        lead ++ (before ++ ['(']) ++ [] := by simp
    have hbefore :
        PaddedAs (String.ofList (lead ++ before ++ ['('])) lead (before ++ ['(']) [] := by
      refine ⟨hquery, hpadded.lead_le, by simp, hpadded.lt_head_left, ?_⟩
      intro d hd
      obtain rfl : '(' = d := by simpa using hd
      decide
    refine ⟨hblank, lead ++ before, after ++ trail, ts, ?_, ?_, ?_⟩
    · rw [hpadded.toList_eq]
      simp
    · rw [byteLength_append, byteLength_append, hparen, Nat.add_assoc]
    · rw [hbefore.tokenize_eq_tokens, htokens, byteLength_append]
  · cases he

/-! ## Digits -/

/-- The quotes of what is split into tokens come in pairs. -/
lemma Tiles.even_count_quote {offset : Nat} {cs : List Char} {ts : List Token}
    (h : Tiles offset cs ts) : Even (cs.count '"') := by
  induction h with
  | nil => exact Even.zero
  | blank hblank _ ih =>
    rw [List.count_cons_of_ne]
    · exact ih
    · rintro rfl
      exact absurd hblank (by decide)
  | token hwell _ ih =>
    rw [List.count_append]
    exact (even_count_quote_of_wellFormed hwell).add ih

/-- The quotes of a query that is split into tokens come in pairs. -/
lemma even_count_quote_of_tokenize {ts : List Token} (h : tokenize query = .ok ts) :
    Even (query.toList.count '"') := by
  obtain ⟨lead, body, trail, hquery, hlead, htrail, htiles⟩ := exists_tiles_of_tokenize h
  have hleadCount : lead.count '"' = 0 := List.count_eq_zero.mpr (quote_notMem_of_le_space hlead)
  have htrailCount : trail.count '"' = 0 :=
    List.count_eq_zero.mpr (quote_notMem_of_le_space htrail)
  rw [hquery, List.count_append, List.count_append, hleadCount, htrailCount, Nat.zero_add,
    Nat.add_zero]
  exact htiles.even_count_quote

/-- A digit is not refused in a phrase. -/
lemma mode_ne_phrase_of_isDigit (hc : c.isDigit = true)
    (h : tokenize query = .error (.forbiddenCharacter c mode position)) : mode ≠ .phrase := by
  rintro rfl
  obtain ⟨lead, body, trail, -, ⟨cs, d, after, left, -, hreads, hrefused⟩ |
    ⟨left, -, -, he⟩⟩ := exists_reads_of_tokenize_eq_error h
  · obtain ⟨mode', he, hphrase⟩ := error_push hreads.valid hreads.mode_ne_finished hrefused
    obtain ⟨rfl, rfl, -⟩ := LexError.forbiddenCharacter.inj he
    have hcontent : isPhraseChar c = true := by simp [isPhraseChar, hc]
    have hquote : c ≠ '"' := by
      rintro rfl
      exact absurd hc (by decide)
    have hpush : ∀ offset, left.push offset c = left.extend c := by
      intro offset
      rw [push, hphrase.mp rfl]
      simp [pushPhrase, hquote, hcontent]
    rw [hpush] at hrefused
    cases hrefused
  · cases he

end

/-! ## The hints of a query -/

/-- The error of the query says the truth where the hint for it says what to do. -/
structure HintsHold (query : String) (e : QueryError) : Prop where
  /-- Where closing parentheses are missing, as many as there are open groups complete the query. -/
  missing_close : ∀ position, e.error = .missingClose position →
    ∃ tokens, tokenize query = .ok tokens ∧ ∃ expr, parseQuery (trimPaddingEnd query ++
      String.ofList (List.replicate (openGroups tokens).length ')')) = .ok expr
  /-- Where a phrase never ends, a quote at the end ends it if and only if the quote that opens the
  phrase is not the last character. -/
  unfinished_phrase : ∀ mode position, e.error = .tokenizer (.notFinished mode position) →
    ∃ before inner, (trimPaddingEnd query).toList = before ++ '"' :: inner ∧
      byteLength before = position ∧
        ((∃ tokens, tokenize (trimPaddingEnd query ++ "\"") = .ok tokens) ↔ inner ≠ [])
  /-- What is refused after an opening parenthesis is a space or a tab right after it. -/
  blank_after_open : ∀ c position,
    e.error = .tokenizer (.forbiddenCharacter c .openParen position) →
      (c = ' ' ∨ c = '\t') ∧ ∃ before after tokens, query.toList = before ++ '(' :: c :: after ∧
        byteLength before + 1 = position ∧ tokenize (String.ofList (before ++ ['('])) =
          .ok (tokens ++ [⟨.openParen, "(", byteLength before⟩])
  /-- Where the hint is about digits, there is one, and no phrase is open before it: what stands
  there is a query, and its quotes come in pairs. -/
  digit_outside_phrase :
    e.suggestion? = some "Digits are only allowed inside a quoted phrase, e.g. '\"version 2\"'" →
      ∃ c mode position before after tokens,
        e.error = .tokenizer (.forbiddenCharacter c mode position) ∧ c.isDigit = true ∧
          mode ≠ .phrase ∧ query.toList = before ++ c :: after ∧ byteLength before = position ∧
            tokenize (String.ofList before) = .ok tokens ∧ Even (before.count '"')

section

variable {query : String} {e : QueryError}

/-- The hint about digits is given for a digit that the lexer refuses. -/
lemma exists_digit_of_suggestion
    (h : e.suggestion? =
      some "Digits are only allowed inside a quoted phrase, e.g. '\"version 2\"'") :
    ∃ c mode position, e.error = .tokenizer (.forbiddenCharacter c mode position) ∧
      c.isDigit = true := by
  unfold QueryError.suggestion? at h
  split at h
  case h_2 c mode position herror =>
    split_ifs at h with hopen hdigit
    · exact absurd (Option.some.inj h) (by decide)
    · exact ⟨c, mode, position, herror, hdigit⟩
  all_goals exact absurd h (by decide)

/-- A digit that the lexer refuses stands in no phrase. -/
lemma exists_before_of_digit {c : Char} {mode : Mode} {position : Nat}
    (h : tokenize query = .error (.forbiddenCharacter c mode position)) (hc : c.isDigit = true) :
    mode ≠ .phrase ∧ ∃ before after tokens, query.toList = before ++ c :: after ∧
      byteLength before = position ∧ tokenize (String.ofList before) = .ok tokens ∧
        Even (before.count '"') := by
  have hmode := mode_ne_phrase_of_isDigit hc h
  obtain ⟨before, hposition, hrefused⟩ := exists_refusedAfter h
  obtain ⟨after, hquery⟩ := hrefused.split
  obtain ⟨tokens, htokens⟩ := hrefused.reads hmode
  refine ⟨hmode, before.toList, after.toList, tokens, ?_, ?_, ?_, ?_⟩
  · rw [hquery]
    simp
  · rw [← utf8ByteSize_eq_byteLength, hposition]
  · rwa [String.ofList_toList]
  · exact even_count_quote_of_tokenize htokens

/-- An error of the lexer is not the parser's. -/
lemma tokenize_eq_error_of_parseQuery {lexError : LexError} (h : parseQuery query = .error e)
    (herror : e.error = .tokenizer lexError) : tokenize query = .error lexError := by
  obtain ⟨-, ⟨lexError', htokens, herror'⟩ | ⟨tokens, -, hparse⟩⟩ := parseQuery_eq_error h
  · rw [herror, ParseError.tokenizer.injEq] at herror'
    rw [htokens, herror']
  · rcases exists_token_of_parse_error hparse with ⟨-, hempty⟩ | ⟨t, -, hpoints⟩
    · rw [herror] at hempty
      cases hempty
    · exact absurd herror (hpoints.ne_tokenizer lexError)

/-- The errors of a query say the truth where the hints for them say what to do. -/
theorem hints_are_truthful (h : parseQuery query = .error e) : HintsHold query e := by
  constructor
  · intro position herror
    obtain ⟨-, ⟨lexError, -, herror'⟩ | ⟨tokens, htokens, hparse⟩⟩ := parseQuery_eq_error h
    · rw [herror] at herror'
      cases herror'
    · rw [herror] at hparse
      obtain ⟨hadmits, hends⟩ := admits_of_missingClose hparse
      exact ⟨tokens, htokens, exists_parseQuery_of_closing htokens hadmits hends⟩
  · intro mode position herror
    exact exists_opening_of_tokenize (tokenize_eq_error_of_parseQuery h herror)
  · intro c position herror
    obtain ⟨hblank, hplace⟩ :=
      exists_openParen_of_tokenize (tokenize_eq_error_of_parseQuery h herror)
    exact ⟨isBlank_eq_true_iff.mp hblank, hplace⟩
  · intro hhint
    obtain ⟨c, mode, position, herror, hdigit⟩ := exists_digit_of_suggestion hhint
    obtain ⟨hmode, before, after, tokens, hplace⟩ :=
      exists_before_of_digit (tokenize_eq_error_of_parseQuery h herror) hdigit
    exact ⟨c, mode, position, before, after, tokens, herror, hdigit, hmode, hplace⟩

/-- Four queries, one for each hint, and what their errors say the truth about. -/
theorem refused_queries_have_true_hints :
    let unclosed : QueryError := ⟨.missingClose 0, "((tea) OR milk "⟩
    let unfinished : QueryError := ⟨.tokenizer (.notFinished .phrase 4), "tea \"dark \t"⟩
    let blank : QueryError := ⟨.tokenizer (.forbiddenCharacter '\t' .openParen 5), "tea (\tmilk)"⟩
    let digit : QueryError := ⟨.tokenizer (.forbiddenCharacter '2' .blank 10), "\"is 1\" or 2"⟩
    (parseQuery unclosed.query = .error unclosed ∧ HintsHold unclosed.query unclosed) ∧
      (parseQuery unfinished.query = .error unfinished ∧ HintsHold unfinished.query unfinished) ∧
      (parseQuery blank.query = .error blank ∧ HintsHold blank.query blank) ∧
      parseQuery digit.query = .error digit ∧ HintsHold digit.query digit := by
  intro unclosed unfinished blank digit
  have hunclosed : parseQuery unclosed.query = .error unclosed := by
    have htokens : tokenize unclosed.query =
        .ok [⟨.openParen, "(", 0⟩, ⟨.openParen, "(", 1⟩, ⟨.word, "tea", 2⟩,
          ⟨.closeParen, ")", 5⟩, ⟨.keyword .or, "OR", 7⟩, ⟨.word, "milk", 10⟩] := by decide +kernel
    rw [parseQuery, htokens]
    cbv
  have hunfinished : parseQuery unfinished.query = .error unfinished := by
    have htokens : tokenize unfinished.query = .error (.notFinished .phrase 4) := by decide +kernel
    rw [parseQuery, htokens]
  have hblank : parseQuery blank.query = .error blank := by
    have htokens : tokenize blank.query = .error (.forbiddenCharacter '\t' .openParen 5) := by
      decide +kernel
    rw [parseQuery, htokens]
  have hdigit : parseQuery digit.query = .error digit := by
    have htokens : tokenize digit.query = .error (.forbiddenCharacter '2' .blank 10) := by
      decide +kernel
    rw [parseQuery, htokens]
  exact ⟨⟨hunclosed, hints_are_truthful hunclosed⟩, ⟨hunfinished, hints_are_truthful hunfinished⟩,
    ⟨hblank, hints_are_truthful hblank⟩, hdigit, hints_are_truthful hdigit⟩

end

end SearchQuery

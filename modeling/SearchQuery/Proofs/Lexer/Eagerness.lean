import SearchQuery.Proofs.Lexer.Padding
import SearchQuery.Proofs.Lexer.Steps

/-!
# Errors of the lexer come at once, and not too soon

The lexer refuses a query at the first character that no query could have there.  What comes after
that character has no say in it, and what comes before it is not at fault: it is a query of its own,
or becomes one when the phrase that is open there is completed.  A phrase that the query leaves open
is the only thing that goes wrong at its end.

`Reads` follows a lexer as long as it refuses nothing.  The one thing to keep account of is whether
a phrase is open, and where (`Reads.exists_quote`).  Padding neither opens a phrase nor closes one,
so it does not matter that the padding at the end of a text is stripped when the text is read as a
query of its own (`Reads.exists_tokenize_eq`).
-/

namespace SearchQuery

open MaximalMunch

namespace Lexer

variable {lexer left : Lexer} {offset : Nat} {c : Char} {cs ds lead rest : List Char}
  {e : LexError} {query : String}

/-! ## One character -/

/-- Only a quote opens a phrase. -/
lemma opening?_eq_phrase_iff : opening? c = some .phrase ↔ c = '"' := by
  constructor
  · intro h
    unfold opening? at h
    split_ifs at h with hopen hclose hquote <;> simp_all
  · rintro rfl
    rfl

/-- No character ends the query. -/
lemma opening?_ne_finished : opening? c ≠ some .finished := by
  intro h
  unfold opening? at h
  split_ifs at h <;> simp at h

/-- An error is about the character just read, and names a phrase when one is open. -/
lemma error_push (hvalid : lexer.Valid) (hmode : lexer.mode ≠ .finished)
    (h : (lexer.push offset c).error = some e) :
    ∃ mode, e = .forbiddenCharacter c mode offset ∧ (mode = .phrase ↔ lexer.mode = .phrase) := by
  have hpushed : Pushed lexer offset c (lexer.push offset c) := pushed_push hvalid
  generalize lexer.push offset c = step at h hpushed
  cases hpushed with
  | ended hfinished => exact absurd hfinished hmode
  | refused _ _ hphrase => exact ⟨_, (Option.some.inj h).symm, hphrase⟩
  | _ => simp at h

/-- What a character that is accepted does about phrases: it opens one, stands in one, closes one,
or has nothing to do with one. -/
inductive Accepts (lexer : Lexer) (offset : Nat) (c : Char) (left : Lexer) : Prop
  | opens : lexer.mode ≠ .phrase → c = '"' → left.mode = .phrase → left.start = offset →
      Accepts lexer offset c left
  | inside : lexer.mode = .phrase → isPhraseContent c = true → left.mode = .phrase →
      left.start = lexer.start → Accepts lexer offset c left
  | closes : lexer.mode = .phrase → c = '"' → left.mode ≠ .phrase → left.mode ≠ .finished →
      Accepts lexer offset c left
  | outside : lexer.mode ≠ .phrase → c ≠ '"' → left.mode ≠ .phrase → left.mode ≠ .finished →
      Accepts lexer offset c left

/-- Every character that is accepted does one of the four things. -/
lemma accepts_push (hvalid : lexer.Valid) (h : (lexer.push offset c).error = none) :
    Accepts lexer offset c (lexer.push offset c).lexer := by
  have hpushed : Pushed lexer offset c (lexer.push offset c) := pushed_push hvalid
  generalize lexer.push offset c = step at h hpushed ⊢
  cases hpushed with
  | ended => simp at h
  | refused => simp at h
  | passed hmode hblank =>
    refine .outside hmode ?_ (by simp) (by simp)
    rintro rfl
    exact absurd hblank (by decide)
  | @begun mode _ hmode hopen =>
    by_cases hquote : c = '"'
    · have hphrase : mode = .phrase := by
        simpa [opening?_eq_phrase_iff.mpr hquote, eq_comm] using hopen
      exact .opens hmode hquote hphrase rfl
    · refine .outside hmode hquote ?_ ?_
      · rintro rfl
        exact hquote (opening?_eq_phrase_iff.mp hopen)
      · rintro rfl
        exact opening?_ne_finished hopen
  | spelled hmode hword hnext =>
    refine .outside hmode (ne_of_isWordChar hword (by decide)) ?_ ?_
    · rcases hnext with rfl | ⟨k, rfl⟩ <;> simp
    · rcases hnext with rfl | ⟨k, rfl⟩ <;> simp
  | quoted hmode hcontent => exact .inside hmode hcontent rfl rfl
  | unquoted hmode hquote => exact .closes hmode hquote (by simp) (by simp)

/-- Padding neither opens nor closes a phrase. -/
lemma Accepts.mode_eq_phrase_iff (h : Accepts lexer offset c left) (hc : c ≤ ' ') :
    left.mode = .phrase ↔ lexer.mode = .phrase := by
  have hquote : c ≠ '"' := by
    rintro rfl
    exact absurd hc (by decide)
  cases h with
  | opens _ hc => exact absurd hc hquote
  | inside hmode _ hleft => exact iff_of_true hleft hmode
  | closes _ hc => exact absurd hc hquote
  | outside hmode _ hleft => exact iff_of_false hleft hmode

/-! ## As long as nothing is refused -/

/-- A new lexer that is fed the characters, the first of them at byte `offset`, refuses none of them
and is then `left`. -/
inductive Reads (offset : Nat) : List Char → Lexer → Prop
  | nil : Reads offset [] new
  | snoc {cs : List Char} {lexer : Lexer} {c : Char} : Reads offset cs lexer →
      (lexer.push (offset + byteLength cs) c).error = none →
        Reads offset (cs ++ [c]) (lexer.push (offset + byteLength cs) c).lexer

namespace Reads

/-- The text in progress is one that the mode asks for. -/
lemma valid (h : Reads offset cs left) : left.Valid := by
  induction h with
  | nil => rfl
  | snoc _ _ ih => exact (sound_push ih).valid

/-- The query has not ended. -/
lemma mode_ne_finished (h : Reads offset cs left) : left.mode ≠ .finished := by
  induction h with
  | nil => simp [new]
  | snoc hreads haccepted _ =>
    cases accepts_push hreads.valid haccepted with
    | opens _ _ hmode => simp [hmode]
    | inside _ _ hmode => simp [hmode]
    | closes _ _ _ hmode => exact hmode
    | outside _ _ _ hmode => exact hmode

/-- The tokens of all characters are those that have been completed and those that the lexer has
still to complete. -/
lemma exists_tokens (h : Reads offset cs left) :
    ∃ done, ∀ rest, new.tokens offset (cs ++ rest) =
      (left.tokens (offset + byteLength cs) rest).map (done ++ ·) := by
  induction h with
  | nil =>
    refine ⟨[], ?_⟩
    intro rest
    rw [List.nil_append, byteLength_nil, Nat.add_zero]
    cases new.tokens offset rest <;> rfl
  | @snoc cs lexer c hreads haccepted ih =>
    obtain ⟨done, hdone⟩ := ih
    refine ⟨done ++ (lexer.push (offset + byteLength cs) c).completed.toList, ?_⟩
    intro rest
    rw [List.append_assoc, List.singleton_append, hdone, tokens, Step.result, haccepted,
      byteLength_append, byteLength_cons, byteLength_nil, Nat.add_zero, ← Nat.add_assoc]
    simp only [Except.bind]
    rw [except_map_map]
    congr 1
    funext ts
    simp

/-- What is refused after the characters is refused whatever follows it. -/
lemma tokens_of_refused (h : Reads offset cs left)
    (hrefused : (left.push (offset + byteLength cs) c).error = some e) (rest : List Char) :
    new.tokens offset (cs ++ c :: rest) = .error e := by
  obtain ⟨done, hdone⟩ := h.exists_tokens
  rw [hdone, tokens, Step.result, hrefused]
  rfl

/-- At the end of the query only an open phrase is refused. -/
lemma exists_tokens_eq_ok (h : Reads offset cs left) (hmode : left.mode ≠ .phrase) :
    ∃ ts, new.tokens offset cs = .ok ts := by
  obtain ⟨done, hdone⟩ := h.exists_tokens
  have hclose : left.close.error = none := by
    by_contra hrefused
    rcases mode_of_refused_close h.valid hrefused with hphrase | hfinished
    · exact hmode hphrase
    · exact h.mode_ne_finished hfinished
  have hall := hdone []
  rw [List.append_nil, tokens, Step.result, hclose] at hall
  exact ⟨_, hall⟩

/-- A phrase that is open at the end of the query is refused. -/
lemma tokens_of_phrase (h : Reads offset cs left) (hmode : left.mode = .phrase) :
    new.tokens offset cs = .error (.notFinished .phrase left.start) := by
  obtain ⟨done, hdone⟩ := h.exists_tokens
  have hall := hdone []
  rw [List.append_nil, tokens_nil_of_phrase hmode] at hall
  exact hall

/-- Any phrase that is open can be completed. -/
lemma exists_tokens_of_phrase (h : Reads offset cs left) (hmode : left.mode = .phrase) :
    ∃ ts, new.tokens offset (cs ++ ['a', '"']) = .ok ts := by
  obtain ⟨done, hdone⟩ := h.exists_tokens
  obtain ⟨content, htext, -⟩ : ∃ content : List Char, left.text.toList = '"' :: content ∧
      ∀ c ∈ content, c ≠ '"' ∧ isPhraseContent c = true := by
    have hvalid := h.valid
    rwa [Valid, hmode] at hvalid
  have hleft : left = quoting content left.start := by
    rw [quoting, ← hmode, ← htext, String.ofList_toList]
  have hletter : ∀ position, (quoting content left.start).push position 'a' =
      { lexer := quoting (content ++ ['a']) left.start } :=
    fun _ => push_quoting.trans (if_pos (by decide))
  have hquote : ∀ position, (quoting (content ++ ['a']) left.start).push position '"' =
      { lexer := (quoting (content ++ ['a']) left.start).cleared
        completed := some
          ⟨.phrase, String.ofList ('"' :: (content ++ ['a']) ++ ['"']), left.start⟩ } :=
    fun _ => push_quoting.trans ((if_neg (by decide)).trans (if_pos ⟨rfl, by simp⟩))
  have hlast : left.tokens (offset + byteLength cs) ['a', '"'] =
      .ok [⟨.phrase, String.ofList ('"' :: (content ++ ['a']) ++ ['"']), left.start⟩] := by
    rw [hleft, tokens_of_step (hletter _), tokens_of_completed (hquote _)]
    rfl
  exact ⟨_, (hdone _).trans (congrArg _ hlast)⟩

/-- What is followed by padding has been read as well, with the same phrase open or none. -/
lemma exists_of_append (h : Reads offset (cs ++ ds) left) (hds : ∀ d ∈ ds, d ≤ ' ') :
    ∃ lexer, Reads offset cs lexer ∧ (lexer.mode = .phrase ↔ left.mode = .phrase) := by
  induction ds using List.reverseRecOn generalizing left with
  | nil => exact ⟨left, by simpa using h, Iff.rfl⟩
  | append_singleton ds d ih =>
    rw [List.forall_mem_append] at hds
    rw [← List.append_assoc] at h
    generalize hall : cs ++ ds ++ [d] = es at h
    cases h with
    | nil => simp at hall
    | snoc hreads haccepted =>
      obtain ⟨rfl, hd⟩ := List.append_inj' hall rfl
      obtain rfl := List.singleton_inj.mp hd
      obtain ⟨lexer, hlexer, hphrase⟩ := ih hreads hds.1
      have hsame := (accepts_push hreads.valid haccepted).mode_eq_phrase_iff (hds.2 d (by simp))
      exact ⟨lexer, hlexer, hphrase.trans hsame.symm⟩

/-- A phrase that is open began with a quote, at which none was open, and has gone on since. -/
lemma exists_quote (h : Reads offset cs left) (hmode : left.mode = .phrase) :
    ∃ before content lexer, cs = before ++ '"' :: content ∧ Reads offset before lexer ∧
      lexer.mode ≠ .phrase ∧ left.start = offset + byteLength before ∧
      ∀ c ∈ content, isPhraseContent c = true := by
  induction h with
  | nil => simp [new] at hmode
  | @snoc cs lexer c hreads haccepted ih =>
    cases accepts_push hreads.valid haccepted with
    | opens hnone hquote _ hstart =>
      exact ⟨cs, [], lexer, by rw [hquote], hreads, hnone, hstart, by simp⟩
    | inside hopen hc _ hstart =>
      obtain ⟨before, content, first, rfl, hbefore, hfirst, hoffset, hcontent⟩ := ih hopen
      refine ⟨before, content ++ [c], first, by simp, hbefore, hfirst, hstart.trans hoffset, ?_⟩
      rw [List.forall_mem_append]
      exact ⟨hcontent, by simpa using hc⟩
    | closes _ _ hleft => exact absurd hmode hleft
    | outside _ _ hleft => exact absurd hmode hleft

end Reads

/-- Reading goes wrong at a character that is refused, or at the end with a phrase open. -/
lemma exists_reads_of_tokens_eq_error (hreads : Reads offset cs lexer)
    (h : lexer.tokens (offset + byteLength cs) rest = .error e) :
    (∃ before c after left, cs ++ rest = before ++ c :: after ∧ Reads offset before left ∧
      (left.push (offset + byteLength before) c).error = some e) ∨
    ∃ left, Reads offset (cs ++ rest) left ∧ left.mode = .phrase ∧
      e = .notFinished .phrase left.start := by
  induction rest generalizing cs lexer with
  | nil =>
    right
    have hrefused : lexer.close.error ≠ none := by
      intro hnone
      rw [tokens, Step.result, hnone] at h
      simp [Except.map] at h
    have hmode : lexer.mode = .phrase :=
      (mode_of_refused_close hreads.valid hrefused).resolve_right hreads.mode_ne_finished
    rw [tokens_nil_of_phrase hmode] at h
    rw [List.append_nil]
    exact ⟨lexer, hreads, hmode, (Except.error.inj h).symm⟩
  | cons c rest ih =>
    rcases hpush : (lexer.push (offset + byteLength cs) c).error with _ | e'
    · have hnext : (lexer.push (offset + byteLength cs) c).lexer.tokens
          (offset + byteLength (cs ++ [c])) rest = .error e := by
        rw [tokens, Step.result, hpush] at h
        rw [byteLength_append, byteLength_cons, byteLength_nil, Nat.add_zero, ← Nat.add_assoc]
        rcases htokens : (lexer.push (offset + byteLength cs) c).lexer.tokens
          (offset + byteLength cs + c.utf8Size) rest with e' | ts
        · simpa [htokens, Except.bind, Except.map] using h
        · simp [htokens, Except.bind, Except.map] at h
      rw [List.append_cons]
      exact ih (hreads.snoc hpush) hnext
    · left
      rw [tokens, Step.result, hpush] at h
      obtain rfl := Except.error.inj h
      exact ⟨cs, c, rest, lexer, rfl, hreads, hpush⟩

/-! ## Whole queries -/

/-- A text that a new lexer reads is a query of its own, unless it leaves a phrase open. -/
lemma Reads.exists_tokenize_eq (h : Reads (byteLength lead) cs left)
    (hquery : query.toList = lead ++ cs) (hlead : ∀ c ∈ lead, c ≤ ' ')
    (hhead : ∀ c ∈ cs.head?, ' ' < c) :
    (left.mode ≠ .phrase → ∃ ts, tokenize query = .ok ts) ∧
      (left.mode = .phrase → ∃ start, tokenize query = .error (.notFinished .phrase start)) := by
  obtain ⟨body, trail, rfl, hpadded⟩ := exists_paddedAs_of_append hquery hlead hhead
  obtain ⟨lexer, hlexer, hphrase⟩ := h.exists_of_append hpadded.trail_le
  rw [hpadded.tokenize_eq_tokens]
  constructor
  · intro hmode
    exact hlexer.exists_tokens_eq_ok fun hopen => hmode (hphrase.mp hopen)
  · intro hmode
    exact ⟨lexer.start, hlexer.tokens_of_phrase (hphrase.mpr hmode)⟩

/-- A character that is refused is refused in every query that goes on from it without padding at
its end. -/
lemma Reads.tokenize_of_refused {more : List Char} (h : Reads (byteLength lead) cs left)
    (hrefused : (left.push (byteLength lead + byteLength cs) c).error = some e)
    (hquery : query.toList = lead ++ (cs ++ c :: more)) (hlead : ∀ d ∈ lead, d ≤ ' ')
    (hhead : ∀ d ∈ (cs ++ [c]).head?, ' ' < d) (hlast : ∀ d ∈ query.toList.getLast?, ' ' < d) :
    tokenize query = .error e := by
  have hpadded : PaddedAs query lead (cs ++ c :: more) [] := by
    refine ⟨by simp [hquery], hlead, by simp, ?_, ?_⟩
    · rw [List.append_cons, List.head?_append_of_ne_nil _ (by simp)]
      exact hhead
    · rwa [hquery, List.getLast?_append_of_ne_nil _ (by simp)] at hlast
  rw [hpadded.tokenize_eq_tokens]
  exact h.tokens_of_refused hrefused more

/-- A text that leaves a phrase open is a query of its own once the phrase is completed. -/
lemma Reads.exists_tokenize_of_phrase (h : Reads (byteLength lead) cs left)
    (hmode : left.mode = .phrase) (hquery : query.toList = lead ++ (cs ++ ['a', '"']))
    (hlead : ∀ d ∈ lead, d ≤ ' ') (hhead : ∀ d ∈ cs.head?, ' ' < d) :
    ∃ ts, tokenize query = .ok ts := by
  have hpadded : PaddedAs query lead (cs ++ ['a', '"']) [] := by
    refine ⟨by simp [hquery], hlead, by simp, ?_, ?_⟩
    · intro d hd
      rw [List.head?_append] at hd
      rcases cs with _ | ⟨c, cs⟩
      · obtain rfl : 'a' = d := by simpa using hd
        decide
      · exact hhead d hd
    · intro d hd
      obtain rfl : '"' = d := by simpa using hd
      decide
  rw [hpadded.tokenize_eq_tokens]
  exact h.exists_tokens_of_phrase hmode

end Lexer

section

open Lexer

variable {query : String} {lead body trail as bs : List Char} {e : LexError} {c : Char}
  {mode : Mode} {position : Nat}

/-- The first part of a body begins like the body. -/
lemma PaddedAs.lt_head_left (h : PaddedAs query lead (as ++ bs) trail) :
    ∀ c ∈ as.head?, ' ' < c := by
  intro c hc
  apply h.lt_head
  exact List.mem_head?_append_of_mem_head? hc

/-- A query goes wrong at a character of its body that is refused, or at the end of the body with a
phrase open. -/
lemma exists_reads_of_tokenize_eq_error (h : tokenize query = .error e) :
    ∃ lead body trail, PaddedAs query lead body trail ∧
      ((∃ before c after left, body = before ++ c :: after ∧
          Reads (byteLength lead) before left ∧
          (left.push (byteLength lead + byteLength before) c).error = some e) ∨
        ∃ left, Reads (byteLength lead) body left ∧ left.mode = .phrase ∧
          e = .notFinished .phrase left.start) := by
  obtain ⟨lead, body, trail, hpadded⟩ := exists_paddedAs query
  rw [hpadded.tokenize_eq_tokens] at h
  exact ⟨lead, body, trail, hpadded, exists_reads_of_tokens_eq_error .nil h⟩

/-- No query is read beyond its end. -/
lemma tokenize_ne_alreadyFinished : tokenize query ≠ .error (.alreadyFinished mode) := by
  intro h
  obtain ⟨lead, body, trail, -, ⟨before, c, after, left, -, hreads, hrefused⟩ | ⟨left, -, -, he⟩⟩ :=
    exists_reads_of_tokenize_eq_error h
  · obtain ⟨mode', he, -⟩ := error_push hreads.valid hreads.mode_ne_finished hrefused
    simp at he
  · simp at he

/-- The query goes on with `c` after `before`.  In the given mode the character is refused there as
soon as it comes, and could not have been refused sooner. -/
structure RefusedAfter (query before : String) (c : Char) (mode : Mode) : Prop where
  split : ∃ after, query = before.push c ++ after
  /-- The character is refused whatever follows it, as long as the query does not end in padding,
  with which a blank would be stripped, too. -/
  eager : ∀ more, (∀ d ∈ (before.push c ++ more).toList.getLast?, ' ' < d) →
    tokenize (before.push c ++ more) = .error (.forbiddenCharacter c mode before.utf8ByteSize)
  /-- What stands before the character is a query, unless a phrase is open there. -/
  reads : mode ≠ .phrase → ∃ ts, tokenize before = .ok ts
  /-- If a phrase is open there, what stands before the character is a query with the phrase
  completed. -/
  completes : mode = .phrase → (∃ start, tokenize before = .error (.notFinished .phrase start)) ∧
    ∃ ts, tokenize (before ++ "a\"") = .ok ts

/-- The query goes on after `before` with a phrase that never ends. -/
structure OpenedAfter (query before : String) : Prop where
  /-- Up to the padding at its end, the query goes on with a quote and what may stand in a
  phrase. -/
  split : ∃ content trail : String, query = before ++ "\"" ++ content ++ trail ∧
    (∀ c ∈ content.toList, isPhraseChar c = true ∨ c = ' ' ∨ c = '\t') ∧
    (∀ c ∈ content.toList.getLast?, ' ' < c) ∧ ∀ c ∈ trail.toList, c ≤ ' '
  /-- What stands before the quote is a query. -/
  reads : ∃ ts, tokenize before = .ok ts

/-- A text put together from two has the bytes of both. -/
lemma utf8ByteSize_ofList_append (as bs : List Char) :
    (String.ofList (as ++ bs)).utf8ByteSize = byteLength as + byteLength bs := by
  rw [utf8ByteSize_eq_byteLength, String.toList_ofList, byteLength_append]

/-- A query that is refused at a character goes on with it after what has been read. -/
lemma exists_refusedAfter (h : tokenize query = .error (.forbiddenCharacter c mode position)) :
    ∃ before, before.utf8ByteSize = position ∧ RefusedAfter query before c mode := by
  obtain ⟨lead, body, trail, hpadded, ⟨cs, d, after, left, rfl, hreads, hrefused⟩ |
    ⟨left, -, -, he⟩⟩ := exists_reads_of_tokenize_eq_error h
  · obtain ⟨mode', he, hphrase⟩ := error_push hreads.valid hreads.mode_ne_finished hrefused
    obtain ⟨rfl, rfl, rfl⟩ : c = d ∧ mode = mode' ∧
        position = byteLength lead + byteLength cs := by simpa using he
    have hbefore : (String.ofList (lead ++ cs)).toList = lead ++ cs := String.toList_ofList
    have hsize := utf8ByteSize_ofList_append lead cs
    have hhead : ∀ d ∈ cs.head?, ' ' < d := hpadded.lt_head_left
    obtain ⟨hclosed, hopen⟩ := hreads.exists_tokenize_eq hbefore hpadded.lead_le hhead
    refine ⟨String.ofList (lead ++ cs), hsize, ?_, ?_, ?_, ?_⟩
    · refine ⟨String.ofList (after ++ trail), ?_⟩
      rw [← String.toList_inj, hpadded.toList_eq]
      simp
    · intro more hlast
      rw [hsize, ← he]
      have hmore : (String.push (String.ofList (lead ++ cs)) c ++ more).toList =
          lead ++ (cs ++ c :: more.toList) := by simp
      refine hreads.tokenize_of_refused hrefused hmore hpadded.lead_le ?_ hlast
      rw [List.append_cons] at hpadded
      exact hpadded.lt_head_left
    · intro hmode
      exact hclosed fun hleft => hmode (hphrase.mpr hleft)
    · intro hmode
      have hleft : left.mode = .phrase := hphrase.mp hmode
      exact ⟨hopen hleft,
        hreads.exists_tokenize_of_phrase hleft (by simp) hpadded.lead_le hhead⟩
  · simp at he

/-- A query that leaves a phrase open goes on with it after what has been read. -/
lemma exists_openedAfter (h : tokenize query = .error (.notFinished mode position)) :
    ∃ before, before.utf8ByteSize = position ∧ OpenedAfter query before := by
  obtain ⟨lead, body, trail, hpadded, ⟨before, c, after, left, -, hreads, hrefused⟩ |
    ⟨left, hreads, hmode, he⟩⟩ := exists_reads_of_tokenize_eq_error h
  · obtain ⟨mode', he, -⟩ := error_push hreads.valid hreads.mode_ne_finished hrefused
    simp at he
  · obtain ⟨-, rfl⟩ : mode = .phrase ∧ position = left.start := by simpa using he
    obtain ⟨cs, content, lexer, rfl, hcs, hnone, hstart, hcontent⟩ := hreads.exists_quote hmode
    have hbefore : (String.ofList (lead ++ cs)).toList = lead ++ cs := String.toList_ofList
    refine ⟨String.ofList (lead ++ cs), ?_, ?_, ?_⟩
    · rw [utf8ByteSize_ofList_append, hstart]
    · refine ⟨String.ofList content, String.ofList trail, ?_, ?_, ?_, ?_⟩
      · rw [← String.toList_inj, hpadded.toList_eq]
        simp
      · simpa [isPhraseContent, isBlank] using hcontent
      · intro c hc
        rw [String.toList_ofList] at hc
        apply hpadded.lt_last
        rw [List.append_cons]
        exact List.mem_getLast?_append_of_mem_getLast? hc
      · simpa using hpadded.trail_le
    · exact (hcs.exists_tokenize_eq hbefore hpadded.lead_le hpadded.lt_head_left).1 hnone

/-- The lexer refuses a query as soon as it can, and not sooner.  It never says that a query has
ended already; a character that it refuses stands where the error says, is refused there whatever
follows it, and is the first at fault; and a phrase that it misses the end of begins where the error
says, and is all that the query is at fault for. -/
theorem lexer_errors_are_eager_and_minimal (query : String) :
    (∀ mode, tokenize query ≠ .error (.alreadyFinished mode)) ∧
    (∀ c mode position, tokenize query = .error (.forbiddenCharacter c mode position) →
      ∃ before, before.utf8ByteSize = position ∧ RefusedAfter query before c mode) ∧
    ∀ mode position, tokenize query = .error (.notFinished mode position) →
      ∃ before, before.utf8ByteSize = position ∧ OpenedAfter query before := by
  refine ⟨?_, ?_, ?_⟩
  · intro mode
    exact tokenize_ne_alreadyFinished
  · intro c mode position h
    exact exists_refusedAfter h
  · intro mode position h
    exact exists_openedAfter h

/-- The blank after the parenthesis is at fault, although only the word after it shows that it is
none of those at the end. -/
example : tokenize "te ( " = .ok [⟨.word, "te", 0⟩, ⟨.openParen, "(", 3⟩] ∧
    tokenize "te ( x" = .error (.forbiddenCharacter ' ' .openParen 4) := by decide

end

end SearchQuery

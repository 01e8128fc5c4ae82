import SearchQuery.Proofs.Lexer.Tiling

/-!
# What a lexer may hold

A lexer is left to its caller, who may push any character at any offset, end the query at any time,
and go on after a refusal.  Whatever the calls, the text in progress is one that the mode asks for
(`Lexer.Valid`).  The parts of a step that are written for a mode therefore find the text that they
expect: an abandoned keyword always makes a word, and a completed token is always well formed.

One statement is carried through all parts of a step, `Lexer.Sound`.  Besides the lexer that the
step leaves and the token that it completes, it keeps account of where the text in progress comes
from: it is empty, or begins with the character just pushed, or goes on with what was there before
(`Lexer.Course`).  Over many calls this tells at which push a token was begun, and that its offset
is the one given there (`Lexer.begunBy_after`).
-/

namespace SearchQuery

open MaximalMunch

/-- The mode that an error names. -/
def LexError.mode : LexError → Mode
  | forbiddenCharacter _ mode _ => mode
  | alreadyFinished mode => mode
  | notFinished mode _ => mode

namespace Lexer

/-! ## Calls -/

/-- What a caller may ask of a lexer. -/
inductive Call where
  /-- To read this character, said to stand at byte `offset`. -/
  | push (offset : Nat) (c : Char)
  /-- To end the query. -/
  | close

/-- Makes one call. -/
def perform (lexer : Lexer) : Call → Step
  | .push offset c => lexer.push offset c
  | .close => lexer.close

/-- The lexer after the calls, each of which is made whether or not those before were refused. -/
def after (lexer : Lexer) (calls : List Call) : Lexer :=
  calls.foldl (fun lexer call => (lexer.perform call).lexer) lexer

/-- The tokens that the calls complete, including those that a refusal loses. -/
def handedOut (lexer : Lexer) : List Call → List Token
  | [] => []
  | call :: calls =>
    (lexer.perform call).completed.toList ++ handedOut (lexer.perform call).lexer calls

/-- The text in progress after the calls begins with `c`, which one of them pushed at `offset`: that
push was accepted with `c` as the whole text, and no token has been completed since. -/
def BegunBy (calls : List Call) (offset : Nat) (c : Char) : Prop :=
  ∃ earlier later, calls = earlier ++ .push offset c :: later ∧
    ((new.after earlier).push offset c).error = none ∧
    ((new.after earlier).push offset c).lexer.text = String.ofList [c] ∧
    ((new.after earlier).push offset c).lexer.handedOut later = []

/-- The text in progress is one that the mode asks for. -/
def Valid (lexer : Lexer) : Prop :=
  match lexer.mode with
  | .expression | .blank | .finished => lexer.text = ""
  | .openParen => lexer.text = "("
  | .closeParen => lexer.text = ")"
  | .word => lexer.text.toList ≠ [] ∧ ∀ c ∈ lexer.text.toList, isWordChar c = true
  | .phrase => ∃ content : List Char, lexer.text.toList = '"' :: content ∧
      ∀ c ∈ content, c ≠ '"' ∧ isPhraseContent c = true
  | .keyword k => lexer.text.toList ≠ [] ∧ lexer.text.toList <+: k.text.toList

/-! ## One step -/

/-- Where the text that a step leaves comes from, if before it the text in progress began at byte
`start`. -/
inductive Course (text : String) (start : Nat) : Call → Step → Prop
  /-- No token is in progress. -/
  | idle {call : Call} {step : Step} : step.lexer.text = "" → Course text start call step
  /-- A token has been begun. -/
  | begun {offset : Nat} {c : Char} {step : Step} : step.error = none →
      step.lexer.text = String.ofList [c] → step.lexer.start = offset →
        Course text start (.push offset c) step
  /-- The token in progress still is, and has lost nothing. -/
  | continued {call : Call} {step : Step} : step.completed = none → step.lexer.start = start →
      step.lexer.text.toList.head? = text.toList.head? → Course text start call step

/-- What is true of every step from a lexer with this text in progress, begun at byte `start`. -/
structure Sound (text : String) (start : Nat) (call : Call) (step : Step) : Prop where
  valid : step.lexer.Valid
  error : ∀ e ∈ step.error, e.mode ≠ .closeParen ∧ ∀ k, e.mode ≠ .keyword k
  completed : ∀ t ∈ step.completed,
    t.WellFormed ∧ t.offset = start ∧ t.text.toList.head? = text.toList.head?
  course : Course text start call step

variable {lexer : Lexer} {mode : Mode} {text : String} {start offset : Nat} {c : Char}
  {call : Call} {kind : Kind}

/-- Appending a character does not change which is the first. -/
lemma head?_push (htext : text.toList ≠ []) :
    (text.push c).toList.head? = text.toList.head? := by
  rw [String.toList_push, List.head?_append_of_ne_nil _ htext]

/-- The first character of a token is one that its mode asks for. -/
lemma valid_of_opening (hc : opening? c = some mode) (hblank : mode ≠ .blank) :
    Valid ⟨mode, String.ofList [c], offset⟩ := by
  unfold opening? at hc
  split_ifs at hc with h₁ h₂ h₃ h₄ h₅ h₆ h₇ h₈ <;> obtain rfl := Option.some.inj hc
  · rw [h₁]
    rfl
  · rw [h₂]
    rfl
  · exact ⟨[], by simp [h₃], by simp⟩
  · exact absurd rfl hblank
  · exact ⟨by simp, by simp [h₅, Keyword.text]⟩
  · exact ⟨by simp, by simp [h₆, Keyword.text]⟩
  · exact ⟨by simp, by simp [h₇, Keyword.text]⟩
  · exact ⟨by simp, by simpa using h₈⟩

/-- A step that only changes the mode. -/
lemma sound_kept {step : Step} (hvalid : step.lexer.Valid)
    (herror : ∀ e ∈ step.error, e.mode ≠ .closeParen ∧ ∀ k, e.mode ≠ .keyword k)
    (hnone : step.completed = none) (hstart : step.lexer.start = start)
    (htext : step.lexer.text = text) : Sound text start call step := by
  refine ⟨hvalid, herror, by simp [hnone], ?_⟩
  exact .continued hnone hstart (by rw [htext])

/-- Refusing a character. -/
lemma sound_forbid (hvalid : Valid ⟨mode, text, start⟩)
    (hmode : mode ≠ .closeParen ∧ ∀ k, mode ≠ .keyword k) :
    Sound text start call (forbid ⟨mode, text, start⟩ offset c) := by
  refine sound_kept hvalid ?_ rfl rfl rfl
  simpa [forbid, LexError.mode] using hmode

/-- Beginning a token. -/
lemma sound_beginToken (h : lexer.AtBoundary) :
    Sound lexer.text lexer.start (.push offset c) (lexer.beginToken offset c) := by
  have hmode : lexer.mode ≠ .closeParen ∧ ∀ k, lexer.mode ≠ .keyword k := by
    rcases h.mode with hm | hm <;> simp [hm]
  have hvalid : lexer.Valid := by
    rcases h.mode with hm | hm <;> rw [Valid, hm] <;> exact h.text
  by_cases hblank : isBlank c = true
  · rw [beginToken_of_blank hblank]
    exact sound_kept h.text (by simp) rfl rfl rfl
  rcases hopen : opening? c with _ | mode
  · rw [beginToken_of_none hopen]
    exact sound_forbid hvalid hmode
  · rw [← push_of_atBoundary h, push_of_opening h hblank hopen]
    have hne : mode ≠ .blank := by
      rintro rfl
      grind [opening?]
    exact ⟨valid_of_opening hopen hne, by simp, by simp, .begun rfl rfl rfl⟩

/-- Completing the token in progress on a character that begins another. -/
lemma sound_finishThenStart (hwell : (lexer.pending kind).WellFormed) :
    Sound lexer.text lexer.start (.push offset c) (lexer.finishThenStart kind offset c) := by
  have hbegin : Sound "" lexer.start (.push offset c) (lexer.cleared.beginToken offset c) :=
    sound_beginToken (atBoundary_cleared lexer)
  refine ⟨hbegin.valid, hbegin.error, ?_, ?_⟩
  · simpa [finishThenStart, pending] using hwell
  · cases hbegin.course with
    | idle hempty => exact .idle hempty
    | begun hnone htext hstart => exact .begun hnone htext hstart
    | continued _ _ hhead =>
      have hempty : (lexer.cleared.beginToken offset c).lexer.text = "" := by simpa using hhead
      exact .idle hempty

/-- Completing the token in progress on a blank. -/
lemma sound_finishAtBlank (hwell : (lexer.pending kind).WellFormed) :
    Sound lexer.text lexer.start call (lexer.finishAtBlank kind) := by
  refine ⟨rfl, by simp [finishAtBlank], ?_, .idle rfl⟩
  simpa [finishAtBlank, pending] using hwell

/-- Completing the token in progress at the end of the query. -/
lemma sound_finishAtEnd (hwell : (lexer.pending kind).WellFormed) :
    Sound lexer.text lexer.start call (lexer.finishAtEnd kind) := by
  refine ⟨rfl, by simp [finishAtEnd], ?_, .idle rfl⟩
  simpa [finishAtEnd, pending] using hwell

/-- Carrying the token in progress on. -/
lemma sound_extend (htext : text.toList ≠ []) (hvalid : Valid ⟨mode, text.push c, start⟩) :
    Sound text start call (extend ⟨mode, text, start⟩ c) := by
  refine ⟨hvalid, by simp [extend], by simp [extend], .continued rfl rfl ?_⟩
  exact head?_push htext

/-- Reading a character inside a word. -/
lemma sound_pushWord (h : Valid ⟨.word, text, start⟩) :
    Sound text start (.push offset c) (pushWord ⟨.word, text, start⟩ offset c) := by
  have hwell : (pending ⟨.word, text, start⟩ .word).WellFormed := h
  unfold pushWord
  split_ifs with hc hblank hclose
  · refine sound_extend h.1 ⟨by simp, ?_⟩
    rw [String.toList_push, List.forall_mem_append]
    exact ⟨h.2, by simpa using hc⟩
  · exact sound_finishAtBlank hwell
  · exact sound_finishThenStart hwell
  · exact sound_forbid h (by simp)

/-- Reading a character inside a phrase. -/
lemma sound_pushPhrase (h : Valid ⟨.phrase, text, start⟩) :
    Sound text start (.push offset c) (pushPhrase ⟨.phrase, text, start⟩ offset c) := by
  obtain ⟨content, htext, hcontent⟩ := id h
  have hne : text.toList ≠ [] := by simp [htext]
  unfold pushPhrase
  split_ifs with hquote hempty hc
  · exact sound_forbid h (by simp)
  · refine ⟨rfl, by simp, ?_, .idle rfl⟩
    have hrun : content ≠ [] := by
      rintro rfl
      exact hempty (by rw [htext]; rfl)
    have hwhole : (text.push c).toList = '"' :: content ++ ['"'] := by
      rw [String.toList_push, htext, hquote]
    have hwell : Token.WellFormed ⟨.phrase, text.push c, start⟩ :=
      ⟨content, hrun, fun d hd => (hcontent d hd).2, hwhole⟩
    intro t ht
    obtain rfl := Option.some.inj ht
    exact ⟨hwell, rfl, head?_push hne⟩
  · refine sound_extend hne ⟨content ++ [c], by simp [htext], ?_⟩
    rw [List.forall_mem_append]
    exact ⟨hcontent, by simpa using ⟨hquote, hc⟩⟩
  · exact sound_forbid h (by simp)

/-- The text that begins a keyword is a word. -/
lemma valid_word_of_keyword {k : Keyword} (h : Valid ⟨.keyword k, text, start⟩) :
    Valid ⟨.word, text, start⟩ :=
  ⟨h.1, fun _ hc => isWordChar_of_mem_keyword (h.2.subset hc)⟩

/-- The text that begins a keyword is always carried on as a word when the keyword is abandoned. -/
lemma fallBackToWord_of_valid {k : Keyword} {goOn : Lexer → Step}
    (h : Valid ⟨.keyword k, text, start⟩) :
    fallBackToWord ⟨.keyword k, text, start⟩ goOn = goOn ⟨.word, text, start⟩ :=
  fallBackToWord_of_isWordChar (valid_word_of_keyword h).2

/-- What has been read of a keyword can be cut off from it. -/
lemma exists_isSlice_of_valid {k : Keyword} (h : Valid ⟨.keyword k, text, start⟩) :
    ∃ rest, IsSlice k.text text.utf8ByteSize k.text.utf8ByteSize rest := by
  obtain ⟨rest, hrest⟩ := h.2
  have hchars : k.text.toList = text.toList ++ rest ++ [] := by simpa using hrest.symm
  refine ⟨String.ofList rest, isSlice_of_toList text.toList rest [] hchars ?_ ?_⟩
  · rw [utf8ByteSize_eq_byteLength]
  · rw [utf8ByteSize_eq_byteLength, utf8ByteSize_eq_byteLength, ← hrest, byteLength_append]

/-- Reading a character while the text begins a keyword. -/
lemma sound_pushKeyword {k : Keyword} (h : Valid ⟨.keyword k, text, start⟩) :
    Sound text start (.push offset c) (pushKeyword ⟨.keyword k, text, start⟩ k offset c) := by
  have hmatched : byteLength text.toList = text.toList.length := byteLength_of_isPrefix h.2
  unfold pushKeyword
  dsimp only
  split_ifs with hnext hwhole
  · rw [hmatched, head?_drop_of_isPrefix h.2] at hnext
    exact sound_extend h.1 ⟨by simp, by simpa using hnext⟩
  · rw [Bool.and_eq_true, decide_eq_true_eq, byteLength_eq_iff_of_isPrefix h.2] at hwhole
    have hwell : (pending ⟨.keyword k, text, start⟩ (.keyword k)).WellFormed :=
      String.toList_inj.mp hwhole.1
    exact sound_finishAtBlank hwell
  · rw [fallBackToWord_of_valid h]
    exact sound_pushWord (valid_word_of_keyword h)

/-- Every push keeps a lexer valid. -/
lemma sound_push (h : lexer.Valid) :
    Sound lexer.text lexer.start (.push offset c) (lexer.push offset c) := by
  obtain ⟨mode, text, start⟩ := lexer
  cases mode with
  | expression => exact sound_beginToken ⟨Or.inl rfl, h⟩
  | blank => exact sound_beginToken ⟨Or.inr rfl, h⟩
  | openParen =>
    rw [push]
    split_ifs with hblank
    · exact sound_forbid h (by simp)
    · exact sound_finishThenStart h
  | closeParen => exact sound_finishThenStart h
  | word => exact sound_pushWord h
  | phrase => exact sound_pushPhrase h
  | keyword k => exact sound_pushKeyword h
  | finished => exact sound_kept h (by simp [push, LexError.mode]) rfl rfl rfl

/-- Ending the query keeps a lexer valid. -/
lemma sound_close (h : lexer.Valid) :
    Sound lexer.text lexer.start .close lexer.close := by
  obtain ⟨mode, text, start⟩ := lexer
  cases mode with
  | expression => exact sound_kept h (by simp [close]) rfl rfl rfl
  | blank => exact sound_kept h (by simp [close]) rfl rfl rfl
  | openParen => exact sound_finishAtEnd h
  | closeParen => exact sound_finishAtEnd h
  | word => exact sound_finishAtEnd h
  | phrase => exact sound_kept h (by simp [close, LexError.mode]) rfl rfl rfl
  | keyword k =>
    rw [close]
    dsimp only
    split_ifs with hspell
    · have hwell : (pending ⟨.keyword k, text, start⟩ (.keyword k)).WellFormed := hspell
      exact sound_finishAtEnd hwell
    · have hwell : (pending ⟨.word, text, start⟩ .word).WellFormed := valid_word_of_keyword h
      rw [fallBackToWord_of_valid h]
      exact sound_finishAtEnd hwell
  | finished => exact sound_kept h (by simp [close, LexError.mode]) rfl rfl rfl

/-- Every call keeps a lexer valid. -/
lemma sound_perform (h : lexer.Valid) (call : Call) :
    Sound lexer.text lexer.start call (lexer.perform call) := by
  cases call with
  | push offset c => exact sound_push h
  | close => exact sound_close h

/-! ## Many calls -/

variable {calls : List Call}

/-- The last call comes after the others. -/
@[simp] lemma after_concat :
    lexer.after (calls ++ [call]) = ((lexer.after calls).perform call).lexer := by
  simp [after]

/-- A call comes between those before it and those after it. -/
@[simp] lemma after_append_cons {later : List Call} :
    lexer.after (calls ++ call :: later) =
      ((lexer.after calls).perform call).lexer.after later := by
  simp [after]

/-- The last of the tokens is that of the last call. -/
lemma handedOut_concat :
    lexer.handedOut (calls ++ [call]) =
      lexer.handedOut calls ++ ((lexer.after calls).perform call).completed.toList := by
  induction calls generalizing lexer with
  | nil => simp [handedOut, after]
  | cons first calls ih =>
    rw [List.cons_append, handedOut, ih, handedOut, List.append_assoc]
    rfl

/-- Whatever has been asked of a lexer, it is valid. -/
lemma valid_after (calls : List Call) : (new.after calls).Valid := by
  induction calls using List.reverseRecOn with
  | nil => rfl
  | append_singleton calls call ih =>
    rw [after_concat]
    exact (sound_perform ih call).valid

/-- The text in progress is still the same when a call completes no token. -/
lemma BegunBy.concat (h : BegunBy calls offset c)
    (hnone : ((new.after calls).perform call).completed = none) :
    BegunBy (calls ++ [call]) offset c := by
  obtain ⟨earlier, later, rfl, herror, htext, hout⟩ := h
  refine ⟨earlier, later ++ [call], by simp, herror, htext, ?_⟩
  rw [after_append_cons] at hnone
  rw [handedOut_concat, hout, List.nil_append]
  exact congrArg Option.toList hnone

/-- The text in progress was begun by the push of its first character, at the byte where it
starts. -/
lemma begunBy_after (calls : List Call) :
    ∀ c ∈ (new.after calls).text.toList.head?, BegunBy calls (new.after calls).start c := by
  induction calls using List.reverseRecOn with
  | nil => simp [after, new]
  | append_singleton calls call ih =>
    intro c hc
    -- A text that goes on was begun by an earlier call, one that is new by this one.
    have hcourse := (sound_perform (valid_after calls) call).course
    rw [after_concat] at hc ⊢
    generalize hstep : (new.after calls).perform call = step at hcourse hc ⊢
    cases hcourse with
    | idle hempty => simp [hempty] at hc
    | begun herror htext hstart =>
      obtain rfl : _ = c := by simpa [htext] using hc
      rw [hstart]
      rw [perform] at hstep
      exact ⟨calls, [], rfl, hstep ▸ herror, hstep ▸ htext, rfl⟩
    | continued hnone hstart hhead =>
      rw [hstart]
      exact (ih c (hhead ▸ hc)).concat (hstep ▸ hnone)

/-- Whatever has been asked of a lexer, refusals included, its text in progress is one that its mode
asks for.  So what has been read of a keyword can be cut off from it, and carried on as a word; no
error names the mode of a closing parenthesis or of a keyword; and every token that the next call
completes is well formed, and its offset is the one at which its first character was pushed. -/
theorem reachable_lexer_is_valid (calls : List Call) :
    (new.after calls).Valid ∧
      (∀ k, (new.after calls).mode = .keyword k →
        (∃ rest, IsSlice k.text (new.after calls).text.utf8ByteSize k.text.utf8ByteSize rest) ∧
          ∀ goOn, (new.after calls).fallBackToWord goOn =
            goOn { new.after calls with mode := .word }) ∧
      ∀ call,
        (∀ e ∈ ((new.after calls).perform call).error,
          e.mode ≠ .closeParen ∧ ∀ k, e.mode ≠ .keyword k) ∧
        ∀ t ∈ ((new.after calls).perform call).completed,
          t.WellFormed ∧ ∃ c ∈ t.text.toList.head?, BegunBy calls t.offset c := by
  have hvalid := valid_after calls
  refine ⟨hvalid, ?_, ?_⟩
  · intro k hk
    generalize new.after calls = lexer at hvalid hk ⊢
    obtain ⟨mode, text, start⟩ := lexer
    obtain rfl : mode = .keyword k := hk
    exact ⟨exists_isSlice_of_valid hvalid, fun _ => fallBackToWord_of_valid hvalid⟩
  · intro call
    have hsound := sound_perform hvalid call
    refine ⟨hsound.error, ?_⟩
    intro t ht
    obtain ⟨hwell, hoffset, hhead⟩ := hsound.completed t ht
    obtain ⟨c, cs, hchars⟩ := List.exists_cons_of_ne_nil (toList_ne_nil_of_wellFormed hwell)
    have hc : c ∈ t.text.toList.head? := by simp [hchars]
    refine ⟨hwell, c, hc, ?_⟩
    rw [hoffset]
    exact begunBy_after calls c (hhead ▸ hc)

/-- A character that begins no token is refused, but not before the parenthesis before it has been
completed. -/
example : (new.after [.push 0 '(']).push 1 '%' =
    { lexer := new
      completed := some ⟨.openParen, "(", 0⟩
      error := some (.forbiddenCharacter '%' .expression 1) } := by decide

end Lexer

end SearchQuery

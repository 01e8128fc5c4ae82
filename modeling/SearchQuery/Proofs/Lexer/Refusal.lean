import SearchQuery.Proofs.Lexer.Steps

/-!
# What a refused call leaves of a lexer

A caller may go on after a refusal, so it matters what the refused call has done.  Of the calls that
follow, three things are shown by going through them one at a time.  A lexer that has lost a
parenthesis gives the tokens that a new one gives (`Alike.returned_eq`).  The text of an abandoned
keyword comes out as a word (`isWordFrom_of_head?_returned`).  And where neither has happened, the
refused characters can be left out of the calls (`LosesNothing.without_refused`).
-/

namespace SearchQuery

namespace Lexer

variable {lexer lexer' : Lexer} {text : String} {start offset : Nat} {c : Char} {call : Call}
  {calls : List Call} {step : Step}

/-! ## Ending a query -/

/-- When the end of a query is refused, the lexer is as it was. -/
lemma lexer_close_of_refused (hvalid : lexer.Valid) (h : lexer.close.error ≠ none) :
    lexer.close.lexer = lexer := by
  rcases mode_of_refused_close hvalid h with hmode | hmode <;> simp [close, hmode]

/-- Ending a query ends it, unless it is refused. -/
lemma mode_close_of_accepted (hvalid : lexer.Valid) (h : lexer.close.error = none) :
    lexer.close.lexer.mode = .finished := by
  obtain ⟨mode, text, start⟩ := lexer
  cases mode with
  | phrase => simp [close] at h
  | finished => rfl
  | keyword k =>
    rw [close]
    dsimp only
    split_ifs
    · rfl
    · rw [fallBackToWord_of_valid hvalid]
      rfl
  | _ => rfl

/-- After its end nothing can be asked of a query. -/
lemma perform_of_finished (h : lexer.mode = .finished) (call : Call) :
    lexer.perform call = { lexer, error := some (.alreadyFinished .finished) } := by
  cases call <;> simp [perform, push, close, h]

/-! ## The calls that follow -/

/-- The tokens that a step gives to the caller: a token that it completes, unless it is refused. -/
def Step.returned (step : Step) : List Token :=
  match step.result with
  | .ok completed => completed.toList
  | .error _ => []

/-- The tokens that the calls give to their caller. -/
def returned (lexer : Lexer) : List Call → List Token
  | [] => []
  | call :: calls =>
    (lexer.perform call).returned ++ returned (lexer.perform call).lexer calls

/-- The first call comes first. -/
@[simp] lemma after_cons :
    lexer.after (call :: calls) = (lexer.perform call).lexer.after calls := rfl

/-- A refused step gives nothing. -/
lemma Step.returned_of_refused (h : step.error ≠ none) : step.returned = [] := by
  obtain ⟨e, he⟩ := Option.ne_none_iff_exists'.mp h
  simp [Step.returned, Step.result, he]

/-- Once a query has ended, calls change nothing. -/
lemma after_of_finished (h : lexer.mode = .finished) (calls : List Call) :
    lexer.after calls = lexer := by
  induction calls with
  | nil => rfl
  | cons call calls ih =>
    rw [after_cons, perform_of_finished h]
    exact ih

/-! ### No token in progress -/

/-- The two are the same lexer, except that with no token in progress it does not matter where the
last one began. -/
inductive Alike : Lexer → Lexer → Prop
  | same {lexer : Lexer} : Alike lexer lexer
  | boundary {lexer lexer' : Lexer} : lexer.AtBoundary → lexer'.AtBoundary →
      lexer.mode = lexer'.mode → Alike lexer lexer'
  | finished {lexer lexer' : Lexer} : lexer.mode = .finished → lexer'.mode = .finished →
      Alike lexer lexer'

/-- Between tokens it does not matter where the last one began. -/
lemma alike_push (h : lexer.AtBoundary) (h' : lexer'.AtBoundary)
    (hmode : lexer.mode = lexer'.mode) :
    (lexer.push offset c).returned = (lexer'.push offset c).returned ∧
      Alike (lexer.push offset c).lexer (lexer'.push offset c).lexer := by
  rw [push_of_atBoundary h, push_of_atBoundary h']
  by_cases hblank : isBlank c = true
  · rw [beginToken_of_blank hblank, beginToken_of_blank hblank]
    exact ⟨rfl, .boundary h.blank h'.blank rfl⟩
  · rcases hopen : opening? c with _ | mode
    · rw [beginToken_of_none hopen, beginToken_of_none hopen]
      exact ⟨rfl, .boundary h h' hmode⟩
    · rw [beginToken_of_some hblank hopen, beginToken_of_some hblank hopen, h.text, h'.text]
      exact ⟨rfl, .same⟩

/-- Lexers that are alike give the same tokens, and stay alike. -/
lemma Alike.perform (h : Alike lexer lexer') (call : Call) :
    (lexer.perform call).returned = (lexer'.perform call).returned ∧
      Alike (lexer.perform call).lexer (lexer'.perform call).lexer := by
  cases h with
  | same => exact ⟨rfl, .same⟩
  | boundary hleft hright hmode =>
    cases call with
    | push offset c => exact alike_push hleft hright hmode
    | close =>
      simp only [Lexer.perform, close, ← hmode]
      rcases hleft.mode with hm | hm
      · rw [hm]
        exact ⟨rfl, .finished rfl rfl⟩
      · rw [hm]
        exact ⟨rfl, .finished rfl rfl⟩
  | finished hleft hright =>
    rw [perform_of_finished hleft, perform_of_finished hright]
    exact ⟨rfl, .finished hleft hright⟩

/-- Lexers that are alike give the same tokens whatever is asked of them. -/
lemma Alike.returned_eq (h : Alike lexer lexer') (calls : List Call) :
    lexer.returned calls = lexer'.returned calls := by
  induction calls generalizing lexer lexer' with
  | nil => rfl
  | cons call calls ih =>
    obtain ⟨hstep, hnext⟩ := h.perform call
    rw [returned, returned, hstep, ih hnext]

/-! ### A word in progress -/

/-- The token is a word that goes on from the text begun at byte `start`. -/
structure IsWordFrom (text : String) (start : Nat) (t : Token) : Prop where
  kind : t.kind = .word
  offset : t.offset = start
  text_prefix : text.toList <+: t.text.toList

/-- A call to a lexer in the middle of a word either gives the word, or leaves a lexer that is in
the middle of it, too. -/
lemma perform_word (call : Call) :
    (∃ t, (perform ⟨.word, text, start⟩ call).returned = [t] ∧ IsWordFrom text start t) ∨
      (perform ⟨.word, text, start⟩ call).returned = [] ∧
        ∃ text', (perform ⟨.word, text, start⟩ call).lexer = ⟨.word, text', start⟩ ∧
          text.toList <+: text'.toList := by
  have hgiven : IsWordFrom text start (pending ⟨.word, text, start⟩ .word) :=
    ⟨rfl, rfl, List.prefix_rfl⟩
  cases call with
  | push offset c =>
    have hpush : perform ⟨.word, text, start⟩ (.push offset c) =
        pushWord ⟨.word, text, start⟩ offset c := rfl
    rw [hpush, pushWord]
    split_ifs with hword hblank hclose
    · refine Or.inr ⟨rfl, text.push c, rfl, ?_⟩
      rw [String.toList_push]
      exact List.prefix_append text.toList [c]
    · exact Or.inl ⟨_, rfl, hgiven⟩
    · subst hclose
      exact Or.inl ⟨_, rfl, hgiven⟩
    · exact Or.inr ⟨rfl, text, rfl, List.prefix_rfl⟩
  | close => exact Or.inl ⟨_, rfl, hgiven⟩

/-- The first token that a lexer in the middle of a word gives is that word. -/
lemma isWordFrom_of_head?_returned (calls : List Call) :
    ∀ t ∈ (returned ⟨.word, text, start⟩ calls).head?, IsWordFrom text start t := by
  induction calls generalizing text with
  | nil => simp [returned]
  | cons call calls ih =>
    intro t ht
    rw [returned] at ht
    have hcall := @perform_word text start call
    obtain ⟨u, hgiven, hu⟩ | ⟨hnone, text', hlexer, hprefix⟩ := hcall
    · rw [hgiven] at ht
      obtain rfl : u = t := by simpa using ht
      exact hu
    · rw [hnone, hlexer, List.nil_append] at ht
      obtain ⟨hkind, hoffset, htext⟩ := ih t ht
      exact ⟨hkind, hoffset, hprefix.trans htext⟩

/-! ### Refused characters left out -/

/-- The calls without the pushes that are refused. -/
def withoutRefused (lexer : Lexer) : List Call → List Call
  | [] => []
  | .push offset c :: calls =>
    match (lexer.push offset c).error with
    | some _ => withoutRefused (lexer.push offset c).lexer calls
    | none => .push offset c :: withoutRefused (lexer.push offset c).lexer calls
  | .close :: calls => .close :: withoutRefused lexer.close.lexer calls

/-- No push among the calls is refused at the cost of a parenthesis or a keyword. -/
def LosesNothing (lexer : Lexer) (calls : List Call) : Prop :=
  ∀ earlier offset c later, calls = earlier ++ .push offset c :: later →
    ((lexer.after earlier).push offset c).error ≠ none →
      ¬ (lexer.after earlier).LosesParenthesis c ∧ ¬ (lexer.after earlier).MatchesKeyword

/-- What holds of all calls holds of those after the first. -/
lemma LosesNothing.tail (h : lexer.LosesNothing (call :: calls)) :
    (lexer.perform call).lexer.LosesNothing calls := by
  rintro earlier offset c later rfl hrefused
  exact h (call :: earlier) offset c later rfl hrefused

/-- A refused push that costs nothing changes nothing. -/
lemma LosesNothing.lexer_push (h : lexer.LosesNothing (.push offset c :: calls))
    (hvalid : lexer.Valid) (hrefused : (lexer.push offset c).error ≠ none) :
    (lexer.push offset c).lexer = lexer := by
  obtain ⟨hparenthesis, hkeyword⟩ := h [] offset c calls rfl hrefused
  exact (leaves_of_refused hvalid hrefused).eq_self hparenthesis hkeyword

/-- Where no refusal costs anything, the refused characters can be left out. -/
lemma LosesNothing.without_refused (h : lexer.LosesNothing calls) (hvalid : lexer.Valid) :
    lexer.returned (lexer.withoutRefused calls) = lexer.returned calls ∧
      lexer.after (lexer.withoutRefused calls) = lexer.after calls := by
  induction calls generalizing lexer with
  | nil => exact ⟨rfl, rfl⟩
  | cons call calls ih =>
    obtain ⟨hreturned, hafter⟩ := ih h.tail (sound_perform hvalid call).valid
    -- A call that stays in the list does what it did, and then the others do.
    have hkept : lexer.returned (call :: (lexer.perform call).lexer.withoutRefused calls) =
          lexer.returned (call :: calls) ∧
        lexer.after (call :: (lexer.perform call).lexer.withoutRefused calls) =
          lexer.after (call :: calls) :=
      ⟨congrArg ((lexer.perform call).returned ++ ·) hreturned, hafter⟩
    cases call with
    | close => exact hkept
    | push offset c =>
      rw [withoutRefused]
      split
      · -- A refused push leaves the same lexer, so the other calls need not wait for it.
        next e he =>
        have hrefused : (lexer.push offset c).error ≠ none := by simp [he]
        have hlexer : (lexer.push offset c).lexer = lexer := h.lexer_push hvalid hrefused
        have hgiven : (lexer.push offset c).returned = [] := Step.returned_of_refused hrefused
        rw [perform, hlexer] at hreturned hafter
        rw [hlexer, hreturned, hafter, returned, after_cons, perform, hgiven, hlexer]
        exact ⟨rfl, rfl⟩
      · exact hkept

/-- What a refused call does to a lexer, whatever has been asked of it before.  A refused character
changes nothing, except in two situations: a parenthesis that waits to be handed out is lost for
good if the character begins no token (a blank, which only separates tokens, changes nothing), and
the text of a keyword in progress is that of a word from then on.  Ending the query either changes
nothing or ends it, and then every call fails and changes nothing.  So characters that are refused
in neither of the two situations might as well not have been pushed. -/
theorem refused_call_keeps_lexer (calls : List Call) :
    let lexer := new.after calls
    (∀ offset c, (lexer.push offset c).error ≠ none →
      (lexer.LosesParenthesis c →
        (lexer.push offset c).lexer = ⟨.expression, "", lexer.start⟩ ∧
          ∀ later, (lexer.push offset c).lexer.returned later = new.returned later) ∧
      (lexer.MatchesKeyword →
        (lexer.push offset c).lexer = ⟨.word, lexer.text, lexer.start⟩ ∧
          ∀ later, ∀ t ∈ ((lexer.push offset c).lexer.returned later).head?,
            IsWordFrom lexer.text lexer.start t) ∧
      (¬ lexer.LosesParenthesis c → ¬ lexer.MatchesKeyword →
        (lexer.push offset c).lexer = lexer)) ∧
    (lexer.close.error ≠ none → lexer.close.lexer = lexer) ∧
    (lexer.close.error = none → lexer.close.lexer.mode = .finished ∧
      ∀ later call, (lexer.close.lexer.after later).perform call =
        { lexer := lexer.close.lexer, error := some (.alreadyFinished .finished) }) ∧
    ∀ later, lexer.LosesNothing later →
      lexer.returned (lexer.withoutRefused later) = lexer.returned later ∧
        lexer.after (lexer.withoutRefused later) = lexer.after later := by
  intro lexer
  have hvalid : lexer.Valid := valid_after calls
  refine ⟨?_, lexer_close_of_refused hvalid, ?_, fun later h => h.without_refused hvalid⟩
  · intro offset c hrefused
    have hleaves : Leaves lexer c (lexer.push offset c).lexer := leaves_of_refused hvalid hrefused
    refine ⟨?_, ?_, hleaves.eq_self⟩
    · intro hlost
      rw [hleaves.eq_cleared hlost]
      have halike : Alike lexer.cleared new :=
        .boundary (atBoundary_cleared lexer) ⟨Or.inl rfl, rfl⟩ rfl
      exact ⟨rfl, halike.returned_eq⟩
    · intro hmatches
      rw [hleaves.eq_word hmatches]
      exact ⟨rfl, isWordFrom_of_head?_returned⟩
  · intro haccepted
    have hfinished := mode_close_of_accepted hvalid haccepted
    refine ⟨hfinished, ?_⟩
    intro later call
    rw [after_of_finished hfinished, perform_of_finished hfinished]

/-- A character that is refused inside a word does nothing, after a parenthesis it takes the
parenthesis with it, and after a keyword it makes the keyword a word. -/
example :
    new.returned [.push 0 'a', .push 1 '%', .push 2 'b', .close] = [⟨.word, "ab", 0⟩] ∧
      new.returned [.push 0 '(', .push 1 '%', .push 2 'b', .close] = [⟨.word, "b", 2⟩] ∧
      new.returned [.push 0 'O', .push 1 'R', .push 2 '%', .close] = [⟨.word, "OR", 0⟩] := by
  decide

end Lexer

end SearchQuery

import Mathlib.Data.List.Infix
import SearchQuery.Proofs.Lexer.Tiling
import SearchQuery.Proofs.RoundTrip.Spelling

/-!
# Bare words and the lexer

A term is written without quotes if it is a bare word.  That is decided by looking at its
characters, while the lexer follows the letters of a keyword one by one and may have to give it up
at any of them.  Both agree: the bare words are the queries that are read as a single word
(`isBareWord_iff_tokenize`).  A keyword is the only run of word characters that is read otherwise,
and no longer word is taken for one that it contains (`tokenize_around_keyword_iff`).
-/

namespace SearchQuery

open MaximalMunch

variable {value before after : String}

/-- A bare word is a word that is no keyword. -/
lemma isBareWord_eq_true_iff :
    isBareWord value = true ↔
      value ≠ "" ∧ (∀ c ∈ value.toList, isWordChar c = true) ∧ ∀ k : Keyword, value ≠ k.text := by
  have hall : (∀ k ∈ Keyword.all, ¬ k.text = value) ↔ ∀ k : Keyword, value ≠ k.text := by
    constructor
    · intro h k
      exact Ne.symm (h k (by cases k <;> decide))
    · intro h k _
      exact Ne.symm (h k)
  rw [← hall]
  simp [isBareWord, and_assoc, and_comm (a := ∀ k ∈ Keyword.all, ¬ k.text = value)]

/-- A bare word alone is read as a word. -/
lemma tokenize_of_isBareWord (h : isBareWord value = true) :
    tokenize value = .ok [⟨.word, value, 0⟩] := by
  obtain ⟨hne, hkind, hword⟩ := isBareWord_iff.mp h
  have hpadding : ∀ c ∈ value.toList, isPadding c = false :=
    fun c hc => isPadding_eq_false_of_isWordChar (hword c hc)
  obtain ⟨c, cs, hcons⟩ := List.exists_cons_of_ne_nil hne
  have hconcat := (List.dropLast_append_getLast hne).symm
  have hunpadded : unpadded value.toList = (0, value.toList) :=
    unpadded_eq_self hcons (hpadding c (by simp [hcons])) hconcat
      (hpadding _ (List.getLast_mem hne))
  have hread : munch false 0 (value.toList ++ []) = .ok [⟨.word, value, 0⟩] := by
    rw [munch_bareWord hne hword hkind (by simp [EndsWord]), munch, String.ofList_toList]
    rfl
  rw [tokenize_eq_munch, hunpadded, ← hread, List.append_nil]

/-- A keyword alone is read as that keyword. -/
lemma tokenize_keyword (k : Keyword) : tokenize k.text = .ok [⟨.keyword k, k.text, 0⟩] := by
  cases k <;> decide +kernel

/-- A text that is read as the one word that it is, is a bare word. -/
lemma isBareWord_of_tokenize (h : tokenize value = .ok [⟨.word, value, 0⟩]) :
    isBareWord value = true := by
  obtain ⟨lead, body, trail, -, -, -, htiles⟩ := exists_tiles_of_tokenize h
  obtain ⟨hne, hword⟩ : Token.WellFormed ⟨.word, value, 0⟩ :=
    htiles.wellFormed _ List.mem_cons_self
  refine isBareWord_eq_true_iff.mpr ⟨?_, hword, ?_⟩
  · rintro rfl
    exact hne String.toList_empty
  · rintro k rfl
    rw [tokenize_keyword] at h
    cases h

/-- The bare words are the texts that are read as a single word. -/
lemma isBareWord_iff_tokenize :
    isBareWord value = true ↔ tokenize value = .ok [⟨.word, value, 0⟩] := by
  constructor
  · exact tokenize_of_isBareWord
  · exact isBareWord_of_tokenize

/-- No keyword is a part of another one. -/
lemma Keyword.eq_empty_of_append_eq {k l : Keyword} (h : before ++ k.text ++ after = l.text) :
    before ++ after = "" := by
  have hchars : before.toList ++ k.text.toList ++ after.toList = l.text.toList := by
    rw [← h, String.toList_append, String.toList_append]
  have hinfix : k.text.toList <:+: l.text.toList := ⟨before.toList, after.toList, hchars⟩
  have hsame : k = l := by
    revert hinfix
    cases k <;> cases l <;> decide
  subst hsame
  have hlength := congrArg List.length hchars
  rw [List.length_append, List.length_append] at hlength
  have hbefore : before.toList = [] := List.eq_nil_of_length_eq_zero (by omega)
  have hafter : after.toList = [] := List.eq_nil_of_length_eq_zero (by omega)
  rw [← String.toList_inj, String.toList_append, hbefore, hafter]
  rfl

/-- A keyword with word characters around it is read as a word. -/
lemma tokenize_around_keyword_iff (k : Keyword) :
    tokenize (before ++ k.text ++ after) = .ok [⟨.word, before ++ k.text ++ after, 0⟩] ↔
      before ++ after ≠ "" ∧ ∀ c ∈ (before ++ after).toList, isWordChar c = true := by
  rw [← isBareWord_iff_tokenize, isBareWord_eq_true_iff]
  simp only [String.toList_append, List.forall_mem_append]
  constructor
  · rintro ⟨-, ⟨⟨hbefore, -⟩, hafter⟩, hkeyword⟩
    refine ⟨?_, hbefore, hafter⟩
    intro hempty
    obtain ⟨rfl, rfl⟩ := String.append_eq_empty_iff.mp hempty
    exact hkeyword k (by simp)
  · rintro ⟨hne, hbefore, hafter⟩
    refine ⟨?_, ⟨⟨hbefore, fun c hc => Lexer.isWordChar_of_mem_keyword hc⟩, hafter⟩, ?_⟩
    · intro hempty
      have hkeyword := (String.append_eq_empty_iff.mp
        (String.append_eq_empty_iff.mp hempty).1).2
      exact absurd hkeyword (by cases k <;> decide)
    · intro l hl
      exact hne (Keyword.eq_empty_of_append_eq hl)

/-- A text is a bare word if and only if it is read as one token, the word that it is, at its start.
These are the runs of word characters that are no keyword; what begins with a keyword, contains one
or ends with one is read as a word like any other. -/
theorem bare_words_are_read_as_words :
    (∀ value, isBareWord value = true ↔ tokenize value = .ok [⟨.word, value, 0⟩]) ∧
      (∀ value, tokenize value = .ok [⟨.word, value, 0⟩] ↔
        value ≠ "" ∧ (∀ c ∈ value.toList, isWordChar c = true) ∧ ∀ k : Keyword, value ≠ k.text) ∧
      ∀ (k : Keyword) (before after : String),
        tokenize (before ++ k.text ++ after) = .ok [⟨.word, before ++ k.text ++ after, 0⟩] ↔
          before ++ after ≠ "" ∧ ∀ c ∈ (before ++ after).toList, isWordChar c = true := by
  refine ⟨fun value => isBareWord_iff_tokenize, fun value => ?_,
    fun k before after => tokenize_around_keyword_iff k⟩
  rw [← isBareWord_iff_tokenize, isBareWord_eq_true_iff]

end SearchQuery

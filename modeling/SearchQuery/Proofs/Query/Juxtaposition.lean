import SearchQuery.Proofs.Lexer.Padding
import SearchQuery.Proofs.Query.Grouping

/-!
# Two queries with blanks between them

A query may be put together from two others with blanks between them: its tokens are those of the
first and then those of the second, moved to where the second stands.  The blanks end the last token
of the first query as the end of the query would, since of all tokens only an opening parenthesis
minds a blank after it (`mayPrecede_of_mem_getLast?`); and after blanks the second query is read as
after nothing.  How many blanks there are, and which, shows in the offsets only.

If one of the two is empty, the blanks are padding of the other.
-/

namespace SearchQuery

open MaximalMunch

/-- The text is a run of blanks. -/
structure IsBlankRun (w : String) : Prop where
  ne_empty : w ≠ ""
  blank : ∀ c ∈ w.toList, c = ' ' ∨ c = '\t'

section

variable {a b w : String} {ta tb : List Token} {offset : Nat}

namespace IsBlankRun

/-- A run of blanks has characters. -/
lemma toList_ne_nil (h : IsBlankRun w) : w.toList ≠ [] := by
  intro hnil
  exact h.ne_empty (String.toList_inj.mp hnil)

/-- The characters of a run of blanks are blanks. -/
lemma isBlank (h : IsBlankRun w) : ∀ c ∈ w.toList, SearchQuery.isBlank c = true :=
  fun c hc => isBlank_eq_true_iff.mpr (h.blank c hc)

/-- A run of blanks is padding. -/
lemma le_space (h : IsBlankRun w) : ∀ c ∈ w.toList, c ≤ ' ' :=
  fun c hc => le_space_of_isBlank (h.isBlank c hc)

end IsBlankRun

/-- The last token of a query that ends with no blank is the end of the query. -/
lemma mayPrecede_of_mem_getLast? {c : Char} {rest : List Char} (ha : IsUnpadded a)
    (hopen : a.toList.getLast? ≠ some '(') (hta : munch false offset a.toList = .ok ta)
    (hc : isBlank c = true) : ∀ t ∈ ta.getLast?, MayPrecede t (c :: rest) := by
  intro t ht
  refine mayPrecede_of_isBlank ?_ hc
  intro hkind
  have htiles : Tiles offset a.toList ta := tiles_of_munch hta
  have hwell : t.WellFormed := htiles.wellFormed t (List.mem_of_getLast? ht)
  have htext : t.text = "(" := by simpa [Token.WellFormed, hkind] using hwell
  obtain ⟨earlier, rfl⟩ := List.getLast?_eq_some_iff.mp ht
  obtain ⟨before, after, hchars, -, hafter⟩ := htiles.exists_token
  -- Only blanks could follow the parenthesis, and the query does not end with one.
  rcases List.eq_nil_or_concat after with rfl | ⟨after, d, rfl⟩
  · apply hopen
    simp [hchars, htext]
  · have hd : d ≤ ' ' := le_space_of_isBlank (hafter.isBlank_of_nil d (by simp))
    have hlast : ' ' < d := ha.2 d (by simp [hchars])
    exact absurd hd (Char.not_le.mpr hlast)

/-- With blanks between them, two texts are read one after the other. -/
lemma munch_append_blanks_append (ha : IsUnpadded a) (hopen : a.toList.getLast? ≠ some '(')
    (hw : IsBlankRun w) (hta : munch false 0 a.toList = .ok ta)
    (htb : munch false 0 b.toList = .ok tb) :
    munch false 0 (a.toList ++ (w.toList ++ b.toList)) =
      .ok (ta ++ tb.map (Token.shift (byteLength a.toList + byteLength w.toList))) := by
  obtain ⟨c, cs, hcons⟩ := List.exists_cons_of_ne_nil hw.toList_ne_nil
  have hc : isBlank c = true := hw.isBlank c (by simp [hcons])
  have hlast : ∀ t ∈ ta.getLast?, MayPrecede t (w.toList ++ b.toList) := by
    rw [hcons, List.cons_append]
    exact mayPrecede_of_mem_getLast? ha hopen hta hc
  refine munch_append hta hlast ?_
  rw [munch_blanks_append hw.isBlank hw.toList_ne_nil, Nat.zero_add]
  exact munch_congr_of_ok (munch_shift_of_ok _ htb)

/-- With blanks between them, two queries have the tokens of both. -/
lemma tokenize_append_blanks_append (ha : IsUnpadded a) (hb : IsUnpadded b)
    (hopen : a.toList.getLast? ≠ some '(') (hta : tokenize a = .ok ta) (htb : tokenize b = .ok tb)
    (hw : IsBlankRun w) :
    tokenize (a ++ w ++ b) =
      .ok (ta ++ tb.map (Token.shift (byteLength a.toList + byteLength w.toList))) := by
  rw [tokenize_of_isUnpadded ha] at hta
  rw [tokenize_of_isUnpadded hb] at htb
  by_cases hanil : a.toList = []
  · have hpadded : PaddedAs (a ++ w ++ b) w.toList b.toList [] :=
      ⟨by simp [hanil], hw.le_space, by simp, hb.1, hb.2⟩
    rw [hanil, munch] at hta
    obtain rfl := Except.ok.inj hta
    rw [hpadded.tokenize_eq_munch, hanil, byteLength_nil, Nat.zero_add]
    exact munch_shift_of_ok _ htb
  by_cases hbnil : b.toList = []
  · have hpadded : PaddedAs (a ++ w ++ b) [] a.toList w.toList :=
      ⟨by simp [hbnil], by simp, hw.le_space, ha.1, ha.2⟩
    rw [hbnil, munch] at htb
    obtain rfl := Except.ok.inj htb
    rw [hpadded.tokenize_eq_munch, byteLength_nil, hta, List.map_nil, List.append_nil]
  · have hlist : (a ++ w ++ b).toList = a.toList ++ (w.toList ++ b.toList) := by simp
    have hunpadded : IsUnpadded (a ++ w ++ b) := by
      constructor
      · rw [hlist, List.head?_append_of_ne_nil _ hanil]
        exact ha.1
      · rw [hlist, ← List.append_assoc, List.getLast?_append_of_ne_nil _ hbnil]
        exact hb.2
    rw [tokenize_of_isUnpadded hunpadded, hlist,
      munch_append_blanks_append ha hopen hw hta htb]

/-- Queries compose by blanks: the tokens of two queries that are not padded, the first of which
does not end with an opening parenthesis, with a run of blanks between them are those of the first
and then those of the second, moved to where it stands.  So the run of blanks changes neither the
kinds nor the texts of the tokens. -/
theorem queries_compose_by_blanks (ha : IsUnpadded a) (hb : IsUnpadded b)
    (hopen : a.toList.getLast? ≠ some '(') (hta : tokenize a = .ok ta)
    (htb : tokenize b = .ok tb) :
    (∀ w, IsBlankRun w →
      tokenize (a ++ w ++ b) =
        .ok (ta ++ tb.map (Token.shift (a.utf8ByteSize + w.utf8ByteSize)))) ∧
    ∀ w w', IsBlankRun w → IsBlankRun w' →
      (tokenize (a ++ w ++ b)).map (List.map fun t => (t.kind, t.text)) =
        (tokenize (a ++ w' ++ b)).map (List.map fun t => (t.kind, t.text)) := by
  have hjoin : ∀ w, IsBlankRun w → tokenize (a ++ w ++ b) =
      .ok (ta ++ tb.map (Token.shift (byteLength a.toList + byteLength w.toList))) :=
    fun w hw => tokenize_append_blanks_append ha hb hopen hta htb hw
  constructor
  · intro w hw
    rw [utf8ByteSize_eq_byteLength, utf8ByteSize_eq_byteLength]
    exact hjoin w hw
  · intro w w' hw hw'
    rw [hjoin w hw, hjoin w' hw']
    simp [Except.map, Token.shift, Function.comp_def]

end

/-- A keyword at the end of the first query and a phrase with a blank in it at the start of the
second. -/
theorem keyword_and_phrase_compose_by_blanks :
    let a := "né AND NOT"
    let b := "\"b c\" OR (NO)"
    let ta : List Token := [⟨.word, "né", 0⟩, ⟨.keyword .and, "AND", 4⟩, ⟨.keyword .not, "NOT", 8⟩]
    let tb : List Token := [⟨.phrase, "\"b c\"", 0⟩, ⟨.keyword .or, "OR", 6⟩, ⟨.openParen, "(", 9⟩,
      ⟨.word, "NO", 10⟩, ⟨.closeParen, ")", 12⟩]
    (IsUnpadded a ∧ IsUnpadded b ∧ a.toList.getLast? ≠ some '(' ∧ tokenize a = .ok ta ∧
      tokenize b = .ok tb) ∧
    (∀ w, IsBlankRun w →
      tokenize (a ++ w ++ b) =
        .ok (ta ++ tb.map (Token.shift (a.utf8ByteSize + w.utf8ByteSize)))) ∧
    ∀ w w', IsBlankRun w → IsBlankRun w' →
      (tokenize (a ++ w ++ b)).map (List.map fun t => (t.kind, t.text)) =
        (tokenize (a ++ w' ++ b)).map (List.map fun t => (t.kind, t.text)) := by
  intro a b ta tb
  have ha : IsUnpadded a :=
    isUnpadded_of_ends (c := 'n') (d := 'T') (by decide) (by decide) (by decide) (by decide)
  have hb : IsUnpadded b :=
    isUnpadded_of_ends (c := '"') (d := ')') (by decide) (by decide) (by decide) (by decide)
  have hopen : a.toList.getLast? ≠ some '(' := by decide
  have hta : tokenize a = .ok ta := by decide +kernel
  have htb : tokenize b = .ok tb := by decide +kernel
  exact ⟨⟨ha, hb, hopen, hta, htb⟩, queries_compose_by_blanks ha hb hopen hta htb⟩

end SearchQuery

import SearchQuery.Proofs.Lexer.Tiling
import SearchQuery.Proofs.RoundTrip.Nesting
import SearchQuery.Query

/-!
# Which expressions read back from their query text

An expression that a query spells negates only terms (`negatesTerms_of_derives`), and its terms
are texts that a word or a phrase can spell (`isSpellable_of_derives`), since the lexer completes
well-formed tokens only.  Any expression of this kind reads back from its query text when at most
256 of its connectives lie on one path, and not otherwise: every connective is written with
parentheses, and the parser nests no more groups.

A query need not write the parentheses that its expression is written with.  A run of words
without any makes an expression with one connective on the path for each word but the first, so a
long run is read and its expression does not read back.
-/

namespace SearchQuery

open MaximalMunch

/-! ## What queries spell -/

/-- The value of a well-formed token can be spelled. -/
lemma isSpellable_of_hasValue {t : Token} {value : String} (hvalue : HasValue t value)
    (ht : t.WellFormed) : IsSpellable value := by
  rw [isSpellable_iff]
  unfold Token.WellFormed at ht
  cases hvalue with
  | word hk =>
    rw [hk] at ht
    refine ⟨ht.1, ?_⟩
    intro c hc
    simp [isPhraseContent, isPhraseChar_of_isWordChar (ht.2 c hc)]
  | quoted hk hv =>
    rw [hk] at ht
    obtain ⟨run, hne, hrun, htext⟩ := ht
    have hvalue : value.toList = run := by simpa [hv] using htext
    rw [hvalue]
    exact ⟨hne, hrun⟩
  | bare hk hv =>
    rw [hk] at ht
    obtain ⟨run, -, -, htext⟩ := ht
    refine absurd ?_ (hv (String.ofList run))
    rw [← String.toList_inj, htext]
    simp

/-- The terms of a tree that well-formed tokens derive can be spelled. -/
lemma isSpellable_of_derives {x : Nonterminal} {n : Nat} {ts : List Token} {e : Expr}
    (h : Derives x n ts e) (hts : ∀ t ∈ ts, t.WellFormed) :
    ∀ value ∈ e.leaves, IsSpellable value := by
  intro value hv
  rw [leaves_of_derives h] at hv
  obtain ⟨t, ht, rfl⟩ := List.mem_map.mp hv
  obtain ⟨hmem, hkind⟩ := List.mem_filter.mp ht
  have hvalue : HasValue t t.literal := hasValue_literal (by simpa using hkind)
  exact isSpellable_of_hasValue hvalue (hts t hmem)

/-- An expression that a query spells negates only terms, all of which can be spelled. -/
lemma parseQuery_shape {query : String} {e : Expr} (h : parseQuery query = .ok e) :
    e.NegatesTerms ∧ ∀ value ∈ e.leaves, IsSpellable value := by
  obtain ⟨ts, htokens, hparse⟩ := parseQuery_eq_ok_iff.mp h
  have hderives := parse_eq_ok_iff_derives.mp hparse
  rw [tokenize_eq_munch] at htokens
  exact ⟨negatesTerms_of_derives hderives,
    isSpellable_of_derives hderives (tiles_of_munch htokens).wellFormed⟩

/-! ## What reads back -/

/-- Whatever is read from the query text of an expression, the connectives of the expression nest no
deeper than groups may. -/
lemma connectiveDepth_le_of_parseQuery {e e' : Expr}
    (hterms : ∀ value ∈ e.leaves, IsSpellable value) (h : parseQuery e.query = .ok e') :
    e.connectiveDepth ≤ groupLimit := by
  obtain ⟨ts, htokens, hparse⟩ := parseQuery_eq_ok_iff.mp h
  obtain rfl := Except.ok.inj ((Expr.tokenize_query hterms).symm.trans htokens)
  exact connectiveDepth_le_of_derives (parse_eq_ok_iff_derives.mp hparse)

/-- What queries spell reads back unless its connectives nest deeper than groups may. -/
lemma parseQuery_query {e : Expr} (hneg : e.NegatesTerms)
    (hterms : ∀ value ∈ e.leaves, IsSpellable value) (hdepth : e.connectiveDepth ≤ groupLimit) :
    parseQuery e.query = .ok e := by
  have hderives : Derives .expression groupLimit (e.spelling 0) e :=
    .single (.first (derives_spelling hneg hdepth))
  exact parseQuery_eq_ok_iff.mpr
    ⟨e.spelling 0, Expr.tokenize_query hterms, parse_eq_ok_iff_derives.mpr hderives⟩

/-- Nothing is read from the query text of an expression with connectives that nest deeper than
groups may. -/
lemma exists_parseQuery_query_eq_error {e : Expr} (hterms : ∀ value ∈ e.leaves, IsSpellable value)
    (hdeep : groupLimit < e.connectiveDepth) : ∃ error, parseQuery e.query = .error error := by
  rcases hread : parseQuery e.query with error | e'
  · exact ⟨error, rfl⟩
  · exact absurd (connectiveDepth_le_of_parseQuery hterms hread) (Nat.not_le.mpr hdeep)

/-- The expressions that read back from their query text are those that negate only terms, whose
terms can be spelled, and that have at most 256 connectives on each path. -/
theorem query_reads_back_iff (e : Expr) :
    parseQuery e.query = .ok e ↔
      e.NegatesTerms ∧ (∀ value ∈ e.terms, IsSpellable value) ∧ e.connectiveDepth ≤ 256 := by
  rw [Expr.terms_eq_leaves]
  constructor
  · intro h
    obtain ⟨hneg, hterms⟩ := parseQuery_shape h
    exact ⟨hneg, hterms, connectiveDepth_le_of_parseQuery hterms h⟩
  · rintro ⟨hneg, hterms, hdepth⟩
    exact parseQuery_query hneg hterms hdepth

/-- An expression that a query spells reads back if and only if it has at most 256 connectives on
each path; otherwise its query text is refused. -/
theorem parsed_query_reads_back_iff {query : String} {e : Expr} (h : parseQuery query = .ok e) :
    (parseQuery e.query = .ok e ↔ e.connectiveDepth ≤ 256) ∧
      (256 < e.connectiveDepth → ∃ error, parseQuery e.query = .error error) := by
  obtain ⟨hneg, hterms⟩ := parseQuery_shape h
  refine ⟨?_, exists_parseQuery_query_eq_error hterms⟩
  constructor
  · exact connectiveDepth_le_of_parseQuery hterms
  · exact parseQuery_query hneg hterms

/-- The expression of a short query reads back. -/
theorem coffee_query_reads_back :
    parseQuery "coffee OR NOT \"dark roast\"" =
        .ok (.or (.term "coffee") (.not (.term "dark roast"))) ∧
      parseQuery (Expr.or (.term "coffee") (.not (.term "dark roast"))).query =
        .ok (.or (.term "coffee") (.not (.term "dark roast"))) := by
  have htokens : tokenize "coffee OR NOT \"dark roast\"" =
      .ok [⟨.word, "coffee", 0⟩, ⟨.keyword .or, "OR", 7⟩, ⟨.keyword .not, "NOT", 10⟩,
        ⟨.phrase, "\"dark roast\"", 14⟩] := by decide
  have hleft : Derives .conjunction groupLimit [⟨.word, "coffee", 0⟩] (.term "coffee") :=
    .first (.ungrouped (.literal (.word rfl)))
  have hright : Derives .expression groupLimit
      [⟨.keyword .not, "NOT", 10⟩, ⟨.phrase, "\"dark roast\"", 14⟩]
      (.not (.term "dark roast")) :=
    .single (.first (.ungrouped (.negated rfl (.quoted rfl (by decide)))))
  have hderives := Derives.alternative (t := ⟨.keyword .or, "OR", 7⟩) hleft rfl hright
  have hread : parseQuery "coffee OR NOT \"dark roast\"" =
      .ok (.or (.term "coffee") (.not (.term "dark roast"))) :=
    parseQuery_eq_ok_iff.mpr ⟨_, htokens, parse_eq_ok_iff_derives.mpr hderives⟩
  exact ⟨hread, (parsed_query_reads_back_iff hread).1.mpr (by decide)⟩

/-! ## Long runs of words -/

/-- The query of `n` words and one more, with nothing but spaces between them. -/
def wordRun (n : Nat) : String :=
  String.ofList ((List.replicate n ['a', ' ']).flatten ++ ['a'])

/-- The tokens of a run of words, the first of them at byte `offset`. -/
def wordTokens (offset : Nat) : Nat → List Token
  | 0 => [⟨.word, "a", offset⟩]
  | n + 1 => ⟨.word, "a", offset⟩ :: wordTokens (offset + 2) n

/-- The tokens of a run of words are words. -/
lemma kind_of_mem_wordTokens {offset n : Nat} {t : Token} (ht : t ∈ wordTokens offset n) :
    t.kind = .word := by
  induction n generalizing offset with
  | zero => simp [List.mem_singleton.mp ht]
  | succ n ih =>
    rcases List.mem_cons.mp ht with rfl | ht
    · rfl
    · exact ih ht

/-- A run of words has as many tokens. -/
lemma length_wordTokens (offset n : Nat) : (wordTokens offset n).length = n + 1 := by
  induction n generalizing offset with
  | zero => rfl
  | succ n ih => rw [wordTokens, List.length_cons, ih]

/-- A word of a run is read as a word. -/
lemma munch_wordRun_cons {afterBlank : Bool} {offset : Nat} {rest : List Char}
    (hrest : EndsWord rest) :
    munch afterBlank offset ('a' :: rest) =
      (munch false (offset + 1) rest).map (⟨.word, "a", offset⟩ :: ·) := by
  have ha : isWordChar 'a' = true := by decide
  have hword : ∀ c ∈ ['a'], isWordChar c = true := by simpa using ha
  exact munch_bareWord (by simp) hword (by decide) hrest

/-- Maximal munch reads a run of words as its tokens. -/
lemma munch_wordRun {afterBlank : Bool} {offset n : Nat} :
    munch afterBlank offset (wordRun n).toList = .ok (wordTokens offset n) := by
  induction n generalizing afterBlank offset with
  | zero =>
    rw [wordRun, String.toList_ofList, List.replicate_zero, List.flatten_nil, List.nil_append,
      munch_wordRun_cons (by simp [EndsWord]), munch]
    rfl
  | succ n ih =>
    have hsucc : (wordRun (n + 1)).toList = 'a' :: ' ' :: (wordRun n).toList := by
      simp [wordRun, List.replicate_succ]
    rw [hsucc, munch_wordRun_cons endsWord_space, munch_space, ih]
    rfl

/-- Each word that follows a conjunction directly adds a connective on top of it. -/
lemma derives_append_words {n : Nat} {ts us : List Token} {e : Expr}
    (h : Derives .conjunction n ts e) (hus : ∀ u ∈ us, u.kind = .word) :
    ∃ e', Derives .conjunction n (ts ++ us) e' ∧
      e'.connectiveDepth = e.connectiveDepth + us.length := by
  induction us generalizing ts e with
  | nil => exact ⟨e, by simpa using h, rfl⟩
  | cons u us ih =>
    have hu : Derives .operand n [u] (.term u.text) :=
      .ungrouped (.literal (.word (hus u List.mem_cons_self)))
    obtain ⟨e', hderives, hdepth⟩ := ih (h.implied hu) fun v hv => hus v (List.mem_cons_of_mem u hv)
    refine ⟨e', by simpa using hderives, ?_⟩
    rw [hdepth, Expr.and, Expr.connectiveDepth, Expr.connectiveDepth, List.length_cons]
    omega

/-- A run of `n + 1` words is read as an expression with `n` connectives on a path. -/
lemma exists_parseQuery_wordRun (n : Nat) :
    ∃ e, parseQuery (wordRun n) = .ok e ∧ e.connectiveDepth = n := by
  obtain ⟨cs, hcons⟩ : ∃ cs, (wordRun n).toList = 'a' :: cs := by
    cases n <;> simp [wordRun, List.replicate_succ]
  have hconcat : (wordRun n).toList = (List.replicate n ['a', ' ']).flatten ++ ['a'] :=
    String.toList_ofList
  have hpad : isPadding 'a' = false := by decide
  have htokens : tokenize (wordRun n) = .ok (wordTokens 0 n) := by
    rw [tokenize_eq_munch, unpadded_eq_self hcons hpad hconcat hpad, munch_wordRun]
  obtain ⟨t, us, hts⟩ := List.exists_cons_of_length_eq_add_one (length_wordTokens 0 n)
  have hwords : ∀ u ∈ t :: us, u.kind = .word := fun u hu => kind_of_mem_wordTokens (hts ▸ hu)
  have hfirst : Derives .conjunction groupLimit [t] (.term t.text) :=
    .first (.ungrouped (.literal (.word (hwords t List.mem_cons_self))))
  obtain ⟨e, hderives, hdepth⟩ :=
    derives_append_words hfirst fun u hu => hwords u (List.mem_cons_of_mem t hu)
  have hlength : us.length = n := by simpa [hts] using length_wordTokens 0 n
  refine ⟨e, parseQuery_eq_ok_iff.mpr ⟨t :: us, hts ▸ htokens, ?_⟩, ?_⟩
  · exact parse_eq_ok_iff_derives.mpr (.single hderives)
  · rw [hdepth, hlength, Expr.connectiveDepth, Nat.zero_add]

/-- A run of `n + 1` words is read as an expression with more than `n` levels. -/
lemma exists_parseQuery_wordRun_deep (n : Nat) :
    ∃ e, parseQuery (wordRun n) = .ok e ∧ n < e.depth := by
  obtain ⟨e, hread, hdepth⟩ := exists_parseQuery_wordRun n
  exact ⟨e, hread, hdepth ▸ e.connectiveDepth_lt_depth⟩

/-- The expression of a run of 258 words does not read back. -/
theorem long_word_run_does_not_read_back :
    ∃ e, parseQuery (wordRun 257) = .ok e ∧ ∃ error, parseQuery e.query = .error error := by
  obtain ⟨e, hread, hdepth⟩ := exists_parseQuery_wordRun 257
  have hdeep : groupLimit < e.connectiveDepth := by
    rw [hdepth]
    decide
  exact ⟨e, hread, exists_parseQuery_query_eq_error (parseQuery_shape hread).2 hdeep⟩

end SearchQuery

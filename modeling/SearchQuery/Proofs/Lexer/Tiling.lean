import SearchQuery.Proofs.Lexer.Simulation

/-!
# Tokens tile their query

The tokens of a query lie in it one after the other.  Each is the very text that stands at its
offset, only blanks lie between two of them, and only padding lies before the first and after the
last, so nothing of a query is lost but what separates its tokens (`tokens_tile_query`).

Maximal munch takes the characters one blank or one token at a time, and `Tiles` records just that.
What is read off it needs no further look at the lexer: before the first token there are only blanks
(`Tiles.exists_head`), and where the tokens are cut in two at one of them, so are the characters
(`Tiles.exists_token`).

Offsets count the bytes of the whole query, so a part of it is given by the bytes where it starts
and stops (`IsSlice`).
-/

namespace SearchQuery

/-- The part of the text from byte `start` to byte `stop`, both of them between characters. -/
def IsSlice (text : String) (start stop : Nat) (part : String) : Prop :=
  ∃ before after : String, text = before ++ part ++ after ∧
    before.utf8ByteSize = start ∧ (before ++ part).utf8ByteSize = stop

/-- The byte right after the text of a token. -/
def Token.stop (t : Token) : Nat :=
  t.offset + t.text.utf8ByteSize

/-- The byte right after a token is found by counting the bytes of its characters. -/
lemma Token.stop_eq (t : Token) : t.stop = t.offset + byteLength t.text.toList := by
  rw [stop, utf8ByteSize_eq_byteLength]

/-- The characters between two others are a slice. -/
lemma isSlice_of_toList {text : String} {start stop : Nat} (before part after : List Char)
    (htext : text.toList = before ++ part ++ after) (hstart : byteLength before = start)
    (hstop : start + byteLength part = stop) : IsSlice text start stop (String.ofList part) := by
  refine ⟨String.ofList before, String.ofList after, ?_, ?_, ?_⟩
  · rw [← String.toList_inj, htext]
    simp
  · rw [utf8ByteSize_eq_byteLength, String.toList_ofList, hstart]
  · rw [utf8ByteSize_eq_byteLength, String.toList_append, String.toList_ofList,
      String.toList_ofList, byteLength_append, hstart, hstop]

/-! ## Tokens and blanks -/

/-- From byte `offset` on, the characters are blanks and those of the tokens, in their order. -/
inductive Tiles : Nat → List Char → List Token → Prop
  | nil {offset : Nat} : Tiles offset [] []
  | blank {offset : Nat} {c : Char} {cs : List Char} {ts : List Token} :
      isBlank c = true → Tiles (offset + c.utf8Size) cs ts → Tiles offset (c :: cs) ts
  | token {t : Token} {rest : List Char} {ts : List Token} :
      t.WellFormed → Tiles (t.offset + byteLength t.text.toList) rest ts →
        Tiles t.offset (t.text.toList ++ rest) (t :: ts)

/-- Maximal munch takes in blanks and tokens, and nothing else. -/
lemma tiles_of_munch {afterBlank : Bool} {offset : Nat} {cs : List Char} {ts : List Token}
    (h : MaximalMunch.munch afterBlank offset cs = .ok ts) : Tiles offset cs ts := by
  fun_induction MaximalMunch.munch afterBlank offset cs generalizing ts with
  | case1 =>
    obtain rfl := Except.ok.inj h
    exact .nil
  | case2 afterBlank offset c cs hblank ih => exact .blank hblank (ih h)
  | case3 => simp at h
  | case4 afterBlank offset c cs _ token rest hlex ih =>
    rcases hus : MaximalMunch.munch false (offset + byteLength token.text.toList) rest with _ | us
    · simp [hus, Except.map] at h
    · rw [hus] at h
      obtain rfl := Except.ok.inj h
      obtain ⟨hchars, rfl, hwell⟩ := MaximalMunch.isLexeme_of_lexeme hlex
      rw [hchars]
      exact .token hwell (ih hus)

namespace Tiles

variable {offset : Nat} {cs : List Char} {t u : Token} {ts us : List Token}

/-- The tokens are well formed. -/
lemma wellFormed (h : Tiles offset cs ts) : ∀ t ∈ ts, t.WellFormed := by
  induction h with
  | nil => simp
  | blank _ _ ih => exact ih
  | token hwell _ ih => simpa using ⟨hwell, ih⟩

/-- Without tokens there are only blanks. -/
lemma isBlank_of_nil (h : Tiles offset cs []) : ∀ c ∈ cs, isBlank c = true := by
  generalize hts : ([] : List Token) = ts at h
  induction h with
  | nil => simp
  | blank hc _ ih => simpa using ⟨hc, ih hts⟩
  | token => simp at hts

/-- The characters are those of blanks, the first token, and the others. -/
lemma exists_head (h : Tiles offset cs (t :: ts)) :
    ∃ gap rest, cs = gap ++ t.text.toList ++ rest ∧ offset + byteLength gap = t.offset ∧
      (∀ c ∈ gap, isBlank c = true) ∧ Tiles (t.offset + byteLength t.text.toList) rest ts := by
  generalize hts : t :: ts = ts' at h
  induction h with
  | nil => simp at hts
  | @blank offset c cs _ hc _ ih =>
    obtain ⟨gap, rest, rfl, hoffset, hgap, hrest⟩ := ih hts
    refine ⟨c :: gap, rest, rfl, ?_, by simpa using ⟨hc, hgap⟩, hrest⟩
    rw [byteLength_cons, ← Nat.add_assoc, hoffset]
  | @token t' rest _ _ hrest _ =>
    obtain ⟨rfl, rfl⟩ := List.cons.inj hts
    exact ⟨[], rest, rfl, rfl, by simp, hrest⟩

/-- What comes before a token is cut off with the tokens before it. -/
lemma exists_token (h : Tiles offset cs (ts ++ t :: us)) :
    ∃ before rest, cs = before ++ t.text.toList ++ rest ∧
      offset + byteLength before = t.offset ∧
        Tiles (t.offset + byteLength t.text.toList) rest us := by
  induction ts generalizing offset cs with
  | nil =>
    obtain ⟨gap, rest, hcs, hoffset, -, hrest⟩ := h.exists_head
    exact ⟨gap, rest, hcs, hoffset, hrest⟩
  | cons u ts ih =>
    obtain ⟨gap, rest, rfl, hoffset, -, hrest⟩ := h.exists_head
    obtain ⟨before, rest, rfl, hbefore, hafter⟩ := ih hrest
    refine ⟨gap ++ u.text.toList ++ before, rest, by simp, ?_, hafter⟩
    rw [byteLength_append, byteLength_append, ← hbefore, ← hoffset]
    omega

/-- No token begins before the characters do. -/
lemma le_offset (h : Tiles offset cs ts) (ht : t ∈ ts) : offset ≤ t.offset := by
  obtain ⟨earlier, later, rfl⟩ := List.append_of_mem ht
  obtain ⟨before, -, -, hbefore, -⟩ := h.exists_token
  omega

/-- The tokens follow each other without overlapping. -/
lemma pairwise (h : Tiles offset cs ts) :
    ts.Pairwise fun t u => t.offset < u.offset ∧ t.stop ≤ u.offset := by
  induction ts generalizing offset cs with
  | nil => exact .nil
  | cons t ts ih =>
    obtain ⟨-, rest, -, -, -, hrest⟩ := h.exists_head
    refine List.pairwise_cons.mpr ⟨?_, ih hrest⟩
    intro u hu
    have hstop : t.stop ≤ u.offset := by
      rw [Token.stop_eq]
      exact hrest.le_offset hu
    have hne := MaximalMunch.toList_ne_nil_of_wellFormed (h.wellFormed t List.mem_cons_self)
    obtain ⟨c, cs, hchars⟩ := List.exists_cons_of_ne_nil hne
    have hpos : t.offset < t.stop := by
      have := c.utf8Size_pos
      rw [Token.stop_eq, hchars, byteLength_cons]
      omega
    exact ⟨hpos.trans_le hstop, hstop⟩

end Tiles

/-! ## The padding at the ends -/

/-- What is dropped from the end satisfies the predicate. -/
lemma exists_dropEndWhile_append (p : Char → Bool) (cs : List Char) :
    ∃ trail, cs = dropEndWhile p cs ++ trail ∧ ∀ c ∈ trail, p c = true := by
  refine ⟨(cs.reverse.takeWhile p).reverse, ?_, ?_⟩
  · rw [dropEndWhile, ← List.reverse_append, List.takeWhile_append_dropWhile, List.reverse_reverse]
  · intro c hc
    exact List.mem_takeWhile_imp (List.mem_reverse.mp hc)

/-- Padding is made of the characters up to the space. -/
lemma le_space_of_isPadding {c : Char} (hc : isPadding c = true) : c ≤ ' ' := by
  rwa [isPadding_eq, decide_eq_true_eq] at hc

/-- Blanks are padding. -/
lemma le_space_of_isBlank {c : Char} (hc : isBlank c = true) : c ≤ ' ' :=
  le_space_of_isPadding (isPadding_of_isBlank hc)

/-- A query is what the lexer is fed, between padding. -/
lemma exists_unpadded (query : String) :
    ∃ lead trail, query.toList = lead ++ (unpadded query.toList).2 ++ trail ∧
      byteLength lead = (unpadded query.toList).1 ∧ (∀ c ∈ lead, c ≤ ' ') ∧
      ∀ c ∈ trail, c ≤ ' ' := by
  obtain ⟨trail, htrail, hpadding⟩ :=
    exists_dropEndWhile_append isPadding (query.toList.dropWhile isPadding)
  refine ⟨query.toList.takeWhile isPadding, trail, ?_, rfl, ?_, ?_⟩
  · rw [unpadded, List.append_assoc, ← htrail, List.takeWhile_append_dropWhile]
  · exact fun c hc => le_space_of_isPadding (List.mem_takeWhile_imp hc)
  · exact fun c hc => le_space_of_isPadding (hpadding c hc)

/-- A query is its tokens and blanks between padding. -/
lemma exists_tiles_of_tokenize {query : String} {tokens : List Token}
    (h : tokenize query = .ok tokens) :
    ∃ lead body trail, query.toList = lead ++ body ++ trail ∧ (∀ c ∈ lead, c ≤ ' ') ∧
      (∀ c ∈ trail, c ≤ ' ') ∧ Tiles (byteLength lead) body tokens := by
  obtain ⟨lead, trail, hquery, hlength, hlead, htrail⟩ := exists_unpadded query
  rw [tokenize_eq_munch, ← hlength] at h
  exact ⟨lead, _, trail, hquery, hlead, htrail, tiles_of_munch h⟩

/-- A query that is all padding has no tokens. -/
lemma tokenize_of_le_space {query : String} (h : ∀ c ∈ query.toList, c ≤ ' ') :
    tokenize query = .ok [] := by
  have hdrop : query.toList.dropWhile isPadding = [] := by
    rw [List.dropWhile_eq_nil_iff]
    intro c hc
    rw [isPadding_eq, decide_eq_true_eq]
    exact h c hc
  have hbody : (unpadded query.toList).2 = [] := by
    rw [unpadded, hdrop]
    rfl
  rw [tokenize_eq_munch, hbody, MaximalMunch.munch]

/-- A query has no tokens when it is all padding, and only then. -/
lemma tokens_eq_nil_iff {query : String} {tokens : List Token} (h : tokenize query = .ok tokens) :
    tokens = [] ↔ ∀ c ∈ query.toList, c ≤ ' ' := by
  constructor
  · rintro rfl c hc
    obtain ⟨lead, body, trail, hquery, hlead, htrail, htiles⟩ := exists_tiles_of_tokenize h
    rw [hquery, List.mem_append, List.mem_append] at hc
    rcases hc with (hc | hc) | hc
    · exact hlead c hc
    · exact le_space_of_isBlank (htiles.isBlank_of_nil c hc)
    · exact htrail c hc
  · intro hle
    exact Except.ok.inj (h.symm.trans (tokenize_of_le_space hle))

/-! ## The parts of a query -/

section

variable {query : String} {lead body trail : List Char} {tokens : List Token} {t u : Token}

/-- The text of a token stands where the token says. -/
lemma isSlice_text (hquery : query.toList = lead ++ body ++ trail)
    (h : Tiles (byteLength lead) body tokens) (ht : t ∈ tokens) :
    IsSlice query t.offset t.stop t.text := by
  obtain ⟨earlier, later, rfl⟩ := List.append_of_mem ht
  obtain ⟨before, rest, rfl, hbefore, -⟩ := h.exists_token
  rw [← String.ofList_toList (s := t.text)]
  refine isSlice_of_toList (lead ++ before) _ (rest ++ trail) ?_ ?_ ?_
  · simp [hquery]
  · rw [byteLength_append, hbefore]
  · rw [Token.stop_eq]

/-- Up to its first token a query is padding. -/
lemma exists_lead (hquery : query.toList = lead ++ body ++ trail) (hlead : ∀ c ∈ lead, c ≤ ' ')
    (h : Tiles (byteLength lead) body tokens) (ht : t ∈ tokens.head?) :
    ∃ part, IsSlice query 0 t.offset part ∧ ∀ c ∈ part.toList, c ≤ ' ' := by
  obtain ⟨later, rfl⟩ := List.head?_eq_some_iff.mp ht
  obtain ⟨gap, rest, rfl, hoffset, hgap, -⟩ := h.exists_head
  refine ⟨String.ofList (lead ++ gap), ?_, ?_⟩
  · refine isSlice_of_toList [] _ (t.text.toList ++ rest ++ trail) ?_ rfl ?_
    · simp [hquery]
    · rw [byteLength_append, hoffset, Nat.zero_add]
  · rw [String.toList_ofList, List.forall_mem_append]
    exact ⟨hlead, fun c hc => le_space_of_isBlank (hgap c hc)⟩

/-- From its last token on a query is padding. -/
lemma exists_trail (hquery : query.toList = lead ++ body ++ trail) (htrail : ∀ c ∈ trail, c ≤ ' ')
    (h : Tiles (byteLength lead) body tokens) (ht : t ∈ tokens.getLast?) :
    ∃ part, IsSlice query t.stop query.utf8ByteSize part ∧ ∀ c ∈ part.toList, c ≤ ' ' := by
  obtain ⟨earlier, rfl⟩ := List.getLast?_eq_some_iff.mp ht
  obtain ⟨before, rest, rfl, hbefore, hrest⟩ := h.exists_token
  have hwhole : query.toList = lead ++ before ++ t.text.toList ++ (rest ++ trail) ++ [] := by
    simp [hquery]
  have hstop : byteLength (lead ++ before ++ t.text.toList) = t.stop := by
    rw [byteLength_append, byteLength_append, hbefore, Token.stop_eq]
  refine ⟨String.ofList (rest ++ trail), isSlice_of_toList _ _ _ hwhole hstop ?_, ?_⟩
  · rw [utf8ByteSize_eq_byteLength, hwhole, List.append_nil, byteLength_append _ (rest ++ trail),
      hstop]
  · rw [String.toList_ofList, List.forall_mem_append]
    exact ⟨fun c hc => le_space_of_isBlank (hrest.isBlank_of_nil c hc), htrail⟩

/-- From one token to the next a query is blank. -/
lemma exists_gap (hquery : query.toList = lead ++ body ++ trail)
    (h : Tiles (byteLength lead) body tokens) (ht : [t, u] <:+: tokens) :
    ∃ part, IsSlice query t.stop u.offset part ∧ ∀ c ∈ part.toList, c = ' ' ∨ c = '\t' := by
  obtain ⟨earlier, later, rfl⟩ := ht
  rw [List.append_assoc] at h
  obtain ⟨before, _, rfl, hbefore, hafter⟩ := h.exists_token
  obtain ⟨gap, rest, rfl, hoffset, hgap, -⟩ := hafter.exists_head
  refine ⟨String.ofList gap, ?_, ?_⟩
  · refine isSlice_of_toList (lead ++ before ++ t.text.toList) _
      (u.text.toList ++ rest ++ trail) ?_ ?_ ?_
    · simp [hquery]
    · rw [byteLength_append, byteLength_append, hbefore, Token.stop_eq]
    · rw [Token.stop_eq, hoffset]
  · intro c hc
    rw [String.toList_ofList] at hc
    simpa [isBlank] using hgap c hc

/-- The tokens of a query lie in it one after the other without overlapping, each the text that
stands at its offset, with blanks between them and padding around them; a query without tokens is
all padding. -/
theorem tokens_tile_query (h : tokenize query = .ok tokens) :
    (∀ t ∈ tokens, IsSlice query t.offset t.stop t.text) ∧
      tokens.Pairwise (fun t u => t.offset < u.offset ∧ t.stop ≤ u.offset) ∧
      (∀ t ∈ tokens.head?, ∃ part, IsSlice query 0 t.offset part ∧ ∀ c ∈ part.toList, c ≤ ' ') ∧
      (∀ t ∈ tokens.getLast?, ∃ part, IsSlice query t.stop query.utf8ByteSize part ∧
        ∀ c ∈ part.toList, c ≤ ' ') ∧
      (∀ t u, [t, u] <:+: tokens → ∃ part, IsSlice query t.stop u.offset part ∧
        ∀ c ∈ part.toList, c = ' ' ∨ c = '\t') ∧
      (tokens = [] ↔ ∀ c ∈ query.toList, c ≤ ' ') := by
  obtain ⟨lead, body, trail, hquery, hlead, htrail, htiles⟩ := exists_tiles_of_tokenize h
  refine ⟨fun t => isSlice_text hquery htiles, htiles.pairwise,
    fun t => exists_lead hquery hlead htiles, fun t => exists_trail hquery htrail htiles,
    fun t u => exists_gap hquery htiles, tokens_eq_nil_iff h⟩

/-- The two tokens of a padded query with a character of two bytes lie where they say. -/
theorem padded_query_is_tiled :
    let query := "  né \t\"x y\"\n"
    let tokens : List Token := [⟨.word, "né", 2⟩, ⟨.phrase, "\"x y\"", 7⟩]
    tokenize query = .ok tokens ∧
      (∀ t ∈ tokens, IsSlice query t.offset t.stop t.text) ∧
      tokens.Pairwise (fun t u => t.offset < u.offset ∧ t.stop ≤ u.offset) ∧
      (∀ t ∈ tokens.head?, ∃ part, IsSlice query 0 t.offset part ∧ ∀ c ∈ part.toList, c ≤ ' ') ∧
      (∀ t ∈ tokens.getLast?, ∃ part, IsSlice query t.stop query.utf8ByteSize part ∧
        ∀ c ∈ part.toList, c ≤ ' ') ∧
      (∀ t u, [t, u] <:+: tokens → ∃ part, IsSlice query t.stop u.offset part ∧
        ∀ c ∈ part.toList, c = ' ' ∨ c = '\t') ∧
      (tokens = [] ↔ ∀ c ∈ query.toList, c ≤ ' ') := by
  intro query tokens
  have h : tokenize query = .ok tokens := by decide +kernel
  exact ⟨h, tokens_tile_query h⟩

end

end SearchQuery

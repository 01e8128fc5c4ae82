import Mathlib.Order.Bounds.Defs
import SearchQuery.Proofs.Parser.Admission

/-!
# Where parse errors are placed

A parse error is told of at the first token with which the tokens read so far can no longer be
completed to an expression, or at the end when there is no such token, and it depends on nothing
that comes later (`parse_error_at_first_offence`).

The parser finds out in the middle of some reader, several groups deep, so the statement for each
reader is about any tokens that may have been read before it: a failing reader stops where a token
`Offends`, or where the tokens are `Unfinished` (`fails_of_readExpression` and the others).  What
the readers before it have read derives an operand, and such tokens are admitted one by one.
-/

namespace SearchQuery

/-- Read after the tokens before them, the tokens go wrong with the error: at the first of them that
offends, or at their end. -/
inductive Fails : List Token → List Token → ParseError → Prop
  | atEnd {before : List Token} {err : ParseError} :
      Unfinished before err → Fails before [] err
  | here {before ts : List Token} {t : Token} {err : ParseError} :
      Offends before t err → Fails before (t :: ts) err
  | later {before ts : List Token} {t : Token} {err : ParseError} :
      MayFollow before t → Fails (before ++ [t]) ts err → Fails before (t :: ts) err

/-- The tokens can be completed to some that spell an expression. -/
def Viable (ts : List Token) : Prop :=
  ∃ us e, parse (ts ++ us) = .ok e

/-! ## Failing in one way only -/

section

variable {before ts us : List Token} {t : Token} {err err' : ParseError}

/-- No token offends in two ways. -/
lemma Offends.unique (h : Offends before t err) (h' : Offends before t err') : err = err' := by
  cases h <;> cases h' <;>
    grind [StartsExpression, EndsOperand, lastKind?_of_getLast?, Kind.isConnective]

/-- Tokens are unfinished in one way only. -/
lemma Unfinished.unique (h : Unfinished ts err) (h' : Unfinished ts err') : err = err' := by
  cases h <;> cases h' <;>
    grind [EndsOperand, lastKind?_of_getLast?, Kind.isConnective, lastKind?_nil]

/-- What is read before a failure does not change it. -/
lemma Fails.append (h : Admits before ts) (h' : Fails (before ++ ts) us err) :
    Fails before (ts ++ us) err := by
  induction ts generalizing before with
  | nil => simpa using h'
  | cons t ts ih => exact .later h.1 (ih h.2 (by simpa using h'))

/-- Admitted tokens fail at most at their end. -/
lemma Fails.unfinished (h : Fails before ts err) (hadmits : Admits before ts) :
    Unfinished (before ++ ts) err := by
  induction h with
  | atEnd hend => simpa using hend
  | here hoff => exact absurd hoff (hadmits.1 _)
  | later _ _ ih => simpa using ih hadmits.2

/-- After admitted tokens, one that offends is where they fail. -/
lemma Fails.eq_of_offends (h : Fails before (ts ++ t :: us) err) (hadmits : Admits before ts)
    (hoff : Offends (before ++ ts) t err') : err = err' := by
  induction ts generalizing before with
  | nil =>
    rw [List.append_nil] at hoff
    cases h with
    | here hoff' => exact hoff'.unique hoff
    | later hmay _ => exact absurd hoff (hmay _)
  | cons u ts ih =>
    cases h with
    | here hoff' => exact absurd hoff' (hadmits.1 _)
    | later _ hlater => exact ih hlater hadmits.2 (by simpa using hoff)

/-- Failing tokens are admitted up to one that offends, or all of them are and they are
unfinished. -/
lemma Fails.exists_split (h : Fails before ts err) :
    (∃ used t rest, ts = used ++ t :: rest ∧ Admits before used ∧ Offends (before ++ used) t err) ∨
      Admits before ts ∧ Unfinished (before ++ ts) err := by
  induction h with
  | atEnd hend => exact Or.inr ⟨trivial, by simpa using hend⟩
  | here hoff => exact Or.inl ⟨[], _, _, rfl, trivial, by simpa using hoff⟩
  | later hmay _ ih =>
    rcases ih with ⟨used, t, rest, rfl, hadmits, hoff⟩ | ⟨hadmits, hend⟩
    · exact Or.inl ⟨_ :: used, t, rest, rfl, ⟨hmay, hadmits⟩, by simpa using hoff⟩
    · exact Or.inr ⟨⟨hmay, hadmits⟩, by simpa using hend⟩

end

namespace Parser

/-! ## What the readers leave -/

/-- A conjunction is read up to an `OR`, a closing parenthesis or the end. -/
lemma stop_of_readConjunction {depth : Nat} {left e : Expr} {ts rest : List Token}
    (h : readConjunction depth left ts = .ok (e, rest)) :
    ∀ t ∈ rest.head?, t.kind = .keyword .or ∨ t.kind = .closeParen := by
  rcases readConjunction_eq_ok h with ⟨rfl, rfl, hstop⟩ | ⟨and, us, r, after, hts, -, hr, hend⟩
  · exact hstop
  · have hafter : after.length < us.length := length_of_readOperand hr
    have hus : us.length ≤ ts.length := by simp [hts]
    exact stop_of_readConjunction hend
termination_by ts.length

/-- An expression is read up to a closing parenthesis or the end. -/
lemma endsExpression_of_readExpression {depth : Nat} {earlier : List Expr} {e : Expr}
    {ts rest : List Token} (h : readExpression depth earlier ts = .ok (e, rest)) :
    EndsExpression rest := by
  obtain ⟨first, mid, last, after, hfirst, hlast, hend⟩ := readExpression_eq_ok h
  rcases hend with ⟨-, rfl, hor⟩ | ⟨t, us, hafterEq, -, hus⟩
  · exact fun t ht => (stop_of_readConjunction hlast t ht).resolve_left (hor t ht)
  · have hmid : mid.length < ts.length := length_of_readOperand hfirst
    have hafter : after.length ≤ mid.length := length_of_readConjunction hlast
    have hlen : us.length < after.length := by simp [hafterEq]
    exact endsExpression_of_readExpression hus
termination_by ts.length

/-! ## Where the readers fail -/

/-- What follows a `NOT` fails there. -/
lemma fails_of_negated {before ts : List Token} {t : Token} {err : ParseError}
    (ht : t.kind = .keyword .not) (h : negated t.offset ts = .error err) :
    Fails (before ++ [t]) ts err := by
  rcases ts with _ | ⟨u, us⟩
  · obtain rfl := Except.error.inj h
    exact .atEnd (.invalidNotOperand List.getLast?_concat ht)
  · rw [negated] at h
    split at h
    · simp at h
    · simp at h
    · next hword hphrase =>
      obtain rfl := Except.error.inj h
      exact .here (.invalidNotOperand (by simp [ht]) hword hphrase)

/-- An operand and what is read after it fail where the operand does, or after it. -/
lemma fails_of_bind_readOperand {before ts : List Token} {n depth : Nat} {err : ParseError}
    {f : Expr × List Token → Outcome} (hn : depth + n = groupLimit)
    (hd : (openGroups before).length = depth) (hplace : lastKind? before ≠ some (.keyword .not))
    (hoperand : readOperand depth ts = .error err → Fails before ts err)
    (hrest : ∀ used e rest, ts = used ++ rest → rest.length < ts.length →
      Derives .operand n used e → AdmitsOperand before used → f (e, rest) = .error err →
        Fails (before ++ used) rest err)
    (h : (readOperand depth ts).bind f = .error err) : Fails before ts err := by
  rcases bind_eq_error_iff.mp h with h | ⟨⟨e, rest⟩, hread, h⟩
  · exact hoperand h
  · obtain ⟨used, hused, hderives⟩ := derives_of_readOperand hn hread
    have hadmits : AdmitsOperand before used :=
      admitsOperand_of_derives hderives hplace (hd ▸ hn.le)
    rw [hused]
    exact .append hadmits.admits
      (hrest used e rest hused (length_of_readOperand hread) hderives hadmits h)

/-- After a conjunction, the tokens fail where the other alternatives do. -/
lemma fails_of_readAlternatives {before ts : List Token} {depth : Nat} {earlier : List Expr}
    {last : Expr} {err : ParseError} (hd : (openGroups before).length = depth)
    (hplace : EndsOperand before)
    (hmore : ∀ t u us, ts = t :: u :: us → lastKind? (before ++ [t]) = some (.keyword .or) →
      (openGroups (before ++ [t])).length = depth →
        readExpression depth (last :: earlier) (u :: us) = .error err →
          Fails (before ++ [t]) (u :: us) err)
    (h : readAlternatives depth earlier (last, ts) = .error err) : Fails before ts err := by
  rcases ts with _ | ⟨t, ts⟩
  · simp [readAlternatives] at h
  by_cases ht : t.kind = .keyword .or
  · have hlast : lastKind? (before ++ [t]) = some (.keyword .or) := by rw [lastKind?_concat, ht]
    have hsame : (openGroups (before ++ [t])).length = depth := by
      rw [openGroups_concat_of_keyword ht, hd]
    rw [readAlternatives, if_pos ht] at h
    refine .later (mayFollow_of_connective hplace (by simp [ht, Kind.isConnective])) ?_
    rcases ts with _ | ⟨u, us⟩
    · obtain rfl := Except.error.inj h
      exact .atEnd (.missingOperand List.getLast?_concat (by simp [ht, Kind.isConnective]))
    · exact hmore t u us rfl hlast hsame h
  · simp [readAlternatives, ht] at h

mutual

/-- Where an operand may stand, it fails where the tokens do. -/
lemma fails_of_readOperand {before ts : List Token} {t : Token} {n depth : Nat}
    {err : ParseError} (hn : depth + n = groupLimit)
    (hd : (openGroups before).length = depth) (hplace : lastKind? before ≠ some (.keyword .not))
    (hconn : t.kind.isConnective = false)
    (hclose : t.kind = .closeParen → lastKind? before = none ∨
      lastKind? before = some (.keyword .and) ∨ lastKind? before = some (.keyword .or))
    (h : readOperand depth (t :: ts) = .error err) : Fails before (t :: ts) err := by
  by_cases ho : t.kind = .openParen
  · rw [readOperand_of_open ho] at h
    exact fails_of_readGroup hn hd hplace ho h
  by_cases hnot : t.kind = .keyword .not
  · rw [readOperand_of_not hnot] at h
    exact .later (mayFollow_of_not hplace hnot) (fails_of_negated hnot h)
  by_cases hl : t.kind = .word ∨ t.kind = .phrase
  · simp [readOperand_of_literal hl] at h
  · have hk : t.kind.opensOperand = false := by
      rw [Bool.eq_false_iff, Ne, Kind.opensOperand_iff]
      simp [ho, hnot, not_or.mp hl]
    have hc : t.kind = .closeParen := by
      rcases Kind.opensOperand_eq_false_iff.mp hk with hand | hor | hc
      · simp [hand, Kind.isConnective] at hconn
      · simp [hor, Kind.isConnective] at hconn
      · exact hc
    rw [readOperand_of_not_opensOperand hk, hc] at h
    obtain rfl := Except.error.inj h
    exact .here (.missingOperand (hclose hc) hc)
termination_by 3 * ts.length + 3

/-- Where a group may be opened, it fails where the tokens do. -/
lemma fails_of_readGroup {before ts : List Token} {o : Token} {n depth : Nat}
    {err : ParseError} (hn : depth + n = groupLimit)
    (hd : (openGroups before).length = depth) (hplace : lastKind? before ≠ some (.keyword .not))
    (ho : o.kind = .openParen) (h : readGroup depth o ts = .error err) :
    Fails before (o :: ts) err := by
  have hlimit : groupLimit = 256 := rfl
  rcases Nat.lt_or_ge depth groupLimit with hlt | hge
  · have hinside : (openGroups (before ++ [o])).length = depth + 1 := by
      rw [openGroups_concat, nest_of_open ho, List.length_cons, hd]
    have hlast : lastKind? (before ++ [o]) = some .openParen := by rw [lastKind?_concat, ho]
    obtain ⟨m, rfl⟩ : ∃ m, n = m + 1 := ⟨n - 1, by omega⟩
    have hm : depth + 1 + m = groupLimit := by omega
    refine .later (mayFollow_of_open hplace (by omega) ho) ?_
    rcases hts : ts with _ | ⟨u, us⟩
    · rw [hts, readGroup_nil hlt] at h
      obtain rfl := Except.error.inj h
      exact .atEnd (.emptyGroup List.getLast?_concat ho)
    · have hlen : ts.length = us.length + 1 := by simp [hts]
      rw [hts] at h
      by_cases hu : u.kind = .closeParen
      · rw [readGroup_of_close hlt hu] at h
        obtain rfl := Except.error.inj h
        exact .here (.emptyGroup List.getLast?_concat ho hu)
      · rw [readGroup_cons hlt hu, bind_eq_error_iff] at h
        rcases h with h | ⟨⟨inner, rest⟩, hinner, h⟩
        · exact fails_of_readExpression hm hinside (Or.inr (Or.inl hlast)) (fun _ => hu) h
        · obtain ⟨used, last, hused, hderives, -⟩ := derives_of_readExpression hm hinner
          have hadmits : AdmitsOperand (before ++ [o]) used :=
            admitsOperand_of_derives hderives (by simp [hlast]) (hinside ▸ hm.le)
          rw [hused]
          refine .append hadmits.admits ?_
          rcases rest with _ | ⟨c, rest⟩
          · obtain rfl := Except.error.inj h
            refine .atEnd (.missingClose hadmits.ends ?_)
            rw [hadmits.groups, openGroups_concat, nest_of_open ho, List.head?_cons]
          · -- Nothing but a closing parenthesis can stop the expression here.
            have hc : c.kind = .closeParen := endsExpression_of_readExpression hinner c rfl
            simp [closeGroup, hc] at h
  · rw [readGroup_of_limit_le hge] at h
    obtain rfl := Except.error.inj h
    exact .here (.nestingTooDeep hplace (by omega) ho)
termination_by 3 * ts.length + 2

/-- After an operand, a conjunction fails where the tokens do. -/
lemma fails_of_readConjunction {before ts : List Token} {n depth : Nat} {left : Expr}
    {err : ParseError} (hn : depth + n = groupLimit)
    (hd : (openGroups before).length = depth) (hplace : EndsOperand before)
    (h : readConjunction depth left ts = .error err) : Fails before ts err := by
  rcases hts : ts with _ | ⟨t, us⟩
  · simp [hts] at h
  have hlen : ts.length = us.length + 1 := by simp [hts]
  rw [hts] at h
  by_cases hs : t.kind = .keyword .or ∨ t.kind = .closeParen
  · simp [readConjunction_of_stop hs] at h
  by_cases ha : t.kind = .keyword .and
  · have hlast : lastKind? (before ++ [t]) = some (.keyword .and) := by rw [lastKind?_concat, ha]
    have hsame : (openGroups (before ++ [t])).length = depth := by
      rw [openGroups_concat_of_keyword ha, hd]
    refine .later (mayFollow_of_connective hplace (by simp [ha, Kind.isConnective])) ?_
    rcases us with _ | ⟨u, us⟩
    · rw [readConjunction_of_and_nil ha] at h
      obtain rfl := Except.error.inj h
      exact .atEnd (.missingOperand List.getLast?_concat (by simp [ha, Kind.isConnective]))
    have hus : ts.length = us.length + 2 := hlen
    rcases hu : u.kind.isConnective
    · rw [readConjunction_of_and ha hu] at h
      refine fails_of_bind_readOperand hn hsame (by simp [hlast]) ?_ ?_ h
      · exact fails_of_readOperand hn hsame (by simp [hlast]) hu fun _ => Or.inr (Or.inl hlast)
      · intro used e rest _ hrest _ hadmits h
        rw [List.length_cons] at hrest
        exact fails_of_readConjunction hn (by rw [hadmits.groups, hsame]) hadmits.ends h
    · rw [readConjunction_of_and_connective ha hu] at h
      obtain rfl := Except.error.inj h
      exact .here (.operatorAfterAnd hlast hu)
  · have hk : t.kind.opensOperand = true := Kind.opensOperand_of_ne ha hs
    rw [readConjunction_of_opensOperand hk] at h
    refine fails_of_bind_readOperand hn hd (hplace.lastKind?_ne .not) ?_ ?_ h
    · exact fails_of_readOperand hn hd (hplace.lastKind?_ne .not)
        (Kind.isConnective_eq_false_of_opensOperand hk) fun hc => absurd (Or.inr hc) hs
    · intro used e rest _ hrest _ hadmits h
      rw [List.length_cons] at hrest
      exact fails_of_readConjunction hn (by rw [hadmits.groups, hd]) hadmits.ends h
termination_by 3 * ts.length + 1

/-- Where an expression must start, it fails where the tokens do. -/
lemma fails_of_readExpression {before ts : List Token} {t : Token} {n depth : Nat}
    {earlier : List Expr} {err : ParseError} (hn : depth + n = groupLimit)
    (hd : (openGroups before).length = depth) (hplace : StartsExpression before)
    (hclose : lastKind? before = some .openParen → t.kind ≠ .closeParen)
    (h : readExpression depth earlier (t :: ts) = .error err) : Fails before (t :: ts) err := by
  have hnot : lastKind? before ≠ some (.keyword .not) := by
    rcases hplace with hp | hp | hp <;> simp [hp]
  rcases ht : t.kind.isConnective
  · rw [readExpression_cons ht] at h
    refine fails_of_bind_readOperand hn hd hnot ?_ ?_ h
    · refine fails_of_readOperand hn hd hnot ht ?_
      intro hc
      rcases hplace with hp | hp | hp
      · exact Or.inl hp
      · exact absurd hc (hclose hp)
      · exact Or.inr (Or.inr hp)
    · intro used e rest hused hlen hderives hadmits h
      have hlen' : rest.length < ts.length + 1 := hlen
      dsimp only at h
      rcases bind_eq_error_iff.mp h with h | ⟨⟨last, after⟩, hlast, h⟩
      · exact fails_of_readConjunction hn (by rw [hadmits.groups, hd]) hadmits.ends h
      · have hafter : after.length ≤ rest.length := length_of_readConjunction hlast
        obtain ⟨more, hmore, hconj⟩ := derives_of_readConjunction hn (.first hderives) hlast
        have hall : AdmitsOperand before (used ++ more) :=
          admitsOperand_of_derives hconj hnot (hd ▸ hn.le)
        have hends : EndsOperand (before ++ used ++ more) := by simpa using hall.ends
        have hgroups : (openGroups (before ++ used ++ more)).length = depth := by
          rw [List.append_assoc, hall.groups, hd]
        rw [hmore]
        refine .append (admits_append.mp hall.admits).2 ?_
        refine fails_of_readAlternatives hgroups hends ?_ h
        intro u v us hus hor hsame h
        have hlen : us.length + 2 = after.length := by simp [hus]
        exact fails_of_readExpression hn hsame (Or.inr (Or.inr hor)) (by rw [hor]; simp) h
  · rw [readExpression_of_connective ht] at h
    obtain rfl := Except.error.inj h
    exact .here (.misplacedOperator hplace ht)
termination_by 3 * ts.length + 4

end

end Parser

/-! ## Where parsing fails -/

section

variable {ts us : List Token} {t : Token} {err : ParseError}

/-- Tokens that the parser refuses go wrong with the error that it gives. -/
lemma fails_of_parse (h : parse ts = .error err) : Fails [] ts err := by
  have hn : 0 + groupLimit = groupLimit := Nat.zero_add groupLimit
  rcases parse_eq_error h with hread | ⟨e, t, rest, hread, rfl⟩
  · rcases ts with _ | ⟨t, ts⟩
    · rw [Parser.readExpression_nil] at hread
      obtain rfl := Except.error.inj hread
      exact .atEnd (.empty rfl)
    · exact Parser.fails_of_readExpression hn rfl (Or.inl rfl) (by simp) hread
  · obtain ⟨used, last, rfl, hderives, -⟩ := Parser.derives_of_readExpression hn hread
    have hadmits : AdmitsOperand [] used :=
      admitsOperand_of_derives hderives (by simp) (Nat.le_refl 256)
    -- Nothing but a closing parenthesis can stop the expression before the end.
    have hc : t.kind = .closeParen := Parser.endsExpression_of_readExpression hread t rfl
    rw [hc]
    exact .append hadmits.admits (.here (.trailingToken hadmits.ends hadmits.groups hc))

/-- Tokens that the parser accepts are admitted one by one. -/
lemma admits_of_parse {e : Expr} (h : parse ts = .ok e) : Admits [] ts := by
  have hadmits : AdmitsOperand [] ts :=
    admitsOperand_of_derives (parse_eq_ok_iff_derives.mp h) (by simp) (Nat.le_refl 256)
  exact hadmits.admits

/-- Admitted tokens that end an operand with no group open spell an expression. -/
lemma exists_parse_of_admits (hadmits : Admits [] ts) (hends : EndsOperand ts)
    (hgroups : openGroups ts = []) : ∃ e, parse ts = .ok e := by
  rcases hparse : parse ts with err | e
  · exact absurd ((fails_of_parse hparse).unfinished hadmits) (not_unfinished hends hgroups err)
  · exact ⟨e, rfl⟩

/-- The tokens that can be completed to an expression are those that are admitted one by one. -/
lemma viable_iff_admits : Viable ts ↔ Admits [] ts := by
  constructor
  · rintro ⟨us, e, h⟩
    exact (admits_append.mp (admits_of_parse h)).1
  · intro hadmits
    obtain ⟨us, hus, hends, hgroups⟩ := exists_completion ts
    exact ⟨us, exists_parse_of_admits (admits_append.mpr ⟨hadmits, hus⟩) hends hgroups⟩

/-- Tokens that begin with admitted ones and then one that offends are refused because of it. -/
lemma parse_of_offends (hadmits : Admits [] ts) (hoff : Offends ts t err) :
    parse (ts ++ t :: us) = .error err := by
  rcases hparse : parse (ts ++ t :: us) with err' | e
  · exact congrArg _ ((fails_of_parse hparse).eq_of_offends hadmits hoff)
  · have hmay : MayFollow ts t := (admits_append.mp (admits_of_parse hparse)).2.1
    exact absurd hoff (hmay err)

/-- A parse error is told of at the first token with which the tokens can no longer be completed
to an expression, and it is the same whatever comes after; when all of the tokens can be completed,
it tells of what is missing at the end. -/
theorem parse_error_at_first_offence (h : parse ts = .error err) :
    ∃ i, IsGreatest {j | j ≤ ts.length ∧ Viable (ts.take j)} i ∧
      ((∃ hi : i < ts.length, (∀ err', Offends (ts.take i) ts[i] err' ↔ err' = err) ∧
          ∀ us : List Token, us.take (i + 1) = ts.take (i + 1) → parse us = .error err) ∨
        i = ts.length ∧ ∀ err', Unfinished ts err' ↔ err' = err) := by
  rcases (fails_of_parse h).exists_split with
    ⟨used, t, rest, rfl, hadmits, hoff⟩ | ⟨hadmits, hend⟩
  · have htake : (used ++ t :: rest).take (used.length + 1) = used ++ [t] := by
      rw [List.take_length_add_append, List.take_one, List.head?_cons, Option.toList_some]
    refine ⟨used.length, ⟨⟨by simp, by simpa using viable_iff_admits.mpr hadmits⟩, ?_⟩,
      Or.inl ⟨by simp, ?_, ?_⟩⟩
    · -- A longer prefix contains the token that offends.
      rintro j ⟨-, hviable⟩
      by_contra hj
      obtain ⟨more, hmore⟩ : used ++ [t] <+: (used ++ t :: rest).take j :=
        htake ▸ List.take_prefix_take_left (by omega)
      rw [← hmore, viable_iff_admits, List.append_assoc] at hviable
      exact (admits_append.mp hviable).2.1 err hoff
    · intro err'
      simp only [List.take_left, List.getElem_append_right (Nat.le_refl _), Nat.sub_self,
        List.getElem_cons_zero]
      exact ⟨fun h' => h'.unique hoff, fun h' => h' ▸ hoff⟩
    · intro us hus
      rw [htake] at hus
      have hsplit : us = used ++ t :: us.drop (used.length + 1) := by
        conv_lhs => rw [← List.take_append_drop (used.length + 1) us, hus]
        simp
      rw [hsplit]
      exact parse_of_offends hadmits hoff
  · refine ⟨ts.length, ⟨⟨Nat.le_refl _, ?_⟩, fun j hj => hj.1⟩, Or.inr ⟨rfl, ?_⟩⟩
    · rw [List.take_length]
      exact viable_iff_admits.mpr hadmits
    · exact fun err' => ⟨fun h' => h'.unique hend, fun h' => h' ▸ hend⟩

/-- In `(a OR AND b`, it is the second operator that cannot stand where it does. -/
theorem second_operator_is_first_offence :
    let ts : List Token :=
      [⟨.openParen, "(", 0⟩, ⟨.word, "a", 1⟩, ⟨.keyword .or, "OR", 3⟩, ⟨.keyword .and, "AND", 6⟩,
        ⟨.word, "b", 10⟩]
    parse ts = .error (.misplacedOperator (.keyword .and) 6) ∧
      ∃ i, IsGreatest {j | j ≤ ts.length ∧ Viable (ts.take j)} i ∧
        ((∃ hi : i < ts.length,
            (∀ err, Offends (ts.take i) ts[i] err ↔ err = .misplacedOperator (.keyword .and) 6) ∧
              ∀ us : List Token, us.take (i + 1) = ts.take (i + 1) →
                parse us = .error (.misplacedOperator (.keyword .and) 6)) ∨
          i = ts.length ∧
            ∀ err, Unfinished ts err ↔ err = .misplacedOperator (.keyword .and) 6) := by
  intro ts
  have h : parse ts = .error (.misplacedOperator (.keyword .and) 6) := by cbv
  exact ⟨h, parse_error_at_first_offence h⟩

end

end SearchQuery

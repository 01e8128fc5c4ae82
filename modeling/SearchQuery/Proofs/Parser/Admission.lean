import SearchQuery.Proofs.Parser.Grammar

/-!
# Which tokens may follow

Read from the left, a list of tokens goes wrong at its first token that cannot stand where it does,
or at its end when something is still missing there.  Both depend on two things only: the token
read last, and the parentheses that are still open.  `Offends` says which tokens cannot follow the
tokens read so far, and `Unfinished` which tokens cannot be the last ones; each rule names the error
that tells of it.  Neither looks ahead, and neither mentions a tree.

Every derivation is admitted token by token (`admits_of_derives`), and what is admitted can always
be completed to something that is admitted and finished (`exists_completion`).
-/

namespace SearchQuery

/-! ## The place of the next token -/

/-- The kind of the last token, if there is one. -/
def lastKind? (before : List Token) : Option Kind :=
  before.getLast?.map Token.kind

/-- The parentheses that are open after a token, if those in `groups` were open before it. -/
def Token.nest (groups : List Token) (t : Token) : List Token :=
  match t.kind with
  | .openParen => t :: groups
  | .closeParen => groups.tail
  | _ => groups

/-- The parentheses that have been opened and not closed, the innermost first. -/
def openGroups (before : List Token) : List Token :=
  before.foldl Token.nest []

/-- An expression must start here: nothing precedes it, or an opening parenthesis, or an `OR`. -/
def StartsExpression (before : List Token) : Prop :=
  lastKind? before = none ∨ lastKind? before = some .openParen ∨
    lastKind? before = some (.keyword .or)

/-- An operand ends here: a word, a phrase or a group. -/
def EndsOperand (before : List Token) : Prop :=
  lastKind? before = some .word ∨ lastKind? before = some .phrase ∨
    lastKind? before = some .closeParen

/-- The token cannot follow the tokens before it, whatever comes after, and the error says why. -/
inductive Offends (before : List Token) (t : Token) : ParseError → Prop
  /-- A binary operator stands where an expression must start. -/
  | misplacedOperator (hplace : StartsExpression before) (ht : t.kind.isConnective = true) :
      Offends before t (.misplacedOperator t.kind t.offset)
  /-- A binary operator stands after `AND`. -/
  | operatorAfterAnd (hplace : lastKind? before = some (.keyword .and))
      (ht : t.kind.isConnective = true) : Offends before t (.operatorAfterAnd t.kind t.offset)
  /-- Something other than a word or a phrase stands after `NOT`. -/
  | invalidNotOperand (hplace : lastKind? before = some (.keyword .not)) (hword : t.kind ≠ .word)
      (hphrase : t.kind ≠ .phrase) : Offends before t (.invalidNotOperand (some t.kind) t.offset)
  /-- A group is closed right after it is opened. -/
  | emptyGroup {o : Token} (hplace : before.getLast? = some o) (ho : o.kind = .openParen)
      (ht : t.kind = .closeParen) : Offends before t (.noExpression (some o.offset))
  /-- A closing parenthesis stands in the place of any other operand. -/
  | missingOperand (hplace : lastKind? before = none ∨ lastKind? before = some (.keyword .and) ∨
        lastKind? before = some (.keyword .or))
      (ht : t.kind = .closeParen) : Offends before t (.unexpectedKind .word .closeParen t.offset)
  /-- A closing parenthesis stands after a whole expression, and no group is open. -/
  | trailingToken (hplace : EndsOperand before) (hgroups : openGroups before = [])
      (ht : t.kind = .closeParen) : Offends before t (.trailingToken .closeParen t.offset)
  /-- A group is opened inside 256 others. -/
  | nestingTooDeep (hplace : lastKind? before ≠ some (.keyword .not))
      (hgroups : (openGroups before).length = 256) (ht : t.kind = .openParen) :
      Offends before t (.nestingTooDeep 256 t.offset)

/-- The tokens cannot be all of them, and the error says what is missing after them. -/
inductive Unfinished (ts : List Token) : ParseError → Prop
  /-- There are no tokens. -/
  | empty (hnil : ts = []) : Unfinished ts (.noExpression none)
  /-- A binary operator comes last. -/
  | missingOperand {t : Token} (hlast : ts.getLast? = some t) (ht : t.kind.isConnective = true) :
      Unfinished ts (.missingOperand t.kind t.offset)
  /-- A `NOT` comes last. -/
  | invalidNotOperand {t : Token} (hlast : ts.getLast? = some t) (ht : t.kind = .keyword .not) :
      Unfinished ts (.invalidNotOperand none t.offset)
  /-- An opening parenthesis comes last. -/
  | emptyGroup {t : Token} (hlast : ts.getLast? = some t) (ht : t.kind = .openParen) :
      Unfinished ts (.noExpression (some t.offset))
  /-- An operand comes last, and a group is open: the innermost one is told of. -/
  | missingClose {o : Token} (hplace : EndsOperand ts) (hgroups : (openGroups ts).head? = some o) :
      Unfinished ts (.missingClose o.offset)

/-- The token may follow the tokens before it. -/
def MayFollow (before : List Token) (t : Token) : Prop :=
  ∀ err, ¬ Offends before t err

/-- Each of the tokens may follow those before it. -/
def Admits (before : List Token) : List Token → Prop
  | [] => True
  | t :: ts => MayFollow before t ∧ Admits (before ++ [t]) ts

/-! ### Small facts -/

variable {before ts us : List Token} {t o : Token}

/-- There is no last token where there is none. -/
@[simp] lemma lastKind?_nil : lastKind? [] = none := rfl

/-- The last token is the one that is added. -/
@[simp] lemma lastKind?_concat : lastKind? (before ++ [t]) = some t.kind := by
  simp [lastKind?]

/-- The kind of the last token. -/
lemma lastKind?_of_getLast? (h : before.getLast? = some t) : lastKind? before = some t.kind := by
  rw [lastKind?, h, Option.map_some]

/-- The token that is added opens or closes a group, or neither. -/
@[simp] lemma openGroups_concat :
    openGroups (before ++ [t]) = t.nest (openGroups before) := by
  simp [openGroups]

/-- An opening parenthesis opens a group. -/
lemma nest_of_open {groups : List Token} (ht : t.kind = .openParen) :
    t.nest groups = t :: groups := by
  simp [Token.nest, ht]

/-- A closing parenthesis closes the innermost group. -/
lemma nest_of_close {groups : List Token} (ht : t.kind = .closeParen) :
    t.nest groups = groups.tail := by
  simp [Token.nest, ht]

/-- Only parentheses open or close groups. -/
lemma nest_of_ne {groups : List Token} (ho : t.kind ≠ .openParen) (hc : t.kind ≠ .closeParen) :
    t.nest groups = groups := by
  rcases hk : t.kind with _ | _ | k | _ | _ <;> simp_all [Token.nest]

/-- A keyword leaves the same groups open. -/
lemma openGroups_concat_of_keyword {k : Keyword} (ht : t.kind = .keyword k) :
    openGroups (before ++ [t]) = openGroups before := by
  rw [openGroups_concat, nest_of_ne (by simp [ht]) (by simp [ht])]

/-- A word, a phrase or a closing parenthesis ends an operand. -/
lemma endsOperand_concat :
    EndsOperand (before ++ [t]) ↔ t.kind = .word ∨ t.kind = .phrase ∨ t.kind = .closeParen := by
  simp [EndsOperand]

/-- No keyword ends an operand. -/
lemma EndsOperand.lastKind?_ne (h : EndsOperand before) (k : Keyword) :
    lastKind? before ≠ some (.keyword k) := by
  rcases h with h | h | h <;> simp [h]

/-- The tokens after others are admitted when those in between are. -/
lemma admits_append : Admits before (ts ++ us) ↔ Admits before ts ∧ Admits (before ++ ts) us := by
  induction ts generalizing before with
  | nil => simp [Admits]
  | cons t ts ih => simp [Admits, ih, and_assoc]

/-! ### What may follow -/

/-- A token may follow unless it is no operand after a `NOT`, a binary operator or a closing
parenthesis where no operand ends, a closing parenthesis of no group, or an opening one too many. -/
lemma mayFollow_of
    (hnot : lastKind? before = some (.keyword .not) → t.kind = .word ∨ t.kind = .phrase)
    (hends : t.kind.isConnective = true ∨ t.kind = .closeParen → EndsOperand before)
    (hclose : t.kind = .closeParen → openGroups before ≠ [])
    (hopen : t.kind = .openParen → (openGroups before).length < 256) : MayFollow before t := by
  rintro err (⟨hplace, ht⟩ | ⟨hplace, ht⟩ | ⟨hplace, hword, hphrase⟩ | ⟨hplace, ho, ht⟩ |
    ⟨hplace, ht⟩ | ⟨-, hgroups, ht⟩ | ⟨-, hgroups, ht⟩)
  case misplacedOperator =>
    rcases hends (Or.inl ht) with h | h | h <;> simp [StartsExpression, h] at hplace
  case operatorAfterAnd => exact (hends (Or.inl ht)).lastKind?_ne .and hplace
  case invalidNotOperand => exact (hnot hplace).elim hword hphrase
  case emptyGroup =>
    have hlast := lastKind?_of_getLast? hplace
    rcases hends (Or.inr ht) with h | h | h <;> simp [h, ho] at hlast
  case missingOperand => rcases hends (Or.inr ht) with h | h | h <;> simp [h] at hplace
  case trailingToken => exact hclose ht hgroups
  case nestingTooDeep => exact (hopen ht).ne hgroups

/-- A word or a phrase may stand anywhere: after an operand, an `AND` is implied. -/
lemma mayFollow_of_literal (ht : t.kind = .word ∨ t.kind = .phrase) : MayFollow before t := by
  refine mayFollow_of (fun _ => ht) ?_ ?_ ?_ <;> rcases ht with ht | ht <;>
    simp [ht, Kind.isConnective]

/-- A `NOT` may stand wherever an operand may. -/
lemma mayFollow_of_not (hplace : lastKind? before ≠ some (.keyword .not))
    (ht : t.kind = .keyword .not) : MayFollow before t :=
  mayFollow_of (fun h => absurd h hplace) (by simp [ht, Kind.isConnective]) (by simp [ht])
    (by simp [ht])

/-- A group may be opened wherever an operand may stand, unless it is too deep. -/
lemma mayFollow_of_open (hplace : lastKind? before ≠ some (.keyword .not))
    (hgroups : (openGroups before).length < 256) (ht : t.kind = .openParen) :
    MayFollow before t :=
  mayFollow_of (fun h => absurd h hplace) (by simp [ht, Kind.isConnective]) (by simp [ht])
    fun _ => hgroups

/-- A binary operator may follow an operand. -/
lemma mayFollow_of_connective (hplace : EndsOperand before) (ht : t.kind.isConnective = true) :
    MayFollow before t := by
  refine mayFollow_of (fun h => absurd h (hplace.lastKind?_ne .not)) (fun _ => hplace) ?_ ?_ <;>
    rintro hk <;> simp [hk, Kind.isConnective] at ht

/-- A group may be closed after an operand. -/
lemma mayFollow_of_close (hplace : EndsOperand before) (hgroups : openGroups before ≠ [])
    (ht : t.kind = .closeParen) : MayFollow before t :=
  mayFollow_of (fun h => absurd h (hplace.lastKind?_ne .not)) (fun _ => hplace) (fun _ => hgroups)
    (by simp [ht])

/-! ## Operands, one after the other -/

/-- The tokens are admitted after those before them, end an operand, and leave the same groups
open. -/
structure AdmitsOperand (before ts : List Token) : Prop where
  admits : Admits before ts
  ends : EndsOperand (before ++ ts)
  groups : openGroups (before ++ ts) = openGroups before

/-- A word or a phrase is an operand wherever it stands. -/
lemma admitsOperand_literal (ht : t.kind = .word ∨ t.kind = .phrase) :
    AdmitsOperand before [t] := by
  refine ⟨⟨mayFollow_of_literal ht, trivial⟩, endsOperand_concat.mpr ?_, ?_⟩
  · rcases ht with ht | ht <;> simp [ht]
  · rw [openGroups_concat, nest_of_ne]
    · rcases ht with ht | ht <;> simp [ht]
    · rcases ht with ht | ht <;> simp [ht]

/-- A token that changes no group may come before an operand. -/
lemma AdmitsOperand.cons (ht : MayFollow before t) (ho : t.kind ≠ .openParen)
    (hc : t.kind ≠ .closeParen) (h : AdmitsOperand (before ++ [t]) ts) :
    AdmitsOperand before (t :: ts) := by
  have hlist : before ++ t :: ts = before ++ [t] ++ ts := by simp
  refine ⟨⟨ht, h.admits⟩, hlist ▸ h.ends, ?_⟩
  rw [hlist, h.groups, openGroups_concat, nest_of_ne ho hc]

/-- Operands may follow each other. -/
lemma AdmitsOperand.append (h : AdmitsOperand before ts) (h' : AdmitsOperand (before ++ ts) us) :
    AdmitsOperand before (ts ++ us) := by
  have hlist : before ++ (ts ++ us) = before ++ ts ++ us := by simp
  exact ⟨admits_append.mpr ⟨h.admits, h'.admits⟩, hlist ▸ h'.ends,
    hlist ▸ h'.groups.trans h.groups⟩

/-- A binary operator may come between two operands; it is no `NOT`, and changes no group. -/
lemma AdmitsOperand.append_connective (h : AdmitsOperand before ts)
    (ht : t.kind.isConnective = true)
    (h' : lastKind? (before ++ ts ++ [t]) ≠ some (.keyword .not) →
      openGroups (before ++ ts ++ [t]) = openGroups before →
        AdmitsOperand (before ++ ts ++ [t]) us) :
    AdmitsOperand before (ts ++ t :: us) := by
  have ho : t.kind ≠ .openParen := by rintro hk; simp [hk, Kind.isConnective] at ht
  have hc : t.kind ≠ .closeParen := by rintro hk; simp [hk, Kind.isConnective] at ht
  have hlast : lastKind? (before ++ ts ++ [t]) ≠ some (.keyword .not) := by
    rw [lastKind?_concat]
    rintro hk
    simp [Option.some.inj hk, Kind.isConnective] at ht
  have hsame : openGroups (before ++ ts ++ [t]) = openGroups before := by
    rw [openGroups_concat, nest_of_ne ho hc, h.groups]
  exact h.append ((h' hlast hsame).cons (mayFollow_of_connective h.ends ht) ho hc)

/-- An operand in parentheses is an operand, if that many groups may be open. -/
lemma AdmitsOperand.group {c : Token} (hplace : lastKind? before ≠ some (.keyword .not))
    (hgroups : (openGroups before).length < 256) (ho : o.kind = .openParen)
    (h : AdmitsOperand (before ++ [o]) ts) (hc : c.kind = .closeParen) :
    AdmitsOperand before (o :: ts ++ [c]) := by
  have hlist : before ++ (o :: ts ++ [c]) = before ++ [o] ++ ts ++ [c] := by simp
  have hopen : openGroups (before ++ [o] ++ ts) = o :: openGroups before := by
    rw [h.groups, openGroups_concat, nest_of_open ho]
  have hclose : MayFollow (before ++ [o] ++ ts) c :=
    mayFollow_of_close h.ends (hopen ▸ List.cons_ne_nil o _) hc
  refine ⟨⟨mayFollow_of_open hplace hgroups ho, admits_append.mpr ⟨h.admits, hclose, trivial⟩⟩,
    ?_, ?_⟩
  · rw [hlist]
    exact endsOperand_concat.mpr (Or.inr (Or.inr hc))
  · rw [hlist, openGroups_concat, hopen, nest_of_close hc, List.tail_cons]

/-- What derives anything is admitted wherever an operand may stand, if its groups do not nest too
deep there. -/
lemma admitsOperand_of_derives {x : Nonterminal} {n : Nat} {e : Expr} (h : Derives x n ts e)
    (hplace : lastKind? before ≠ some (.keyword .not))
    (hgroups : (openGroups before).length + n ≤ 256) : AdmitsOperand before ts := by
  induction h generalizing before with
  | single _ ih => exact ih hplace hgroups
  | first _ ih => exact ih hplace hgroups
  | ungrouped _ ih => exact ih hplace hgroups
  | alternative _ ht _ ihl ihr =>
    refine (ihl hplace hgroups).append_connective (by simp [ht, Kind.isConnective]) ?_
    rintro hlast hsame
    exact ihr hlast (by rwa [hsame])
  | implied _ _ ihl ihr =>
    have hleft := ihl hplace hgroups
    exact hleft.append (ihr (hleft.ends.lastKind?_ne .not) (by rwa [hleft.groups]))
  | written _ ht _ ihl ihr =>
    refine (ihl hplace hgroups).append_connective (by simp [ht, Kind.isConnective]) ?_
    rintro hlast hsame
    exact ihr hlast (by rwa [hsame])
  | group ho _ hc ih =>
    refine .group hplace (by omega) ho (ih (by simp [ho]) ?_) hc
    rw [openGroups_concat, nest_of_open ho, List.length_cons]
    omega
  | literal hv => exact admitsOperand_literal hv.kind
  | negated ht hv =>
    exact (admitsOperand_literal hv.kind).cons (mayFollow_of_not hplace ht) (by simp [ht])
      (by simp [ht])

/-! ## Completion -/

/-- Tokens that end an operand are completed by closing the open groups, one after the other. -/
lemma admits_closing (hplace : EndsOperand before) (hclose : ∀ u ∈ us, u.kind = .closeParen)
    (hlength : us.length = (openGroups before).length) :
    Admits before us ∧ EndsOperand (before ++ us) ∧ openGroups (before ++ us) = [] := by
  induction us generalizing before with
  | nil =>
    rw [List.append_nil]
    exact ⟨trivial, hplace, List.eq_nil_of_length_eq_zero hlength.symm⟩
  | cons u us ih =>
    obtain ⟨hu, hus⟩ := List.forall_mem_cons.mp hclose
    have hne : openGroups before ≠ [] := by
      rintro hnil
      simp [hnil] at hlength
    have hrest : us.length = (openGroups (before ++ [u])).length := by
      rw [openGroups_concat, nest_of_close hu, List.length_tail, ← hlength, List.length_cons,
        Nat.add_sub_cancel]
    obtain ⟨hadmits, hends, hgroups⟩ :=
      ih (endsOperand_concat.mpr (Or.inr (Or.inr hu))) hus hrest
    rw [List.append_cons]
    exact ⟨⟨mayFollow_of_close hplace hne hu, hadmits⟩, hends, hgroups⟩

/-- Whatever has been read can be completed: a word makes it end an operand, and then the open
groups can be closed. -/
lemma exists_completion (before : List Token) :
    ∃ us, Admits before us ∧ EndsOperand (before ++ us) ∧ openGroups (before ++ us) = [] := by
  let w : Token := ⟨.word, "a", 0⟩
  have hword : AdmitsOperand before [w] := admitsOperand_literal (Or.inl rfl)
  let c : Token := ⟨.closeParen, ")", 0⟩
  let us : List Token := List.replicate (openGroups (before ++ [w])).length c
  have hclose : ∀ u ∈ us, u.kind = .closeParen := by
    intro u hu
    rw [List.eq_of_mem_replicate hu]
  obtain ⟨hadmits, hends, hgroups⟩ := admits_closing hword.ends hclose List.length_replicate
  exact ⟨w :: us, ⟨mayFollow_of_literal (Or.inl rfl), hadmits⟩, by simpa using hends,
    by simpa using hgroups⟩

/-- Tokens that end an operand with no group open are finished. -/
lemma not_unfinished (hplace : EndsOperand before) (hgroups : openGroups before = [])
    (err : ParseError) : ¬ Unfinished before err := by
  rintro (hnil | ⟨hlast, ht⟩ | ⟨hlast, ht⟩ | ⟨hlast, ht⟩ | ⟨-, hopen⟩)
  case empty => simp [EndsOperand, hnil] at hplace
  case missingClose => simp [hgroups] at hopen
  all_goals
    have hkind := lastKind?_of_getLast? hlast
    rcases hplace with hk | hk | hk <;> rw [hk] at hkind <;>
      simp [← Option.some.inj hkind, Kind.isConnective] at ht

end SearchQuery

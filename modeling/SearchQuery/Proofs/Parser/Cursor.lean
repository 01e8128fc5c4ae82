import SearchQuery.Proofs.Parser.Admission

/-!
# A parser that moves a cursor

The readers of the parser hand on the tokens that are left and the number of open groups.  This is
the same parser with both kept in one place (`Cursor`): the position of the next token, and a
counter that goes up when a group is entered and down when its expression has been read.  Nothing
bounds its recursion but two numbers that are given to it: how often each of its loops may turn, and
how many calls of `Cursor.expression` may be inside each other.  A call that needs more is cut off.

What a call keeps is said by `Result.Lawful`: one that returns has consumed whole operands, and has
the counter where it found it (`Completes`); and as long as the counter tells how many groups are
open when a call begins, it tells so at every entry to a group (`Sound`), however the call ends.
-/

namespace SearchQuery

/-- The state of the parser. -/
structure Cursor where
  /-- All tokens. -/
  tokens : List Token
  /-- How many tokens have been consumed. -/
  position : Nat
  /-- The counter of open groups. -/
  depth : Nat
  /-- The position and the counter at every entry to a group, the latest first. -/
  entries : List (Nat × Nat)

namespace Cursor

/-- Why a call does not return. -/
inductive Stop where
  | failed (err : ParseError)
  | cutOff

/-- How a call ends, and the state that it leaves. -/
inductive Result (α : Type) where
  | returned (a : α) (c : Cursor)
  | stopped (stop : Stop) (c : Cursor)

namespace Result

variable {α β : Type}

/-- The state that a call leaves. -/
def cursor : Result α → Cursor
  | returned _ c => c
  | stopped _ c => c

/-- Goes on after a call that returns. -/
def bind (r : Result α) (f : α → Cursor → Result β) : Result β :=
  match r with
  | returned a c => f a c
  | stopped stop c => stopped stop c

end Result

/-- What a turn of a loop returns: with what the loop goes on, or its result. -/
inductive Turn (σ : Type) where
  | again (s : σ)
  | done (e : Expr)

/-- Goes on with a loop, or ends it. -/
def Turn.resume {σ : Type} (goOn : σ → Cursor → Result Expr) : Turn σ → Cursor → Result Expr
  | again s, c => goOn s c
  | done e, c => .returned e c

/-- The state before anything has been read. -/
def start (tokens : List Token) : Cursor :=
  ⟨tokens, 0, 0, []⟩

/-- The tokens that have been consumed. -/
def consumed (c : Cursor) : List Token :=
  c.tokens.take c.position

/-- The tokens that are left. -/
def rest (c : Cursor) : List Token :=
  c.tokens.drop c.position

/-- The next token. -/
def peek (c : Cursor) : Option Token :=
  c.tokens[c.position]?

/-- Consumes the next token. -/
def next (c : Cursor) : Cursor :=
  { c with position := c.position + 1 }

/-- Consumes the next token if it is of the kind. -/
def nextIf (kind : Kind) (c : Cursor) : Option (Token × Cursor) :=
  match c.peek with
  | none => none
  | some t => if t.kind = kind then some (t, c.next) else none

/-- Notes that a group is entered. -/
def noteEntry (c : Cursor) : Cursor :=
  { c with entries := (c.position, c.depth) :: c.entries }

/-- Counts one more open group. -/
def deeper (c : Cursor) : Cursor :=
  { c with depth := c.depth + 1 }

/-- Counts one less open group. -/
def shallower (c : Cursor) : Cursor :=
  { c with depth := c.depth - 1 }

/-- Fails with an error. -/
def fail {α : Type} (err : ParseError) (c : Cursor) : Result α :=
  .stopped (.failed err) c

/-! ## The readers -/

/-- Reads a word or a phrase. -/
def literal (c : Cursor) : Result Expr :=
  match c.peek with
  | none => c.fail (.noExpression none)
  | some t =>
    match t.kind with
    | .word | .phrase => .returned (.term t.literal) c.next
    | found => c.next.fail (.unexpectedKind .word found t.offset)

/-- Reads a word or a phrase, after `NOT` or not. -/
def searchTerm (c : Cursor) : Result Expr :=
  match c.nextIf (.keyword .not) with
  | none => c.literal
  | some (negation, c) =>
    match c.peek with
    | none => c.fail (.invalidNotOperand none negation.offset)
    | some t =>
      match t.kind with
      | .word | .phrase => c.literal.bind fun e c => .returned (.not e) c
      | found => c.fail (.invalidNotOperand (some found) t.offset)

/-- Consumes the parenthesis that closes the group opened at byte `position`. -/
def expectClose (position : Nat) (c : Cursor) : Result Unit :=
  match c.peek with
  | none => c.fail (.missingClose position)
  | some t =>
    if t.kind = .closeParen then .returned () c.next
    else c.fail (.unexpectedKind .closeParen t.kind t.offset)

/-- Reads a group, its expression by `nested`. -/
def group (nested : Cursor → Result Expr) (c : Cursor) : Result Expr :=
  match c.peek with
  | none => c.noteEntry.fail (.noExpression none)
  | some opening =>
    let inside := c.noteEntry.next
    if groupLimit ≤ inside.depth then inside.fail (.nestingTooDeep groupLimit opening.offset)
    else
      match inside.peek.map Token.kind with
      | none | some .closeParen => inside.fail (.noExpression (some opening.offset))
      | some _ =>
        (nested inside.deeper).bind fun inner c =>
          (c.shallower.expectClose opening.offset).bind fun _ c => .returned inner c

/-- Reads a group or a search term. -/
def operand (nested : Cursor → Result Expr) (c : Cursor) : Result Expr :=
  match c.peek with
  | none => c.fail (.noExpression none)
  | some t =>
    match t.kind with
    | .openParen => c.group nested
    | .keyword .not | .word | .phrase => c.searchTerm
    | found => c.fail (.unexpectedKind .word found t.offset)

/-- Consumes an `AND` if there is one, after which an operand must follow. -/
def andKeyword (c : Cursor) : Result Unit :=
  match c.nextIf (.keyword .and) with
  | none => .returned () c
  | some (t, c) =>
    match c.peek with
    | none => c.fail (.missingOperand t.kind t.offset)
    | some u =>
      if u.kind.isConnective then c.fail (.operatorAfterAnd u.kind u.offset)
      else .returned () c

/-- Turns a loop at most so many times. -/
def loop {σ : Type} (turn : σ → Cursor → Result (Turn σ)) : Nat → σ → Cursor → Result Expr
  | 0, _, c => .stopped .cutOff c
  | turns + 1, s, c => (turn s c).bind (Turn.resume (loop turn turns))

/-- Takes the next operand into the left side of a conjunction. -/
def takeOperand (nested : Cursor → Result Expr) (left : Expr) (c : Cursor) : Result (Turn Expr) :=
  (c.operand nested).bind fun right c => .returned (.again (.and left right)) c

/-- One turn of the loop that reads the further operands of a conjunction. -/
def conjunctionTurn (nested : Cursor → Result Expr) (left : Expr) (c : Cursor) :
    Result (Turn Expr) :=
  match c.peek.map Token.kind with
  | none | some .closeParen | some (.keyword .or) => .returned (.done left) c
  | some (.keyword .and) => c.andKeyword.bind fun _ c => c.takeOperand nested left
  | some _ => c.takeOperand nested left

/-- Reads the further operands of the conjunction that begins with `left`. -/
def conjunction (turns : Nat) (nested : Cursor → Result Expr) (left : Expr) (c : Cursor) :
    Result Expr :=
  loop (conjunctionTurn nested) turns left c

/-- What follows a conjunction: an `OR`, after which there must be more to read, or the end of the
expression. -/
def orKeyword (earlier : List Expr) (last : Expr) (c : Cursor) : Result (Turn (List Expr)) :=
  match c.nextIf (.keyword .or) with
  | none => .returned (.done (Parser.joinAlternatives earlier last)) c
  | some (t, c) =>
    match c.peek with
    | none => c.fail (.missingOperand t.kind t.offset)
    | some _ => .returned (.again (last :: earlier)) c

/-- One turn of the loop that reads the alternatives of an expression. -/
def expressionTurn (turns : Nat) (nested : Cursor → Result Expr) (earlier : List Expr)
    (c : Cursor) : Result (Turn (List Expr)) :=
  match c.peek.filter fun t => t.kind.isConnective with
  | some t => c.fail (.misplacedOperator t.kind t.offset)
  | none =>
    (c.operand nested).bind fun first c =>
      (c.conjunction turns nested first).bind fun last c => c.orKeyword earlier last

/-- Reads an expression, with at most `levels` calls of itself inside each other. -/
def expression (turns : Nat) : (levels : Nat) → Cursor → Result Expr
  | 0, c => .stopped .cutOff c
  | levels + 1, c => loop (expressionTurn turns (expression turns levels)) turns [] c

/-! ## Positions, consumed tokens and the counter -/

variable {c c' c'' : Cursor} {t : Token} {ts : List Token} {kind : Kind}

/-- The next token is the first of those that are left. -/
lemma peek_of_rest (h : c.rest = t :: ts) : c.peek = some t := by
  rw [peek, ← List.head?_drop]
  change c.rest.head? = some t
  rw [h, List.head?_cons]

/-- There is no next token if none is left. -/
lemma peek_of_rest_eq_nil (h : c.rest = []) : c.peek = none := by
  rw [peek, ← List.head?_drop]
  change c.rest.head? = none
  rw [h, List.head?_nil]

/-- Consuming a token leaves those after it. -/
lemma rest_next (h : c.rest = t :: ts) : c.next.rest = ts := by
  have htail : c.next.rest = c.rest.tail := List.tail_drop.symm
  rw [htail, h, List.tail_cons]

/-- A token that is consumed is added to the consumed ones. -/
lemma consumed_next (h : c.peek = some t) : c.next.consumed = c.consumed ++ [t] := by
  obtain ⟨hlt, ht⟩ := List.getElem?_eq_some_iff.mp h
  rw [consumed, next, consumed, ← ht]
  exact List.take_succ_eq_append_getElem hlt

/-- There is a next token before the end only. -/
lemma position_lt (h : c.peek = some t) : c.position < c.tokens.length :=
  (List.getElem?_eq_some_iff.mp h).1

/-- The next token is consumed if there is one and it is of the kind. -/
lemma nextIf_eq_some_iff :
    c.nextIf kind = some (t, c') ↔ c.peek = some t ∧ t.kind = kind ∧ c' = c.next := by
  unfold nextIf
  rcases c.peek with _ | u
  · simp
  · by_cases hkind : u.kind = kind
    · simp only [if_pos hkind, Option.some.injEq, Prod.mk.injEq]
      constructor
      · rintro ⟨rfl, rfl⟩
        exact ⟨rfl, hkind, rfl⟩
      · rintro ⟨rfl, -, rfl⟩
        exact ⟨rfl, rfl⟩
    · simp only [if_neg hkind, reduceCtorEq, Option.some.injEq, false_iff]
      rintro ⟨rfl, hkind', -⟩
      exact hkind hkind'

/-- No token is consumed if the next one is not of the kind. -/
lemma nextIf_eq_none_iff : c.nextIf kind = none ↔ ∀ t ∈ c.peek, t.kind ≠ kind := by
  unfold nextIf
  rcases c.peek with _ | u <;> simp

/-- Whole operands and operators have been read: the counter is where it was, and so are the groups
that are open. -/
structure Completes (c c' : Cursor) : Prop where
  tokens_eq : c'.tokens = c.tokens
  depth_eq : c'.depth = c.depth
  position_le : c.position ≤ c'.position
  within : c.position ≤ c.tokens.length → c'.position ≤ c.tokens.length
  groups_eq : openGroups c'.consumed = openGroups c.consumed

/-- Reading nothing completes it. -/
lemma Completes.refl (c : Cursor) : c.Completes c :=
  ⟨rfl, rfl, Nat.le_refl _, id, rfl⟩

/-- What has been completed in two parts has been completed. -/
lemma Completes.trans (h : c.Completes c') (h' : c'.Completes c'') : c.Completes c'' where
  tokens_eq := h'.tokens_eq.trans h.tokens_eq
  depth_eq := h'.depth_eq.trans h.depth_eq
  position_le := h.position_le.trans h'.position_le
  within hc := h.tokens_eq ▸ h'.within (h.tokens_eq.symm ▸ h.within hc)
  groups_eq := h'.groups_eq.trans h.groups_eq

/-- A token that is no parenthesis completes what it is part of. -/
lemma completes_next (h : c.peek = some t) (ho : t.kind ≠ .openParen)
    (hc : t.kind ≠ .closeParen) : c.Completes c.next where
  tokens_eq := rfl
  depth_eq := rfl
  position_le := Nat.le_succ _
  within _ := position_lt h
  groups_eq := by rw [consumed_next h, openGroups_concat, nest_of_ne ho hc]

/-- So does a keyword. -/
lemma completes_of_nextIf {k : Keyword} (h : c.nextIf (.keyword k) = some (t, c')) :
    c.Completes c' := by
  obtain ⟨ht, hkind, rfl⟩ := nextIf_eq_some_iff.mp h
  exact completes_next ht (by simp [hkind]) (by simp [hkind])

/-- At each of the entries to a group the counter told how many groups were open. -/
def EntriesSound (tokens : List Token) (entries : List (Nat × Nat)) : Prop :=
  ∀ entry ∈ entries, entry.2 = (openGroups (tokens.take entry.1)).length

/-- The counter tells how many groups are open, and did so at every entry to a group. -/
structure Sound (c : Cursor) : Prop where
  depth_eq : c.depth = (openGroups c.consumed).length
  entries : EntriesSound c.tokens c.entries

/-- Entering a group while the counter is right is noted rightly. -/
lemma Sound.noteEntry (h : c.Sound) : EntriesSound c.tokens c.noteEntry.entries :=
  List.forall_mem_cons.mpr ⟨h.depth_eq, h.entries⟩

/-- The counter is right inside a group if it was right before it. -/
lemma Sound.inside (h : c.Sound) (ht : c.peek = some t) (ho : t.kind = .openParen) :
    c.noteEntry.next.deeper.Sound where
  depth_eq := by
    have hconsumed : c.noteEntry.next.deeper.consumed = c.consumed ++ [t] := consumed_next ht
    rw [hconsumed, openGroups_concat, nest_of_open ho, List.length_cons, ← h.depth_eq]
    rfl
  entries := h.noteEntry

/-- What has been completed leaves the counter right. -/
lemma Completes.sound (h : c.Completes c') (hc : c.Sound)
    (hentries : EntriesSound c.tokens c'.entries) : c'.Sound where
  depth_eq := by rw [h.depth_eq, h.groups_eq, hc.depth_eq]
  entries := h.tokens_eq ▸ hentries

/-! ## What calls keep -/

section

variable {α β σ : Type} {a : α} {r : Result α} {f : α → Cursor → Result β} {stop : Stop}

/-- A call in two parts returns if both parts do. -/
lemma Result.bind_eq_returned_iff {b : β} :
    r.bind f = .returned b c' ↔ ∃ a c, r = .returned a c ∧ f a c = .returned b c' := by
  cases r <;> simp [bind]

/-- A call that returns completes what it reads, and the entries to groups are noted rightly if the
counter is right at the beginning. -/
structure Result.Lawful (c : Cursor) (r : Result α) : Prop where
  completes : ∀ a c', r = .returned a c' → c.Completes c'
  entries : c.Sound → EntriesSound c.tokens r.cursor.entries

/-- A call that completes what it reads and enters no group may return. -/
lemma lawful_returned (h : c.Completes c') (hentries : c'.entries = c.entries) :
    Result.Lawful c (.returned a c') where
  completes := by
    rintro _ _ ⟨⟩
    exact h
  entries hc := hentries ▸ hc.entries

/-- A call that enters no group may stop anywhere. -/
lemma lawful_stopped (hentries : c'.entries = c.entries) :
    Result.Lawful c (.stopped stop c' : Result α) where
  completes := by rintro _ _ ⟨⟩
  entries hc := hentries ▸ hc.entries

/-- A call in two parts keeps what both parts keep. -/
lemma Result.Lawful.bind (h : r.Lawful c)
    (hf : ∀ a c', r = .returned a c' → (f a c').Lawful c') : (r.bind f).Lawful c where
  completes := by
    intro b c'' hreturned
    obtain ⟨a, c', hr, hf'⟩ := bind_eq_returned_iff.mp hreturned
    exact (h.completes a c' hr).trans ((hf a c' hr).completes b c'' hf')
  entries := by
    intro hc
    have hentries := h.entries hc
    rcases hr : r with ⟨a, c'⟩ | ⟨stop, c'⟩
    · rw [hr] at hentries
      have hdone := h.completes a c' hr
      rw [← hdone.tokens_eq]
      exact (hf a c' hr).entries (hdone.sound hc hentries)
    · rwa [hr] at hentries

/-- A call that begins where something has been completed. -/
lemma Result.Lawful.after (h : r.Lawful c') (hc : c.Completes c')
    (hentries : c'.entries = c.entries) : r.Lawful c where
  completes a c'' hr := hc.trans (h.completes a c'' hr)
  entries hsound := hc.tokens_eq ▸ h.entries (hc.sound hsound (hentries ▸ hsound.entries))

/-- A loop keeps what each of its turns keeps. -/
lemma loop_lawful {turn : σ → Cursor → Result (Turn σ)} (hturn : ∀ s c, (turn s c).Lawful c)
    (turns : Nat) (s : σ) (c : Cursor) : (loop turn turns s c).Lawful c := by
  induction turns generalizing s c with
  | zero => exact lawful_stopped rfl
  | succ turns ih =>
    apply (hturn s c).bind
    rintro (s' | e) c' -
    · exact ih s' c'
    · exact lawful_returned (.refl c') rfl

/-- A loop that returns has a last turn. -/
lemma exists_last_turn {turn : σ → Cursor → Result (Turn σ)} {turns : Nat} {s : σ} {e : Expr}
    (h : loop turn turns s c = .returned e c') :
    ∃ s' c'', turn s' c'' = .returned (.done e) c' := by
  induction turns generalizing s c with
  | zero => cases h
  | succ turns ih =>
    obtain ⟨s' | e', c₁, hturn, hrest⟩ := Result.bind_eq_returned_iff.mp h
    · exact ih hrest
    · cases hrest
      exact ⟨s, c, hturn⟩

end

/-! ### The readers -/

variable {nested : Cursor → Result Expr} {e : Expr} {turns : Nat}

/-- A word or a phrase is completed by its token. -/
lemma literal_lawful (c : Cursor) : c.literal.Lawful c := by
  unfold literal
  split
  · exact lawful_stopped rfl
  · next t ht =>
    split
    · next hk => exact lawful_returned (completes_next ht (by simp [hk]) (by simp [hk])) rfl
    · next hk => exact lawful_returned (completes_next ht (by simp [hk]) (by simp [hk])) rfl
    · exact lawful_stopped rfl

/-- A word or a phrase takes a token. -/
lemma position_lt_of_literal (h : c.literal = .returned e c') : c.position < c'.position := by
  unfold literal at h
  split at h
  · cases h
  · split at h
    · cases h
      exact Nat.lt_succ_self _
    · cases h
      exact Nat.lt_succ_self _
    · cases h

/-- A search term is completed by its literal. -/
lemma searchTerm_lawful (c : Cursor) : c.searchTerm.Lawful c := by
  unfold searchTerm
  split
  · exact literal_lawful c
  · next negation c₁ hnext =>
    have hnegation := completes_of_nextIf hnext
    obtain ⟨-, -, rfl⟩ := nextIf_eq_some_iff.mp hnext
    have hterm : (c.next.literal.bind fun e c => .returned e.not c).Lawful c.next :=
      (literal_lawful c.next).bind fun _ c' _ => lawful_returned (.refl c') rfl
    split
    · exact lawful_stopped rfl
    · split
      · exact hterm.after hnegation rfl
      · exact hterm.after hnegation rfl
      · exact lawful_stopped rfl

/-- A search term takes at least one token. -/
lemma position_lt_of_searchTerm (h : c.searchTerm = .returned e c') :
    c.position < c'.position := by
  unfold searchTerm at h
  split at h
  · exact position_lt_of_literal h
  · next negation c₁ hnext =>
    obtain ⟨-, -, rfl⟩ := nextIf_eq_some_iff.mp hnext
    have hterm : (c.next.literal.bind fun e c => .returned e.not c) = .returned e c' →
        c.position < c'.position := by
      intro hreturned
      obtain ⟨e', c₁, hliteral, hnot⟩ := Result.bind_eq_returned_iff.mp hreturned
      cases hnot
      exact (Nat.lt_succ_self _).trans (position_lt_of_literal hliteral)
    split at h
    · cases h
    · split at h
      · exact hterm h
      · exact hterm h
      · cases h

/-- A closing parenthesis that is there is consumed, and nothing else happens. -/
lemma expectClose_eq_returned {position : Nat} {u : Unit}
    (h : c.expectClose position = .returned u c') :
    ∃ t, c.peek = some t ∧ t.kind = .closeParen ∧ c' = c.next := by
  unfold expectClose at h
  split at h
  · cases h
  · next t ht =>
    split at h
    · next hkind =>
      cases h
      exact ⟨t, ht, hkind, rfl⟩
    · cases h

/-- Looking for a closing parenthesis enters no group. -/
lemma entries_expectClose (c : Cursor) (position : Nat) :
    (c.expectClose position).cursor.entries = c.entries := by
  unfold expectClose
  split
  · rfl
  · split
    · rfl
    · rfl

/-- A group that is read holds an expression between its parentheses. -/
lemma group_eq_returned (h : c.group nested = .returned e c') :
    ∃ inside closing, nested c.noteEntry.next.deeper = .returned e inside ∧
      inside.peek = some closing ∧ closing.kind = .closeParen ∧ c' = inside.shallower.next := by
  unfold group at h
  split at h
  · cases h
  · dsimp only at h
    split at h
    · cases h
    · split at h
      · cases h
      · cases h
      · obtain ⟨inner, inside, hinner, hclose⟩ := Result.bind_eq_returned_iff.mp h
        obtain ⟨u, c₁, hclosed, hreturned⟩ := Result.bind_eq_returned_iff.mp hclose
        obtain ⟨closing, hpeek, hkind, rfl⟩ := expectClose_eq_returned hclosed
        cases hreturned
        exact ⟨inside, closing, hinner, hpeek, hkind, rfl⟩

/-- A group completes what it reads: its closing parenthesis takes back what the opening one did to
the open groups, and the counter goes down as it went up. -/
lemma completes_of_group (hnested : ∀ c, (nested c).Lawful c) (ht : c.peek = some t)
    (ho : t.kind = .openParen) (h : c.group nested = .returned e c') : c.Completes c' := by
  obtain ⟨inside, closing, hinner, hpeek, hclose, rfl⟩ := group_eq_returned h
  have hread := (hnested _).completes e inside hinner
  have htokens : inside.tokens = c.tokens := hread.tokens_eq
  have hgroups : openGroups inside.consumed = openGroups (c.consumed ++ [t]) :=
    hread.groups_eq.trans (congrArg openGroups (consumed_next ht))
  constructor
  case tokens_eq => exact htokens
  case depth_eq =>
    have hdepth : inside.depth = c.depth + 1 := hread.depth_eq
    change inside.depth - 1 = c.depth
    rw [hdepth, Nat.add_sub_cancel]
  case position_le =>
    have hposition : c.position + 1 ≤ inside.position := hread.position_le
    change c.position ≤ inside.position + 1
    omega
  case within =>
    intro _
    have hlt : inside.position < inside.tokens.length := position_lt hpeek
    rwa [htokens] at hlt
  case groups_eq =>
    have hconsumed : inside.shallower.next.consumed = inside.consumed ++ [closing] :=
      consumed_next hpeek
    rw [hconsumed, openGroups_concat, nest_of_close hclose, hgroups, openGroups_concat,
      nest_of_open ho, List.tail_cons]

/-- A group keeps what it should if the expression inside it does. -/
lemma group_lawful (hnested : ∀ c, (nested c).Lawful c) (ht : c.peek = some t)
    (ho : t.kind = .openParen) : (c.group nested).Lawful c where
  completes _ _ := completes_of_group hnested ht ho
  entries := by
    intro hc
    -- The entry itself is noted in every case, and nothing after the inner expression notes one.
    have hnote := hc.noteEntry
    have hinside := (hnested _).entries (hc.inside ht ho)
    unfold group
    rw [ht]
    dsimp only
    split
    · exact hnote
    · split
      · exact hnote
      · exact hnote
      · rcases hinner : nested c.noteEntry.next.deeper with ⟨inner, inside⟩ | ⟨stop, inside⟩
        · rw [hinner] at hinside
          have hclosed := entries_expectClose inside.shallower t.offset
          change EntriesSound c.tokens ((inside.shallower.expectClose t.offset).bind
            fun _ c => .returned inner c).cursor.entries
          rcases hclose : inside.shallower.expectClose t.offset with ⟨u, c₁⟩ | ⟨stop, c₁⟩
          · rw [hclose] at hclosed
            exact hclosed ▸ hinside
          · rw [hclose] at hclosed
            exact hclosed ▸ hinside
        · rwa [hinner] at hinside

/-- A group takes at least one token. -/
lemma position_lt_of_group (hnested : ∀ c, (nested c).Lawful c)
    (h : c.group nested = .returned e c') : c.position < c'.position := by
  obtain ⟨inside, closing, hinner, -, -, rfl⟩ := group_eq_returned h
  have hposition : c.position + 1 ≤ inside.position :=
    ((hnested _).completes e inside hinner).position_le
  change c.position < inside.position + 1
  omega

/-- An operand keeps what it should if the expressions of groups do. -/
lemma operand_lawful (hnested : ∀ c, (nested c).Lawful c) (c : Cursor) :
    (c.operand nested).Lawful c := by
  unfold operand
  split
  · exact lawful_stopped rfl
  · next t ht =>
    split
    · next hk => exact group_lawful hnested ht hk
    · exact searchTerm_lawful c
    · exact searchTerm_lawful c
    · exact searchTerm_lawful c
    · exact lawful_stopped rfl

/-- An operand that is read takes at least one token. -/
lemma position_lt_of_operand (hnested : ∀ c, (nested c).Lawful c)
    (h : c.operand nested = .returned e c') : c.position < c'.position := by
  unfold operand at h
  split at h
  · cases h
  · split at h
    · exact position_lt_of_group hnested h
    · exact position_lt_of_searchTerm h
    · exact position_lt_of_searchTerm h
    · exact position_lt_of_searchTerm h
    · cases h

/-- An `AND` that is read is completed by itself. -/
lemma andKeyword_lawful (c : Cursor) : c.andKeyword.Lawful c := by
  unfold andKeyword
  split
  · exact lawful_returned (.refl c) rfl
  · next t c₁ hnext =>
    have hand := completes_of_nextIf hnext
    obtain ⟨-, -, rfl⟩ := nextIf_eq_some_iff.mp hnext
    split
    · exact lawful_stopped rfl
    · split
      · exact lawful_stopped rfl
      · exact lawful_returned hand rfl

/-- Taking an operand keeps what the operand keeps. -/
lemma takeOperand_lawful (hnested : ∀ c, (nested c).Lawful c) (left : Expr) (c : Cursor) :
    (c.takeOperand nested left).Lawful c :=
  (operand_lawful hnested c).bind fun _ c' _ => lawful_returned (.refl c') rfl

/-- A turn of the loop of a conjunction keeps what its operand keeps. -/
lemma conjunctionTurn_lawful (hnested : ∀ c, (nested c).Lawful c) (left : Expr) (c : Cursor) :
    (conjunctionTurn nested left c).Lawful c := by
  unfold conjunctionTurn
  split
  · exact lawful_returned (.refl c) rfl
  · exact lawful_returned (.refl c) rfl
  · exact lawful_returned (.refl c) rfl
  · exact (andKeyword_lawful c).bind fun _ c' _ => takeOperand_lawful hnested left c'
  · exact takeOperand_lawful hnested left c

/-- The loop of a conjunction keeps what its turns keep. -/
lemma conjunction_lawful (hnested : ∀ c, (nested c).Lawful c) (turns : Nat) (left : Expr)
    (c : Cursor) : (c.conjunction turns nested left).Lawful c :=
  loop_lawful (conjunctionTurn_lawful hnested) turns left c

/-- An `OR` that is read is completed by itself. -/
lemma orKeyword_lawful (earlier : List Expr) (last : Expr) (c : Cursor) :
    (c.orKeyword earlier last).Lawful c := by
  unfold orKeyword
  split
  · exact lawful_returned (.refl c) rfl
  · next t c₁ hnext =>
    have hor := completes_of_nextIf hnext
    obtain ⟨-, -, rfl⟩ := nextIf_eq_some_iff.mp hnext
    split
    · exact lawful_stopped rfl
    · exact lawful_returned hor rfl

/-- A turn of the loop over alternatives keeps what its conjunction keeps. -/
lemma expressionTurn_lawful (hnested : ∀ c, (nested c).Lawful c) (turns : Nat)
    (earlier : List Expr) (c : Cursor) : (expressionTurn turns nested earlier c).Lawful c := by
  unfold expressionTurn
  split
  · exact lawful_stopped rfl
  · apply (operand_lawful hnested c).bind
    intro first c₁ _
    apply (conjunction_lawful hnested turns first c₁).bind
    intro last c₂ _
    exact orKeyword_lawful earlier last c₂

/-- Whatever it is allowed, the reader of expressions keeps what it should. -/
lemma expression_lawful (turns levels : Nat) (c : Cursor) :
    (expression turns levels c).Lawful c := by
  induction levels generalizing c with
  | zero => exact lawful_stopped rfl
  | succ levels ih => exact loop_lawful (expressionTurn_lawful ih turns) turns [] c

end Cursor

/-- The expression that a list of tokens spells, read by a cursor. -/
def parseWithin (turns levels : Nat) (tokens : List Token) : Except Cursor.Stop Expr :=
  if tokens.isEmpty then .error (.failed (.noExpression none))
  else
    match Cursor.expression turns levels (.start tokens) with
    | .stopped stop _ => .error stop
    | .returned e c =>
      match c.peek with
      | none => .ok e
      | some t => .error (.failed (.trailingToken t.kind t.offset))

end SearchQuery

import SearchQuery.Expr.Basic
import SearchQuery.Parser.Error

/-!
# From tokens to an expression

The grammar of search expressions, with brackets for what may be missing and braces for what
may be repeated:

* an expression is a conjunction, [`OR` and an expression];
* a conjunction is an operand, {[`AND`] and an operand};
* an operand is an expression in parentheses, or a search term;
* a search term is a word or a phrase, [after `NOT`].

`AND`, written or implied, takes one operand at a time into its left side, and `OR` takes all
that follows as its right side: `a b OR c` is `(a AND b) OR c`, and `a OR b c` is
`a OR (b AND c)`.  Groups nest at most `groupLimit` deep.

Every reader returns the tokens it leaves, with the fact that they are fewer than those of
`whole`, the list that its caller started from.
-/

namespace SearchQuery

/-- The deepest nesting of parenthesized groups. -/
def groupLimit : Nat := 256

/-- The value of the token of a word or a phrase: a phrase loses its quotes, if it has both. -/
def Token.literal (token : Token) : String :=
  match token.kind with
  | .phrase =>
    match token.text.toList with
    | '"' :: inner =>
      if inner.getLast? = some '"' then String.ofList inner.dropLast else token.text
    | _ => token.text
  | _ => token.text

namespace Parser

/-- An expression and the tokens left after it, which are fewer than those of `whole`. -/
abbrev Reading (whole : List Token) :=
  Except ParseError (Expr × { rest : List Token // rest.length < whole.length })

/-- Reads what follows a `NOT` at byte `position`: a word or a phrase. -/
def negated (position : Nat) (tokens : List Token) : Except ParseError (Expr × List Token) :=
  match tokens with
  | [] => .error (.invalidNotOperand none position)
  | token :: rest =>
    match token.kind with
    | .word | .phrase => .ok (.not (.term token.literal), rest)
    | found => .error (.invalidNotOperand (some found) token.offset)

/-- Folds the conjunctions before the last one, nearest first, around it: each `OR` takes all
that follows it as its right side. -/
def joinAlternatives (earlier : List Expr) (last : Expr) : Expr :=
  earlier.foldl (fun right left => .or left right) last

/-- What follows a `NOT` takes at least one token. -/
theorem length_of_negated {position : Nat} {tokens rest : List Token} {e : Expr}
    (read : negated position tokens = .ok (e, rest)) : rest.length < tokens.length := by
  unfold negated at read
  split at read
  · simp at read
  · split at read <;> simp at read
    · simp [← read.2]
    · simp [← read.2]

mutual

/-- Reads a group or a search term, with `depth` groups open. -/
def operand (depth : Nat) (tokens : List Token) : Reading tokens :=
  match tokens with
  | [] => .error (.noExpression none)
  | token :: rest =>
    match token.kind with
    | .openParen => group depth token rest
    | .keyword .not =>
      match read : negated token.offset rest with
      | .error e => .error e
      | .ok (e, after) => .ok (e, ⟨after, Nat.lt_succ_of_lt (length_of_negated read)⟩)
    | .word | .phrase => .ok (.term token.literal, ⟨rest, Nat.lt_succ_self _⟩)
    | found => .error (.unexpectedKind .word found token.offset)
termination_by (tokens.length, 0)

/-- Reads the group opened by `opening`, whose other tokens follow. -/
def group (depth : Nat) (opening : Token) (tokens : List Token) : Reading (opening :: tokens) :=
  if groupLimit ≤ depth then .error (.nestingTooDeep groupLimit opening.offset)
  else
    match tokens with
    | [] => .error (.noExpression (some opening.offset))
    | first :: others =>
      if first.kind = .closeParen then .error (.noExpression (some opening.offset))
      else
        match expression (depth + 1) (first :: others) [] (first :: others) (Nat.le_refl _) with
        | .error e => .error e
        | .ok (_, ⟨[], _⟩) => .error (.missingClose opening.offset)
        | .ok (inner, ⟨closing :: rest, fewer⟩) =>
          if closing.kind = .closeParen then
            .ok (inner, ⟨rest, by simp only [List.length_cons] at fewer ⊢; omega⟩)
          else .error (.unexpectedKind .closeParen closing.kind closing.offset)
termination_by (tokens.length, 3)

/-- Reads an expression of which the conjunctions in `earlier`, nearest first, have already been
read. -/
def expression (depth : Nat) (whole : List Token) (earlier : List Expr) (tokens : List Token)
    (within : tokens.length ≤ whole.length) : Reading whole :=
  match tokens with
  | [] => .error (.noExpression none)
  | token :: others =>
    if token.kind.isConnective then .error (.misplacedOperator token.kind token.offset)
    else
      match operand depth (token :: others) with
      | .error e => .error e
      | .ok (first, ⟨rest, fewer⟩) =>
        match conjunction depth (token :: others) first rest fewer with
        | .error e => .error e
        | .ok (last, ⟨[], _⟩) =>
          .ok (joinAlternatives earlier last, ⟨[], by simp only [List.length_cons] at *; omega⟩)
        | .ok (last, ⟨next :: after, fewer'⟩) =>
          if next.kind = .keyword .or then
            if after.isEmpty then .error (.missingOperand next.kind next.offset)
            else
              have shorter : after.length < others.length + 1 := by
                simp only [List.length_cons] at fewer'; omega
              expression depth whole (last :: earlier) after
                (by simp only [List.length_cons] at within; omega)
          else
            .ok (joinAlternatives earlier last,
              ⟨next :: after, by simp only [List.length_cons] at *; omega⟩)
termination_by (tokens.length, 2)

/-- Reads the further operands of the conjunction that begins with `left`. -/
def conjunction (depth : Nat) (whole : List Token) (left : Expr) (tokens : List Token)
    (within : tokens.length < whole.length) : Reading whole :=
  match tokens with
  | [] => .ok (left, ⟨[], within⟩)
  | token :: others =>
    match token.kind with
    | .keyword .or | .closeParen => .ok (left, ⟨token :: others, within⟩)
    | .keyword .and =>
      match others with
      | [] => .error (.missingOperand token.kind token.offset)
      | next :: more =>
        if next.kind.isConnective then .error (.operatorAfterAnd next.kind next.offset)
        else
          match operand depth (next :: more) with
          | .error e => .error e
          | .ok (right, ⟨rest, fewer⟩) =>
            have shorter : rest.length < more.length + 1 := fewer
            conjunction depth whole (.and left right) rest
              (by simp only [List.length_cons] at within; omega)
    | .openParen | .keyword .not | .word | .phrase =>
      match operand depth (token :: others) with
      | .error e => .error e
      | .ok (right, ⟨rest, fewer⟩) =>
        conjunction depth whole (.and left right) rest (by omega)
termination_by (tokens.length, 1)

end

end Parser

/-- The expression that a list of tokens spells. -/
def parse (tokens : List Token) : Except ParseError Expr :=
  match tokens with
  | [] => .error (.noExpression none)
  | _ :: _ =>
    match Parser.expression 0 tokens [] tokens (Nat.le_refl _) with
    | .error e => .error e
    | .ok (e, ⟨[], _⟩) => .ok e
    | .ok (_, ⟨token :: _, _⟩) => .error (.trailingToken token.kind token.offset)

end SearchQuery

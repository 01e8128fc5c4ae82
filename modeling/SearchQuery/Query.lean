import SearchQuery.Expr.Json
import SearchQuery.Expr.Render
import SearchQuery.Lexer.Tokenize
import SearchQuery.Parser.Basic
import SearchQuery.QueryError

/-!
# Queries

From the text of a query to its expression, and the search option that keeps both.
-/

namespace SearchQuery

/-- The expression of a query. -/
def parseQuery (query : String) : Except QueryError Expr :=
  match tokenize query with
  | .error e => .error ⟨.tokenizer e, query⟩
  | .ok tokens =>
    match parse tokens with
    | .error e => .error ⟨e, query⟩
    | .ok expr => .ok expr

/-- Reading a query is reading its characters and then its tokens. -/
theorem parseQuery_eq_ok_iff {query : String} {e : Expr} :
    parseQuery query = .ok e ↔ ∃ ts, tokenize query = .ok ts ∧ parse ts = .ok e := by
  unfold parseQuery
  rcases tokenize query with _ | ts
  · simp
  · rcases hparse : parse ts with _ | e' <;> simp [hparse]

/-- A query is refused by the lexer or by the parser, and the error keeps the query. -/
theorem parseQuery_eq_error {query : String} {e : QueryError}
    (refused : parseQuery query = .error e) :
    e.query = query ∧
      ((∃ lexError, tokenize query = .error lexError ∧ e.error = .tokenizer lexError) ∨
        ∃ tokens, tokenize query = .ok tokens ∧ parse tokens = .error e.error) := by
  unfold parseQuery at refused
  rcases htokens : tokenize query with lexError | tokens
  · rw [htokens] at refused
    obtain rfl := Except.error.inj refused
    exact ⟨rfl, Or.inl ⟨lexError, rfl, rfl⟩⟩
  · rcases hparse : parse tokens with err | expr
    · simp only [htokens, hparse] at refused
      obtain rfl := Except.error.inj refused
      exact ⟨rfl, Or.inr ⟨tokens, rfl, hparse⟩⟩
    · simp [htokens, hparse] at refused

/-- A search option: its text as received, and the expression that the text spells. -/
structure SearchOption where
  text : String
  expression : Expr
  deriving DecidableEq, Repr

namespace SearchOption

/-- Reads a search option. -/
def ofText (text : String) : Except QueryError SearchOption :=
  match parseQuery text with
  | .error e => .error e
  | .ok expression => .ok ⟨text, expression⟩

/-- The JSON form of an option. -/
def toJson (option : SearchOption) : Except SerializeError Json :=
  match option.expression.toJson with
  | .error e => .error e
  | .ok expression => .ok (.object [("text", .string option.text), ("expression", expression)])

end SearchOption

end SearchQuery

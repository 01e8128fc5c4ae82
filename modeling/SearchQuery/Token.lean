/-!
# Tokens of a search query

A query is written in words, quoted phrases, the keywords `NOT`, `AND` and `OR`, and
parentheses.  A token keeps its text as written and the byte offset of its first character.
-/

namespace SearchQuery

/-- The keywords; only the upper-case spelling counts. -/
inductive Keyword where
  | not
  | and
  | or
  deriving DecidableEq, Repr

namespace Keyword

/-- The spelling of a keyword. -/
def text : Keyword → String
  | not => "NOT"
  | and => "AND"
  | or => "OR"

/-- All keywords. -/
def all : List Keyword :=
  [not, and, or]

end Keyword

/-- What a token is. -/
inductive Kind where
  | word
  | phrase
  | keyword (keyword : Keyword)
  | openParen
  | closeParen
  deriving DecidableEq, Repr

namespace Kind

/-- The name of a kind in messages and listings. -/
def name : Kind → String
  | word => "WORD"
  | phrase => "PHRASE"
  | keyword k => k.text
  | openParen => "OPEN"
  | closeParen => "CLOSE"

/-- Whether the kind is one of the binary operators, `AND` and `OR`. -/
def isConnective : Kind → Bool
  | keyword .and | keyword .or => true
  | _ => false

/-- All kinds, in the order of their listing. -/
def all : List Kind :=
  [word, phrase] ++ Keyword.all.map keyword ++ [openParen, closeParen]

end Kind

/-- A token: its kind, its text (a phrase with both quotes), and the byte offset of its first
character in the query. -/
structure Token where
  kind : Kind
  text : String
  offset : Nat
  deriving DecidableEq, Repr

end SearchQuery

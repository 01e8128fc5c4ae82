import SearchQuery.Text.Quoted
import SearchQuery.Token

/-!
# Lexer modes and lexer errors

The mode of a lexer says what it is in the middle of.  Errors name the mode that met them, so
modes have names of their own.
-/

namespace SearchQuery

/-- What a lexer is in the middle of. -/
inductive Mode where
  /-- A token may begin; nothing has been read since the last one, or at all. -/
  | expression
  /-- A token may begin; the last character was a blank. -/
  | blank
  /-- A `(` has been read. -/
  | openParen
  /-- A `)` has been read. -/
  | closeParen
  /-- A word is being read. -/
  | word
  /-- A phrase is being read. -/
  | phrase
  /-- What has been read so far begins this keyword. -/
  | keyword (keyword : Keyword)
  /-- The query has ended. -/
  | finished
  deriving DecidableEq, Repr

namespace Mode

/-- The name of a mode in messages. -/
def name : Mode → String
  | expression => "EXPRESSION"
  | blank => "RWS"
  | openParen => "OPEN"
  | closeParen => "CLOSE"
  | word => "WORD"
  | phrase => "PHRASE"
  | keyword k => k.text
  | finished => "FINISHED"

/-- All modes. -/
def all : List Mode :=
  [expression, blank, openParen, closeParen, word, phrase] ++ Keyword.all.map keyword
    ++ [finished]

end Mode

/-- Why a lexer refuses a character or the end of the query. -/
inductive LexError where
  /-- No token goes on, ends or begins with this character. -/
  | forbiddenCharacter (character : Char) (mode : Mode) (position : Nat)
  /-- The query had already ended. -/
  | alreadyFinished (mode : Mode)
  /-- The query ended inside the token that begins at `position`. -/
  | notFinished (mode : Mode) (position : Nat)
  deriving DecidableEq, Repr

namespace LexError

/-- The stable key of an error. -/
def key : LexError → String
  | forbiddenCharacter .. => "FORBIDDEN_CHARACTER"
  | alreadyFinished .. => "ALREADY_FINISHED"
  | notFinished .. => "NOT_FINISHED_QUERY"

/-- The message of an error. -/
def message : LexError → String
  | forbiddenCharacter c mode _ =>
    "forbidden character " ++ Quoted.character c ++ " in state " ++ mode.name
  | alreadyFinished mode => "lexer state " ++ mode.name ++ " is already finished"
  | notFinished mode _ => "query ended inside an unfinished " ++ mode.name

/-- The byte position that an error points at. -/
def position? : LexError → Option Nat
  | forbiddenCharacter _ _ position => some position
  | alreadyFinished _ => none
  | notFinished _ position => some position

end LexError

end SearchQuery

import SearchQuery.Lexer.Error
import SearchQuery.Text.Bytes
import SearchQuery.Text.WordChar

/-!
# The lexer, one character at a time

A lexer is fed the characters of a query in order, each with its byte offset, and hands out a
token as soon as it is complete.  It never looks ahead: a word that begins like a keyword is
held as that keyword until a character disagrees, and is then carried on as a word; `(` and `)`
are handed out when the next character arrives.

A call that is refused leaves a lexer that can still be used.  Such a call may nevertheless have
completed a token, which is then lost to the caller; `Step` keeps the two apart.
-/

namespace SearchQuery

/-- A lexer: its mode, the text of the token in progress, and the offset of that token. -/
structure Lexer where
  mode : Mode
  text : String
  start : Nat
  deriving DecidableEq, Repr

namespace Lexer

/-- A lexer before the first character. -/
def new : Lexer :=
  ⟨.expression, "", 0⟩

/-- What one call does: the lexer it leaves, the token it completes, and why it is refused. -/
structure Step where
  lexer : Lexer
  completed : Option Token := none
  error : Option LexError := none
  deriving DecidableEq, Repr

/-- What the caller is given: the reason of a refusal, or the completed token. -/
def Step.result (step : Step) : Except LexError (Option Token) :=
  match step.error with
  | some e => .error e
  | none => .ok step.completed

/-- The mode of a token that begins with `c`, `blank` for a blank; nothing if none begins so. -/
def opening? (c : Char) : Option Mode :=
  if c = '(' then some .openParen
  else if c = ')' then some .closeParen
  else if c = '"' then some .phrase
  else if isBlank c then some .blank
  else if c = 'N' then some (.keyword .not)
  else if c = 'A' then some (.keyword .and)
  else if c = 'O' then some (.keyword .or)
  else if isWordChar c then some .word
  else none

/-- The lexer refuses `c`. -/
def forbid (lexer : Lexer) (offset : Nat) (c : Char) : Step :=
  { lexer, error := some (.forbiddenCharacter c lexer.mode offset) }

/-- Begins a token with `c`, or passes over a blank. -/
def beginToken (lexer : Lexer) (offset : Nat) (c : Char) : Step :=
  match opening? c with
  | none => lexer.forbid offset c
  | some .blank => { lexer := { lexer with mode := .blank } }
  | some mode => { lexer := ⟨mode, lexer.text.push c, offset⟩ }

/-- The token in progress, taken as a token of the given kind. -/
def pending (lexer : Lexer) (kind : Kind) : Token :=
  ⟨kind, lexer.text, lexer.start⟩

/-- The lexer after its token in progress has been handed out. -/
def cleared (lexer : Lexer) : Lexer :=
  ⟨.expression, "", lexer.start⟩

/-- Hands out the token in progress, then begins another with `c`. -/
def finishThenStart (lexer : Lexer) (kind : Kind) (offset : Nat) (c : Char) : Step :=
  { lexer.cleared.beginToken offset c with completed := some (lexer.pending kind) }

/-- Hands out the token in progress; a blank has ended it. -/
def finishAtBlank (lexer : Lexer) (kind : Kind) : Step :=
  { lexer := { lexer.cleared with mode := .blank }, completed := some (lexer.pending kind) }

/-- Hands out the token in progress; the end of the query has ended it. -/
def finishAtEnd (lexer : Lexer) (kind : Kind) : Step :=
  { lexer := { lexer.cleared with mode := .finished }, completed := some (lexer.pending kind) }

/-- Carries the token in progress on with `c`. -/
def extend (lexer : Lexer) (c : Char) : Step :=
  { lexer := { lexer with text := lexer.text.push c } }

/-- Reads `c` inside a word. -/
def pushWord (lexer : Lexer) (offset : Nat) (c : Char) : Step :=
  if isWordChar c then lexer.extend c
  else if isBlank c then lexer.finishAtBlank .word
  else if c = ')' then lexer.finishThenStart .word offset c
  else lexer.forbid offset c

/-- Reads `c` inside a phrase; a phrase may not be empty. -/
def pushPhrase (lexer : Lexer) (offset : Nat) (c : Char) : Step :=
  if c = '"' then
    if byteLength lexer.text.toList = 1 then lexer.forbid offset c
    else
      let whole := { lexer with text := lexer.text.push c }
      { lexer := whole.cleared, completed := some (whole.pending .phrase) }
  else if isPhraseChar c || isBlank c then lexer.extend c
  else lexer.forbid offset c

/-- Reads the characters of an abandoned keyword again as those of a word, and goes on with the word
if all of them may stand in one. -/
def fallBackToWord (lexer : Lexer) (goOn : Lexer → Step) : Step :=
  let word := { lexer with mode := .word }
  match lexer.text.toList.dropWhile isWordChar with
  | [] => goOn word
  | c :: _ =>
    word.forbid (lexer.start + byteLength (lexer.text.toList.takeWhile isWordChar)) c

/-- Reads `c` while the text so far begins the keyword `k`. -/
def pushKeyword (lexer : Lexer) (k : Keyword) (offset : Nat) (c : Char) : Step :=
  let matched := byteLength lexer.text.toList
  if (k.text.toList.drop matched).head? = some c then lexer.extend c
  else if matched = byteLength k.text.toList && isBlank c then lexer.finishAtBlank (.keyword k)
  else lexer.fallBackToWord fun word => word.pushWord offset c

/-- Feeds the character at byte `offset`. -/
def push (lexer : Lexer) (offset : Nat) (c : Char) : Step :=
  match lexer.mode with
  | .expression | .blank => lexer.beginToken offset c
  | .openParen =>
    if isBlank c then lexer.forbid offset c else lexer.finishThenStart .openParen offset c
  | .closeParen => lexer.finishThenStart .closeParen offset c
  | .word => lexer.pushWord offset c
  | .phrase => lexer.pushPhrase offset c
  | .keyword k => lexer.pushKeyword k offset c
  | .finished => { lexer, error := some (.alreadyFinished lexer.mode) }

/-- Ends the query; a keyword counts only when its whole spelling has been read. -/
def close (lexer : Lexer) : Step :=
  match lexer.mode with
  | .expression | .blank => { lexer := { lexer with mode := .finished } }
  | .openParen => lexer.finishAtEnd .openParen
  | .closeParen => lexer.finishAtEnd .closeParen
  | .word => lexer.finishAtEnd .word
  | .keyword k =>
    if lexer.text = k.text then lexer.finishAtEnd (.keyword k)
    else lexer.fallBackToWord fun word => word.finishAtEnd .word
  | .phrase => { lexer, error := some (.notFinished lexer.mode lexer.start) }
  | .finished => { lexer, error := some (.alreadyFinished lexer.mode) }

end Lexer

end SearchQuery

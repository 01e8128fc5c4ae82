/-!
# Styles

Text is marked for a terminal by escape codes before it and one after it that ends every style.
A style that is off leaves text as it is.
-/

namespace SearchQuery

/-- What a piece of text is. -/
inductive TextRole where
  | header
  | dim
  | success
  | error
  deriving DecidableEq, Repr

/-- The escape codes that begin a role. -/
def TextRole.codes : TextRole → String
  | header => "\x1b[1m\x1b[36m"
  | dim => "\x1b[2m"
  | success => "\x1b[32m"
  | error => "\x1b[31m"

/-- Whether text is marked. -/
structure Style where
  enabled : Bool
  deriving DecidableEq, Repr

/-- Marks a text. -/
def Style.paint (style : Style) (role : TextRole) (text : String) : String :=
  if style.enabled then role.codes ++ text ++ "\x1b[0m" else text

end SearchQuery

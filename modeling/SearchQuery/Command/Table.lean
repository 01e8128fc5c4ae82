import SearchQuery.Text.Columns
import SearchQuery.Token

/-!
# Tables

A table has a frame, a double line under its header, and columns as wide as their widest cell.
-/

namespace SearchQuery

/-- A table: a header and rows, every row with a cell for every column of the header. -/
structure Table where
  header : List String
  rows : List (List String)
  deriving DecidableEq, Repr

namespace Table

/-- The wider of two cells, column by column. -/
def widen : List Nat → List String → List Nat
  | width :: widths, cell :: cells => max width (displayWidth cell) :: widen widths cells
  | widths, _ => widths

/-- The width of every column. -/
def widths (table : Table) : List Nat :=
  table.rows.foldl widen (table.header.map displayWidth)

/-- A cell with a blank on both sides, filled up on the right. -/
def pad (width : Nat) (cell : String) : String :=
  " " ++ cell ++ "".pushn ' ' (width - displayWidth cell) ++ " "

/-- A row of cells. -/
def row (widths : List Nat) (cells : List String) : String :=
  "│" ++ String.intercalate "┆" (List.zipWith pad widths cells) ++ "│"

/-- A line of the frame. -/
def rule (left line crossing right : String) (widths : List Nat) : String :=
  left ++
    String.intercalate crossing
      (widths.map fun width => String.join (List.replicate (width + 2) line)) ++
    right

/-- The lines of the table. -/
def lines (table : Table) : List String :=
  let widths := table.widths
  [rule "┌" "─" "┬" "┐" widths, row widths table.header, rule "╞" "═" "╪" "╡" widths] ++
    table.rows.map (row widths) ++ [rule "└" "─" "┴" "┘" widths]

/-- The text of the table. -/
def text (table : Table) : String :=
  String.intercalate "\n" table.lines

/-- The table of tokens: what they are, what they say and where they begin. -/
def ofTokens (tokens : List Token) : Table where
  header := ["Kind", "Text", "Offset"]
  rows := tokens.map fun token => [token.kind.name, token.text, token.offset.repr]

end Table

end SearchQuery

import IntentWire.Text.Width

/-!
# Grids

A table of texts, drawn with lines between the columns and the rows. Every column is
as wide as the widest line of its cells, and every cell stands at the left of its
column. A cell may have several lines: its row has as many as the cell that has most.
-/

namespace IntentWire.Text.Grid

/-- The lines of a text. There is one more than there are line breaks. -/
def lines (s : String) : List String :=
  s.splitOn "\n"

/-- The number of columns of the terminal that a cell takes. -/
def cellWidth (s : String) : Nat :=
  ((lines s).map fun line => width line.toList).foldl max 0

/-- The width of each column of a table. Even a column without text is a column wide. -/
def columnWidths (header : List String) (rows : List (List String)) : List Nat :=
  rows.foldl (fun widths row => List.zipWith (fun w cell => max w (cellWidth cell)) widths row)
    (header.map fun cell => max 1 (cellWidth cell))

/-- A line between rows: `fill` along the columns, `cross` between them. -/
def rule (left : String) (fill : Char) (cross right : String) (widths : List Nat) : String :=
  left ++ cross.intercalate (widths.map fun w => String.ofList (List.replicate (w + 2) fill)) ++
    right

/-- A line of a cell, filled up with blanks to the width of its column, and a blank on
    either side. -/
def padded (w : Nat) (line : String) : String :=
  (" " ++ line).pushn ' ' (w - width line.toList + 1)

/-- The lines of a row. -/
def rowLines (widths : List Nat) (row : List String) : List String :=
  let cells := row.map lines
  let height := (cells.map List.length).foldl max 0
  (List.range height).map fun i =>
    let line := List.zipWith (fun w cell => padded w (cell.getD i "")) widths cells
    "│" ++ "┆".intercalate line ++ "│"

/-- The lines of a table. -/
def render (header : List String) (rows : List (List String)) : List String :=
  let widths := columnWidths header rows
  let between := rule "├" '╌' "┼" "┤" widths
  let body := (rows.map (rowLines widths)).intersperse [between]
  [rule "┌" '─' "┬" "┐" widths] ++ rowLines widths header ++ [rule "╞" '═' "╪" "╡" widths] ++
    body.flatten ++ [rule "└" '─' "┴" "┘" widths]

end IntentWire.Text.Grid

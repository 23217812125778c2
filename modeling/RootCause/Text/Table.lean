import RootCause.Text.Width

/-!
Tables of text drawn with box characters.

A column is as wide as its widest line, with one blank on either side. A cell may have many
lines; its row is as high as the highest cell.
-/

namespace RootCause

structure TextTable where
  header : List String
  rows : List (List String)

namespace TextTable

def cellLines (cell : String) : List String := cell.splitOn "\n"

def cellWidth (cell : String) : Nat := ((cellLines cell).map displayWidth).foldl max 0

/-- The wider of two widths in each column. -/
def widen (widths : List Nat) (row : List String) : List Nat :=
  List.zipWith max widths (row.map cellWidth)

def widths (t : TextTable) : List Nat := t.rows.foldl widen (t.header.map cellWidth)

def repeated (n : Nat) (s : String) : String := String.join (List.replicate n s)

/-- A line of a cell between its blanks, filled up to the width of its column. -/
def padded (width : Nat) (line : String) : String :=
  " " ++ line ++ repeated (width - displayWidth line) " " ++ " "

/-- A horizontal line: its left end, the piece that fills it, what it has between columns
and its right end. -/
def ruler (t : TextTable) (left fill between right : String) : String :=
  left ++ between.intercalate (t.widths.map fun w => repeated (w + 2) fill) ++ right

/-- The lines of one row. -/
def rowLines (t : TextTable) (row : List String) : List String :=
  let cells := row.map cellLines
  let height := (cells.map List.length).foldl max 0
  (List.range height).map fun i =>
    let pieces := List.zipWith (fun w cell => padded w (cell.getD i "")) t.widths cells
    "│" ++ "┆".intercalate pieces ++ "│"

def lines (t : TextTable) : List String :=
  [t.ruler "┌" "─" "┬" "┐"] ++ t.rowLines t.header ++ [t.ruler "╞" "═" "╪" "╡"] ++
    t.rows.flatMap t.rowLines ++ [t.ruler "└" "─" "┴" "┘"]

end TextTable

end RootCause

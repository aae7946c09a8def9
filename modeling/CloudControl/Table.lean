import CloudControl.Text.Width

/-!
# Plain tables

A table has a row of titles and rows of cells, without rules between them. Each cell is filled up
with blanks to the width of its column and has a blank on both sides. A cell with line breaks
takes as many lines as it has parts, and its row as many as its highest cell.
-/

namespace CloudControl.Table

/-- The lines of a cell. -/
def cellLines (cell : String) : List String :=
  (cell.toList.splitOn '\n').map String.ofList

/-- The columns that a cell takes. -/
def cellWidth (cell : String) : Nat :=
  ((cellLines cell).map Text.width).foldl max 0

/-- The widths of the columns of rows. -/
def columnWidths : List (List String) → List Nat
  | [] => []
  | row :: rest => widest (row.map cellWidth) (columnWidths rest)
where
  /-- The greater of the widths in each place. -/
  widest : List Nat → List Nat → List Nat
    | [], ws => ws
    | vs, [] => vs
    | v :: vs, w :: ws => max v w :: widest vs ws

/-- A part of a cell, filled up to a width and with a blank on both sides. -/
def padded (width : Nat) (part : String) : String :=
  " " ++ part ++ String.ofList (List.replicate (width - Text.width part + 1) ' ')

/-- A line of a row: the parts of its cells at an index. -/
def rowLine (widths : List Nat) (cells : List (List String)) (index : Nat) : String :=
  String.join (List.zipWith (fun width parts ↦ padded width (parts[index]?.getD "")) widths cells)

/-- The lines of a row. -/
def rowLines (widths : List Nat) (row : List String) : List String :=
  let cells := row.map cellLines
  let height := (cells.map List.length).foldl max 0
  (List.range height).map (rowLine widths cells)

/-- The text of a table of titles and rows. -/
def text (titles : List String) (rows : List (List String)) : String :=
  let rows := titles :: rows
  String.intercalate "\n" (rows.flatMap (rowLines (columnWidths rows)))

end CloudControl.Table

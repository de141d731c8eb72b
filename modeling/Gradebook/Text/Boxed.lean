import Gradebook.Text.Columns

/-!
# Boxed tables

A table in a box with round corners: a row of headings, a line below it, and the rows, their cells
flush left.  A cell of several lines makes its row that many lines high.
-/

namespace Gradebook.Text

def cellLines (cell : String) : List (List Char) :=
  (cell.splitOn "\n").map String.toList

def cellWidth (cell : String) : Nat :=
  ((cellLines cell).map columns).foldl max 0

def columnWidths (heading : List String) (rows : List (List String)) : List Nat :=
  rows.foldl (fun widths row => List.zipWith max widths (row.map cellWidth))
    (heading.map cellWidth)

/-- One line of a row: a piece for each cell, filled up to the width of its column. -/
def rowLine (widths : List Nat) (pieces : List (List Char)) : String :=
  let filled := List.zipWith
    (fun width piece =>
      " " ++ String.ofList (piece ++ List.replicate (width - columns piece) ' ') ++ " ")
    widths pieces
  "│" ++ "│".intercalate filled ++ "│"

def rowLines (widths : List Nat) (row : List String) : List String :=
  let cells := row.map cellLines
  let height := (cells.map List.length).foldl max 0
  (List.range height).map fun i => rowLine widths (cells.map fun lines => (lines[i]?).getD [])

/-- A line between rows or at an edge, from the characters at its left, middle and right. -/
def ruleLine (left middle right : String) (widths : List Nat) : String :=
  left ++ middle.intercalate
    (widths.map fun width => String.ofList (List.replicate (width + 2) '─')) ++ right

def boxed (heading : List String) (rows : List (List String)) : String :=
  let widths := columnWidths heading rows
  "\n".intercalate
    ([ruleLine "╭" "┬" "╮" widths] ++ rowLines widths heading ++ [ruleLine "├" "┼" "┤" widths] ++
      rows.flatMap (rowLines widths) ++ [ruleLine "╰" "┴" "╯" widths])

end Gradebook.Text

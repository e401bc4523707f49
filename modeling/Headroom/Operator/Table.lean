import Headroom.Text.Width

/-!
# Tables

Rows of texts in a frame with rounded corners.  Columns are as wide as their
widest line; a cell with several lines makes its row as high.
-/

namespace Headroom.Operator.Table

def linesOf (cell : String) : List String := cell.splitOn "\n"

def cellWidth (cell : String) : Nat := ((linesOf cell).map Text.width).foldl max 0

def rowHeight (row : List String) : Nat := (row.map fun cell => (linesOf cell).length).foldl max 1

/-- The widths of the columns of a table. -/
def widths (header : List String) (rows : List (List String)) : List Nat :=
  rows.foldl (fun known row => List.zipWith max known (row.map cellWidth)) (header.map cellWidth)

/-- A text with blanks after it up to a width. -/
def fill (size : Nat) (text : String) : String :=
  text ++ String.ofList (List.replicate (size - Text.width text) ' ')

/-- One line of a row: the line with the given number of each cell. -/
def rowLine (sizes : List Nat) (row : List String) (index : Nat) : String :=
  let cells := List.zipWith (fun size cell => " " ++ fill size ((linesOf cell)[index]?.getD "") ++ " ")
    sizes row
  "│" ++ String.intercalate "│" cells ++ "│"

def rowLines (sizes : List Nat) (row : List String) : List String :=
  (List.range (rowHeight row)).map (rowLine sizes row)

def border (left middle right : String) (sizes : List Nat) : String :=
  left ++ String.intercalate middle
    (sizes.map fun size => String.ofList (List.replicate (size + 2) '─')) ++ right

/-- A table with a header.  Without rows the line below the header ends the table. -/
def render (header : List String) (rows : List (List String)) : String :=
  let sizes := widths header rows
  let body := rows.flatMap (rowLines sizes)
  let foot := if rows.isEmpty then [] else [border "╰" "┴" "╯" sizes]
  String.intercalate "\n"
    ([border "╭" "┬" "╮" sizes] ++ rowLines sizes header ++ [border "├" "┼" "┤" sizes] ++ body ++ foot)

end Headroom.Operator.Table

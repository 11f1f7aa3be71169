/-
Text laid out in columns.

`table` frames rows of cells. Each column is as wide as its widest line,
up to a limit that no terminal reaches and beyond which lines are broken;
a cell with several lines makes its row as tall as it needs.
-/
import CellSync.Text.Wrapping

namespace CellSync.Text

/-- A row of a table: the lines of each cell. -/
abbrev Row := List (List String)

/-- The row of some cells, each cut at its line ends. -/
def rowOf (cells : List String) : Row := cells.map fun cell => cell.splitOn "\n"

/-- The greatest width of a column, with and without its margins. -/
def maxColumns : Nat := 65535

/-- The widths of the columns of some rows. -/
def columnWidths (columns : Nat) (rows : List Row) : List Nat :=
  (List.range columns).map fun i =>
    min maxColumns ((rows.flatMap fun row => (row.getD i []).map width).foldl max 0)

/-- A line of the frame. -/
def rule (left fill cross right : String) (widths : List Nat) : String :=
  left ++ String.intercalate cross (widths.map fun w =>
    String.join (List.replicate (min maxColumns (w + 2)) fill)) ++ right

/-- A cell's line, filled up to its column and with a blank on each side. -/
def filled (text : String) (columns : Nat) : String :=
  " " ++ text ++ String.ofList (List.replicate (columns - width text) ' ') ++ " "

/-- The lines of a row. -/
def rowLines (widths : List Nat) (row : Row) : List String :=
  let cells := (row.zip widths).map fun (cell, w) => (cell.flatMap (wrap w), w)
  let height := (cells.map fun (cell, _) => cell.length).foldl max 1
  (List.range height).map fun i =>
    "│" ++ String.intercalate "┆" (cells.map fun (cell, w) => filled (cell.getD i "") w)
      ++ "│"

/-- A framed table with a header. Its lines are not ended by a newline. -/
def table (header : List String) (rows : List (List String)) : String :=
  let head := rowOf header
  let body := rows.map rowOf
  let widths := columnWidths header.length (head :: body)
  let between := rule "├" "╌" "┼" "┤" widths
  let lines :=
    [rule "┌" "─" "┬" "┐" widths] ++ rowLines widths head ++
    [rule "╞" "═" "╪" "╡" widths] ++
    ((body.map (rowLines widths)).intersperse [between]).flatten ++
    [rule "└" "─" "┴" "┘" widths]
  String.intercalate "\n" lines

end CellSync.Text

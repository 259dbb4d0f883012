import CertaintyFactor.Text.Columns

/-!
# Tables

Rows of cells between lines, as in

    +------+-----+
    | code | cf  |
    +------+-----+
    | G01  | 0.6 |
    +------+-----+

Each column is as wide as its widest cell with a space on either side. A cell of several lines makes
its row as high.
-/

set_option autoImplicit false

namespace CertaintyFactor.Cli.Table

def cellLines (cell : String) : List String :=
  (cell.toList.splitOn '\n').map String.ofList

/-- The width of a cell: that of its widest line. -/
def cellWidth (cell : String) : Nat :=
  ((cellLines cell).map Text.columns).foldl max 0

def widths (header : List String) (rows : List (List String)) : List Nat :=
  rows.foldl (fun widths row => List.zipWith max widths (row.map cellWidth)) (header.map cellWidth)

def padded (width : Nat) (text : String) : String :=
  text ++ .ofList (List.replicate (width - Text.columns text) ' ')

/-- The line between two rows. -/
def rule (widths : List Nat) : String :=
  "+" ++ String.join (widths.map fun w => .ofList (List.replicate (w + 2) '-') ++ "+")

def rowLine (widths : List Nat) (texts : List String) : String :=
  "|" ++ String.join (List.zipWith (fun w t => " " ++ padded w t ++ " |") widths texts)

def rowLines (widths : List Nat) (row : List String) : List String :=
  let cells := row.map cellLines
  let height := (cells.map List.length).foldl max 0
  (List.range height).map fun i => rowLine widths (cells.map fun lines => lines.getD i "")

def lines (header : List String) (rows : List (List String)) : List String :=
  let widths := widths header rows
  rule widths :: (header :: rows).flatMap fun row => rowLines widths row ++ [rule widths]

end CertaintyFactor.Cli.Table

import CodeMetrics.Text.Blank
import CodeMetrics.Text.Lines

/-!
# Plain tables

A table of text in a box of hyphens and bars.  A column is as wide as its title or its widest cell
line, and a cell stands at its left or its right with one blank on each side.  A cell may hold
several lines.  Tabs count for nothing when a cell is measured but are drawn up to the next tab
stop, so a cell line can turn out too long; it is then cut.

Tables are as wide as they turn out: a terminal would narrow them only beyond a million cells, which
is left out here.  White space at the end of a line at the left is cut like other text, as in rich
15; rich 13 first leaves out what of it has no room.  What is proved of tables holds for both.
-/

namespace CodeMetrics

/-- On which side of its column a cell stands. -/
inductive Side where
  | left
  | right
deriving DecidableEq

/-- A column of a table. -/
structure Column where
  title : String
  side : Side

namespace Table

/-- The cells of the widest line of a text. -/
def widest (s : List Char) : Nat := ((splitWhere isLineBreak s).map cells).foldl max 0

/-- A cell line that takes exactly `width` cells. -/
def placeLine (side : Side) (width : Nat) (line : List Char) : List Char :=
  match side with
  | .left => padRight (cut line width) width
  | .right => padLeft (cut (dropEndWhile isBlank line) width) width

/-- The lines of a cell, as they are drawn. -/
def cellLines (side : Side) (width : Nat) (s : List Char) : List (List Char) :=
  (splitWhere (· = '\n') s).map fun line => placeLine side width (expandTabs line)

/-- The lines of a row: those of its cells side by side, with blanks below the shorter ones. -/
def rowLines (widths : List Nat) (drawn : List (List (List Char))) : List (List Char) :=
  let height := (drawn.map List.length).foldl max 0
  (List.range height).map fun i =>
    let pieces := (widths.zip drawn).map fun (width, lines) =>
      ' ' :: (lines[i]?).getD (List.replicate width ' ') ++ [' ']
    '|' :: ['|'].intercalate pieces ++ ['|']

/-- The lines of a row of cells. -/
def drawRow (columns : List (Column × Nat)) (row : List (List Char)) : List (List Char) :=
  rowLines (columns.map Prod.snd)
    ((columns.zip row).map fun ((column, width), s) => cellLines column.side width s)

/-- The width of each column of a table. -/
def widths (columns : List Column) (rows : List (List (List Char))) : List Nat :=
  (columns.zipIdx).map fun (column, i) =>
    (rows.map fun row => widest ((row[i]?).getD [])).foldl max (cells column.title.toList)

/-- A stretch of hyphens for each column. -/
def hyphens (widths : List Nat) (between : Char) : List Char :=
  [between].intercalate (widths.map fun w => List.replicate (w + 2) '-')

/-- The lines of a table. -/
def draw (columns : List Column) (rows : List (List String)) : List String :=
  let rows := rows.map fun row => row.map fun s => dropSteering s.toList
  let ws := widths columns rows
  let columnWidths := columns.zip ws
  let rule := '+' :: hyphens ws '-' ++ ['+']
  let header := drawRow columnWidths (columns.map fun c => c.title.toList)
  let separator := '|' :: hyphens ws '+' ++ ['|']
  let body := rows.flatMap (drawRow columnWidths)
  ([rule] ++ header ++ [separator] ++ body ++ [rule]).map String.ofList

end Table

end CodeMetrics

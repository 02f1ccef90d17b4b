import CodeMetrics.Binary64.Basic
import CodeMetrics.Table.Plain
import CodeMetrics.Text.Wrap

/-!
# Tables for a terminal

A table with a heavy frame around its header, under a centred title, that is made to fit into a
terminal.  When it is too wide, its widest columns are narrowed to the width of the next widest, and
so on until it fits.  A cell that is too long for its column is wrapped at blanks, and a word that
is too long for a line is cut.
-/

namespace CodeMetrics

namespace Table

/-- Takes away `total` from the widths that take part, as evenly as rounding allows and from none
more than `most`. -/
def reduceEvenly (most total parts : Nat) : List (Nat × Bool) → List Nat
  | [] => []
  | (width, takesPart) :: rest =>
    if takesPart ∧ 0 < parts then
      let share := min most (Binary64.roundDiv total parts)
      (width - share) :: reduceEvenly most (total - share) (parts - 1) rest
    else width :: reduceEvenly most total parts rest

/-- The widths after the widest ones were narrowed once, by at most `excess`. -/
def narrowWidest (excess : Nat) (widths : List Nat) : List Nat :=
  let widest := widths.foldl max 0
  let next := (widths.map fun w => if w = widest then 0 else w).foldl max 0
  let parts := widths.countP (· = widest)
  reduceEvenly (min excess (widest - next)) excess parts (widths.map fun w => (w, w = widest))

/-- How wide columns are together. -/
def totalWidth (widths : List Nat) : Nat := widths.foldr (· + ·) 0

/-- Narrows the widest columns until the widths sum up to at most `room`; `steps` bounds how
often. -/
def collapse (room : Nat) : Nat → List Nat → List Nat
  | 0, widths => widths
  | steps + 1, widths =>
    if totalWidth widths ≤ room then widths
    else collapse room steps (narrowWidest (totalWidth widths - room) widths)

/-- The lines of a cell, as they are drawn. -/
def wrappedLines (side : Side) (width : Nat) (s : List Char) : List (List Char) :=
  (wrapLines .ellipsis width s).map (placeLine side width)

/-- The vertical strokes of a row. -/
structure Strokes where
  left : Char
  between : Char
  right : Char

/-- The lines of a row of drawn cells, with blanks below the shorter ones, or above them if `bottom`
holds. -/
def frameRow (strokes : Strokes) (bottom : Bool) (widths : List Nat)
    (drawn : List (List (List Char))) : List (List Char) :=
  let height := (drawn.map List.length).foldl max 0
  let filled := (widths.zip drawn).map fun (width, lines) =>
    let blank := List.replicate (height - lines.length) (List.replicate width ' ')
    if bottom then blank ++ lines else lines ++ blank
  (List.range height).map fun i =>
    let pieces := filled.map fun lines => ' ' :: (lines[i]?).getD [] ++ [' ']
    strokes.left :: [strokes.between].intercalate pieces ++ [strokes.right]

/-- A rule across the table. -/
def frameRule (strokes : Strokes) (line : Char) (widths : List Nat) : List Char :=
  strokes.left :: [strokes.between].intercalate (widths.map fun w => List.replicate (w + 2) line) ++
    [strokes.right]

/-- A text in the middle of `width` cells. -/
def centre (width : Nat) (s : List Char) : List Char :=
  padRight (padLeft s (cells s + (width - cells s) / 2)) width

/-- The lines of a table under a title that fits into `room` cells. -/
def drawHeavy (title : String) (room : Nat) (columns : List Column) (rows : List (List String)) :
    List String :=
  let rows := rows.map fun row => row.map String.toList
  let natural := (widths columns rows).map (· + 2)
  let frame := columns.length + 1
  let ws := (collapse (room - frame) (totalWidth natural) natural).map (· - 2)
  let cellsOf (row : List (List Char)) : List (List (List Char)) :=
    ((columns.zip ws).zip row).map fun ((column, width), s) => wrappedLines column.side width s
  let header := frameRow ⟨'┃', '┃', '┃'⟩ true ws (cellsOf (columns.map fun c => c.title.toList))
  let body := rows.flatMap fun row => frameRow ⟨'│', '│', '│'⟩ false ws (cellsOf row)
  let width := totalWidth (ws.map (· + 2)) + frame
  ([centre width title.toList, frameRule ⟨'┏', '┳', '┓'⟩ '━' ws] ++ header ++
    [frameRule ⟨'┡', '╇', '┩'⟩ '━' ws] ++ body ++
    [frameRule ⟨'└', '┴', '┘'⟩ '─' ws]).map String.ofList

end Table

end CodeMetrics

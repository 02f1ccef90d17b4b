import CodeMetrics.Proofs.Table.Layout
import CodeMetrics.Proofs.Text.Ellipsis
import Mathlib.Algebra.BigOperators.Group.List.Basic

/-!
# Where a table is cut

A cell holds a text of several lines.  Each of them is drawn in a line of its row, at the place of
the cell: in full when it fits into the column, and otherwise it is cut.  So the ellipses that are
drawn there are those of the line when it fits, and there is at least one when it is too long even
without the white space at its end (`Cell.accounts_piece`).  An ellipsis of a table stands in a line
of some row (`exists_of_mem_draw`), and altogether the ellipses are those in the cells
(`sum_ellipses_draw`).  A line can only be too long when the text has a tab, which is drawn wider
than it was measured, or an end of line that is none when the text is drawn
(`Cell.overlong_eq_nil`).

A line that is too long because of the white space at its end may be cut, or fit without it.
-/

namespace CodeMetrics

namespace Table

/-- A cell: its column, the width of this, and its text without steering characters. -/
abbrev Cell := (Column × Nat) × List Char

/-- The lines of a cell, with their tabs drawn. -/
def Cell.lines (e : Cell) : List (List Char) :=
  (splitWhere (· = '\n') e.2).map fun line =>
    match e.1.1.side with
    | .left => expandTabs line
    | .right => dropEndWhile isBlank (expandTabs line)

/-- The lines of a cell that are too long for its column. -/
def Cell.overlong (e : Cell) : List (List Char) := e.lines.filter (e.1.2 < cells ·)

/-- The lines of a cell that are too long for its column even without the white space at their
ends. -/
def Cell.overfull (e : Cell) : List (List Char) :=
  e.lines.filter fun line => e.1.2 < cells (dropEndWhile isBlank line)

/-- What is drawn in line `i` of a row at the place of a cell; below the last line of the cell there
are blanks. -/
def Cell.piece (e : Cell) (i : Nat) : List Char :=
  ((cellLines e.1.1.side e.1.2 e.2)[i]?).getD (List.replicate e.1.2 ' ')

/-- What is drawn in line `i` of a row at the place of a cell has the ellipses that it must have:
none where the cell has no line, those of the line when this fits, and at most one more when it does
not; there is at least one when the line is too long even without the white space at its end. -/
def Cell.Accounts (e : Cell) (i : Nat) (drawn : List Char) : Prop :=
  match e.lines[i]? with
  | none => ellipses drawn = 0
  | some line =>
    (cells line ≤ e.1.2 → ellipses drawn = ellipses line) ∧
      ellipses drawn ≤ ellipses line + 1 ∧
      (e.1.2 < cells (dropEndWhile isBlank line) → 1 ≤ ellipses drawn)

/-- How many lines a row has. -/
def rowHeight (row : List Cell) : Nat := (row.map fun e => e.lines.length).foldl max 0

/-- What is drawn at the places of cells, between bars. -/
def barred (pieces : List (List Char)) : List Char :=
  '|' :: ['|'].intercalate (pieces.map fun p => ' ' :: p ++ [' ']) ++ ['|']

/-- A line of a row. -/
def rowAt (row : List Cell) (i : Nat) : List Char := barred (row.map fun e => e.piece i)

/-- The line has the form of line `i` of a row, and accounts for each cell at its place. -/
def IsLineAt (row : List Cell) (i : Nat) (line : String) : Prop :=
  ∃ pieces, List.Forall₂ (fun e p => e.Accounts i p) row pieces ∧
    line = String.ofList (barred pieces)

/-- The cells in each row below the titles of a table. -/
def bodyRows (columns : List Column) (rows : List (List String)) : List (List Cell) :=
  let texts := rows.map fun row => row.map fun s => dropSteering s.toList
  texts.map fun row => (columns.zip (widths columns texts)).zip row

/-! ## One cell -/

/-- How many ellipses are drawn in a cell. -/
def Cell.drawnEllipses (e : Cell) : Nat := (e.lines.map fun line => ellipses (cut line e.1.2)).sum

theorem cellLines_eq (e : Cell) :
    cellLines e.1.1.side e.1.2 e.2 =
      e.lines.map fun line => pad e.1.1.side e.1.2 (cut line e.1.2) := by
  rw [cellLines, Cell.lines, List.map_map]
  refine List.map_congr_left fun line _ => ?_
  cases e.1.1.side with
  | left => simp only [placeLine, pad, Function.comp_apply]
  | right => simp only [placeLine, pad, Function.comp_apply]

theorem ellipses_pad (side : Side) (width : Nat) (s : List Char) :
    ellipses (pad side width s) = ellipses s := by
  cases side with
  | left => rw [pad, padRight, ellipses_append, ellipses_blanks, Nat.add_zero]
  | right => rw [pad, padLeft, ellipses_append, ellipses_blanks, Nat.zero_add]

/-- The pieces of a cell are its lines, each cut if it is too long and filled up with blanks. -/
theorem Cell.ellipses_piece (e : Cell) (i : Nat) :
    ellipses (e.piece i) = (e.lines[i]?.map fun line => ellipses (cut line e.1.2)).getD 0 := by
  rw [piece, cellLines_eq, List.getElem?_map]
  cases e.lines[i]? with
  | none => exact ellipses_blanks e.1.2
  | some line => exact ellipses_pad e.1.1.side e.1.2 (cut line e.1.2)

theorem Cell.accounts_piece (e : Cell) (i : Nat) : e.Accounts i (e.piece i) := by
  have hpiece := e.ellipses_piece i
  unfold Accounts
  split
  · next hnone =>
    rw [hpiece, hnone]
    rfl
  · next line hsome =>
    rw [hsome, Option.map_some, Option.getD_some] at hpiece
    rw [hpiece]
    by_cases hlong : e.1.2 < cells line
    · have hcut := ellipses_cut_of_lt hlong
      exact ⟨fun hfits => absurd hfits (by omega), hcut.2, fun _ => hcut.1⟩
    · have hfits := Nat.le_of_not_lt hlong
      have hend := cells_dropEndWhile_le isBlank line
      rw [cut_of_le hfits]
      exact ⟨fun _ => rfl, Nat.le_succ _, fun hfull => absurd hfull (by omega)⟩

/-- Going through the pieces of a cell up to a number that is large enough. -/
theorem Cell.sum_ellipses_piece {e : Cell} {height : Nat} (h : e.lines.length ≤ height) :
    ((List.range height).map fun i => ellipses (e.piece i)).sum = e.drawnEllipses := by
  simp only [ellipses_piece, drawnEllipses]
  generalize e.lines = lines at h
  induction lines generalizing height with
  | nil => simp
  | cons line rest ih =>
    obtain ⟨n, rfl⟩ : ∃ n, height = n + 1 := Nat.exists_eq_add_of_le' (by simp at h; omega)
    have hrest := @ih n (by simpa using h)
    rw [List.range_succ_eq_map, List.map_cons, List.sum_cons, List.map_map, List.map_cons,
      List.sum_cons, ← hrest]
    rfl

theorem Cell.sum_ellipses_lines (e : Cell) : (e.lines.map ellipses).sum = ellipses e.2 := by
  rw [lines, List.map_map, ← ellipses_splitWhere (p := (· = '\n')) (by decide) e.2]
  congr 1
  refine List.map_congr_left fun line _ => ?_
  cases e.1.1.side with
  | left => simp only [Function.comp_apply, ellipses_expandTabs]
  | right =>
    simp only [Function.comp_apply, ellipses_dropEndWhile isBlank_ellipsis, ellipses_expandTabs]

/-- A cell whose lines all fit has the ellipses of its text. -/
theorem Cell.drawnEllipses_of_fits {e : Cell} (h : e.overlong = []) :
    e.drawnEllipses = ellipses e.2 := by
  rw [drawnEllipses, ← sum_ellipses_lines]
  congr 1
  refine List.map_congr_left fun line hline => ?_
  have hfits := List.filter_eq_nil_iff.1 h line hline
  rw [decide_eq_true_eq, Nat.not_lt] at hfits
  rw [cut_of_le hfits]

theorem sum_ellipses_cut (lines : List (List Char)) (width : Nat) :
    (lines.filter fun line => width < cells (dropEndWhile isBlank line)).length ≤
        (lines.map fun line => ellipses (cut line width)).sum ∧
      (lines.map fun line => ellipses (cut line width)).sum ≤
        (lines.map ellipses).sum + (lines.filter (width < cells ·)).length := by
  induction lines with
  | nil => exact ⟨Nat.le_refl _, Nat.le_refl _⟩
  | cons line rest ih =>
    have hend := cells_dropEndWhile_le isBlank line
    rw [List.map_cons, List.sum_cons, List.map_cons, List.sum_cons, List.filter_cons,
      List.filter_cons]
    by_cases hlong : width < cells line
    · have hcut := ellipses_cut_of_lt hlong
      rw [if_pos (decide_eq_true hlong), List.length_cons]
      split
      · rw [List.length_cons]
        omega
      · omega
    · have hfull : ¬ width < cells (dropEndWhile isBlank line) := by omega
      rw [if_neg (by simpa using hfull), if_neg (by simpa using hlong), cut_of_le (by omega)]
      omega

/-- A cell has an ellipsis for each line that is too long even without the white space at its end,
and no others than those of its text and one for each line that is too long. -/
theorem Cell.drawnEllipses_bounds (e : Cell) :
    e.overfull.length ≤ e.drawnEllipses ∧
      e.drawnEllipses ≤ ellipses e.2 + e.overlong.length := by
  rw [← sum_ellipses_lines]
  exact sum_ellipses_cut e.lines e.1.2

/-! ## Cells that fit -/

theorem splitWhere_congr {p q : Char → Bool} {s : List Char} (h : ∀ c ∈ s, p c = q c) :
    splitWhere p s = splitWhere q s := by
  induction s with
  | nil => rfl
  | cons c rest ih =>
    obtain ⟨hc, hrest⟩ := List.forall_mem_cons.1 h
    rw [splitWhere, splitWhere, hc, ih hrest]

/-- All lines of a text fit when the column is as wide as the widest of them was measured, if the
text has no tab and no other ends of lines than line feeds. -/
theorem Cell.overlong_eq_nil {e : Cell}
    (h : ∀ c ∈ e.2, c ≠ '\t' ∧ (isLineBreak c → c = '\n')) (hwidth : widest e.2 ≤ e.1.2) :
    e.overlong = [] := by
  have hsplit : splitWhere isLineBreak e.2 = splitWhere (· = '\n') e.2 := by
    refine splitWhere_congr fun c hc => Bool.eq_iff_iff.2 ⟨fun hb => ?_, fun hb => ?_⟩
    · exact decide_eq_true ((h c hc).2 hb)
    · rw [of_decide_eq_true hb]
      decide
  rw [widest, hsplit] at hwidth
  obtain ⟨-, hmax⟩ := le_foldl_max 0 ((splitWhere (· = '\n') e.2).map cells)
  rw [List.forall_mem_map] at hmax
  rw [overlong, List.filter_eq_nil_iff, lines, List.forall_mem_map]
  intro line hline
  have htabs : expandTabs line = line :=
    expandTabs_of_notMem fun ht => (h _ (mem_of_mem_splitWhere hline ht)).1 rfl
  have hfits : cells line ≤ e.1.2 := (hmax line hline).trans hwidth
  have hend := cells_dropEndWhile_le isBlank line
  rw [decide_eq_true_eq, Nat.not_lt]
  cases e.1.1.side with
  | left => rwa [htabs]
  | right =>
    rw [htabs]
    exact hend.trans hfits

variable {columns : List Column} {rows : List (List String)}

/-- A column is as wide as the measured lines of its texts. -/
theorem widest_le_of_mem_bodyRows :
    ∀ cells ∈ bodyRows columns rows, ∀ e ∈ cells, widest e.2 ≤ e.1.2 := by
  intro _ hcells e he
  obtain ⟨row, hrow, rfl⟩ := List.mem_map.1 hcells
  obtain ⟨i, hi, rfl⟩ := List.mem_iff_getElem.1 he
  rw [List.length_zip, List.length_zip, length_widths] at hi
  have hcolumn : i < columns.length := by omega
  have hs : i < row.length := by omega
  obtain ⟨-, hmax⟩ := le_foldl_max (cells columns[i].title.toList)
    ((rows.map fun row => row.map fun s => dropSteering s.toList).map
      fun row => widest ((row[i]?).getD []))
  have hle := hmax _ (List.mem_map_of_mem hrow)
  rw [List.getElem?_eq_getElem hs, Option.getD_some] at hle
  simpa only [List.getElem_zip, widths, List.getElem_map, List.getElem_zipIdx, Nat.zero_add]
    using hle

/-! ## Rows -/

/-- The lines of a row, each with what is drawn at the places of its cells. -/
theorem drawRow_eq {columns : List (Column × Nat)} {row : List (List Char)}
    (hlength : row.length = columns.length) :
    drawRow columns row =
      (List.range (rowHeight (columns.zip row))).map (rowAt (columns.zip row)) := by
  have hcolumns : columns.map Prod.snd = (columns.zip row).map fun e => e.1.2 := by
    conv => lhs; rw [← List.map_fst_zip hlength.ge, List.map_map]
    rfl
  have hheight : (((columns.zip row).map fun e => cellLines e.1.1.side e.1.2 e.2).map
      List.length) = (columns.zip row).map fun e : Cell => e.lines.length := by
    rw [List.map_map]
    refine List.map_congr_left fun e _ => ?_
    rw [Function.comp_apply, cellLines_eq, List.length_map]
  unfold drawRow rowLines rowHeight
  dsimp only
  rw [hheight, hcolumns, List.zip_map']
  refine List.map_congr_left fun i _ => ?_
  rw [rowAt, barred, List.map_map, List.map_map]
  rfl

theorem isLineAt_rowAt (row : List Cell) (i : Nat) :
    IsLineAt row i (String.ofList (rowAt row i)) := by
  refine ⟨_, ?_, rfl⟩
  rw [List.forall₂_map_right_iff, List.forall₂_same]
  exact fun e _ => e.accounts_piece i

theorem sum_map_comm {α β : Type} (f : α → β → Nat) (as : List α) (bs : List β) :
    (bs.map fun b => (as.map fun a => f a b).sum).sum =
      (as.map fun a => (bs.map fun b => f a b).sum).sum := by
  induction as with
  | nil => simp
  | cons a rest ih => simp only [List.map_cons, List.sum_cons, List.sum_map_add, ih]

/-- The ellipses in a line of a row are those at the places of its cells. -/
theorem ellipses_rowAt (row : List Cell) (i : Nat) :
    ellipses (rowAt row i) = (row.map fun e => ellipses (e.piece i)).sum := by
  have hbar : ellipses ['|'] = 0 := rfl
  have hblank : ellipses [' '] = 0 := rfl
  have hpieces : ((row.map fun e => e.piece i).map fun p => ' ' :: p ++ [' ']).map ellipses =
      row.map fun e => ellipses (e.piece i) := by
    rw [List.map_map, List.map_map]
    refine List.map_congr_left fun e _ => ?_
    rw [Function.comp_apply, Function.comp_apply, ellipses_append, ellipses_cons, hblank,
      Nat.zero_add, Nat.add_zero]
  rw [rowAt, barred, ellipses_append, ellipses_cons, hbar, ellipses_intercalate hbar, hpieces,
    Nat.zero_add, Nat.add_zero]

theorem sum_ellipses_drawRow {columns : List (Column × Nat)} {row : List (List Char)}
    (hlength : row.length = columns.length) :
    ((drawRow columns row).map ellipses).sum =
      ((columns.zip row).map Cell.drawnEllipses).sum := by
  rw [drawRow_eq hlength, List.map_map]
  simp only [Function.comp_def, ellipses_rowAt]
  rw [sum_map_comm]
  congr 1
  refine List.map_congr_left fun e he => Cell.sum_ellipses_piece ?_
  exact (le_foldl_max 0 _).2 _ (List.mem_map_of_mem he)

/-! ## The table -/

theorem ellipses_hyphens {between : Char} (h : ellipses [between] = 0) (ws : List Nat) :
    ellipses (hyphens ws between) = 0 := by
  rw [hyphens, ellipses_intercalate h, List.map_map, List.sum_eq_zero_iff_forall_eq_nat,
    List.forall_mem_map]
  exact fun w _ => ellipses_eq_zero_iff.2 fun hmem =>
    absurd (List.eq_of_mem_replicate hmem) (by decide)

/-- The titles of a table are drawn as they are. -/
theorem sum_ellipses_titles (htitles : ∀ c ∈ columns, Flat c.title.toList ∧ '…' ∉ c.title.toList)
    (rows : List (List (List Char))) :
    ((drawRow (columns.zip (widths columns rows)) (columns.map fun c => c.title.toList)).map
      ellipses).sum = 0 := by
  rw [sum_ellipses_drawRow (by simp [length_widths]), List.sum_eq_zero_iff_forall_eq_nat,
    List.forall_mem_map]
  intro e he
  obtain ⟨c, hc, htitle⟩ := List.mem_map.1 (List.of_mem_zip he).2
  obtain ⟨hflat, hnone⟩ := htitles c hc
  rw [htitle] at hflat hnone
  have hfits : e.overlong = [] := by
    refine Cell.overlong_eq_nil (fun ch hch => ⟨(hflat ch hch).2.1, fun hb => ?_⟩) ?_
    · rw [(hflat ch hch).1] at hb
      cases hb
    · rw [widest_of_flat hflat]
      exact cells_title_le rows e he
  rw [Cell.drawnEllipses_of_fits hfits, ellipses_eq_zero_iff.2 hnone]

theorem sum_map_flatMap {α β : Type} (f : β → Nat) (g : α → List β) (as : List α) :
    ((as.flatMap g).map f).sum = (as.map fun a => ((g a).map f).sum).sum := by
  rw [List.map_flatMap, List.flatMap_def, List.sum_flatten, List.map_map]
  rfl

theorem ellipses_rule (edge between : Char) (hedge : ellipses [edge] = 0)
    (hbetween : ellipses [between] = 0) (ws : List Nat) :
    ellipses (edge :: hyphens ws between ++ [edge]) = 0 := by
  rw [ellipses_append, ellipses_cons, ellipses_hyphens hbetween, hedge]

theorem length_texts (hlength : ∀ row ∈ rows, row.length = columns.length) :
    let texts := rows.map fun row => row.map fun s => dropSteering s.toList
    ∀ row ∈ texts, row.length = (columns.zip (widths columns texts)).length := by
  intro texts
  refine List.forall_mem_map.2 fun row hrow => ?_
  rw [List.length_map, hlength row hrow, List.length_zip, length_widths, Nat.min_self]

/-- Below its titles a table has the lines of its rows. -/
theorem flatMap_drawRow (hlength : ∀ row ∈ rows, row.length = columns.length) :
    let texts := rows.map fun row => row.map fun s => dropSteering s.toList
    texts.flatMap (drawRow (columns.zip (widths columns texts))) =
      (bodyRows columns rows).flatMap fun row => (List.range (rowHeight row)).map (rowAt row) := by
  intro texts
  rw [bodyRows, List.flatMap_map (l := texts)]
  exact List.flatMap_congr fun row hrow => drawRow_eq (length_texts hlength row hrow)

/-- A line of a table with an ellipsis is a line of one of its rows. -/
theorem exists_of_mem_draw (htitles : ∀ c ∈ columns, Flat c.title.toList ∧ '…' ∉ c.title.toList)
    (hlength : ∀ row ∈ rows, row.length = columns.length) {line : String}
    (hline : line ∈ draw columns rows) (hellipsis : '…' ∈ line.toList) :
    ∃ row ∈ bodyRows columns rows, ∃ i < rowHeight row, IsLineAt row i line := by
  have hsome : ellipses line.toList ≠ 0 := fun h => ellipses_eq_zero_iff.1 h hellipsis
  rw [draw, flatMap_drawRow hlength] at hline
  obtain ⟨s, hs, rfl⟩ := List.mem_map.1 hline
  rw [String.toList_ofList] at hsome
  simp only [List.mem_append, List.mem_singleton] at hs
  obtain (((rfl | hheader) | rfl) | hbody) | rfl := hs
  · exact absurd (ellipses_rule _ _ rfl rfl _) hsome
  · refine absurd ?_ hsome
    exact List.sum_eq_zero_iff_forall_eq_nat.1 (sum_ellipses_titles htitles _) _
      (List.mem_map_of_mem hheader)
  · exact absurd (ellipses_rule _ _ rfl rfl _) hsome
  · obtain ⟨row, hrow, hs⟩ := List.mem_flatMap.1 hbody
    obtain ⟨i, hi, rfl⟩ := List.mem_map.1 hs
    exact ⟨row, hrow, i, List.mem_range.1 hi, isLineAt_rowAt row i⟩
  · exact absurd (ellipses_rule _ _ rfl rfl _) hsome

/-- A table has all lines of its rows. -/
theorem exists_mem_draw (hlength : ∀ row ∈ rows, row.length = columns.length) {row : List Cell}
    (hrow : row ∈ bodyRows columns rows) {i : Nat} (hi : i < rowHeight row) :
    ∃ line ∈ draw columns rows, IsLineAt row i line := by
  rw [draw, flatMap_drawRow hlength]
  refine ⟨_, List.mem_map_of_mem ?_, isLineAt_rowAt row i⟩
  refine List.mem_append_left _ (List.mem_append_right _ ?_)
  exact List.mem_flatMap.2 ⟨row, hrow, List.mem_map_of_mem (List.mem_range.2 hi)⟩

/-- The ellipses of a table are those in its cells. -/
theorem sum_ellipses_draw (htitles : ∀ c ∈ columns, Flat c.title.toList ∧ '…' ∉ c.title.toList)
    (hlength : ∀ row ∈ rows, row.length = columns.length) :
    ((draw columns rows).map fun line => ellipses line.toList).sum =
      ((bodyRows columns rows).flatten.map Cell.drawnEllipses).sum := by
  unfold bodyRows
  rw [← List.flatMap_def, draw]
  simp only [List.map_append, List.map_map, Function.comp_def, String.toList_ofList,
    List.sum_append, List.map_singleton, List.sum_singleton,
    ellipses_rule '+' '-' rfl rfl, ellipses_rule '|' '+' rfl rfl,
    sum_ellipses_titles htitles, Nat.zero_add, Nat.add_zero]
  rw [sum_map_flatMap, sum_map_flatMap]
  congr 1
  refine List.map_congr_left fun row hrow => sum_ellipses_drawRow (length_texts hlength row hrow)

/-- The cells have the ellipses of the texts. -/
theorem sum_ellipses_bodyRows (hlength : ∀ row ∈ rows, row.length = columns.length) :
    ((bodyRows columns rows).flatten.map fun e => ellipses e.2).sum =
      (rows.map fun row => (row.map fun s => ellipses s.toList).sum).sum := by
  unfold bodyRows
  rw [← List.flatMap_def, sum_map_flatMap, List.map_map]
  congr 1
  refine List.map_congr_left fun row hrow => ?_
  have hsnd : (((columns.zip (widths columns (rows.map fun row => row.map fun s =>
      dropSteering s.toList))).zip (row.map fun s => dropSteering s.toList)).map Prod.snd) =
        row.map fun s => dropSteering s.toList :=
    List.map_snd_zip (by simp [length_widths, hlength row hrow])
  have hcells := congrArg (fun texts => (texts.map ellipses).sum) hsnd
  simp only [List.map_map, Function.comp_def, ellipses_dropSteering] at hcells
  exact hcells

end Table

end CodeMetrics

import CodeMetrics.Proofs.Table.Plain
import CodeMetrics.Proofs.Text.Glyphs
import Mathlib.Algebra.Order.BigOperators.Group.List
import Mathlib.Algebra.Order.Group.Nat

/-!
# The layout of a table

A table of tame texts has one line for each row, and all of its lines take the same cells, also when
a text is cut (`cells_of_mem_draw`).  Whoever reads the table finds the widths of its columns in the
line under the titles and then the cells at their places.  The texts are read back as they were
exactly when all of them fit into their columns (`read_draw_iff`).
-/

namespace CodeMetrics

namespace Table

/-! ## Tame texts -/

/-- The text has no white space at its ends. -/
def Trimmed (s : List Char) : Prop := s.dropWhile isBlank = s ∧ dropEndWhile isBlank s = s

instance (s : List Char) : Decidable (Trimmed s) := inferInstanceAs (Decidable (_ ∧ _))

/-- The text stays on its line when it is drawn: it has no line feed, no tab, no steering character
and no character that acts on its neighbours, and no white space at its ends. -/
structure Tame (s : List Char) : Prop where
  single : ∀ c ∈ s, c ≠ '\n' ∧ c ≠ '\t'
  steering : ∀ c ∈ s, isSteering c = false
  steady : Steady s
  trimmed : Trimmed s

instance (s : List Char) : Decidable (Tame s) :=
  have : Decidable (∀ c ∈ s, c ≠ '\n' ∧ c ≠ '\t') := List.decidableBAll _ s
  have : Decidable (∀ c ∈ s, isSteering c = false) := List.decidableBAll _ s
  decidable_of_iff ((∀ c ∈ s, c ≠ '\n' ∧ c ≠ '\t') ∧ (∀ c ∈ s, isSteering c = false) ∧ Steady s ∧
    Trimmed s) ⟨fun ⟨h₁, h₂, h₃, h₄⟩ => ⟨h₁, h₂, h₃, h₄⟩, fun ⟨h₁, h₂, h₃, h₄⟩ => ⟨h₁, h₂, h₃, h₄⟩⟩

variable {s : List Char}

/-- A tame text without other ends of lines is flat. -/
theorem Tame.flat (h : Tame s) (hbreaks : ∀ c ∈ s, isLineBreak c = false) : Flat s :=
  fun c hc => ⟨hbreaks c hc, (h.single c hc).2, h.steering c hc⟩

/-! ## Trimming -/

theorem dropWhile_blanks (n : Nat) : (List.replicate n ' ').dropWhile isBlank = [] := by
  have hblank : isBlank ' ' := by decide +kernel
  exact List.dropWhile_eq_nil_iff.2 fun c hc => List.eq_of_mem_replicate hc ▸ hblank

theorem dropWhile_blanks_append (n : Nat) (s : List Char) :
    (List.replicate n ' ' ++ s).dropWhile isBlank = s.dropWhile isBlank := by
  rw [List.dropWhile_append, dropWhile_blanks]
  rfl

theorem dropEndWhile_append_blanks (s : List Char) (n : Nat) :
    dropEndWhile isBlank (s ++ List.replicate n ' ') = dropEndWhile isBlank s := by
  rw [dropEndWhile, List.reverse_append, List.reverse_replicate, dropWhile_blanks_append,
    dropEndWhile]

/-- Trimming takes the blanks away that fill a column. -/
theorem trimWhile_fill (h : Trimmed s) (side : Side) (width : Nat) :
    trimWhile isBlank (fill side width s) = s := by
  obtain ⟨hfront, hend⟩ := h
  cases side with
  | left =>
    rw [fill, trimEnd_eq_self (.inl hend), padRight, trimWhile, List.dropWhile_append, hfront,
      dropWhile_blanks]
    split
    · next hempty =>
      rw [List.isEmpty_iff.1 hempty]
      rfl
    · rw [dropEndWhile_append_blanks, hend]
  | right => rw [fill, hend, padLeft, trimWhile, dropWhile_blanks_append, hfront, hend]

theorem trimWhile_sublist (p : Char → Bool) (s : List Char) : (trimWhile p s).Sublist s :=
  (List.rdropWhile_prefix p _).sublist.trans (List.dropWhile_sublist p)

theorem cells_trimWhile_le (hs : Steady s) (p : Char → Bool) : cells (trimWhile p s) ≤ cells s := by
  have hsublist := trimWhile_sublist p s
  rw [cells_of_steady hs, cells_of_steady (hs.sublist hsublist)]
  exact (hsublist.map charWidth).sum_le_sum fun _ _ => Nat.zero_le _

/-! ## A cell in its place -/

theorem steady_blanks (n : Nat) : Steady (List.replicate n ' ') :=
  fun c hc => List.eq_of_mem_replicate hc ▸ by decide

theorem cells_blanks (n : Nat) : cells (List.replicate n ' ') = n := by
  have hblank : charWidth ' ' = 1 := rfl
  rw [cells_of_steady (steady_blanks n), List.map_replicate, hblank, List.sum_replicate]
  simp

theorem steady_placeLine (hs : Steady s) (side : Side) (width : Nat) :
    Steady (placeLine side width s) := by
  cases side with
  | left => exact steady_append_iff.2 ⟨hs.cut width, steady_blanks _⟩
  | right =>
    have hend : Steady (dropEndWhile isBlank s) :=
      hs.sublist (List.rdropWhile_prefix isBlank s).sublist
    exact steady_append_iff.2 ⟨steady_blanks _, hend.cut width⟩

/-- A cell fills its column, whether it is cut or not. -/
theorem cells_placeLine (hs : Steady s) (side : Side) {width : Nat} (hwidth : 0 < width) :
    cells (placeLine side width s) = width := by
  cases side with
  | left =>
    have hle := cells_cut_le hs hwidth
    rw [placeLine, padRight, cells_append_of_steady (hs.cut width) (steady_blanks _), cells_blanks]
    omega
  | right =>
    have hend : Steady (dropEndWhile isBlank s) :=
      hs.sublist (List.rdropWhile_prefix isBlank s).sublist
    have hle := cells_cut_le hend hwidth
    rw [placeLine, padLeft, cells_append_of_steady (steady_blanks _) (hend.cut width), cells_blanks]
    omega

/-- Only a text that fits can be found in its cell. -/
theorem trimWhile_placeLine_eq_iff (hs : Steady s) (htrim : Trimmed s) (side : Side) {width : Nat}
    (hwidth : 0 < width) : trimWhile isBlank (placeLine side width s) = s ↔ cells s ≤ width := by
  constructor
  · intro h
    have hle := cells_trimWhile_le (steady_placeLine hs side width) isBlank
    rwa [h, cells_placeLine hs side hwidth] at hle
  · intro h
    rw [placeLine_of_le h fun _ => .inl htrim.2, trimWhile_fill htrim]

/-! ## Reading -/

/-- The front of a line that takes `room` cells, with the marks behind it, and what follows. -/
def spanCells (room : Nat) : List Char → List Char × List Char
  | [] => ([], [])
  | c :: rest =>
    if charWidth c ≤ room then
      let (front, after) := spanCells (room - charWidth c) rest
      (c :: front, after)
    else ([], c :: rest)

/-- The texts between the bars of a line, in columns of the given widths. -/
def readRow : List Nat → List Char → List (List Char)
  | [], _ => []
  | width :: widths, line =>
    let (cell, after) := spanCells width (line.drop 2)
    trimWhile isBlank cell :: readRow widths (after.drop 1)

/-- The widths of the columns, from the line under the titles. -/
def readWidths (separator : List Char) : List Nat :=
  (separator.tail.dropLast.splitOn '+').map fun stretch => stretch.length - 2

/-- The titles and the texts in the rows of a table that was drawn. -/
def read : List String → List (List (List Char))
  | _ :: titles :: separator :: rest =>
    (titles :: rest.dropLast).map fun line => readRow (readWidths separator.toList) line.toList
  | _ => []

theorem readWidths_separator {ws : List Nat} (h : ws ≠ []) :
    readWidths ('|' :: hyphens ws '+' ++ ['|']) = ws := by
  have hstretch : ∀ stretch ∈ ws.map fun w => List.replicate (w + 2) '-', '+' ∉ stretch := by
    rw [List.forall_mem_map]
    exact fun w _ hmem => absurd (List.eq_of_mem_replicate hmem) (by decide)
  have hsplit : (hyphens ws '+').splitOn '+' = ws.map fun w => List.replicate (w + 2) '-' :=
    List.splitOn_intercalate '+' hstretch (by simpa using h)
  rw [readWidths, List.cons_append, List.tail_cons, List.dropLast_concat, hsplit, List.map_map]
  conv => rhs; rw [← List.map_id ws]
  refine List.map_congr_left fun w _ => ?_
  simp

/-- A blank ends the cells that a text takes. -/
theorem spanCells_append (s rest : List Char) :
    spanCells (s.map charWidth).sum (s ++ ' ' :: rest) = (s, ' ' :: rest) := by
  induction s with
  | nil => rfl
  | cons c s ih =>
    rw [List.map_cons, List.sum_cons, List.cons_append, spanCells, if_pos (Nat.le_add_right ..),
      Nat.add_sub_cancel_left, ih]

/-- A row on one line, as a sequence of its cells. -/
theorem barred_eq {pieces : List (List Char)} (h : pieces ≠ []) :
    ['|', ' '] ++ [' ', '|', ' '].intercalate pieces ++ [' ', '|'] =
      (pieces.flatMap fun p => ['|', ' '] ++ p ++ [' ']) ++ ['|'] := by
  induction pieces with
  | nil => exact absurd rfl h
  | cons p rest ih =>
    cases rest with
    | nil => simp
    | cons q others =>
      have hothers := ih (by simp)
      rw [List.intercalate_cons_cons, List.flatMap_cons, List.append_assoc _ _ ['|'], ← hothers]
      simp

/-- Cells that fill their columns are found at their places. -/
theorem readRow_flatMap {pieces : List (List Char)} (hsteady : ∀ p ∈ pieces, Steady p) :
    readRow (pieces.map cells) ((pieces.flatMap fun p => ['|', ' '] ++ p ++ [' ']) ++ ['|']) =
      pieces.map (trimWhile isBlank) := by
  induction pieces with
  | nil => rfl
  | cons p rest ih =>
    obtain ⟨hp, hrest⟩ := List.forall_mem_cons.1 hsteady
    have hspan := spanCells_append p
      ((rest.flatMap fun p => ['|', ' '] ++ p ++ [' ']) ++ ['|'])
    rw [← cells_of_steady hp] at hspan
    have hline : ((p :: rest).flatMap fun p => ['|', ' '] ++ p ++ [' ']) ++ ['|'] =
        '|' :: ' ' :: (p ++ ' ' :: ((rest.flatMap fun p => ['|', ' '] ++ p ++ [' ']) ++ ['|'])) := by
      simp
    rw [hline, List.map_cons, readRow, List.drop_succ_cons, List.drop_succ_cons, List.drop_zero,
      hspan, List.map_cons]
    dsimp only
    rw [List.drop_succ_cons, List.drop_zero, ih hrest]

/-! ## The lines of a table -/

theorem hyphens_cons_cons (w v : Nat) (ws : List Nat) (between : Char) :
    hyphens (w :: v :: ws) between =
      List.replicate (w + 2) '-' ++ between :: hyphens (v :: ws) between := by
  rw [hyphens, List.map_cons, List.map_cons, List.intercalate_cons_cons, List.append_assoc]
  rfl

theorem sum_stretch (w : Nat) : ((List.replicate (w + 2) '-').map charWidth).sum = w + 2 := by
  have hhyphen : charWidth '-' = 1 := rfl
  rw [List.map_replicate, hhyphen, List.sum_replicate_nat, Nat.mul_one]

theorem sum_hyphens {between : Char} (h : charWidth between = 1) {ws : List Nat} (hne : ws ≠ []) :
    ((hyphens ws between).map charWidth).sum + 1 = ws.sum + 3 * ws.length := by
  induction ws with
  | nil => exact absurd rfl hne
  | cons w rest ih =>
    cases rest with
    | nil =>
      rw [hyphens, List.map_singleton, List.intercalate_singleton, sum_stretch]
      simp
    | cons v others =>
      have hothers := ih (by simp)
      rw [hyphens_cons_cons, List.map_append, List.sum_append, sum_stretch, List.map_cons,
        List.sum_cons, h, List.sum_cons (a := w), List.length_cons (a := w)]
      omega

/-- A line of hyphens takes as many cells as the columns with their bars and blanks. -/
theorem cells_rule {corner between : Char} (hcorner : Steady [corner] ∧ charWidth corner = 1)
    (hbetween : Steady [between] ∧ charWidth between = 1) {ws : List Nat} (hne : ws ≠ []) :
    cells (corner :: hyphens ws between ++ [corner]) = ws.sum + 3 * ws.length + 1 := by
  have hhyphens : Steady (hyphens ws between) := by
    intro c hc
    obtain hc | ⟨stretch, hstretch, hc⟩ := mem_intercalate hc
    · exact hbetween.1 c hc
    · obtain ⟨w, -, rfl⟩ := List.mem_map.1 hstretch
      rw [List.eq_of_mem_replicate hc]
      decide
  have hline : Steady ([corner] ++ hyphens ws between ++ [corner]) :=
    steady_append_iff.2 ⟨steady_append_iff.2 ⟨hcorner.1, hhyphens⟩, hcorner.1⟩
  have hsum := sum_hyphens hbetween.2 hne
  rw [← List.singleton_append, cells_of_steady hline, List.map_append, List.map_append,
    List.sum_append, List.sum_append, List.map_singleton, List.sum_singleton, hcorner.2]
  omega

/-- So does a row of cells that fill the columns. -/
theorem cells_flatMap {pieces : List (List Char)} (hsteady : ∀ p ∈ pieces, Steady p) :
    cells ((pieces.flatMap fun p => ['|', ' '] ++ p ++ [' ']) ++ ['|']) =
      (pieces.map cells).sum + 3 * pieces.length + 1 := by
  have hfront : Steady ['|', ' '] := by decide
  have hback : Steady [' '] := by decide
  have hbar : Steady ['|'] := by decide
  induction pieces with
  | nil => rfl
  | cons p rest ih =>
    obtain ⟨hp, hrest⟩ := List.forall_mem_cons.1 hsteady
    have hrow : Steady ((rest.flatMap fun p => ['|', ' '] ++ p ++ [' ']) ++ ['|']) := by
      refine steady_append_iff.2 ⟨fun c hc => ?_, hbar⟩
      obtain ⟨q, hq, hc⟩ := List.mem_flatMap.1 hc
      exact steady_append_iff.2 ⟨steady_append_iff.2 ⟨hfront, hrest q hq⟩, hback⟩ c hc
    have hcell : Steady (['|', ' '] ++ p) := steady_append_iff.2 ⟨hfront, hp⟩
    rw [List.flatMap_cons, List.append_assoc, cells_append_of_steady
      (steady_append_iff.2 ⟨hcell, hback⟩) hrow, ih hrest, cells_append_of_steady hcell hback,
      cells_append_of_steady hfront hp, List.map_cons, List.sum_cons, List.length_cons]
    have hfour : cells ['|', ' '] = 2 ∧ cells [' '] = 1 := by decide
    omega

variable {columns : List Column} {rows : List (List (List Char))} {row : List (List Char)}

/-! ## Drawing and reading -/

theorem length_widths (columns : List Column) (rows : List (List (List Char))) :
    (widths columns rows).length = columns.length := by
  rw [widths, List.length_map, List.length_zipIdx]

theorem widths_ne_nil (h : columns ≠ []) (rows : List (List (List Char))) :
    widths columns rows ≠ [] := by
  rw [← List.length_pos_iff, length_widths]
  exact List.length_pos_iff.2 h

theorem widths_pos (h : ∀ c ∈ columns, 0 < cells c.title.toList) :
    ∀ w ∈ widths columns rows, 0 < w := by
  intro w hw
  obtain ⟨⟨column, i⟩, hmem, rfl⟩ := List.mem_map.1 hw
  obtain ⟨htitle, -⟩ := le_foldl_max (cells column.title.toList)
    (rows.map fun row => widest ((row[i]?).getD []))
  have hcolumn := h column (List.fst_mem_of_mem_zipIdx hmem)
  dsimp only
  omega

/-- Every title fits into its column. -/
theorem cells_title_le (rows : List (List (List Char))) :
    ∀ e ∈ (columns.zip (widths columns rows)).zip (columns.map fun c => c.title.toList),
      cells e.2 ≤ e.1.2 := by
  intro e he
  obtain ⟨i, hi, rfl⟩ := List.mem_iff_getElem.1 he
  rw [List.length_zip, List.length_zip, length_widths, List.length_map] at hi
  have hcolumn : i < columns.length := by omega
  obtain ⟨htitle, -⟩ := le_foldl_max (cells columns[i].title.toList)
    (rows.map fun row => widest ((row[i]?).getD []))
  simpa only [List.getElem_zip, widths, List.getElem_map, List.getElem_zipIdx, Nat.zero_add] using
    htitle

/-- The cells of a row, each cut or filled to the width of its column. -/
def placed (columns : List (Column × Nat)) (row : List (List Char)) : List (List Char) :=
  (columns.zip row).map fun ((column, width), s) => placeLine column.side width s

/-- A row on one line: its cells between bars. -/
def placedLine (columns : List (Column × Nat)) (row : List (List Char)) : List Char :=
  ['|', ' '] ++ [' ', '|', ' '].intercalate (placed columns row) ++ [' ', '|']

/-- A text in full, with blanks up to the width of its column. -/
def pad (side : Side) (width : Nat) (s : List Char) : List Char :=
  match side with
  | .left => padRight s width
  | .right => padLeft s width

theorem placeLine_eq_pad {width : Nat} (htrim : Trimmed s) (h : cells s ≤ width) (side : Side) :
    placeLine side width s = pad side width s := by
  rw [placeLine_of_le h fun _ => .inl htrim.2]
  cases side with
  | left => rw [fill, trimEnd_eq_self (.inl htrim.2), pad]
  | right => rw [fill, htrim.2, pad]

/-- A row on one line, with all of its texts in full. -/
def fullLine (columns : List (Column × Nat)) (row : List (List Char)) : List Char :=
  ['|', ' '] ++ [' ', '|', ' '].intercalate
    ((columns.zip row).map fun ((column, width), s) => pad column.side width s) ++ [' ', '|']

theorem placedLine_eq_fullLine {columns : List (Column × Nat)} (htame : ∀ s ∈ row, Tame s)
    (hfits : ∀ e ∈ columns.zip row, cells e.2 ≤ e.1.2) :
    placedLine columns row = fullLine columns row := by
  have hcells : placed columns row =
      (columns.zip row).map fun ((column, width), s) => pad column.side width s := by
    refine List.map_congr_left fun e he => ?_
    exact placeLine_eq_pad (htame e.2 (List.of_mem_zip he).2).trimmed (hfits e he) e.1.1.side
  rw [placedLine, fullLine, hcells]

theorem steady_placed {columns : List (Column × Nat)} (htame : ∀ s ∈ row, Tame s) :
    ∀ p ∈ placed columns row, Steady p := by
  unfold placed
  rw [List.forall_mem_map]
  exact fun e he => steady_placeLine (htame e.2 (List.of_mem_zip he).2).steady e.1.1.side e.1.2

section

variable {ws : List Nat} (hne : columns ≠ []) (hws : ws.length = columns.length)
  (hpos : ∀ w ∈ ws, 0 < w) (hlength : row.length = columns.length) (htame : ∀ s ∈ row, Tame s)

include hws hlength in
theorem length_placed : (placed (columns.zip ws) row).length = columns.length := by
  rw [placed, List.length_map, List.length_zip, List.length_zip, hws, hlength, Nat.min_self,
    Nat.min_self]

include hws hpos hlength htame in
theorem map_cells_placed : (placed (columns.zip ws) row).map cells = ws := by
  have hcells : (placed (columns.zip ws) row).map cells =
      (((columns.zip ws).zip row).map Prod.fst).map Prod.snd := by
    rw [placed, List.map_map, List.map_map]
    refine List.map_congr_left fun e he => ?_
    obtain ⟨hcolumn, hs⟩ := List.of_mem_zip he
    exact cells_placeLine (htame e.2 hs).steady e.1.1.side (hpos _ (List.of_mem_zip hcolumn).2)
  rw [hcells, List.map_fst_zip (by simp [hws, hlength]), List.map_snd_zip hws.le]

include hne hws hlength

theorem placed_ne_nil : placed (columns.zip ws) row ≠ [] := by
  rw [← List.length_pos_iff, length_placed hws hlength]
  exact List.length_pos_iff.2 hne

include htame

theorem drawRow_of_tame : drawRow (columns.zip ws) row = [placedLine (columns.zip ws) row] := by
  refine drawRow_of_lines ?_ ?_ fun e he => ?_
  · rw [← List.length_pos_iff, List.length_zip, hws, Nat.min_self]
    exact List.length_pos_iff.2 hne
  · rw [hlength, List.length_zip, hws, Nat.min_self]
  · exact cellLines_of_single (htame e.2 (List.of_mem_zip he).2).single e.1.1.side e.1.2

include hpos

theorem cells_placedLine :
    cells (placedLine (columns.zip ws) row) = ws.sum + 3 * ws.length + 1 := by
  rw [placedLine, barred_eq (placed_ne_nil hne hws hlength), cells_flatMap (steady_placed htame),
    map_cells_placed hws hpos hlength htame, length_placed hws hlength, hws]

/-- A row is read back as it was exactly when each of its texts fits. -/
theorem readRow_placedLine_eq_iff :
    readRow ws (placedLine (columns.zip ws) row) = row ↔
      ∀ e ∈ (columns.zip ws).zip row, cells e.2 ≤ e.1.2 := by
  have hread := readRow_flatMap (@steady_placed row (columns.zip ws) htame)
  rw [map_cells_placed hws hpos hlength htame,
    ← barred_eq (placed_ne_nil hne hws hlength)] at hread
  have hrow : row = ((columns.zip ws).zip row).map Prod.snd :=
    (List.map_snd_zip (by simp [hws, hlength])).symm
  rw [placedLine, hread, placed, List.map_map]
  conv => lhs; rhs; rw [hrow]
  rw [List.map_inj_left]
  refine forall₂_congr fun e he => ?_
  obtain ⟨hcolumn, hs⟩ := List.of_mem_zip he
  exact trimWhile_placeLine_eq_iff (htame e.2 hs).steady (htame e.2 hs).trimmed e.1.1.side
    (hpos _ (List.of_mem_zip hcolumn).2)

end

theorem length_frame (ws : List Nat) (titles : List Char) (lines : List (List Char)) :
    (frame ws titles lines).length = lines.length + 4 := by
  simp [frame]

theorem read_frame {ws : List Nat} (h : ws ≠ []) (titles : List Char) (lines : List (List Char)) :
    read (frame ws titles lines) = (titles :: lines).map (readRow ws) := by
  have hframe : frame ws titles lines = String.ofList ('+' :: hyphens ws '-' ++ ['+']) ::
      String.ofList titles :: String.ofList ('|' :: hyphens ws '+' ++ ['|']) ::
        (lines.map String.ofList ++ [String.ofList ('+' :: hyphens ws '-' ++ ['+'])]) := by
    simp [frame]
  rw [hframe, read, List.dropLast_concat, String.toList_ofList, readWidths_separator h,
    List.map_cons, List.map_cons, String.toList_ofList, List.map_map]
  simp [Function.comp_def]

section

variable {rows : List (List String)} {texts : List (List (List Char))} (hne : columns ≠ [])
  (htexts : (rows.map fun row => row.map String.toList) = texts)
  (htitles : ∀ c ∈ columns, Tame c.title.toList ∧ 0 < cells c.title.toList)
  (hlength : ∀ row ∈ texts, row.length = columns.length) (htame : ∀ row ∈ texts, ∀ s ∈ row, Tame s)

include hne htexts htitles hlength htame

/-- A table of tame texts has one line for each row. -/
theorem draw_of_tame :
    let line := placedLine (columns.zip (widths columns texts))
    draw columns rows = frame (widths columns texts) (line (columns.map fun c => c.title.toList))
      (texts.map line) := by
  have hws := length_widths columns texts
  refine draw_eq_frame htexts ?_ ?_ fun row hrow => ?_
  · intro row hrow s hs
    have hmem : row.map String.toList ∈ texts := htexts ▸ List.mem_map_of_mem hrow
    exact (htame _ hmem _ (List.mem_map_of_mem hs)).steering
  · exact drawRow_of_tame hne hws (List.length_map ..)
      (List.forall_mem_map.2 fun c hc => (htitles c hc).1)
  · exact drawRow_of_tame hne hws (hlength row hrow) (htame row hrow)

/-- All lines of a table of tame texts take the same cells. -/
theorem cells_of_mem_draw :
    ∀ line ∈ draw columns rows, cells line.toList =
      (widths columns texts).sum + 3 * (widths columns texts).length + 1 := by
  have hws := length_widths columns texts
  have hpos : ∀ w ∈ widths columns texts, 0 < w := widths_pos fun c hc => (htitles c hc).2
  have hnil := widths_ne_nil hne texts
  rw [draw_of_tame hne htexts htitles hlength htame, frame]
  simp only [List.forall_mem_map, String.toList_ofList, List.forall_mem_append, List.forall_mem_cons]
  have hrule := @cells_rule '+' '-' (by decide) (by decide) _ hnil
  have hseparator := @cells_rule '|' '+' (by decide) (by decide) _ hnil
  refine ⟨⟨⟨hrule, ?_, hseparator, List.forall_mem_nil _⟩, fun row hrow => ?_⟩, hrule,
    List.forall_mem_nil _⟩
  · exact cells_placedLine hne hws hpos (List.length_map ..)
      (List.forall_mem_map.2 fun c hc => (htitles c hc).1)
  · exact cells_placedLine hne hws hpos (hlength row hrow) (htame row hrow)

/-- A table of tame texts is read back as it was exactly when all texts fit into their columns. -/
theorem read_draw_iff :
    read (draw columns rows) = (columns.map fun c => c.title.toList) :: texts ↔
      ∀ row ∈ texts, ∀ e ∈ (columns.zip (widths columns texts)).zip row, cells e.2 ≤ e.1.2 := by
  have hws := length_widths columns texts
  have hpos : ∀ w ∈ widths columns texts, 0 < w := widths_pos fun c hc => (htitles c hc).2
  have hnil := widths_ne_nil hne texts
  have hread := (readRow_placedLine_eq_iff hne hws hpos (List.length_map ..)
    (List.forall_mem_map.2 fun c hc => (htitles c hc).1)).2 (cells_title_le texts)
  rw [draw_of_tame hne htexts htitles hlength htame, read_frame hnil, List.map_cons, hread,
    List.map_map, List.cons.injEq, eq_self, true_and]
  conv => lhs; rhs; rw [← List.map_id texts]
  rw [List.map_inj_left]
  exact forall₂_congr fun row hrow =>
    readRow_placedLine_eq_iff hne hws hpos (hlength row hrow) (htame row hrow)

end

end Table

end CodeMetrics

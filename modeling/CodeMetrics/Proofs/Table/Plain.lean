import CodeMetrics.Proofs.Text.Lines
import CodeMetrics.Proofs.Text.Width
import CodeMetrics.Table.Plain

/-!
# Tables of flat texts

A text is flat when it has no line break, no tab and no steering character.  A table of flat texts
has one line for each row, in which every cell stands in full, with the blanks that fill its column
(`draw_of_flat`).  A cell at the right of its column is shown without white space at its end.  A cell
at the left is roomy: all of its white space has room, so that leaving out what has none changes
nothing.
-/

namespace CodeMetrics

namespace Table

/-! ## Flat texts -/

/-- The text has nothing that breaks a line, moves to a tab stop or steers the terminal. -/
def Flat (s : List Char) : Prop :=
  ∀ c ∈ s, isLineBreak c = false ∧ c ≠ '\t' ∧ isSteering c = false

instance (s : List Char) : Decidable (Flat s) := List.decidableBAll _ s

variable {s : List Char}

theorem Flat.newline_not_mem (h : Flat s) : '\n' ∉ s :=
  fun hmem => absurd (h '\n' hmem).1 (by decide)

theorem Flat.steering (h : Flat s) : ∀ c ∈ s, isSteering c = false := fun c hc => (h c hc).2.2

theorem dropSteering_of_flat (h : Flat s) : dropSteering s = s := dropSteering_eq_self h.steering

theorem expandTabs_of_flat (h : Flat s) : expandTabs s = s :=
  expandTabs_of_notMem fun hmem => (h '\t' hmem).2.1 rfl

/-- The text has no white space at its end, or it has no more characters than cells.  In a column that
is wide enough for the text, all of the white space has room then. -/
def Roomy (s : List Char) : Prop := dropEndWhile isBlank s = s ∨ s.length ≤ cells s

instance (s : List Char) : Decidable (Roomy s) := inferInstanceAs (Decidable (_ ∨ _))

theorem Roomy.trimEnd_eq (h : Roomy s) {width : Nat} (hwidth : cells s ≤ width) :
    Wrap.trimEnd width s = s :=
  trimEnd_eq_self (h.imp_right fun hlength => hlength.trans hwidth)

theorem widest_of_flat (h : Flat s) : widest s = cells s := by
  rw [widest, splitWhere_of_forall fun c hc => (h c hc).1]
  exact Nat.zero_max (cells s)

/-! ## The table -/

/-- A cell with the blanks that fill its column, without the white space at its end that has no room
at the left. -/
def fill (side : Side) (width : Nat) (s : List Char) : List Char :=
  match side with
  | .left => padRight (Wrap.trimEnd width s) width
  | .right => padLeft (dropEndWhile isBlank s) width

/-- A row on one line: its cells between bars, with a blank on each side. -/
def rowLine (columns : List (Column × Nat)) (row : List (List Char)) : List Char :=
  ['|', ' '] ++ [' ', '|', ' '].intercalate
    ((columns.zip row).map fun ((column, width), s) => fill column.side width s) ++ [' ', '|']

/-- The width of each column: that of its title or of its widest cell. -/
def flatWidths (columns : List Column) (rows : List (List (List Char))) : List Nat :=
  columns.zipIdx.map fun (column, i) =>
    (rows.map fun row => cells ((row[i]?).getD [])).foldl max (cells column.title.toList)

/-- A table with its titles and one line for each row. -/
def framed (columns : List Column) (rows : List (List String)) : List String :=
  let texts := rows.map fun row => row.map String.toList
  let ws := flatWidths columns texts
  let line (row : List (List Char)) : String := String.ofList (rowLine (columns.zip ws) row)
  let rule := String.ofList ('+' :: hyphens ws '-' ++ ['+'])
  [rule, line (columns.map fun c => c.title.toList),
      String.ofList ('|' :: hyphens ws '+' ++ ['|'])] ++ texts.map line ++ [rule]

/-- A table around the lines of its titles and its rows. -/
def frame (ws : List Nat) (titles : List Char) (lines : List (List Char)) : List String :=
  let rule := '+' :: hyphens ws '-' ++ ['+']
  ([rule, titles, '|' :: hyphens ws '+' ++ ['|']] ++ lines ++ [rule]).map String.ofList

theorem framed_eq_frame (columns : List Column) (rows : List (List String)) :
    let texts := rows.map fun row => row.map String.toList
    let line := rowLine (columns.zip (flatWidths columns texts))
    framed columns rows =
      frame (flatWidths columns texts) (line (columns.map fun c => c.title.toList))
        (texts.map line) := by
  simp [framed, frame]

/-! ## Widths -/

theorem le_foldl_max (init : Nat) (ns : List Nat) :
    init ≤ ns.foldl max init ∧ ∀ n ∈ ns, n ≤ ns.foldl max init := by
  induction ns generalizing init with
  | nil => exact ⟨Nat.le_refl init, List.forall_mem_nil _⟩
  | cons n rest ih =>
    obtain ⟨hinit, hrest⟩ := ih (max init n)
    rw [List.foldl_cons]
    refine ⟨by omega, List.forall_mem_cons.2 ⟨by omega, hrest⟩⟩

variable {columns : List Column} {rows : List (List (List Char))} {row : List (List Char)}

theorem widths_of_flat (h : ∀ row ∈ rows, ∀ s ∈ row, Flat s) :
    widths columns rows = flatWidths columns rows := by
  refine List.map_congr_left fun (column, i) _ => ?_
  have hcells : (rows.map fun row => widest ((row[i]?).getD [])) =
      rows.map fun row => cells ((row[i]?).getD []) := by
    refine List.map_congr_left fun row hrow => ?_
    cases hs : row[i]? with
    | none => rfl
    | some s => exact widest_of_flat (h row hrow s (List.mem_of_getElem? hs))
  simp only [hcells]

theorem length_flatWidths (columns : List Column) (rows : List (List (List Char))) :
    (flatWidths columns rows).length = columns.length := by
  rw [flatWidths, List.length_map, List.length_zipIdx]

/-- The titles and all rows fit into the columns. -/
theorem cells_le_flatWidths (hrow : row ∈ rows ∨ row = columns.map fun c => c.title.toList) :
    ∀ e ∈ (columns.zip (flatWidths columns rows)).zip row, cells e.2 ≤ e.1.2 := by
  intro e he
  obtain ⟨i, hi, rfl⟩ := List.mem_iff_getElem.1 he
  rw [List.length_zip, List.length_zip, length_flatWidths] at hi
  have hcolumn : i < columns.length := by omega
  have hs : i < row.length := by omega
  obtain ⟨htitle, hcells⟩ := le_foldl_max (cells columns[i].title.toList)
    (rows.map fun row => cells ((row[i]?).getD []))
  simp only [List.getElem_zip, flatWidths, List.getElem_map, List.getElem_zipIdx, Nat.zero_add]
  obtain hrow | rfl := hrow
  · refine hcells _ (List.mem_map.2 ⟨row, hrow, ?_⟩)
    rw [List.getElem?_eq_getElem hs, Option.getD_some]
  · simpa using htitle

/-! ## Rows -/

/-- A text without line feeds and tabs is drawn on one line. -/
theorem cellLines_of_single (h : ∀ c ∈ s, c ≠ '\n' ∧ c ≠ '\t') (side : Side) (width : Nat) :
    cellLines side width s = [placeLine side width s] := by
  have hlines : splitWhere (· = '\n') s = [s] :=
    splitWhere_of_forall fun c hc => decide_eq_false (h c hc).1
  rw [cellLines, hlines, List.map_singleton, expandTabs_of_notMem fun ht => (h '\t' ht).2 rfl]

theorem placeLine_of_le {width : Nat} {side : Side} (h : cells s ≤ width)
    (hroom : side = .left → Roomy s) : placeLine side width s = fill side width s := by
  cases side with
  | left => rw [placeLine, cut_of_le h, fill, (hroom rfl).trimEnd_eq h]
  | right =>
    have hend := cells_dropEndWhile_le isBlank s
    rw [placeLine, cut_of_le (hend.trans h), fill]

theorem Flat.single (h : Flat s) : ∀ c ∈ s, c ≠ '\n' ∧ c ≠ '\t' := by
  refine fun c hc => ⟨?_, (h c hc).2.1⟩
  rintro rfl
  exact h.newline_not_mem hc

theorem foldl_max_one (ns : List Nat) (h : ∀ n ∈ ns, n = 1) : ns.foldl max 1 = 1 := by
  induction ns with
  | nil => rfl
  | cons n rest ih =>
    obtain ⟨rfl, hrest⟩ := List.forall_mem_cons.1 h
    exact ih hrest

/-- A blank on each side of each piece is the same as blanks around the bars. -/
theorem intercalate_blanks {pieces : List (List Char)} (h : pieces ≠ []) :
    ['|'].intercalate (pieces.map fun p => ' ' :: p ++ [' ']) =
      ' ' :: [' ', '|', ' '].intercalate pieces ++ [' '] := by
  induction pieces with
  | nil => exact absurd rfl h
  | cons p rest ih =>
    cases rest with
    | nil => simp
    | cons q others =>
      have hothers := ih (by simp)
      rw [List.map_cons] at hothers
      rw [List.map_cons, List.map_cons, List.intercalate_cons_cons, hothers,
        List.intercalate_cons_cons]
      simp

/-- A row of cells of one line each has one line. -/
theorem map_singletons {widths : List Nat} {pieces : List (List Char)}
    (hlength : widths.length = pieces.length) :
    ((widths.zip (pieces.map fun p => [p])).map fun (width, lines) =>
      ' ' :: (lines[0]?).getD (List.replicate width ' ') ++ [' ']) =
        pieces.map fun p => ' ' :: p ++ [' '] := by
  rw [List.zip_map_right, List.map_map]
  have hsnd : (widths.zip pieces).map Prod.snd = pieces := List.map_snd_zip hlength.ge
  conv => rhs; rw [← hsnd]
  rw [List.map_map]
  rfl

theorem rowLines_singletons {widths : List Nat} {pieces : List (List Char)} (hne : pieces ≠ [])
    (hlength : widths.length = pieces.length) :
    rowLines widths (pieces.map fun p => [p]) =
      [['|', ' '] ++ [' ', '|', ' '].intercalate pieces ++ [' ', '|']] := by
  have hheight : ((pieces.map fun p => [p]).map List.length).foldl max 0 = 1 := by
    obtain ⟨p, rest, rfl⟩ := List.exists_cons_of_ne_nil hne
    exact foldl_max_one _ (by simp)
  unfold rowLines
  simp only [hheight, List.range_one, List.map_singleton, map_singletons hlength,
    intercalate_blanks hne]
  simp

/-- A row of cells that are drawn on one line each. -/
theorem drawRow_of_lines {columns : List (Column × Nat)} (hne : columns ≠ [])
    (hlength : row.length = columns.length) {line : (Column × Nat) × List Char → List Char}
    (h : ∀ e ∈ columns.zip row, cellLines e.1.1.side e.1.2 e.2 = [line e]) :
    drawRow columns row =
      [['|', ' '] ++ [' ', '|', ' '].intercalate ((columns.zip row).map line) ++ [' ', '|']] := by
  have hcells : ((columns.zip row).map fun ((column, width), s) => cellLines column.side width s) =
      ((columns.zip row).map line).map fun p => [p] := by
    rw [List.map_map]
    exact List.map_congr_left h
  have hpieces : (columns.zip row).map line ≠ [] := by
    rw [← List.length_pos_iff, List.length_map, List.length_zip, hlength, Nat.min_self]
    exact List.length_pos_iff.2 hne
  unfold drawRow
  rw [hcells, rowLines_singletons hpieces (by simp [hlength])]

theorem drawRow_of_flat {columns : List (Column × Nat)} (hne : columns ≠ [])
    (hlength : row.length = columns.length) (hflat : ∀ s ∈ row, Flat s)
    (hroom : ∀ e ∈ columns.zip row, e.1.1.side = .left → Roomy e.2)
    (hfits : ∀ e ∈ columns.zip row, cells e.2 ≤ e.1.2) :
    drawRow columns row = [rowLine columns row] := by
  refine drawRow_of_lines hne hlength fun e he => ?_
  rw [cellLines_of_single (hflat e.2 (List.of_mem_zip he).2).single,
    placeLine_of_le (hfits e he) (hroom e he)]

/-- The cells at the left of their columns are roomy, whatever the widths of these. -/
theorem roomy_zip (h : ∀ e ∈ columns.zip row, e.1.side = .left → Roomy e.2) (ws : List Nat) :
    ∀ e ∈ (columns.zip ws).zip row, e.1.1.side = .left → Roomy e.2 := by
  intro e he
  obtain ⟨i, hi, rfl⟩ := List.mem_iff_getElem.1 he
  rw [List.length_zip, List.length_zip] at hi
  have hcell : (columns[i], row[i]) ∈ columns.zip row :=
    List.mem_iff_getElem.2 ⟨i, by rw [List.length_zip]; omega, List.getElem_zip⟩
  simpa only [List.getElem_zip] using h _ hcell

/-! ## The whole table -/

/-- A table without steering characters whose titles and rows have one line each. -/
theorem draw_eq_frame {rows : List (List String)} {texts : List (List (List Char))}
    {line : List (List Char) → List Char} (htexts : (rows.map fun row => row.map String.toList) = texts)
    (hsteering : ∀ row ∈ rows, ∀ s ∈ row, ∀ c ∈ s.toList, isSteering c = false)
    (htitles : drawRow (columns.zip (widths columns texts)) (columns.map fun c => c.title.toList) =
      [line (columns.map fun c => c.title.toList)])
    (hrows : ∀ row ∈ texts, drawRow (columns.zip (widths columns texts)) row = [line row]) :
    draw columns rows = frame (widths columns texts) (line (columns.map fun c => c.title.toList))
      (texts.map line) := by
  have hdrop : (rows.map fun row => row.map fun s => dropSteering s.toList) = texts := by
    rw [← htexts]
    refine List.map_congr_left fun row hrow => List.map_congr_left fun s hs => ?_
    exact dropSteering_eq_self (hsteering row hrow s hs)
  have hlines : texts.flatMap (drawRow (columns.zip (widths columns texts))) = texts.map line := by
    rw [List.flatMap_congr hrows, ← List.map_eq_flatMap]
  unfold draw frame
  dsimp only
  rw [hdrop, htitles, hlines]
  rfl

section

variable (hne : columns ≠ [])

include hne

theorem zip_flatWidths_ne_nil : columns.zip (flatWidths columns rows) ≠ [] := by
  rw [← List.length_pos_iff, List.length_zip, length_flatWidths, Nat.min_self]
  exact List.length_pos_iff.2 hne

theorem drawRow_titles (htitles : ∀ c ∈ columns, Flat c.title.toList ∧ Roomy c.title.toList) :
    drawRow (columns.zip (flatWidths columns rows)) (columns.map fun c => c.title.toList) =
      [rowLine (columns.zip (flatWidths columns rows)) (columns.map fun c => c.title.toList)] := by
  refine drawRow_of_flat (zip_flatWidths_ne_nil hne) ?_
    (List.forall_mem_map.2 fun c hc => (htitles c hc).1) (fun e he _ => ?_)
    (cells_le_flatWidths (.inr rfl))
  · rw [List.length_map, List.length_zip, length_flatWidths, Nat.min_self]
  · obtain ⟨c, hc, htitle⟩ := List.mem_map.1 (List.of_mem_zip he).2
    exact htitle ▸ (htitles c hc).2

/-- A table of flat texts under flat titles has one line for each row, if the texts at the left are
roomy. -/
theorem draw_of_flat {rows : List (List String)}
    (htitles : ∀ c ∈ columns, Flat c.title.toList ∧ Roomy c.title.toList)
    (hlength : ∀ row ∈ rows, row.length = columns.length)
    (hflat : ∀ row ∈ rows, ∀ s ∈ row, Flat s.toList)
    (hroom : ∀ row ∈ rows, ∀ e ∈ columns.zip (row.map String.toList), e.1.side = .left → Roomy e.2) :
    draw columns rows = framed columns rows := by
  have htext : ∀ row ∈ rows.map fun row => row.map String.toList, ∀ s ∈ row, Flat s := by
    simp only [List.forall_mem_map]
    exact hflat
  have hwidths : widths columns (rows.map fun row => row.map String.toList) =
      flatWidths columns (rows.map fun row => row.map String.toList) := widths_of_flat htext
  rw [framed_eq_frame, ← hwidths]
  refine draw_eq_frame rfl (fun row hrow s hs => (hflat row hrow s hs).steering) ?_ ?_
  · rw [hwidths]
    exact drawRow_titles hne htitles
  · intro row hrow
    rw [hwidths]
    have hfits := @cells_le_flatWidths columns _ row (.inl hrow)
    have hcells := htext row hrow
    obtain ⟨row, hmem, rfl⟩ := List.mem_map.1 hrow
    refine drawRow_of_flat (zip_flatWidths_ne_nil hne) ?_ hcells (roomy_zip (hroom row hmem) _) hfits
    rw [List.length_map, hlength row hmem, List.length_zip, length_flatWidths, Nat.min_self]

end

/-! ## Lines -/

/-- A character of joined pieces comes from one of them or from what joins them. -/
theorem mem_intercalate {c : Char} {between : List Char} {pieces : List (List Char)}
    (h : c ∈ between.intercalate pieces) : c ∈ between ∨ ∃ p ∈ pieces, c ∈ p := by
  induction pieces with
  | nil => cases h
  | cons p rest ih =>
    by_cases hrest : rest = []
    · rw [hrest, List.intercalate_singleton] at h
      exact .inr ⟨p, List.mem_cons_self .., h⟩
    · rw [List.intercalate_cons_of_ne_nil hrest, List.mem_append, List.mem_append] at h
      obtain (h | h) | h := h
      · exact .inr ⟨p, List.mem_cons_self .., h⟩
      · exact .inl h
      · obtain h | ⟨q, hq, h⟩ := ih h
        · exact .inl h
        · exact .inr ⟨q, List.mem_cons_of_mem p hq, h⟩

theorem mem_fill {c : Char} {side : Side} {width : Nat} (h : c ∈ fill side width s) :
    c = ' ' ∨ c ∈ s := by
  cases side with
  | left =>
    obtain h | h := List.mem_append.1 h
    · exact .inr ((trimEnd_isPrefix width s).subset h)
    · exact .inl (List.eq_of_mem_replicate h)
  | right =>
    obtain h | h := List.mem_append.1 h
    · exact .inl (List.eq_of_mem_replicate h)
    · exact .inr ((List.rdropWhile_prefix isBlank s).subset h)

theorem newline_not_mem_rowLine {columns : List (Column × Nat)} (h : ∀ s ∈ row, Flat s) :
    '\n' ∉ rowLine columns row := by
  intro hmem
  simp only [rowLine, List.mem_append] at hmem
  obtain (hmem | hmem) | hmem := hmem
  · exact absurd hmem (by decide)
  · obtain hmem | ⟨p, hp, hmem⟩ := mem_intercalate hmem
    · exact absurd hmem (by decide)
    · obtain ⟨e, he, rfl⟩ := List.mem_map.1 hp
      obtain hblank | hcell := mem_fill hmem
      · exact absurd hblank (by decide)
      · exact (h e.2 (List.of_mem_zip he).2).newline_not_mem hcell
  · exact absurd hmem (by decide)

theorem newline_not_mem_hyphens {between : Char} (h : between ≠ '\n') (ws : List Nat) :
    '\n' ∉ hyphens ws between := by
  intro hmem
  obtain hmem | ⟨p, hp, hmem⟩ := mem_intercalate hmem
  · exact h (List.mem_singleton.1 hmem).symm
  · obtain ⟨w, -, rfl⟩ := List.mem_map.1 hp
    exact absurd (List.eq_of_mem_replicate hmem) (by decide)

/-- No line of a table of flat texts is broken. -/
theorem newline_not_mem_framed {rows : List (List String)}
    (htitles : ∀ c ∈ columns, Flat c.title.toList) (hflat : ∀ row ∈ rows, ∀ s ∈ row, Flat s.toList) :
    ∀ line ∈ framed columns rows, '\n' ∉ line.toList := by
  have hrow : ∀ row ∈ rows.map fun row => row.map String.toList, ∀ s ∈ row, Flat s := by
    simp only [List.forall_mem_map]
    exact hflat
  have hplus : ∀ ws, '\n' ∉ hyphens ws '+' := newline_not_mem_hyphens (by decide)
  have hminus : ∀ ws, '\n' ∉ hyphens ws '-' := newline_not_mem_hyphens (by decide)
  intro line hline
  simp only [framed, List.mem_append, List.mem_cons, List.mem_map, List.not_mem_nil,
    or_false] at hline
  obtain ((rfl | rfl | rfl) | ⟨_, ⟨row, hmem, rfl⟩, rfl⟩) | rfl := hline
  · simp [hminus]
  · rw [String.toList_ofList]
    exact newline_not_mem_rowLine (List.forall_mem_map.2 htitles)
  · simp [hplus]
  · rw [String.toList_ofList]
    exact newline_not_mem_rowLine (hrow _ (List.mem_map_of_mem hmem))
  · simp [hminus]

end Table

end CodeMetrics

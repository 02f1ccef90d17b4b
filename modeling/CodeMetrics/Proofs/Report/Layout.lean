import CodeMetrics.Proofs.Except
import CodeMetrics.Proofs.Report.Ending
import CodeMetrics.Proofs.Table.Layout

/-!
# The layout of the tables of a report

A report prints tables of files and of subroutines.  With tame texts such a table has one line for
each row, and all of its lines take the same cells.  Without other ends of lines in the texts, every
column is as wide as its title or its widest text, every text stands in its row in full, and all of
them can be read back (`valueTable_layout`).  The width of a column is that of the lines of its
texts, although a text is drawn on one line when a line separator divides it.  So a text with a line
separator may be cut (`valueTable_line_separator`).
-/

namespace CodeMetrics

/-- The tables that a report prints: one with a row for each file, and for each file of which some
subroutines are listed one with a row for each of these. -/
inductive ReportTable : List Column → List (List Value) → Prop where
  | files {stats : List FileStat} (h : stats ≠ []) :
    ReportTable fileColumns (stats.map FileStat.row)
  | subs {subs : List Subroutine} (h : subs ≠ []) : ReportTable subColumns (subs.map Subroutine.row)

namespace ReportTable

variable {columns : List Column} {rows : List (List Value)}

theorem columns_ne_nil (h : ReportTable columns rows) : columns ≠ [] := by
  cases h with
  | files => exact List.cons_ne_nil _ _
  | subs => exact List.cons_ne_nil _ _

theorem tame_titles (h : ReportTable columns rows) :
    ∀ c ∈ columns, Table.Tame c.title.toList ∧ 0 < cells c.title.toList := by
  cases h with
  | files => decide +kernel
  | subs => decide +kernel

theorem length_row (h : ReportTable columns rows) : ∀ row ∈ rows, row.length = columns.length := by
  cases h with
  | files => exact List.forall_mem_map.2 fun _ _ => rfl
  | subs => exact List.forall_mem_map.2 fun _ _ => rfl

end ReportTable

/-- Take a table of a report with values that can be printed and tame texts.  It has one line for
each row and four more: a rule, the titles, a separator and another rule.  All of them take the same
cells.  A row whose texts fit into their columns shows each of them in full, with blanks up to the
width of its column, and exactly when all texts fit they can all be read back from the table.  If
the texts have no other ends of lines either, each column is as wide as its title or its widest
text, so that they do. -/
theorem valueTable_layout {columns : List Column} {rows : List (List Value)}
    (table : ReportTable columns rows) (printable : ∀ row ∈ rows, row.all Value.printable)
    (tame : ∀ row ∈ rows, ∀ v ∈ row, Table.Tame v.display.toList) :
    let titles := columns.map fun c => c.title.toList
    let texts := rows.map fun row => row.map fun v => v.display.toList
    let ws := Table.widths columns texts
    let line := Table.placedLine (columns.zip ws)
    let fits (row : List (List Char)) : Prop := ∀ e ∈ (columns.zip ws).zip row, cells e.2 ≤ e.1.2
    ∃ lines, valueTable columns rows = .ok lines ∧
      lines = Table.frame ws (line titles) (texts.map line) ∧ lines.length = rows.length + 4 ∧
      (∀ l ∈ lines, cells l.toList = ws.sum + 3 * columns.length + 1) ∧
      (∀ row ∈ titles :: texts, fits row → line row = Table.fullLine (columns.zip ws) row) ∧
      (Table.read lines = titles :: texts ↔ ∀ row ∈ texts, fits row) ∧
      ((∀ row ∈ texts, ∀ s ∈ row, ∀ c ∈ s, isLineBreak c = false) →
        ws = Table.flatWidths columns texts ∧ ∀ row ∈ titles :: texts, fits row) := by
  intro titles texts ws line fits
  have hne := table.columns_ne_nil
  have htitles := table.tame_titles
  have htexts : ((rows.map fun row => row.map Value.display).map fun row =>
      row.map String.toList) = texts := by
    simp [texts, List.map_map, Function.comp_def]
  have hlength : ∀ row ∈ texts, row.length = columns.length := by
    refine List.forall_mem_map.2 fun row hrow => ?_
    rw [List.length_map, table.length_row row hrow]
  have htame : ∀ row ∈ texts, ∀ s ∈ row, Table.Tame s :=
    List.forall_mem_map.2 fun row hrow => List.forall_mem_map.2 (tame row hrow)
  have hdraw := Table.draw_of_tame hne htexts htitles hlength htame
  refine ⟨_, valueTable_of_printable printable, hdraw, ?_, ?_, ?_, ?_, ?_⟩
  · rw [hdraw, Table.length_frame, List.length_map, List.length_map]
  · rw [← Table.length_widths columns texts]
    exact Table.cells_of_mem_draw hne htexts htitles hlength htame
  · intro row hrow hfits
    refine Table.placedLine_eq_fullLine ?_ hfits
    obtain rfl | hrow := List.mem_cons.1 hrow
    · exact List.forall_mem_map.2 fun c hc => (htitles c hc).1
    · exact htame row hrow
  · exact Table.read_draw_iff hne htexts htitles hlength htame
  · intro hbreaks
    have hflat : ws = Table.flatWidths columns texts :=
      Table.widths_of_flat fun row hrow s hs => (htame row hrow s hs).flat (hbreaks row hrow s hs)
    refine ⟨hflat, fun row hrow => ?_⟩
    have hcells : ∀ e ∈ (columns.zip (Table.flatWidths columns texts)).zip row, cells e.2 ≤ e.1.2 :=
      Table.cells_le_flatWidths (List.mem_cons.1 hrow).symm
    rwa [← hflat] at hcells

/-- A subroutine of ten lines with a name. -/
def tenLines (name : String) : Subroutine := ⟨.text name, .text "a.pl", .int 1, .int 10, .int 1⟩

/-- Subroutines without a name, with a mark above a letter, and with a long name. -/
def sampleSubs : List Subroutine := ["", "cafe\u0301", "a very long name"].map tenLines

theorem valueTable_layout_sample :
    let rows := sampleSubs.map Subroutine.row
    ReportTable subColumns rows ∧ (∀ row ∈ rows, row.all Value.printable) ∧
      (∀ row ∈ rows, ∀ v ∈ row, Table.Tame v.display.toList) ∧
      ∃ lines, valueTable subColumns rows = .ok lines ∧ lines.length = 7 ∧
        (∀ l ∈ lines, cells l.toList = 60) ∧
        Table.read lines = (subColumns.map fun c => c.title.toList) ::
          rows.map fun row => row.map fun v => v.display.toList := by
  intro rows
  have table : ReportTable subColumns rows := .subs (by decide)
  have printable : ∀ row ∈ rows, row.all Value.printable := by decide +kernel
  have tame : ∀ row ∈ rows, ∀ v ∈ row, Table.Tame v.display.toList := by decide +kernel
  have widths : (Table.widths subColumns (rows.map fun row => row.map fun v => v.display.toList)).sum =
      47 := by
    decide +kernel
  obtain ⟨lines, hlines, -, length, cells, -, reads, flat⟩ := valueTable_layout table printable tame
  refine ⟨table, printable, tame, lines, hlines, length, ?_, ?_⟩
  · rwa [widths] at cells
  · have plain : ∀ row ∈ rows.map fun row => row.map fun v => v.display.toList,
        ∀ s ∈ row, Table.Flat s := by
      decide +kernel
    obtain ⟨-, fits⟩ := flat fun row hrow s hs c hc => (plain row hrow s hs c hc).1
    exact reads.2 fun row hrow => fits row (List.mem_cons_of_mem _ hrow)

theorem placeLine_lineSeparator :
    Table.placeLine .left 6 "alpha\u2028omega".toList = "alpha\u2028…".toList := by
  have hcut : cut "alpha\u2028omega".toList 6 = "alpha\u2028".toList ++ ['…'] := by decide +kernel
  have hcells : cells ("alpha\u2028".toList ++ ['…']) = 6 := by
    rw [cells_of_steady (by decide), List.map_append, List.map_singleton, charWidth_ellipsis]
    decide +kernel
  rw [Table.placeLine, hcut, padRight, hcells]
  decide +kernel

/-- A name with a line separator takes more cells than its column has, and is cut. -/
theorem valueTable_line_separator :
    let texts := [["alpha\u2028omega".toList, ['1', '0'], ['1'], ['1']]]
    let rows := [(tenLines "alpha\u2028omega").row]
    ReportTable subColumns rows ∧ (∀ row ∈ rows, row.all Value.printable) ∧
      (∀ row ∈ rows, ∀ v ∈ row, Table.Tame v.display.toList) ∧
      (rows.map fun row => row.map fun v => v.display.toList) = texts ∧
      Table.widths subColumns texts = [6, 3, 11, 17] ∧ cells "alpha\u2028omega".toList = 10 ∧
      ∃ lines, valueTable subColumns rows = .ok lines ∧
        lines[3]? = some "| alpha\u2028… |  10 |           1 |                 1 |" ∧
        Table.read lines ≠ (subColumns.map fun c => c.title.toList) :: texts := by
  intro texts rows
  have table : ReportTable subColumns rows :=
    @ReportTable.subs [tenLines "alpha\u2028omega"] (by decide)
  have tame : ∀ row ∈ texts, ∀ s ∈ row, Table.Tame s := by decide +kernel
  have htexts : (rows.map fun row => row.map fun v => v.display.toList) = texts := by decide +kernel
  have widths : Table.widths subColumns texts = [6, 3, 11, 17] := by decide +kernel
  have wide : cells "alpha\u2028omega".toList = 10 := by decide +kernel
  have hlines := @valueTable_of_printable subColumns rows (by decide +kernel)
  have hlength : ∀ row ∈ texts, row.length = subColumns.length := by decide
  have hstrings : ((rows.map fun row => row.map Value.display).map fun row =>
      row.map String.toList) = texts := by
    decide +kernel
  have hdraw := Table.draw_of_tame table.columns_ne_nil hstrings table.tame_titles hlength tame
  have hread := Table.read_draw_iff table.columns_ne_nil hstrings table.tame_titles hlength tame
  rw [widths] at hdraw hread
  refine ⟨table, by decide +kernel, by decide +kernel, htexts, widths, wide, _, hlines, ?_, ?_⟩
  · have hrow : Table.placed (subColumns.zip [6, 3, 11, 17]) texts[0] =
        [Table.placeLine .left 6 "alpha\u2028omega".toList, Table.placeLine .right 3 ['1', '0'],
          Table.placeLine .right 11 ['1'], Table.placeLine .right 17 ['1']] := rfl
    have hline : (Table.draw subColumns (rows.map fun row => row.map Value.display))[3]? =
        some (String.ofList (Table.placedLine (subColumns.zip [6, 3, 11, 17]) texts[0])) := by
      rw [hdraw]
      rfl
    rw [hline, Table.placedLine, hrow, placeLine_lineSeparator]
    decide +kernel
  · intro h
    have hfits := hread.1 h texts[0] (by decide) ((⟨"method", .left⟩, 6), "alpha\u2028omega".toList)
      (List.mem_cons_self ..)
    rw [wide] at hfits
    exact absurd hfits (by decide)

end CodeMetrics

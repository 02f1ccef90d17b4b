import CodeMetrics.Proofs.Report.Results
import CodeMetrics.Proofs.Table.Cuts

/-!
# Ellipses in a report

However a report ends, what it has written is a front of its tables and its document.  The document
has no ellipses, and the tables have them where a value has one or where a line of a cell is cut:
each line and each column of a table is accounted for (`report_ellipses`).
-/

namespace CodeMetrics

/-! ## What a report shows -/

/-- How many ellipses the lines have together. -/
def ellipsesIn (lines : List String) : Nat := (lines.map fun line => ellipses line.toList).sum

/-- How many ellipses the values have together. -/
def ellipsesOf (values : List Value) : Nat := (values.map fun v => ellipses v.display.toList).sum

theorem ellipsesIn_append (ks ls : List String) :
    ellipsesIn (ks ++ ls) = ellipsesIn ks + ellipsesIn ls := by
  rw [ellipsesIn, List.map_append, List.sum_append]
  rfl

theorem ellipsesIn_flatMap {α : Type} (f : α → List String) (as : List α) :
    ellipsesIn (as.flatMap f) = (as.map fun a => ellipsesIn (f a)).sum :=
  Table.sum_map_flatMap (fun line : String => ellipses line.toList) f as

theorem ellipsesIn_mono {ks ls : List String} (h : ks <+: ls) :
    ellipsesIn ks ≤ ellipsesIn ls := by
  obtain ⟨rest, rfl⟩ := h
  rw [ellipsesIn_append]
  exact Nat.le_add_right ..

/-- The cells in each row of a table of values. -/
def valueRows (columns : List Column) (rows : List (List Value)) : List (List Table.Cell) :=
  Table.bodyRows columns (rows.map fun row => row.map Value.display)

namespace Settings

/-- The paths that a report shows above its tables of subroutines. -/
def headings (c : Settings) (a : Analysis) : List Value :=
  if c.machineOnly.truthy then []
  else a.subStats.flatMap fun f => if (f.2.filter c.retains).isEmpty then [] else [f.1]

/-- The columns and the rows of the tables that a report shows.  Tables without rows are not
printed. -/
def tables (c : Settings) (a : Analysis) : List (List Column × List (List Value)) :=
  if c.machineOnly.truthy then []
  else (fileColumns, a.fileStats.map FileStat.row) ::
    a.subStats.map fun f => (subColumns, (f.2.filter c.retains).map Subroutine.row)

/-- The values that a report shows, as often as it shows them. -/
def shownValues (c : Settings) (a : Analysis) : List Value :=
  c.headings a ++ (c.tables a).flatMap fun t => t.2.flatten

/-- The cells in each row of these tables. -/
def tableRows (c : Settings) (a : Analysis) : List (List Table.Cell) :=
  (c.tables a).flatMap fun t => valueRows t.1 t.2

/-- The cells in all rows of these tables. -/
def tableCells (c : Settings) (a : Analysis) : List Table.Cell := (c.tableRows a).flatten

end Settings

/-! ## Counting -/

section

variable {columns : List Column} {rows : List (List Value)}

/-- The titles of a table of a report are flat and without ellipses, and its rows have a value for
each column. -/
structure TableFits (columns : List Column) (rows : List (List Value)) : Prop where
  titles : ∀ c ∈ columns, Table.Flat c.title.toList ∧ '…' ∉ c.title.toList
  rows : ∀ row ∈ rows, row.length = columns.length

theorem tableFits_files (stats : List FileStat) : TableFits fileColumns (stats.map FileStat.row) :=
  ⟨by decide, List.forall_mem_map.2 fun _ _ => rfl⟩

theorem tableFits_subs (kept : List Subroutine) : TableFits subColumns (kept.map Subroutine.row) :=
  ⟨by decide, List.forall_mem_map.2 fun _ _ => rfl⟩

theorem TableFits.lengths (h : TableFits columns rows) :
    ∀ row ∈ rows.map fun row => row.map Value.display, row.length = columns.length := by
  refine List.forall_mem_map.2 fun row hrow => ?_
  rw [List.length_map, h.rows row hrow]

theorem TableFits.ellipsesIn_draw (h : TableFits columns rows) :
    ellipsesIn (Table.draw columns (rows.map fun row => row.map Value.display)) =
      ((valueRows columns rows).flatten.map Table.Cell.drawnEllipses).sum :=
  Table.sum_ellipses_draw h.titles h.lengths

theorem TableFits.ellipsesOf_flatten (h : TableFits columns rows) :
    ellipsesOf rows.flatten = ((valueRows columns rows).flatten.map fun e => ellipses e.2).sum := by
  rw [valueRows, Table.sum_ellipses_bodyRows h.lengths, ellipsesOf, List.map_flatten,
    List.sum_flatten, List.map_map, List.map_map]
  congr 1
  refine List.map_congr_left fun row _ => ?_
  rw [Function.comp_apply, Function.comp_apply, List.map_map]
  rfl

end

variable {c : Settings} {a : Analysis}

theorem ellipsesIn_summaryLines (stats : List FileStat) :
    ellipsesIn (summaryLines stats) =
      ((valueRows fileColumns (stats.map FileStat.row)).flatten.map
        Table.Cell.drawnEllipses).sum := by
  have hheading : ellipsesIn fileHeading = 0 := by decide
  rw [summaryLines, ellipsesIn_append, hheading, Nat.zero_add]
  split
  · next h =>
    rw [List.isEmpty_iff.1 h]
    rfl
  · exact (tableFits_files stats).ellipsesIn_draw

theorem ellipsesIn_pathLines (path : Value) :
    ellipsesIn (pathLines path) = ellipses path.display.toList := by
  have hword : ellipses "Path: ".toList = 0 := by decide
  have hlines : ellipsesIn (pathLines path) =
      ((splitWhere (· = '\n') (dropSteering ("Path: " ++ path.display).toList)).map
        ellipses).sum := by
    rw [ellipsesIn, pathLines, List.map_map]
    congr 1
    refine List.map_congr_left fun line _ => ?_
    rw [Function.comp_apply, String.toList_ofList, ellipses_expandTabs]
  rw [hlines, ellipses_splitWhere (by decide), ellipses_dropSteering, String.toList_append,
    ellipses_append, hword, Nat.zero_add]

theorem ellipsesIn_fileBlock (path : Value) (kept : List Subroutine) :
    ellipsesIn (fileBlock path kept) = ellipsesOf (if kept.isEmpty then [] else [path]) +
      ((valueRows subColumns (kept.map Subroutine.row)).flatten.map
        Table.Cell.drawnEllipses).sum := by
  rw [fileBlock]
  split
  · next h =>
    rw [List.isEmpty_iff.1 h]
    rfl
  · have hblank : ellipsesIn [""] = 0 := rfl
    rw [← List.singleton_append, ellipsesIn_append, ellipsesIn_append, hblank, ellipsesIn_pathLines,
      subTable, (tableFits_subs kept).ellipsesIn_draw, Nat.zero_add, ellipsesOf, List.map_singleton,
      List.sum_singleton]

/-- A sum over the cells of a report, table by table. -/
theorem sum_tableCells (c : Settings) (a : Analysis) (f : Table.Cell → Nat) :
    ((c.tableCells a).map f).sum =
      ((c.tables a).map fun t => ((valueRows t.1 t.2).flatten.map f).sum).sum := by
  have hflatten (rows : List (List Table.Cell)) :
      (rows.flatten.map f).sum = (rows.map fun row => (row.map f).sum).sum := by
    rw [List.map_flatten, List.sum_flatten, List.map_map]
    rfl
  rw [Settings.tableCells, hflatten, Settings.tableRows, Table.sum_map_flatMap]
  simp only [hflatten]

/-- The tables of a report have the ellipses of its headings and those in its cells. -/
theorem ellipsesIn_tableLines (c : Settings) (a : Analysis) :
    ellipsesIn (c.shown (c.tableLines a)) =
      ellipsesOf (c.headings a) + ((c.tableCells a).map Table.Cell.drawnEllipses).sum := by
  rw [sum_tableCells]
  unfold Settings.shown Settings.headings Settings.tables
  split
  · rfl
  · have hheading : ellipsesIn subHeading = 0 := by decide
    rw [Settings.tableLines, Settings.sectionLines, ellipsesIn_append, ellipsesIn_append,
      ellipsesIn_summaryLines, hheading, Nat.zero_add, ellipsesIn_flatMap, List.map_cons,
      List.sum_cons, ellipsesOf, Table.sum_map_flatMap, List.map_map]
    simp only [ellipsesIn_fileBlock, List.sum_map_add]
    exact Nat.add_left_comm _ _ _

theorem ellipsesOf_shownValues (c : Settings) (a : Analysis) :
    ellipsesOf (c.shownValues a) =
      ellipsesOf (c.headings a) + ((c.tableCells a).map fun e => ellipses e.2).sum := by
  have htables : ∀ t ∈ c.tables a, TableFits t.1 t.2 := by
    unfold Settings.tables
    split
    · exact List.forall_mem_nil _
    · exact List.forall_mem_cons.2 ⟨tableFits_files _, List.forall_mem_map.2 fun _ _ =>
        tableFits_subs _⟩
  rw [Settings.shownValues, ellipsesOf, List.map_append, List.sum_append, Table.sum_map_flatMap,
    sum_tableCells]
  congr 2
  exact List.map_congr_left fun t ht => (htables t ht).ellipsesOf_flatten

theorem ellipsesIn_document (findings : List Finding) : ellipsesIn [Sarif.text findings] = 0 := by
  rw [ellipsesIn, List.map_singleton, List.sum_singleton, ellipses_eq_zero_iff, Sarif.text,
    String.toList_ofList]
  intro hmem
  exact absurd (Json.plain_text _ _ hmem).2 (by decide)

/-- A report has no more ellipses than its tables, and as many when it gets to its end. -/
theorem ellipsesIn_report (c : Settings) (a : Analysis) (earlier : List Finding) :
    ellipsesIn (report c a earlier).lines ≤ ellipsesIn (c.shown (c.tableLines a)) ∧
      ((report c a earlier).failure = none →
        ellipsesIn (report c a earlier).lines = ellipsesIn (c.shown (c.tableLines a))) := by
  have htotal (findings : List Finding) :
      ellipsesIn (c.shown (c.tableLines a) ++ [Sarif.text findings]) =
        ellipsesIn (c.shown (c.tableLines a)) := by
    rw [ellipsesIn_append, ellipsesIn_document, Nat.add_zero]
  constructor
  · obtain ⟨findings, hprefix⟩ := report_lines_isPrefix c a earlier
    rw [← htotal findings]
    exact ellipsesIn_mono hprefix
  · intro hend
    rw [report_of_completes (report_failure_eq_none_iff.1 hend)]
    exact htotal _

theorem widest_le_of_mem_tableCells : ∀ e ∈ c.tableCells a, Table.widest e.2 ≤ e.1.2 := by
  intro e he
  obtain ⟨row, hrow, he⟩ := List.mem_flatten.1 he
  obtain ⟨t, -, hrow⟩ := List.mem_flatMap.1 hrow
  exact Table.widest_le_of_mem_bodyRows row hrow e he

/-- The ellipses in the cells of a report are at least as many as the lines that are too long
without the white space at their ends, and no more than those of the texts and the lines that are
too long. -/
theorem drawnEllipses_bounds (cells : List Table.Cell) :
    (cells.flatMap Table.Cell.overfull).length ≤ (cells.map Table.Cell.drawnEllipses).sum ∧
      (cells.map Table.Cell.drawnEllipses).sum ≤
        (cells.map fun e => ellipses e.2).sum + (cells.flatMap Table.Cell.overlong).length := by
  induction cells with
  | nil => exact ⟨Nat.le_refl _, Nat.le_refl _⟩
  | cons e rest ih =>
    have he := e.drawnEllipses_bounds
    simp only [List.flatMap_cons, List.length_append, List.map_cons, List.sum_cons]
    omega

/-! ## The place of each ellipsis -/

theorem ellipsesIn_ne_zero {ls : List String} {line : String} (hline : line ∈ ls)
    (h : '…' ∈ line.toList) : ellipsesIn ls ≠ 0 := by
  intro hzero
  have hnone := List.sum_eq_zero_iff_forall_eq_nat.1 hzero _ (List.mem_map_of_mem hline)
  exact ellipses_eq_zero_iff.1 hnone h

/-- The line is drawn for one of the rows. -/
def IsRowLine (rows : List (List Table.Cell)) (line : String) : Prop :=
  ∃ row ∈ rows, ∃ i < Table.rowHeight row, Table.IsLineAt row i line

theorem IsRowLine.mono {rows rows' : List (List Table.Cell)} (h : rows ⊆ rows') {line : String}
    (hline : IsRowLine rows line) : IsRowLine rows' line := by
  obtain ⟨row, hrow, hplace⟩ := hline
  exact ⟨row, h hrow, hplace⟩

theorem TableFits.isRowLine {columns : List Column} {rows : List (List Value)}
    (h : TableFits columns rows) {line : String}
    (hline : line ∈ Table.draw columns (rows.map fun row => row.map Value.display))
    (hellipsis : '…' ∈ line.toList) : IsRowLine (valueRows columns rows) line :=
  Table.exists_of_mem_draw h.titles h.lengths hline hellipsis

theorem isRowLine_of_mem_summaryLines {stats : List FileStat} {line : String}
    (hline : line ∈ summaryLines stats) (h : '…' ∈ line.toList) :
    IsRowLine (valueRows fileColumns (stats.map FileStat.row)) line := by
  obtain hheading | htable := List.mem_append.1 hline
  · exact absurd (by decide) (ellipsesIn_ne_zero hheading h)
  · split at htable
    · cases htable
    · exact (tableFits_files stats).isRowLine htable h

theorem ellipsis_of_mem_fileBlock {path : Value} {kept : List Subroutine} {line : String}
    (hline : line ∈ fileBlock path kept) (h : '…' ∈ line.toList) :
    (kept.isEmpty = false ∧ '…' ∈ path.display.toList ∧ line ∈ pathLines path) ∨
      IsRowLine (valueRows subColumns (kept.map Subroutine.row)) line := by
  unfold fileBlock at hline
  split at hline
  · cases hline
  · next hkept =>
    obtain rfl | hline := List.mem_cons.1 hline
    · cases h
    · obtain hpath | htable := List.mem_append.1 hline
      · have hsome := ellipsesIn_ne_zero hpath h
        rw [ellipsesIn_pathLines] at hsome
        exact .inl ⟨eq_false_of_ne_true hkept, by_contra fun hnone =>
          hsome (ellipses_eq_zero_iff.2 hnone), hpath⟩
      · exact .inr ((tableFits_subs kept).isRowLine htable h)

/-- The tables of a report have an ellipsis only in a heading with the path of a file that has one,
or in a line of a row. -/
theorem ellipsis_of_mem_tableLines {line : String} (hline : line ∈ c.shown (c.tableLines a))
    (h : '…' ∈ line.toList) :
    (∃ path ∈ c.headings a, '…' ∈ path.display.toList ∧ line ∈ pathLines path) ∨
      IsRowLine (c.tableRows a) line := by
  unfold Settings.shown at hline
  unfold Settings.headings Settings.tableRows Settings.tables
  split at hline
  · cases hline
  · next hmachine =>
    rw [if_neg hmachine, if_neg hmachine, List.flatMap_cons, List.flatMap_map]
    rw [Settings.tableLines, Settings.sectionLines, List.mem_append, List.mem_append,
      List.mem_flatMap] at hline
    obtain hsummary | hheading | ⟨f, hf, hblock⟩ := hline
    · exact .inr ((isRowLine_of_mem_summaryLines hsummary h).mono (List.subset_append_left ..))
    · exact absurd (by decide) (ellipsesIn_ne_zero hheading h)
    · obtain ⟨hkept, hpath⟩ | hrow := ellipsis_of_mem_fileBlock hblock h
      · refine .inl ⟨f.1, List.mem_flatMap.2 ⟨f, hf, ?_⟩, hpath⟩
        rw [hkept]
        exact List.mem_singleton_self _
      · exact .inr (hrow.mono fun row hrow =>
          List.mem_append_right _ (List.mem_flatMap.2 ⟨f, hf, hrow⟩))

/-- The tables of a report have all lines of its rows. -/
theorem exists_mem_tableLines {row : List Table.Cell} (hrow : row ∈ c.tableRows a) {i : Nat}
    (hi : i < Table.rowHeight row) :
    ∃ line ∈ c.shown (c.tableLines a), Table.IsLineAt row i line := by
  unfold Settings.tableRows Settings.tables at hrow
  unfold Settings.shown
  split
  · next hmachine =>
    rw [if_pos hmachine] at hrow
    cases hrow
  · next hmachine =>
    rw [if_neg hmachine, List.flatMap_cons, List.flatMap_map, List.mem_append,
      List.mem_flatMap] at hrow
    unfold Settings.tableLines Settings.sectionLines
    obtain hfile | ⟨f, hf, hsub⟩ := hrow
    · obtain ⟨line, hdrawn, hplace⟩ :=
        Table.exists_mem_draw (tableFits_files a.fileStats).lengths hfile hi
      refine ⟨line, List.mem_append_left _ (List.mem_append_right _ ?_), hplace⟩
      split
      · next hempty =>
        rw [List.isEmpty_iff.1 hempty] at hfile
        cases hfile
      · exact hdrawn
    · obtain ⟨line, hdrawn, hplace⟩ := Table.exists_mem_draw (tableFits_subs _).lengths hsub hi
      refine ⟨line, List.mem_append_right _ (List.mem_append_right _
        (List.mem_flatMap.2 ⟨f, hf, ?_⟩)), hplace⟩
      unfold fileBlock
      split
      · next hempty =>
        rw [List.isEmpty_iff.1 hempty] at hsub
        cases hsub
      · exact List.mem_cons_of_mem _ (List.mem_append_right _ hdrawn)

/-- An ellipsis in a report stands in a heading with the path of a file that has it, or in a line of
a row of a table, at the place of a cell.  There the line of the cell has it, or this line is cut
because it is too long for its column; a line that is too long even without the white space at its
end has an ellipsis there (`Table.Cell.Accounts`).  The ellipses of the whole text are therefore
bounded by those of the values and the lines that are too long, and if there is no such line, they
are exactly those of the values.  A line of a cell can only be too long when its text has a tab or
an end of line that is not a line feed.

A line that is too long because of the white space at its end may be cut, or fit without it.  Tables
of a million cells and more, which the terminal would draw narrower, are left out of the model. -/
theorem report_ellipses (c : Settings) (a : Analysis) (earlier : List Finding) :
    let run := report c a earlier
    let cells := c.tableCells a
    (∀ line ∈ run.lines, '…' ∈ line.toList →
        (∃ path ∈ c.headings a, '…' ∈ path.display.toList ∧ line ∈ pathLines path) ∨
          IsRowLine (c.tableRows a) line) ∧
      (run.failure = none → ∀ row ∈ c.tableRows a, ∀ i < Table.rowHeight row,
        ∃ line ∈ run.lines, Table.IsLineAt row i line) ∧
      ellipsesIn run.lines ≤
        ellipsesOf (c.shownValues a) + (cells.flatMap Table.Cell.overlong).length ∧
      (run.failure = none →
        (cells.flatMap Table.Cell.overfull).length ≤ ellipsesIn run.lines) ∧
      (run.failure = none → cells.flatMap Table.Cell.overlong = [] →
        ellipsesIn run.lines = ellipsesOf (c.shownValues a)) ∧
      ∀ e ∈ cells, (∀ ch ∈ e.2, ch ≠ '\t' ∧ (isLineBreak ch → ch = '\n')) → e.overlong = [] := by
  dsimp only
  obtain ⟨hle, hend⟩ := ellipsesIn_report c a earlier
  obtain ⟨hcut, hcells⟩ := drawnEllipses_bounds (c.tableCells a)
  rw [ellipsesIn_tableLines] at hle hend
  rw [ellipsesOf_shownValues]
  refine ⟨fun line hline hellipsis => ?_, fun h row hrow i hi => ?_, hle.trans (by omega),
    fun h => ?_, fun h hnone => ?_, fun e he hplain => ?_⟩
  · obtain ⟨findings, hfront⟩ := report_lines_isPrefix c a earlier
    obtain htable | hdocument := List.mem_append.1 (hfront.subset hline)
    · exact ellipsis_of_mem_tableLines htable hellipsis
    · exact absurd (ellipsesIn_document findings) (ellipsesIn_ne_zero hdocument hellipsis)
  · rw [report_of_completes (report_failure_eq_none_iff.1 h)]
    obtain ⟨line, hline, hplace⟩ := exists_mem_tableLines hrow hi
    exact ⟨line, List.mem_append_left _ hline, hplace⟩
  · rw [hend h]
    exact hcut.trans (Nat.le_add_left ..)
  · have hdrawn : (c.tableCells a).map Table.Cell.drawnEllipses =
        (c.tableCells a).map fun e => ellipses e.2 :=
      List.map_congr_left fun e he =>
        Table.Cell.drawnEllipses_of_fits (List.flatMap_eq_nil_iff.1 hnone e he)
    rw [hend h, hdrawn]
  · exact Table.Cell.overlong_eq_nil hplain (widest_le_of_mem_tableCells e he)

/-- A name with a tab, which counts for nothing when its column is measured, is cut, although no
value has an ellipsis. -/
theorem report_cuts_tab :
    ∃ a, analyze [recordWith (.text "a\tb") (.int 1)] = .ok a ∧
      (report .standard a []).failure = none ∧
      (∀ v ∈ Settings.standard.shownValues a, '…' ∉ v.display.toList) ∧
      (Settings.standard.tableCells a).flatMap Table.Cell.overlong = ["a       b".toList] ∧
      ellipsesIn (report .standard a []).lines = 1 := by
  have outcome : (analyze [recordWith (.text "a\tb") (.int 1)]).toOption.map
      (fun a => ((report .standard a []).failure,
        (Settings.standard.shownValues a).all fun v => '…' ∉ v.display.toList,
        (Settings.standard.tableCells a).flatMap Table.Cell.overlong,
        ellipsesOf (Settings.standard.headings a) +
          ((Settings.standard.tableCells a).map Table.Cell.drawnEllipses).sum)) =
        some (none, true, ["a       b".toList], 1) := by
    decide +kernel
  obtain ⟨a, ha, h⟩ := exists_of_toOption_map_eq_some outcome
  simp only [Prod.mk.injEq] at h
  obtain ⟨ends, none, cut, count⟩ := h
  refine ⟨a, ha, ends, fun v hv => ?_, cut, ?_⟩
  · exact of_decide_eq_true (List.all_eq_true.1 none v hv)
  · rw [(ellipsesIn_report .standard a []).2 ends, ellipsesIn_tableLines, count]

end CodeMetrics

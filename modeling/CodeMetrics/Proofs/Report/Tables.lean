import CodeMetrics.Proofs.Report.Results
import CodeMetrics.Proofs.Table.Plain
import Mathlib.Data.List.Forall2

/-!
# The tables and the document

The tables of a report show the same as its document.  When all texts in them are flat, the whole
text of a report is known line by line, and the rows of subroutines from top to bottom belong to the
results of the document one by one (`report_tables_agree`).  A text with another kind of line break
is cut in its table, and then the document has a name that no row shows (`report_tables_differ`).
-/

namespace CodeMetrics

/-! ## Rows -/

/-- The texts in the row of a file. -/
def FileRecord.rowTexts (r : FileRecord) : List String :=
  [r.path.display, r.main.lines.display, toString r.subCount, toString r.packageCount]

/-- The texts in the row of a subroutine. -/
def Subroutine.rowTexts (s : Subroutine) : List String :=
  [s.name.display, s.lines.display, s.lineNumber.display, s.complexity.display]

/-- The texts that the tables of a report may show of a record. -/
def FileRecord.shownTexts (r : FileRecord) : List String :=
  r.rowTexts ++ r.subs.flatMap Subroutine.rowTexts

theorem FileRecord.map_display_row (r : FileRecord) :
    (FileStat.ofRecord r).row.map Value.display = r.rowTexts := rfl

theorem Subroutine.map_display_row (s : Subroutine) : s.row.map Value.display = s.rowTexts := rfl

/-! ## Lines -/

/-- The lines of the table of files. -/
def fileTable (rs : List FileRecord) : List String :=
  if rs.isEmpty then [] else Table.framed fileColumns (rs.map FileRecord.rowTexts)

/-- The lines about a file of which some subroutines are listed: a blank line, its path, and a table
with a row for each of them. -/
def subBlock (path : String) (kept : List Subroutine) : List String :=
  if kept.isEmpty then []
  else "" :: ("Path: " ++ path) :: Table.framed subColumns (kept.map Subroutine.rowTexts)

variable {c : Settings} {rs : List FileRecord} {a : Analysis}

theorem flat_fileColumns : ∀ col ∈ fileColumns, Table.Flat col.title.toList := by decide

theorem flat_subColumns : ∀ col ∈ subColumns, Table.Flat col.title.toList := by decide

/-- Of the texts of a file, only its path stands at the left of a column. -/
theorem FileRecord.roomy_rowTexts {r : FileRecord} (h : Table.Roomy r.path.display.toList) :
    ∀ e ∈ fileColumns.zip (r.rowTexts.map String.toList), e.1.side = .left → Table.Roomy e.2 := by
  simp [fileColumns, rowTexts, h]

/-- Of the texts of a subroutine, only its name does. -/
theorem Subroutine.roomy_rowTexts {s : Subroutine} (h : Table.Roomy s.name.display.toList) :
    ∀ e ∈ subColumns.zip (s.rowTexts.map String.toList), e.1.side = .left → Table.Roomy e.2 := by
  simp [subColumns, rowTexts, h]

theorem summaryLines_of_flat (h : ∀ r ∈ rs, ∀ t ∈ r.rowTexts, Table.Flat t.toList)
    (hroom : ∀ r ∈ rs, Table.Roomy r.path.display.toList) :
    summaryLines (rs.map FileStat.ofRecord) = fileHeading ++ fileTable rs := by
  have hrows : ((rs.map FileStat.ofRecord).map FileStat.row).map (fun row => row.map Value.display) =
      rs.map FileRecord.rowTexts := by
    rw [List.map_map, List.map_map]
    exact List.map_congr_left fun r _ => r.map_display_row
  have hdraw : Table.draw fileColumns (rs.map FileRecord.rowTexts) =
      Table.framed fileColumns (rs.map FileRecord.rowTexts) :=
    Table.draw_of_flat (by decide) (by decide +kernel) (List.forall_mem_map.2 fun _ _ => rfl)
      (List.forall_mem_map.2 h) (List.forall_mem_map.2 fun r hr => r.roomy_rowTexts (hroom r hr))
  rw [summaryLines, fileTable, hrows, hdraw, List.isEmpty_map]

theorem pathLines_of_flat {path : Value} (h : Table.Flat path.display.toList) :
    pathLines path = ["Path: " ++ path.display] := by
  have hword : Table.Flat "Path: ".toList := by decide
  have hflat : Table.Flat ("Path: " ++ path.display).toList := by
    rw [String.toList_append]
    exact List.forall_mem_append.2 ⟨hword, h⟩
  have hlines : splitWhere (· = '\n') ("Path: " ++ path.display).toList =
      [("Path: " ++ path.display).toList] := by
    refine splitWhere_of_forall fun ch hch => decide_eq_false ?_
    rintro rfl
    exact hflat.newline_not_mem hch
  rw [pathLines, Table.dropSteering_of_flat hflat, hlines, List.map_singleton,
    Table.expandTabs_of_flat hflat, String.ofList_toList]

theorem fileBlock_of_flat {path : Value} {kept : List Subroutine}
    (hpath : Table.Flat path.display.toList)
    (hkept : ∀ s ∈ kept, ∀ t ∈ s.rowTexts, Table.Flat t.toList)
    (hroom : ∀ s ∈ kept, Table.Roomy s.name.display.toList) :
    fileBlock path kept = subBlock path.display kept := by
  have hrows : (kept.map Subroutine.row).map (fun row => row.map Value.display) =
      kept.map Subroutine.rowTexts := by
    rw [List.map_map]
    exact List.map_congr_left fun s _ => s.map_display_row
  have hdraw : Table.draw subColumns (kept.map Subroutine.rowTexts) =
      Table.framed subColumns (kept.map Subroutine.rowTexts) :=
    Table.draw_of_flat (by decide) (by decide +kernel) (List.forall_mem_map.2 fun _ _ => rfl)
      (List.forall_mem_map.2 hkept) (List.forall_mem_map.2 fun s hs => s.roomy_rowTexts (hroom s hs))
  rw [fileBlock, subBlock, subTable, hrows, hdraw, pathLines_of_flat hpath]
  rfl

/-- The subroutines that are listed for a file are among those that are listed at all. -/
theorem Settings.mem_retained_of_mem {r : FileRecord} (hr : r ∈ rs) {s : Subroutine}
    (hs : s ∈ r.subs.filter c.retains) : s ∈ c.retained rs := by
  obtain ⟨hs, hret⟩ := List.mem_filter.1 hs
  exact mem_retained_iff.2 ⟨⟨r, hr, hs⟩, hret⟩

/-- The rows of all tables of subroutines, from top to bottom. -/
theorem Settings.flatMap_retained {β : Type} (c : Settings) (rs : List FileRecord)
    (f : Subroutine → β) :
    (rs.flatMap fun r => (r.subs.filter c.retains).map f) = (c.retained rs).map f := by
  rw [retained, List.filter_flatMap, List.map_flatMap]

theorem newline_not_mem_subBlock {path : String} {kept : List Subroutine}
    (hpath : Table.Flat path.toList)
    (hkept : ∀ s ∈ kept, ∀ t ∈ s.rowTexts, Table.Flat t.toList) :
    ∀ line ∈ subBlock path kept, '\n' ∉ line.toList := by
  unfold subBlock
  split
  · exact List.forall_mem_nil _
  · refine List.forall_mem_cons.2 ⟨by decide, List.forall_mem_cons.2 ⟨?_, ?_⟩⟩
    · rw [String.toList_append, List.mem_append, not_or]
      exact ⟨by decide, hpath.newline_not_mem⟩
    · exact Table.newline_not_mem_framed flat_subColumns (List.forall_mem_map.2 hkept)

theorem newline_not_mem_fileTable (h : ∀ r ∈ rs, ∀ t ∈ r.rowTexts, Table.Flat t.toList) :
    ∀ line ∈ fileTable rs, '\n' ∉ line.toList := by
  unfold fileTable
  split
  · exact List.forall_mem_nil _
  · exact Table.newline_not_mem_framed flat_fileColumns (List.forall_mem_map.2 h)

/-- The lines of all tables, with the headings above them. -/
theorem Settings.tableLines_of_flat (c : Settings) (analysed : analyze rs = .ok a)
    (flatFiles : ∀ r ∈ rs, ∀ t ∈ r.rowTexts, Table.Flat t.toList)
    (flatSubs : ∀ s ∈ c.retained rs, ∀ t ∈ s.rowTexts, Table.Flat t.toList)
    (roomyPaths : ∀ r ∈ rs, Table.Roomy r.path.display.toList)
    (roomyNames : ∀ s ∈ c.retained rs, Table.Roomy s.name.display.toList) :
    c.tableLines a = fileHeading ++ fileTable rs ++ subHeading ++
      rs.flatMap fun r => subBlock r.path.display (r.subs.filter c.retains) := by
  have hblocks : (a.subStats.flatMap fun f => fileBlock f.1 (f.2.filter c.retains)) =
      rs.flatMap fun r => subBlock r.path.display (r.subs.filter c.retains) := by
    rw [subStats_of_analyze analysed, List.flatMap_map]
    refine List.flatMap_congr fun r hr => fileBlock_of_flat ?_ (fun s hs => ?_) fun s hs => ?_
    · exact flatFiles r hr r.path.display List.mem_cons_self
    · exact flatSubs s (mem_retained_of_mem hr hs)
    · exact roomyNames s (mem_retained_of_mem hr hs)
  rw [tableLines, sectionLines, fileStats_of_analyze analysed,
    summaryLines_of_flat flatFiles roomyPaths, hblocks]
  simp only [List.append_assoc]

/-- Without the filter all subroutines are listed. -/
theorem Settings.retained_of_all {c : Settings} (all : c.onlyErrors.truthy = false)
    (rs : List FileRecord) : c.retained rs = rs.flatMap FileRecord.subs :=
  List.filter_eq_self.2 fun _ _ => retains_of_all all

/-! ## Agreement -/

/-- Take a report that shows its tables, on records whose lines and complexities are numbers and
that can be analysed, with values that can be printed and written and flat texts, of which the paths
and the names are roomy.  It gets to its end.  What it writes are the heading of the files and a
table with a row for each record, unless there are none, then the heading of the subroutines and for
each file of which some are listed a blank line, its path and a table with a row for each of those,
and at last the document; all of these are single lines.  From top to bottom, the rows of subroutines
and the results of the document belong to the same subroutines, so that they have the same name, line
number and complexity.  If all subroutines are listed, the file table counts as many of them as there
are results.

Tables of a million cells and more, which the terminal would draw narrower, are left out of the
model.  A roomy text loses no white space, whether or not a terminal drops what of it has no room. -/
theorem report_tables_agree (c : Settings) (earlier : List Finding)
    (shown : c.machineOnly.truthy = false) (numeric : HasNumbers rs)
    (analysed : analyze rs = .ok a) (prints : c.Prints rs)
    (writable : ∀ s ∈ c.retained rs, Json.unwritable? s.lineNumber = none)
    (flatFiles : ∀ r ∈ rs, ∀ t ∈ r.rowTexts, Table.Flat t.toList)
    (flatSubs : ∀ s ∈ c.retained rs, ∀ t ∈ s.rowTexts, Table.Flat t.toList)
    (roomyPaths : ∀ r ∈ rs, Table.Roomy r.path.display.toList)
    (roomyNames : ∀ s ∈ c.retained rs, Table.Roomy s.name.display.toList) :
    let run := report c a earlier
    let kept (r : FileRecord) : List Subroutine := r.subs.filter c.retains
    run.failure = none ∧
      run.lines = fileHeading ++ fileTable rs ++ subHeading ++
        (rs.flatMap fun r => subBlock r.path.display (kept r)) ++ [Sarif.text run.findings] ∧
      (∀ line ∈ run.lines, '\n' ∉ line.toList) ∧
      (rs.flatMap fun r => (kept r).map Subroutine.rowTexts) =
        (c.retained rs).map Subroutine.rowTexts ∧
      run.findings = (c.retained rs).map Subroutine.finding ∧
      List.Forall₂ (fun row f => ∃ loc, row = [f.name, loc, f.line.display, f.complexity])
        (rs.flatMap fun r => (kept r).map Subroutine.rowTexts) run.findings ∧
      (c.onlyErrors.truthy = false →
        (rs.map FileRecord.subCount).sum = run.findings.length) := by
  have hlisted := Settings.listed_of_analyze (c := c) analysed
  have completes : c.Completes a := by
    obtain ⟨files, subs⟩ := (Settings.prints_iff numeric analysed).1 prints
    exact ⟨files, subs, hlisted ▸ writable⟩
  have hrun := report_of_completes completes earlier
  have hshown (lines : List String) : c.shown lines = lines :=
    if_neg (by rw [shown]; exact Bool.false_ne_true)
  have hrows := c.flatMap_retained rs Subroutine.rowTexts
  have hfindings : (report c a earlier).findings = (c.retained rs).map Subroutine.finding := by
    rw [hrun, hlisted]
  have hlines : (report c a earlier).lines = fileHeading ++ fileTable rs ++ subHeading ++
      (rs.flatMap fun r => subBlock r.path.display (r.subs.filter c.retains)) ++
        [Sarif.text ((c.retained rs).map Subroutine.finding)] := by
    rw [hrun, hlisted, hshown,
      c.tableLines_of_flat analysed flatFiles flatSubs roomyPaths roomyNames]
  refine ⟨?_, ?_, ?_, hrows, hfindings, ?_, fun all => ?_⟩
  · rw [hrun]
  · rw [hlines, hfindings]
  · rw [hlines]
    simp only [List.forall_mem_append, List.forall_mem_flatMap, List.forall_mem_singleton]
    refine ⟨⟨⟨⟨by decide, newline_not_mem_fileTable flatFiles⟩, by decide⟩, fun r hr => ?_⟩, ?_⟩
    · refine newline_not_mem_subBlock (flatFiles r hr r.path.display List.mem_cons_self) ?_
      exact fun s hs => flatSubs s (Settings.mem_retained_of_mem hr hs)
    · exact Sarif.newline_not_mem_text _
  · rw [hrows, hfindings, List.forall₂_map_left_iff, List.forall₂_map_right_iff, List.forall₂_same]
    exact fun s _ => ⟨s.lines.display, rfl⟩
  · rw [hfindings, List.length_map, Settings.retained_of_all all, List.length_flatMap]
    rfl

theorem report_tables_agree_sample :
    let c : Settings := { Settings.standard with onlyErrors := .bool true }
    c.machineOnly.truthy = false ∧ HasNumbers sampleRecords ∧ c.Prints sampleRecords ∧
      (∀ s ∈ c.retained sampleRecords, Json.unwritable? s.lineNumber = none) ∧
      (∀ r ∈ sampleRecords, ∀ t ∈ r.rowTexts, Table.Flat t.toList) ∧
      (∀ s ∈ c.retained sampleRecords, ∀ t ∈ s.rowTexts, Table.Flat t.toList) ∧
      (∀ r ∈ sampleRecords, Table.Roomy r.path.display.toList) ∧
      (∀ s ∈ c.retained sampleRecords, Table.Roomy s.name.display.toList) ∧
      ∃ a, analyze sampleRecords = .ok a ∧
        let run := report c a [⟨"99", "old", "file://old", .int 1⟩]
        run.failure = none ∧ run.findings.map Finding.name = ["edge", "edge", "large"] ∧
          run.lines = fileHeading ++ fileTable sampleRecords ++ subHeading ++
            (sampleRecords.flatMap fun r => subBlock r.path.display (r.subs.filter c.retains)) ++
              [Sarif.text run.findings] := by
  intro c
  have numeric : HasNumbers sampleRecords := by
    unfold HasNumbers
    decide
  obtain ⟨a, ha⟩ : ∃ a, analyze sampleRecords = .ok a :=
    exists_analyze_of_counts [60, 59, 60, 80, 90] [10, 90, 10, 9, 41] rfl rfl (by decide)
      (by decide) (.int 431) (.int 14) rfl (by decide +kernel)
  have prints : c.Prints sampleRecords := ⟨by decide +kernel, by decide +kernel⟩
  have writable : ∀ s ∈ c.retained sampleRecords, Json.unwritable? s.lineNumber = none := by
    decide +kernel
  have flatFiles : ∀ r ∈ sampleRecords, ∀ t ∈ r.rowTexts, Table.Flat t.toList := by
    decide +kernel
  have flatSubs : ∀ s ∈ c.retained sampleRecords, ∀ t ∈ s.rowTexts, Table.Flat t.toList := by
    decide +kernel
  have roomyPaths : ∀ r ∈ sampleRecords, Table.Roomy r.path.display.toList := by decide +kernel
  have roomyNames : ∀ s ∈ c.retained sampleRecords, Table.Roomy s.name.display.toList := by
    decide +kernel
  obtain ⟨ends, lines, -, -, findings, -⟩ :=
    report_tables_agree c [⟨"99", "old", "file://old", .int 1⟩] rfl numeric ha prints writable
      flatFiles flatSubs roomyPaths roomyNames
  refine ⟨rfl, numeric, prints, writable, flatFiles, flatSubs, roomyPaths, roomyNames, a, ha, ends,
    ?_, lines⟩
  rw [findings]
  decide +kernel

/-- Texts without line feeds, tabs and steering characters are not enough.  With a set for a line
number a report ends with its last table and without a document.  And with a line separator in a
name, which counts as the end of a line when the table is laid out but not when it is drawn, the row
of the table shows the beginning of the name only. -/
theorem report_tables_differ :
    let allowed (r : FileRecord) : Prop := ∀ t ∈ r.shownTexts,
      t.toList.all fun ch => ch ≠ '\n' && ch ≠ '\t' && !isSteering ch
    (∃ a, allowed (recordWith (.text "f") (.set [.int 1])) ∧
      HasNumbers [recordWith (.text "f") (.set [.int 1])] ∧
      analyze [recordWith (.text "f") (.set [.int 1])] = .ok a ∧
      (report .standard a []).failure = some .wrongKind ∧
      (report .standard a []).lines.getLast? =
        some "+------------------------------------------------+") ∧
    ∃ a, allowed (recordWith (.text "alpha\u2028omega") (.int 1)) ∧
      HasNumbers [recordWith (.text "alpha\u2028omega") (.int 1)] ∧
      analyze [recordWith (.text "alpha\u2028omega") (.int 1)] = .ok a ∧
      (report .standard a []).failure = none ∧
      (report .standard a []).findings.map Finding.name = ["alpha\u2028omega"] ∧
      (report .standard a []).lines.length = 19 ∧
      (report .standard a []).lines[16]? =
        some "| alpha\u2028… |   1 |           1 |                 1 |" := by
  have numeric : ∀ name line, HasNumbers [recordWith name line] := by
    intro name line r hr s hs
    rw [List.mem_singleton.1 hr] at hs
    rw [List.mem_singleton.1 hs]
    exact ⟨rfl, rfl⟩
  constructor
  · have outcome : (analyze [recordWith (.text "f") (.set [.int 1])]).toOption.map
        (fun a => let r := report .standard a []
          (r.failure, r.lines.getLast?)) =
          some (some .wrongKind, some "+------------------------------------------------+") := by
      decide +kernel
    obtain ⟨a, ha, h⟩ := exists_of_toOption_map_eq_some outcome
    simp only [Prod.mk.injEq] at h
    exact ⟨a, by decide +kernel, numeric _ _, ha, h⟩
  · have outcome : (analyze [recordWith (.text "alpha\u2028omega") (.int 1)]).toOption.map
        (fun a => let r := report .standard a []
          (r.failure, r.findings.map Finding.name, r.lines.length, r.lines[16]?)) =
          some (none, ["alpha\u2028omega"], 19,
            some "| alpha\u2028… |   1 |           1 |                 1 |") := by
      decide +kernel
    obtain ⟨a, ha, h⟩ := exists_of_toOption_map_eq_some outcome
    simp only [Prod.mk.injEq] at h
    exact ⟨a, by decide +kernel, numeric _ _, ha, h⟩

end CodeMetrics

import CodeMetrics.Report.Basic
import CodeMetrics.Proofs.Diagnostics.Sarif
import CodeMetrics.Proofs.Report.Section

/-!
# How a report ends

A report begins a new document, and from then on what it does depends on the analysis alone.  This
file gives the findings that a report leaves behind however it ends (`report_findings`), of what its
lines are a front then (`report_lines_isPrefix`), the exact condition under which it gets to its end
(`report_failure_eq_none_iff`), and everything it wrote and logged when it did
(`report_of_completes`).
-/

namespace CodeMetrics

/-! ## The table of files -/

/-- The lines of a table of files, under their heading. -/
def summaryLines (stats : List FileStat) : List String :=
  fileHeading ++
    if stats.isEmpty then []
    else Table.draw fileColumns ((stats.map FileStat.row).map fun row => row.map Value.display)

/-- The table of files can be printed: it is not asked for, or each cell is short enough. -/
def Settings.summarizes (c : Settings) (stats : List FileStat) : Bool :=
  c.machineOnly.truthy || stats.all fun s => s.row.all Value.printable

variable {c : Settings}

theorem Settings.summarizes_iff {stats : List FileStat} :
    c.summarizes stats ↔
      c.machineOnly.truthy ∨ ∀ s ∈ stats, s.row.all Value.printable := by
  unfold summarizes
  rw [Bool.or_eq_true, List.all_eq_true]

theorem reportSummary_of_summarizes {stats : List FileStat} (h : c.summarizes stats)
    (findings : List Finding) :
    reportSummary c stats findings = .write findings (c.shown (summaryLines stats)) := by
  rw [Settings.summarizes_iff] at h
  unfold reportSummary summaryLines
  rw [Settings.print_eq, Run.write_andThen, Settings.shown_append]
  rcases hm : c.machineOnly.truthy with _ | _
  · have hs : ∀ ls, c.shown ls = ls := fun ls => by rw [Settings.shown, hm]; rfl
    rw [Bool.or_false, hs, hs]
    split
    · rfl
    · have hrows : ∀ row ∈ stats.map FileStat.row, row.all Value.printable := by
        rintro _ hrow
        obtain ⟨s, hmem, rfl⟩ := List.mem_map.1 hrow
        exact h.resolve_left (by rw [hm]; exact Bool.false_ne_true) s hmem
      rw [valueTable_of_printable hrows]
      rfl
  · rw [Bool.or_true, if_pos rfl]
    have hs : ∀ ls, c.shown ls = [] := fun ls => by rw [Settings.shown, hm]; rfl
    rw [hs, hs]
    rfl

theorem reportSummary_of_not_summarizes {stats : List FileStat} (h : c.summarizes stats = false)
    (findings : List Finding) :
    reportSummary c stats findings = ⟨fileHeading, [], findings, some .badValue⟩ := by
  unfold Settings.summarizes at h
  rw [Bool.or_eq_false_iff] at h
  obtain ⟨hm, h⟩ := h
  have hne : stats.isEmpty = false := by
    cases stats with
    | nil => cases h
    | cons s rest => rfl
  have hrows : ¬ ∀ row ∈ stats.map FileStat.row, row.all Value.printable := by
    intro ha
    rw [← Bool.not_eq_true, List.all_eq_true] at h
    exact h fun s hs => ha _ (List.mem_map_of_mem hs)
  unfold reportSummary
  rw [Settings.print_eq, Run.write_andThen, valueTable_of_not_printable hrows, hne, hm,
    Settings.shown, hm]
  rfl

theorem reportSummary_failure_eq_none_iff {stats : List FileStat} {findings : List Finding} :
    (reportSummary c stats findings).failure = none ↔ c.summarizes stats := by
  rcases h : c.summarizes stats with _ | _
  · rw [reportSummary_of_not_summarizes h]
    exact iff_of_false nofun Bool.false_ne_true
  · rw [reportSummary_of_summarizes h]
    exact iff_of_true rfl rfl

/-- The table of files adds no findings and no entries. -/
theorem reportSummary_findings (c : Settings) (stats : List FileStat) (findings : List Finding) :
    (reportSummary c stats findings).findings = findings ∧
      (reportSummary c stats findings).log = [] := by
  rcases h : c.summarizes stats with _ | _
  · rw [reportSummary_of_not_summarizes h]
    exact ⟨rfl, rfl⟩
  · rw [reportSummary_of_summarizes h]
    exact ⟨rfl, rfl⟩

/-! ## The document -/

theorem writeDocument_of_writable {findings : List Finding}
    (h : ∀ f ∈ findings, Json.unwritable? f.line = none) :
    writeDocument findings = .write findings [Sarif.text findings] := by
  unfold writeDocument
  rw [Sarif.line_of_writable h]

theorem writeDocument_failure_eq_none_iff {findings : List Finding} :
    (writeDocument findings).failure = none ↔
      ∀ f ∈ findings, Json.unwritable? f.line = none := by
  by_cases h : ∀ f ∈ findings, Json.unwritable? f.line = none
  · rw [writeDocument_of_writable h]
    exact iff_of_true rfl h
  · obtain ⟨b, hb⟩ := Sarif.line_of_not_writable h
    unfold writeDocument
    rw [hb]
    exact iff_of_false nofun h

theorem writeDocument_findings (findings : List Finding) :
    (writeDocument findings).findings = findings ∧ (writeDocument findings).log = [] := by
  unfold writeDocument
  split <;> exact ⟨rfl, rfl⟩

theorem writeDocument_lines_isPrefix (findings : List Finding) :
    (writeDocument findings).lines <+: [Sarif.text findings] := by
  by_cases h : ∀ f ∈ findings, Json.unwritable? f.line = none
  · rw [writeDocument_of_writable h]
    exact List.prefix_refl _
  · obtain ⟨b, hb⟩ := Sarif.line_of_not_writable h
    rw [writeDocument, hb]
    exact List.nil_prefix

/-! ## The report -/

/-- The subroutines that the report lists, file by file. -/
def Settings.listed (c : Settings) (a : Analysis) : List Subroutine :=
  a.subStats.flatMap fun f => f.2.filter c.retains

/-- The report on an analysis gets to its end: its tables can be printed, every file is completed,
and the line number of each listed subroutine can be written into the document. -/
structure Settings.Completes (c : Settings) (a : Analysis) : Prop where
  files : c.summarizes a.fileStats
  subs : ∀ f ∈ a.subStats, c.completes f.1 f.2
  lineNumbers : ∀ s ∈ c.listed a, Json.unwritable? s.lineNumber = none

/-- What a report writes for people to read. -/
def Settings.tableLines (c : Settings) (a : Analysis) : List String :=
  summaryLines a.fileStats ++ c.sectionLines a.subStats

/-- The steps of a report after the first. -/
theorem report_eq (c : Settings) (a : Analysis) (earlier : List Finding) :
    report c a earlier =
      let r := (reportSummary c a.fileStats []).andThen fun findings =>
        (reportSection c a.subStats findings).andThen writeDocument
      { r with log := Sarif.beginEntries earlier ++ r.log } := rfl

/-- A report whose table of files can be printed: after it come the section and the document. -/
theorem report_of_summarizes {a : Analysis} (h : c.summarizes a.fileStats)
    (earlier : List Finding) :
    report c a earlier =
      let rest := (reportSection c a.subStats []).andThen writeDocument
      ⟨c.shown (summaryLines a.fileStats) ++ rest.lines, Sarif.beginEntries earlier ++ rest.log,
        rest.findings, rest.failure⟩ := by
  rw [report_eq, reportSummary_of_summarizes h, Run.write_andThen]

/-- However a report ends, its findings are those of the subroutines that it forwarded. -/
theorem report_findings (c : Settings) (a : Analysis) (earlier : List Finding) :
    (report c a earlier).findings =
      if c.summarizes a.fileStats then (c.forwardedOf a.subStats).map Subroutine.finding
      else [] := by
  split
  · next h =>
    rw [report_of_summarizes h]
    have hs := reportSection_findings c a.subStats []
    rw [List.nil_append] at hs
    dsimp only
    rcases hf : (reportSection c a.subStats []).failure with _ | b
    · rw [Run.andThen_of_end hf]
      exact (writeDocument_findings _).1.trans hs
    · rw [Run.andThen_of_failure hf]
      exact hs
  · next h =>
    rw [report_eq, reportSummary_of_not_summarizes (Bool.eq_false_iff.2 h),
      Run.andThen_of_failure rfl]

/-- A report writes its tables from the top and then the document, up to where it ends. -/
theorem report_lines_isPrefix (c : Settings) (a : Analysis) (earlier : List Finding) :
    ∃ findings, (report c a earlier).lines <+: c.shown (c.tableLines a) ++ [Sarif.text findings] := by
  rw [Settings.tableLines, Settings.shown_append]
  cases hs : c.summarizes a.fileStats with
  | false =>
    refine ⟨[], ?_⟩
    have hshown : c.shown (summaryLines a.fileStats) = summaryLines a.fileStats := by
      refine if_neg fun hm => ?_
      rw [Settings.summarizes, hm] at hs
      cases hs
    rw [report_eq, reportSummary_of_not_summarizes hs, Run.andThen_of_failure rfl, hshown,
      summaryLines, List.append_assoc, List.append_assoc]
    exact List.prefix_append _ _
  | true =>
    rw [report_of_summarizes hs]
    dsimp only
    simp only [List.append_assoc, List.prefix_append_right_inj]
    cases hf : (reportSection c a.subStats []).failure with
    | none =>
      refine ⟨(reportSection c a.subStats []).findings, ?_⟩
      have hlines : (reportSection c a.subStats []).lines = c.shown (c.sectionLines a.subStats) := by
        rw [reportSection_of_completes (reportSection_failure_eq_none_iff.1 hf)]
      rw [Run.andThen_of_end hf, hlines]
      exact (List.prefix_append_right_inj _).2 (writeDocument_lines_isPrefix _)
    | some b =>
      refine ⟨[], ?_⟩
      rw [Run.andThen_of_failure hf]
      exact (reportSection_lines_isPrefix c a.subStats []).trans (List.prefix_append _ _)

/-- After the entries about the new document, a report logs details only. -/
theorem report_log (c : Settings) (a : Analysis) (earlier : List Finding) :
    ∃ details, (report c a earlier).log = Sarif.beginEntries earlier ++ details ∧
      ∀ e ∈ details, e.level = .debug := by
  rw [report_eq]
  refine ⟨_, rfl, Run.forall_log_andThen ?_ fun findings => Run.forall_log_andThen ?_ ?_⟩
  · rw [(reportSummary_findings c a.fileStats []).2]
    exact nofun
  · exact reportSection_log_level c a.subStats findings
  · intro fs
    rw [(writeDocument_findings fs).2]
    exact nofun

theorem forall_listed_iff {a : Analysis} :
    (∀ f ∈ (c.listed a).map Subroutine.finding, Json.unwritable? f.line = none) ↔
      ∀ s ∈ c.listed a, Json.unwritable? s.lineNumber = none :=
  List.forall_mem_map

theorem report_failure_eq_none_iff {a : Analysis} {earlier : List Finding} :
    (report c a earlier).failure = none ↔ c.Completes a := by
  rw [report_eq]
  dsimp only
  rw [Run.failure_andThen_eq_none_iff, reportSummary_failure_eq_none_iff,
    (reportSummary_findings c a.fileStats []).1, Run.failure_andThen_eq_none_iff,
    reportSection_failure_eq_none_iff, writeDocument_failure_eq_none_iff, reportSection_findings,
    List.nil_append]
  constructor
  · rintro ⟨hf, hs, hl⟩
    rw [Settings.forwardedOf_of_completes hs] at hl
    exact ⟨hf, hs, forall_listed_iff.1 hl⟩
  · rintro ⟨hf, hs, hl⟩
    rw [Settings.forwardedOf_of_completes hs]
    exact ⟨hf, hs, forall_listed_iff.2 hl⟩

/-- A report that gets to its end: its tables as far as they are asked for, and after them the
document with a finding for each listed subroutine. -/
theorem report_of_completes {a : Analysis} (h : c.Completes a) (earlier : List Finding) :
    report c a earlier =
      ⟨c.shown (c.tableLines a) ++ [Sarif.text ((c.listed a).map Subroutine.finding)],
        Sarif.beginEntries earlier ++
          a.subStats.flatMap fun f => forwardEntries (f.2.filter c.retains),
        (c.listed a).map Subroutine.finding, none⟩ := by
  obtain ⟨hf, hs, hl⟩ := h
  have hw := writeDocument_of_writable (forall_listed_iff.2 hl)
  rw [report_of_summarizes hf, reportSection_of_completes hs, Run.andThen_of_end rfl]
  simp only [List.nil_append]
  unfold Settings.listed at hw ⊢
  rw [hw, Settings.tableLines, Settings.shown_append]
  simp [Run.write]

end CodeMetrics

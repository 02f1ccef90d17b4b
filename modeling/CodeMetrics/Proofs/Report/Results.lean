import CodeMetrics.Proofs.Corpus.Analysis
import CodeMetrics.Proofs.Record.Reader
import CodeMetrics.Proofs.Report.Ending

/-!
# The results of a report on records

A report on the analysis of some records leaves behind one finding for each subroutine that the
settings retain, file by file and in the order of each file, and nothing from before
(`report_results`).  That holds whenever the values it has to print are short enough; the document
is written as its last line exactly when, besides, JSON has a form for each line number that goes
into it.  Nothing checks the fields of a record, so neither can be left out
(`report_without_document`).
-/

namespace CodeMetrics

variable {c : Settings} {rs : List FileRecord} {a : Analysis}

/-- The subroutines of some records that the report lists. -/
def Settings.retained (c : Settings) (rs : List FileRecord) : List Subroutine :=
  (rs.flatMap FileRecord.subs).filter c.retains

/-- The values that a report on some records has to print are short enough to be written: the cells
of the table of files, if it is asked for, and the fields of the listed subroutines. -/
structure Settings.Prints (c : Settings) (rs : List FileRecord) : Prop where
  files : c.machineOnly.truthy = false →
    ∀ r ∈ rs, (FileStat.ofRecord r).row.all Value.printable
  subs : ∀ s ∈ c.retained rs, s.recordable ∧ s.tabulates

/-- The fields of all subroutines that are compared with thresholds are numbers. -/
def HasNumbers (rs : List FileRecord) : Prop :=
  ∀ r ∈ rs, ∀ s ∈ r.subs, s.lines.number?.isSome ∧ s.complexity.number?.isSome

theorem Settings.mem_retained_iff {s : Subroutine} :
    s ∈ c.retained rs ↔ (∃ r ∈ rs, s ∈ r.subs) ∧ c.retains s := by
  rw [retained, List.mem_filter, List.mem_flatMap]

theorem Settings.listed_of_analyze (h : analyze rs = .ok a) : c.listed a = c.retained rs := by
  rw [listed, retained, subStats_of_analyze h, List.flatMap_map, List.filter_flatMap]

/-! ## What stands in the way -/

theorem Subroutine.prints_of_fields {s : Subroutine} (h : ∀ v ∈ s.fields, v.printable) :
    s.recordable ∧ s.tabulates := by
  simp only [fields, List.forall_mem_cons] at h
  obtain ⟨name, path, line, lines, complexity, -⟩ := h
  constructor
  · simp only [recordable, name, path, complexity, Bool.and_true]
  · simp only [tabulates, row, List.all_cons, List.all_nil, name, line, lines, complexity,
      Bool.and_true]

theorem Settings.summarizes_of_analyze (h : analyze rs = .ok a) :
    c.summarizes a.fileStats ↔ c.machineOnly.truthy ∨
      ∀ r ∈ rs, (FileStat.ofRecord r).row.all Value.printable := by
  rw [summarizes_iff, fileStats_of_analyze h, List.forall_mem_map]

/-- With numbers to compare, only a value that is too long stops the report at a subroutine. -/
theorem Settings.clears_iff_of_numbers {s : Subroutine} (hl : s.lines.number?.isSome)
    (hc : s.complexity.number?.isSome) : c.clears s ↔ (c.retains s → s.recordable) := by
  rw [clears, judges_of_numbers hl hc, Bool.true_and, Bool.or_eq_true, Bool.not_eq_true']
  rcases c.retains s with _ | _
  · exact iff_of_true (.inl rfl) nofun
  · exact ⟨fun h _ => h.resolve_left nofun, fun h => .inr (h rfl)⟩

/-- Both tables of a report can be printed exactly when all values in them are short enough. -/
theorem Settings.prints_iff (numeric : HasNumbers rs) (analysed : analyze rs = .ok a) :
    c.Prints rs ↔
      c.summarizes a.fileStats ∧ ∀ f ∈ a.subStats, c.completes f.1 f.2 := by
  rw [summarizes_of_analyze analysed, subStats_of_analyze analysed, List.forall_mem_map]
  constructor
  · rintro ⟨files, subs⟩
    have hf : c.machineOnly.truthy ∨
        ∀ r ∈ rs, (FileStat.ofRecord r).row.all Value.printable := by
      rcases hm : c.machineOnly.truthy with _ | _
      · exact .inr (files hm)
      · exact .inl rfl
    refine ⟨hf, fun r hr => completes_iff.2 ⟨fun s hs => ?_, fun s hs => ?_, ?_⟩⟩
    · obtain ⟨hl, hc⟩ := numeric r hr s hs
      exact (clears_iff_of_numbers hl hc).2 fun h => (subs s (mem_retained_iff.2 ⟨⟨r, hr, hs⟩, h⟩)).1
    · obtain ⟨hs, h⟩ := List.mem_filter.1 hs
      exact (subs s (mem_retained_iff.2 ⟨⟨r, hr, hs⟩, h⟩)).2
    · refine hf.imp_right fun h => .inr ?_
      have hrow := List.all_eq_true.1 (h r hr)
      exact hrow r.path (List.mem_cons_self ..)
  · rintro ⟨hf, hs⟩
    refine ⟨fun hm => hf.resolve_left (by rw [hm]; exact Bool.false_ne_true), fun s h => ?_⟩
    obtain ⟨⟨r, hr, hsub⟩, hret⟩ := mem_retained_iff.1 h
    obtain ⟨hl, hc⟩ := numeric r hr s hsub
    obtain ⟨hclears, htab, -⟩ := completes_iff.1 (hs r hr)
    exact ⟨(clears_iff_of_numbers hl hc).1 (hclears s hsub) hret,
      htab s (List.mem_filter.2 ⟨hsub, hret⟩)⟩

/-! ## The results -/

/-- Take records whose lines and complexities are numbers and that can be analysed, and any findings
from before.  If all values to print are short enough, the findings after the report are those of
the retained subroutines, one each and in order.  The report gets to its end exactly when, besides,
the line number of each of them can be written; the last line is then the document with these
findings. -/
theorem report_results (c : Settings) (earlier : List Finding) (numeric : HasNumbers rs)
    (analysed : analyze rs = .ok a) :
    (c.Prints rs →
      (report c a earlier).findings = (c.retained rs).map Subroutine.finding) ∧
    ((report c a earlier).failure = none ↔
      c.Prints rs ∧ ∀ s ∈ c.retained rs, Json.unwritable? s.lineNumber = none) ∧
    ((report c a earlier).failure = none →
      ∃ line, Sarif.line ((c.retained rs).map Subroutine.finding) = .ok line ∧
        (report c a earlier).lines.getLast? = some line) := by
  have hlisted := Settings.listed_of_analyze (c := c) analysed
  refine ⟨fun h => ?_, ?_, fun h => ?_⟩
  · obtain ⟨hf, hs⟩ := (Settings.prints_iff numeric analysed).1 h
    rw [report_findings, if_pos hf, Settings.forwardedOf_of_completes hs, ← hlisted]
    rfl
  · rw [report_failure_eq_none_iff, Settings.prints_iff numeric analysed, ← hlisted]
    exact ⟨fun h => ⟨⟨h.files, h.subs⟩, h.lineNumbers⟩, fun h => ⟨h.1.1, h.1.2, h.2⟩⟩
  · have hc := report_failure_eq_none_iff.1 h
    rw [report_of_completes hc, ← hlisted]
    exact ⟨_, Sarif.line_of_writable (forall_listed_iff.2 hc.lineNumbers), List.getLast?_concat⟩

/-- Records of which two have the same path and one has no subroutines; the first and the third
subroutine are equal and lie exactly on the standard thresholds. -/
def sampleRecords : List FileRecord :=
  let sub (name : String) (lines complexity : Int) : Subroutine :=
    ⟨.text name, .text "lib/A.pm", .int 7, .int lines, .int complexity⟩
  [⟨.text "lib/A.pm", .int 250, [], [sub "edge" 60 10, sub "short" 59 90, sub "edge" 60 10],
      .ofLines (.int 3)⟩,
    ⟨.text "lib/B.pm", .int 1, [], [], .ofLines (.int 1)⟩,
    ⟨.text "lib/A.pm", .int 180, [.text "A"], [sub "plain" 80 9, sub "large" 90 41],
      .ofLines (.int 10)⟩]

theorem report_results_sample :
    HasNumbers sampleRecords ∧ ∃ a, analyze sampleRecords = .ok a ∧
      let c : Settings := { Settings.standard with onlyErrors := .bool true }
      let r := report c a [⟨"99", "old", "file://old", .int 1⟩]
      r.failure = none ∧ r.findings.map Finding.name = ["edge", "edge", "large"] ∧
        ∃ line, Sarif.line r.findings = .ok line ∧ r.lines.getLast? = some line := by
  have numeric : HasNumbers sampleRecords := by
    unfold HasNumbers
    decide
  obtain ⟨a, ha⟩ : ∃ a, analyze sampleRecords = .ok a :=
    exists_analyze_of_counts [60, 59, 60, 80, 90] [10, 90, 10, 9, 41] rfl rfl (by decide)
      (by decide) (.int 431) (.int 14) rfl (by decide +kernel)
  let c : Settings := { Settings.standard with onlyErrors := .bool true }
  have prints : c.Prints sampleRecords := ⟨by decide +kernel, by decide +kernel⟩
  obtain ⟨results, ending, last⟩ :=
    report_results c [⟨"99", "old", "file://old", .int 1⟩] numeric ha
  have succeeds := ending.2 ⟨prints, by decide +kernel⟩
  refine ⟨numeric, a, ha, succeeds, ?_, ?_⟩
  · rw [results prints]
    decide +kernel
  · rw [results prints]
    exact last succeeds

/-- A record with one subroutine on line `line` that goes by the name `name`. -/
def recordWith (name line : Value) : FileRecord :=
  ⟨.text "a.pl", .int 2, [], [⟨name, .text "a.pl", line, .int 1, .int 1⟩], .ofLines (.int 1)⟩

/-- Numbers to compare and an analysis are not enough: with a set for a line number the finding is
made but no document is written, and with a name of too many digits there is not even a finding. -/
theorem report_without_document :
    (∃ a, HasNumbers [recordWith (.text "f") (.set [.int 1])] ∧
      analyze [recordWith (.text "f") (.set [.int 1])] = .ok a ∧
      (report .standard a []).findings.length = 1 ∧
      (report .standard a []).failure = some .wrongKind ∧
      ¬ ∃ line, Sarif.line (report .standard a []).findings = .ok line ∧
        (report .standard a []).lines.getLast? = some line) ∧
    ∃ a, HasNumbers [recordWith (.int Value.unwritable) (.int 1)] ∧
      analyze [recordWith (.int Value.unwritable) (.int 1)] = .ok a ∧
      (report .standard a []).findings = [] ∧
      (report .standard a []).failure = some .badValue := by
  have numeric : ∀ name line, HasNumbers [recordWith name line] := by
    intro name line r hr s hs
    rw [List.mem_singleton.1 hr] at hs
    rw [List.mem_singleton.1 hs]
    exact ⟨rfl, rfl⟩
  constructor
  · have outcome : (analyze [recordWith (.text "f") (.set [.int 1])]).toOption.map
        (fun a => let r := report .standard a []
          (r.findings.length, r.failure, (Sarif.line r.findings).toOption)) =
          some (1, some .wrongKind, none) := by
      decide +kernel
    obtain ⟨a, ha, h⟩ := exists_of_toOption_map_eq_some outcome
    simp only [Prod.mk.injEq] at h
    obtain ⟨count, failure, unwritten⟩ := h
    refine ⟨a, numeric _ _, ha, count, failure, ?_⟩
    rintro ⟨line, written, -⟩
    rw [written] at unwritten
    cases unwritten
  · have outcome : (analyze [recordWith (.int Value.unwritable) (.int 1)]).toOption.map
        (fun a => let r := report .standard a []
          (r.findings.isEmpty, r.failure)) = some (true, some .badValue) := by
      decide +kernel
    obtain ⟨a, ha, h⟩ := exists_of_toOption_map_eq_some outcome
    simp only [Prod.mk.injEq] at h
    exact ⟨a, numeric _ _, ha, List.isEmpty_iff.1 h.1, h.2⟩

end CodeMetrics

import CodeMetrics.Proofs.Report.Results
import Mathlib.Data.List.Basic

/-!
# Reports under different thresholds

Higher thresholds let more subroutines pass, so a report lists fewer of them, in the same order; a
report without the filter lists them all.  A subroutine that passes leaves no trace in the section:
the section on the records without it is the same run (`reportSection_filter_retains`).
-/

namespace CodeMetrics

/-! ## Passing -/

theorem Value.isBelow_mono {v : Value} {m n : Nat} (h : m ≤ n) (hv : v.isBelow m) :
    v.isBelow n := by
  unfold isBelow at hv ⊢
  split at hv
  · exact Number.before_int_mono h hv
  · cases hv

/-- A number from zero on is not below zero. -/
theorem Value.isBelow_natCast_zero (n : Nat) : (Value.int n).isBelow 0 = false := by
  rw [isBelow_int]
  exact decide_eq_false (by omega)

namespace Settings

/-- The subroutine passes: it is below one of the thresholds. -/
def passing (c : Settings) (s : Subroutine) : Bool :=
  s.lines.isBelow c.maxLines || s.complexity.isBelow c.maxComplexity

variable {c low high : Settings} {s : Subroutine}

theorem retains_of_onlyErrors (h : c.onlyErrors.truthy) : c.retains s = !c.passing s := by
  unfold retains passing
  rw [h, Bool.not_true, Bool.false_or, Bool.not_or]

theorem passing_mono (hl : low.maxLines ≤ high.maxLines)
    (hc : low.maxComplexity ≤ high.maxComplexity) (h : low.passing s) : high.passing s := by
  unfold passing at h ⊢
  rw [Bool.or_eq_true] at h ⊢
  exact h.imp (Value.isBelow_mono hl) (Value.isBelow_mono hc)

/-- What is retained under higher thresholds is retained under lower ones. -/
theorem retains_anti (hlow : low.onlyErrors.truthy) (hhigh : high.onlyErrors.truthy)
    (hl : low.maxLines ≤ high.maxLines) (hc : low.maxComplexity ≤ high.maxComplexity)
    (h : high.retains s) : low.retains s := by
  rw [retains_of_onlyErrors hhigh, Bool.not_eq_true'] at h
  rw [retains_of_onlyErrors hlow, Bool.not_eq_true']
  exact Bool.eq_false_iff.2 fun hs => Bool.eq_false_iff.1 h (passing_mono hl hc hs)

end Settings

/-! ## Findings under other settings -/

section

variable {c d : Settings} {rs : List FileRecord} {a : Analysis}

/-- However far a report gets, it forwards no more than the retained subroutines of its files. -/
theorem Settings.forwardedOf_sublist (c : Settings) (files : List (Value × List Subroutine)) :
    (c.forwardedOf files).Sublist (files.flatMap fun f => f.2.filter c.retains) := by
  induction files with
  | nil => exact List.Sublist.refl _
  | cons f rest ih =>
    have hforwarded : (c.forwarded f.2).Sublist (f.2.filter c.retains) :=
      (List.takeWhile_sublist _).filter _
    rw [forwardedOf, List.flatMap_cons]
    refine hforwarded.append ?_
    split
    · exact ih
    · exact List.nil_sublist _

theorem report_findings_sublist (analysed : analyze rs = .ok a) (earlier : List Finding) :
    (report c a earlier).findings.Sublist ((c.retained rs).map Subroutine.finding) := by
  rw [report_findings, ← Settings.listed_of_analyze analysed]
  split
  · exact (c.forwardedOf_sublist a.subStats).map _
  · exact List.nil_sublist _

/-- A report whose values can all be printed forwards each retained subroutine. -/
theorem report_findings_of_prints (numeric : HasNumbers rs) (analysed : analyze rs = .ok a)
    (prints : c.Prints rs) (earlier : List Finding) :
    (report c a earlier).findings = (c.retained rs).map Subroutine.finding := by
  obtain ⟨hfiles, hsubs⟩ := (Settings.prints_iff numeric analysed).1 prints
  rw [report_findings, if_pos hfiles, Settings.forwardedOf_of_completes hsubs,
    ← Settings.listed_of_analyze analysed]
  rfl

/-- The findings under settings that retain less are some of those under settings that retain more
and can print what they retain. -/
theorem report_findings_anti (numeric : HasNumbers rs) (analysed : analyze rs = .ok a)
    (h : ∀ s, d.retains s → c.retains s) (prints : c.Prints rs) (earlier earlier' : List Finding) :
    (report d a earlier').findings.Sublist (report c a earlier).findings := by
  have hretained : (d.retained rs).Sublist (c.retained rs) := List.monotone_filter_right _ h
  rw [report_findings_of_prints numeric analysed prints]
  exact (report_findings_sublist analysed earlier').trans (hretained.map _)

end

/-! ## Leaving out what passes -/

section

variable {c : Settings} {subs : List Subroutine} {files : List (Value × List Subroutine)}

/-- A subroutine that can be judged and is not retained leaves no trace in the selection. -/
theorem select_filter_retains (h : ∀ s ∈ subs, c.judges s) (findings : List Finding) :
    select c findings (subs.filter c.retains) = select c findings subs := by
  induction subs generalizing findings with
  | nil => rfl
  | cons s rest ih =>
    obtain ⟨hs, h⟩ := List.forall_mem_cons.1 h
    rcases hr : c.retains s with _ | _
    · have hclears : c.clears s := by rw [Settings.clears, hs, hr]; rfl
      rw [List.filter_cons_of_neg (Bool.eq_false_iff.1 hr), ih h,
        select_cons_of_not_retains hclears hr]
    · rw [List.filter_cons_of_pos hr, select, select, Settings.leavesOut_of_judges hs, hr]
      simp only [Bool.not_true, ih h]

theorem reportFile_filter_retains (path : Value) (h : ∀ s ∈ subs, c.judges s)
    (findings : List Finding) :
    reportFile c path (subs.filter c.retains) findings = reportFile c path subs findings := by
  unfold reportFile
  rw [select_filter_retains h]

theorem reportFiles_filter_retains (h : ∀ f ∈ files, ∀ s ∈ f.2, c.judges s)
    (findings : List Finding) :
    reportFiles c (files.map fun f => (f.1, f.2.filter c.retains)) findings =
      reportFiles c files findings := by
  induction files generalizing findings with
  | nil => rfl
  | cons f rest ih =>
    obtain ⟨hf, h⟩ := List.forall_mem_cons.1 h
    rw [List.map_cons, reportFiles, reportFiles, reportFile_filter_retains f.1 hf]
    exact congrArg _ (funext (ih h))

theorem reportSection_filter_retains (h : ∀ f ∈ files, ∀ s ∈ f.2, c.judges s)
    (findings : List Finding) :
    reportSection c (files.map fun f => (f.1, f.2.filter c.retains)) findings =
      reportSection c files findings := by
  rw [reportSection_eq, reportSection_eq, reportFiles_filter_retains h]

end

/-! ## Reports -/

/-- The record without its subroutines that pass. -/
def FileRecord.withoutPassing (c : Settings) (r : FileRecord) : FileRecord :=
  { r with subs := r.subs.filter fun s => !c.passing s }

section

variable {c : Settings} {rs : List FileRecord} {a b : Analysis}

theorem Settings.subStats_withoutPassing (h : c.onlyErrors.truthy) (analysed : analyze rs = .ok a)
    (stripped : analyze (rs.map (FileRecord.withoutPassing c)) = .ok b) :
    b.subStats = a.subStats.map fun f => (f.1, f.2.filter c.retains) := by
  have hretains : c.retains = fun s => !c.passing s := funext fun _ => c.retains_of_onlyErrors h
  rw [subStats_of_analyze stripped, subStats_of_analyze analysed, List.map_map, List.map_map,
    hretains]
  rfl

/-- A count that is no greater is no longer either. -/
theorem Value.printable_of_le {m n : Nat} (h : m ≤ n) (hn : (Value.int n).printable) :
    (Value.int m).printable := by
  rw [Value.printable, decide_eq_true_eq, Int.natAbs_natCast] at hn ⊢
  exact h.trans_lt hn

/-- The table of files can be printed for fewer subroutines if it can be for all. -/
theorem Settings.summarizes_withoutPassing (analysed : analyze rs = .ok a)
    (stripped : analyze (rs.map (FileRecord.withoutPassing c)) = .ok b)
    (h : c.summarizes a.fileStats) : c.summarizes b.fileStats := by
  rw [summarizes_of_analyze analysed] at h
  rw [summarizes_of_analyze stripped, List.forall_mem_map]
  refine h.imp_right fun h r hr => ?_
  have hrow := List.all_eq_true.1 (h r hr)
  have hcount : (r.withoutPassing c).subCount ≤ r.subCount := List.length_filter_le ..
  refine List.all_eq_true.2 fun v hv => ?_
  simp only [FileStat.row, FileStat.ofRecord, List.mem_cons, List.not_mem_nil, or_false] at hv hrow
  rcases hv with rfl | rfl | rfl | rfl
  · exact hrow _ (.inl rfl)
  · exact hrow _ (.inr (.inl rfl))
  · exact Value.printable_of_le hcount (hrow _ (.inr (.inr (.inl rfl))))
  · exact hrow _ (.inr (.inr (.inr rfl)))

theorem judges_of_analyze (numeric : HasNumbers rs) (analysed : analyze rs = .ok a) :
    ∀ f ∈ a.subStats, ∀ s ∈ f.2, c.judges s := by
  rw [subStats_of_analyze analysed, List.forall_mem_map]
  exact fun r hr s hs => Settings.judges_of_numbers (numeric r hr s hs).1 (numeric r hr s hs).2

/-- A report that can print its tables writes the table of files, the section and the document. -/
theorem report_lines_of_prints (numeric : HasNumbers rs) (analysed : analyze rs = .ok a)
    (prints : c.Prints rs) (earlier : List Finding) :
    (report c a earlier).lines = c.shown (summaryLines a.fileStats) ++
      (reportSection c a.subStats []).lines ++
        (writeDocument ((c.retained rs).map Subroutine.finding)).lines := by
  obtain ⟨hfiles, hsubs⟩ := (Settings.prints_iff numeric analysed).1 prints
  have hend : (reportSection c a.subStats []).failure = none :=
    reportSection_failure_eq_none_iff.2 hsubs
  have hfindings : (reportSection c a.subStats []).findings =
      (c.retained rs).map Subroutine.finding := by
    rw [reportSection_findings, Settings.forwardedOf_of_completes hsubs,
      ← Settings.listed_of_analyze analysed]
    rfl
  rw [report_of_summarizes hfiles, Run.andThen_of_end hend, hfindings, List.append_assoc]

/-- After the table of files, a report on the records without their passing subroutines does what
the report on all of them does. -/
theorem report_withoutPassing (numeric : HasNumbers rs) (analysed : analyze rs = .ok a)
    (h : c.onlyErrors.truthy) (stripped : analyze (rs.map (FileRecord.withoutPassing c)) = .ok b)
    (hfiles : c.summarizes a.fileStats) :
    (∀ findings, reportSection c b.subStats findings = reportSection c a.subStats findings) ∧
      ∃ rest : Run, ∀ earlier,
        report c a earlier = ⟨c.shown (summaryLines a.fileStats) ++ rest.lines,
          Sarif.beginEntries earlier ++ rest.log, rest.findings, rest.failure⟩ ∧
        report c b earlier = ⟨c.shown (summaryLines b.fileStats) ++ rest.lines,
          Sarif.beginEntries earlier ++ rest.log, rest.findings, rest.failure⟩ := by
  have hsection : ∀ findings,
      reportSection c b.subStats findings = reportSection c a.subStats findings := by
    rw [Settings.subStats_withoutPassing h analysed stripped]
    exact reportSection_filter_retains (judges_of_analyze numeric analysed)
  refine ⟨hsection, (reportSection c a.subStats []).andThen writeDocument, fun earlier => ⟨?_, ?_⟩⟩
  · exact report_of_summarizes hfiles earlier
  · rw [report_of_summarizes (Settings.summarizes_withoutPassing analysed stripped hfiles),
      hsection]

/-- Take records whose lines and complexities are numbers and that can be analysed, settings `low`
and `high` with the filter, the thresholds of `low` being no higher, and settings `all` without it,
and let `low` and `all` have nothing to print that is too long; records from a file never have
(`Settings.prints_of_loadRecords`).  The findings of the reports, in order, are then fewer and fewer
from `all` to `low` to `high`.  Thresholds of zero leave out nothing that was counted from zero on.
And the records without the subroutines that pass under `low` give the same findings as before and,
below the table of files, the same section and document. -/
theorem report_thresholds (numeric : HasNumbers rs) (analysed : analyze rs = .ok a)
    (low high all : Settings) (hlow : low.onlyErrors.truthy) (hhigh : high.onlyErrors.truthy)
    (hall : all.onlyErrors.truthy = false) (lines : low.maxLines ≤ high.maxLines)
    (complexity : low.maxComplexity ≤ high.maxComplexity) (lowPrints : low.Prints rs)
    (allPrints : all.Prints rs) (first second third again : List Finding) :
    (report high a second).findings.Sublist (report low a first).findings ∧
    (report low a first).findings.Sublist (report all a third).findings ∧
    (low.maxLines = 0 → low.maxComplexity = 0 →
      (∀ r ∈ rs, ∀ s ∈ r.subs, ∃ m n : Nat, s.lines = .int m ∧ s.complexity = .int n) →
        (report low a first).findings = (report all a third).findings) ∧
    ∀ b, analyze (rs.map (FileRecord.withoutPassing low)) = .ok b →
      let tables := reportSection low a.subStats []
      let document := writeDocument ((low.retained rs).map Subroutine.finding)
      reportSection low b.subStats [] = tables ∧
      (report low b again).findings = (report low a first).findings ∧
      (report low b again).failure = (report low a first).failure ∧
      (report low a first).lines =
        low.shown (summaryLines a.fileStats) ++ tables.lines ++ document.lines ∧
      (report low b again).lines =
        low.shown (summaryLines b.fileStats) ++ tables.lines ++ document.lines := by
  refine ⟨?_, ?_, fun hl hc counts => ?_, fun b stripped => ?_⟩
  · exact report_findings_anti numeric analysed
      (fun s => Settings.retains_anti hlow hhigh lines complexity) lowPrints first second
  · exact report_findings_anti numeric analysed (fun s _ => Settings.retains_of_all hall) allPrints
      third first
  · have hretained : low.retained rs = all.retained rs := by
      refine List.filter_congr fun s hs => ?_
      obtain ⟨r, hr, hs⟩ := List.mem_flatMap.1 hs
      obtain ⟨m, n, hm, hn⟩ := counts r hr s hs
      rw [Settings.retains_of_all hall, Settings.retains_of_onlyErrors hlow, Settings.passing, hl,
        hc, hm, hn, Value.isBelow_natCast_zero, Value.isBelow_natCast_zero]
      rfl
    rw [report_findings_of_prints numeric analysed lowPrints,
      report_findings_of_prints numeric analysed allPrints, hretained]
  · have hfiles := ((Settings.prints_iff numeric analysed).1 lowPrints).1
    obtain ⟨hsection, rest, hrest⟩ :=
      report_withoutPassing numeric analysed hlow stripped hfiles
    have hlines := report_lines_of_prints numeric analysed lowPrints first
    refine ⟨hsection [], ?_, ?_, hlines, ?_⟩
    · rw [(hrest first).1, (hrest again).2]
    · rw [(hrest first).1, (hrest again).2]
    · rw [(hrest first).1, List.append_assoc] at hlines
      rw [(hrest again).2, List.append_assoc]
      exact congrArg _ (List.append_cancel_left hlines)

end

/-- The records of the sample under the standard thresholds, under higher ones and without the
filter.  Two of five subroutines pass under the standard thresholds, one of them in a file with
another that does not. -/
theorem report_thresholds_sample :
    let low : Settings := { Settings.standard with onlyErrors := .bool true }
    let high : Settings := { low with maxLines := 80, maxComplexity := 20 }
    HasNumbers sampleRecords ∧ low.onlyErrors.truthy ∧ high.onlyErrors.truthy ∧
      low.maxLines ≤ high.maxLines ∧ low.maxComplexity ≤ high.maxComplexity ∧
      low.Prints sampleRecords ∧ Settings.standard.Prints sampleRecords ∧
      ∃ a b, analyze sampleRecords = .ok a ∧
        analyze (sampleRecords.map (FileRecord.withoutPassing low)) = .ok b ∧
        (report low a []).findings.map Finding.name = ["edge", "edge", "large"] ∧
        (report high a []).findings.Sublist (report low a []).findings ∧
        (report low a []).findings.Sublist (report .standard a []).findings ∧
        (report low b []).findings = (report low a []).findings := by
  intro low high
  have numeric : HasNumbers sampleRecords := by
    unfold HasNumbers
    decide
  have lowPrints : low.Prints sampleRecords := ⟨by decide +kernel, by decide +kernel⟩
  have allPrints : Settings.standard.Prints sampleRecords := ⟨by decide +kernel, by decide +kernel⟩
  obtain ⟨a, ha⟩ : ∃ a, analyze sampleRecords = .ok a :=
    exists_analyze_of_counts [60, 59, 60, 80, 90] [10, 90, 10, 9, 41] rfl rfl (by decide)
      (by decide) (.int 431) (.int 14) rfl (by decide +kernel)
  obtain ⟨b, hb⟩ : ∃ b, analyze (sampleRecords.map (FileRecord.withoutPassing low)) = .ok b := by
    refine exists_analyze_of_counts [60, 60, 90] [10, 10, 41] ?_ ?_ (by decide) (by decide)
      (.int 431) (.int 14) rfl (by decide +kernel)
    all_goals simp [sampleRecords, FileRecord.withoutPassing, low, Settings.passing,
      Value.isBelow_int, Settings.standard]
  have hlines : low.maxLines ≤ high.maxLines := by decide
  have hcomplexity : low.maxComplexity ≤ high.maxComplexity := by decide
  obtain ⟨fewer, filtered, -, stripped⟩ :=
    report_thresholds numeric ha low high .standard rfl rfl rfl hlines hcomplexity lowPrints
      allPrints [] [] [] []
  obtain ⟨-, same, -⟩ := stripped b hb
  refine ⟨numeric, rfl, rfl, hlines, hcomplexity, lowPrints, allPrints, a, b, ha, hb, ?_, fewer,
    filtered, same⟩
  rw [report_findings_of_prints numeric ha lowPrints]
  decide +kernel

end CodeMetrics

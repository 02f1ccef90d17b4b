import CodeMetrics.Corpus.Analysis
import CodeMetrics.Proofs.Statistics.Counts

/-!
# What an analysis holds

An analysis that succeeds holds its records as they were given, and everything else is read off
them: the inversion lemma `analyze_eq_ok_iff` names the steps that may fail.  Of these only the
totals can fail when the metrics are whole numbers in signed words (`exists_analyze_of_counts`).
-/

namespace CodeMetrics

variable {rs : List FileRecord} {a : Analysis}

/-- The two totals do not depend on each other. -/
theorem foldlM_totals_eq_ok {lines mainLines lines' mainLines' : Number}
    (hlines : (rs.map FileRecord.lines).foldlM addValue lines = .ok lines')
    (hmain : (rs.map fun r => r.main.lines).foldlM addValue mainLines = .ok mainLines') :
    rs.foldlM (fun (lines, mainLines) r => do
      let lines ← addValue lines r.lines
      let mainLines ← addValue mainLines r.main.lines
      .ok (lines, mainLines)) (lines, mainLines) =
      (.ok (lines', mainLines') : Except Breakdown (Number × Number)) := by
  induction rs generalizing lines mainLines with
  | nil =>
    obtain rfl := Except.ok.inj hlines
    obtain rfl := Except.ok.inj hmain
    rfl
  | cons r rs ih =>
    rw [List.map_cons, List.foldlM_cons] at hlines hmain
    obtain ⟨nextLines, hnext, hlines⟩ := bind_eq_ok_iff.1 hlines
    obtain ⟨nextMain, hnextMain, hmain⟩ := bind_eq_ok_iff.1 hmain
    rw [List.foldlM_cons]
    simp only [hnext, hnextMain]
    exact ih hlines hmain

theorem totals_eq_ok {lines mainLines : Number}
    (hlines : (rs.map FileRecord.lines).foldlM addValue (.int 0) = .ok lines)
    (hmain : (rs.map fun r => r.main.lines).foldlM addValue (.int 0) = .ok mainLines) :
    totals rs = .ok (lines, mainLines) :=
  foldlM_totals_eq_ok hlines hmain

/-- An analysis succeeds when the totals and both summaries exist and the total of the lines can be
written. -/
theorem analyze_eq_ok_iff :
    analyze rs = .ok a ↔ ∃ lines mainLines lengths complexities,
      totals rs = .ok (lines, mainLines) ∧
      summarize ((rs.flatMap FileRecord.subs).map Subroutine.lines) = .ok lengths ∧
      summarize ((rs.flatMap FileRecord.subs).map Subroutine.complexity) = .ok complexities ∧
      (Value.ofNumber lines).printable ∧
      a = ⟨rs, rs.map FileRecord.path, lines, rs.flatMap FileRecord.packages,
        rs.flatMap FileRecord.subs, mainLines, rs.map FileStat.ofRecord, lengths, complexities⟩ := by
  unfold analyze
  rw [bind_eq_ok_iff]
  constructor
  · rintro ⟨⟨lines, mainLines⟩, ht, h⟩
    obtain ⟨lengths, hl, h⟩ := bind_eq_ok_iff.1 h
    obtain ⟨complexities, hc, h⟩ := bind_eq_ok_iff.1 h
    split at h
    · next hp =>
      exact ⟨lines, mainLines, lengths, complexities, ht, hl, hc, hp, (Except.ok.inj h).symm⟩
    · cases h
  · rintro ⟨lines, mainLines, lengths, complexities, ht, hl, hc, hp, rfl⟩
    refine ⟨(lines, mainLines), ht, ?_⟩
    refine bind_eq_ok_iff.2 ⟨lengths, hl, ?_⟩
    refine bind_eq_ok_iff.2 ⟨complexities, hc, ?_⟩
    exact if_pos hp

theorem subStats_of_analyze (h : analyze rs = .ok a) :
    a.subStats = rs.map fun r => (r.path, r.subs) := by
  obtain ⟨_, _, _, _, -, -, -, -, rfl⟩ := analyze_eq_ok_iff.1 h
  rfl

theorem fileStats_of_analyze (h : analyze rs = .ok a) :
    a.fileStats = rs.map FileStat.ofRecord := by
  obtain ⟨_, _, _, _, -, -, -, -, rfl⟩ := analyze_eq_ok_iff.1 h
  rfl

theorem exists_analyze_of_counts (lengths complexities : List Int)
    (hl : (rs.flatMap FileRecord.subs).map Subroutine.lines = lengths.map Value.int)
    (hc : (rs.flatMap FileRecord.subs).map Subroutine.complexity = complexities.map Value.int)
    (fitl : ∀ n ∈ lengths, Series.fitsSigned n) (fitc : ∀ n ∈ complexities, Series.fitsSigned n)
    (lines mainLines : Number) (totalled : totals rs = .ok (lines, mainLines))
    (printable : (Value.ofNumber lines).printable) : ∃ a, analyze rs = .ok a := by
  obtain ⟨l, hl'⟩ := exists_summarize_counts fitl
  obtain ⟨c, hc'⟩ := exists_summarize_counts fitc
  rw [← hl] at hl'
  rw [← hc] at hc'
  exact ⟨_, analyze_eq_ok_iff.2 ⟨lines, mainLines, l, c, totalled, hl', hc', printable, rfl⟩⟩

end CodeMetrics

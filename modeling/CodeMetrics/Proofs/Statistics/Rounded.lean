import CodeMetrics.Proofs.Binary64.Hundredths
import CodeMetrics.Proofs.Statistics.Stability

/-!
# Statistics are rounded

Every statistic of a summary has been rounded to hundredths, so rounding it again does not change it
(`statistics_rounded`).  This holds for all kinds of numbers that have a summary.
-/

namespace CodeMetrics

/-- Rounding the number to hundredths does not change it, and if it is finite it is nearest to a whole
number of hundredths. -/
structure Binary64.IsRounded (x : Binary64) : Prop where
  fixed : x.roundHundredths = x
  near : ∀ v, x.HasValue v → ∃ c : Int, x.IsNearest (c / 100)

theorem isRounded_roundHundredths (x : Binary64) : x.roundHundredths.IsRounded := by
  have fixed := x.roundHundredths_roundHundredths
  refine ⟨fixed, fun v hv => ?_⟩
  obtain ⟨c, -, hnearest⟩ := Binary64.exists_hundredths hv
  rw [fixed] at hnearest
  exact ⟨c, hnearest⟩

variable {vs : List Value} {s : Summary}

theorem exists_isRounded {f : Series → Except Breakdown Binary64} {statistic : Option Binary64}
    (hne : vs ≠ []) (h : roundedStatistic f vs = .ok statistic) :
    ∃ x, statistic = some x ∧ x.IsRounded := by
  obtain ⟨hnil, -⟩ | ⟨-, y, rfl⟩ := roundedStatistic_cases h
  · exact absurd hnil hne
  · exact ⟨y.roundHundredths, rfl, isRounded_roundHundredths y⟩

/-- Values that have a summary have a mean, a median and a deviation, and rounding these to hundredths
does not change them.  For rounding any finite number finds the nearest hundredth, an even one if two
are as near, and then the number of the format nearest to it; and rounding any number twice is
rounding it once. -/
theorem statistics_rounded (hne : vs ≠ []) (h : summarize vs = .ok s) :
    (∃ mean median deviation, s.mean = some mean ∧ s.median = some median ∧
        s.deviation = some deviation ∧
        mean.IsRounded ∧ median.IsRounded ∧ deviation.IsRounded) ∧
      (∀ (x : Binary64) v, x.HasValue v →
        ∃ c, Binary64.IsHundredths c v ∧ x.roundHundredths.IsNearest (c / 100)) ∧
      ∀ x : Binary64, x.roundHundredths.roundHundredths = x.roundHundredths := by
  refine ⟨?_, fun x v => Binary64.exists_hundredths, Binary64.roundHundredths_roundHundredths⟩
  have hsorted : s.sorted ≠ [] := by
    intro hnil
    have hlength := length_sorted h
    rw [hnil, List.length_nil, eq_comm, List.length_eq_zero_iff] at hlength
    exact hne hlength
  obtain ⟨hmean, hmedian, hdeviation⟩ := statistics_of_summarize h
  obtain ⟨mean, hmean, roundedMean⟩ := exists_isRounded hsorted hmean
  obtain ⟨median, hmedian, roundedMedian⟩ := exists_isRounded hsorted hmedian
  obtain ⟨deviation, hdeviation, roundedDeviation⟩ := exists_isRounded hsorted hdeviation
  exact ⟨mean, median, deviation, hmean, hmedian, hdeviation, roundedMean, roundedMedian,
    roundedDeviation⟩

theorem statistics_rounded_sample :
    ([.int 1, .int 2, .int 2] : List Value) ≠ [] ∧
      ∃ s x, summarize [.int 1, .int 2, .int 2] = .ok s ∧ s.deviation = some x ∧
        x.roundHundredths = x := by
  have hne : ([.int 1, .int 2, .int 2] : List Value) ≠ [] := List.cons_ne_nil _ _
  have fits : ∀ n ∈ ([1, 2, 2] : List Int), Series.fitsSigned n := by decide
  obtain ⟨s, hs⟩ := exists_summarize_counts fits
  obtain ⟨⟨mean, median, deviation, -, -, hdeviation, -, -, rounded⟩, -⟩ :=
    statistics_rounded hne hs
  exact ⟨hne, s, deviation, hs, hdeviation, rounded.fixed⟩

end CodeMetrics

import CodeMetrics.Binary64.Decimal
import CodeMetrics.Statistics.Series

/-!
# The distribution of a metric

The mean, the median and the standard deviation of some values, rounded to hundredths, and the
summary of a metric over all subroutines.  There are none for no values.
-/

namespace CodeMetrics

/-- A statistic of some values that is absent when there are none and rounded to hundredths. -/
def roundedStatistic (f : Series → Except Breakdown Binary64) (vs : List Value) :
    Except Breakdown (Option Binary64) :=
  if vs.isEmpty then .ok none
  else do
    let x ← f (← Series.ofValues vs)
    .ok (some x.roundHundredths)

/-- The arithmetic mean. -/
def mean? (vs : List Value) : Except Breakdown (Option Binary64) := roundedStatistic Series.mean vs

/-- The middle value, or the mean of the two in the middle. -/
def median? (vs : List Value) : Except Breakdown (Option Binary64) :=
  roundedStatistic Series.median vs

/-- The standard deviation of the population. -/
def deviation? (vs : List Value) : Except Breakdown (Option Binary64) :=
  roundedStatistic Series.populationDeviation vs

/-- How the values of a metric are distributed. -/
structure Summary where
  sorted : List Value
  mean : Option Binary64
  median : Option Binary64
  deviation : Option Binary64

namespace Summary

/-- The summary of no values. -/
def empty : Summary := ⟨[], none, none, none⟩

/-- How many values were summarised. -/
def count (s : Summary) : Nat := s.sorted.length

/-- There were no values. -/
def isEmpty (s : Summary) : Bool := s.sorted.isEmpty

/-- The least value, the first of several equal ones. -/
def min? (s : Summary) : Option Value := s.sorted.head?

/-- The greatest value, the last of several equal ones. -/
def max? (s : Summary) : Option Value := s.sorted.getLast?

/-- Equality of statistics as numbers. -/
def sameStatistic : Option Binary64 → Option Binary64 → Bool
  | none, none => true
  | some x, some y => x.place.same y.place
  | _, _ => false

/-- The summaries agree in every field. -/
def same (s t : Summary) : Bool :=
  Value.sameAll false s.sorted t.sorted && sameStatistic s.mean t.mean &&
    sameStatistic s.median t.median && sameStatistic s.deviation t.deviation

end Summary

/-- Summarises values that are given in any order. -/
def summarize (vs : List Value) : Except Breakdown Summary := do
  let sorted ← sortValues vs
  let mean ← mean? sorted
  let median ← median? sorted
  let deviation ← deviation? sorted
  .ok ⟨sorted, mean, median, deviation⟩

end CodeMetrics

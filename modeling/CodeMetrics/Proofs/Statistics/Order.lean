import CodeMetrics.Proofs.Statistics.Arrange
import CodeMetrics.Proofs.Statistics.Counts
import Mathlib.Data.List.Sort

/-!
# Summaries and the order of the values

A summary is computed from the sorted values alone, and whole numbers have only one sorted
arrangement.  So the order in which they come does not matter (`summarize_eq_of_perm`), although the
sums behind the statistics are rounded term by term, and the sorted values of two lists together are
the merge of theirs (`sorted_append`).
-/

namespace CodeMetrics

/-! ## Sorted whole numbers -/

variable {ms ns : List Int}

theorem pairwise_mergeSort_int (ns : List Int) : (ns.mergeSort (· ≤ ·)).Pairwise (· ≤ ·) :=
  List.pairwise_mergeSort' (· ≤ ·) ns

theorem mergeSort_eq_of_perm (h : ms.Perm ns) :
    ms.mergeSort (· ≤ ·) = ns.mergeSort (· ≤ ·) := by
  apply List.Perm.eq_of_pairwise' (pairwise_mergeSort_int ms) (pairwise_mergeSort_int ns)
  exact (List.mergeSort_perm ms _).trans (h.trans (List.mergeSort_perm ns _).symm)

theorem mergeSort_append (ms ns : List Int) :
    (ms ++ ns).mergeSort (· ≤ ·) =
      (ms.mergeSort (· ≤ ·)).merge (ns.mergeSort (· ≤ ·)) (· ≤ ·) := by
  apply List.Perm.eq_of_pairwise' (pairwise_mergeSort_int (ms ++ ns))
  · exact (pairwise_mergeSort_int ms).merge (pairwise_mergeSort_int ns)
  · calc ((ms ++ ns).mergeSort (· ≤ ·)).Perm (ms ++ ns) := List.mergeSort_perm _ _
      _ |>.Perm (ms.mergeSort (· ≤ ·) ++ ns.mergeSort (· ≤ ·)) :=
        ((List.mergeSort_perm ms _).append (List.mergeSort_perm ns _)).symm
      _ |>.Perm ((ms.mergeSort (· ≤ ·)).merge (ns.mergeSort (· ≤ ·)) (· ≤ ·)) :=
        (List.merge_perm_append _).symm

/-! ## Summaries -/

variable {vs : List Value} {s t u : Summary}

/-- A summary holds the sorted values. -/
theorem sortValues_of_summarize (h : summarize vs = .ok s) : sortValues vs = .ok s.sorted := by
  obtain ⟨sorted, hsort, h⟩ := bind_eq_ok_iff.1 h
  obtain ⟨_, -, h⟩ := bind_eq_ok_iff.1 h
  obtain ⟨_, -, h⟩ := bind_eq_ok_iff.1 h
  obtain ⟨_, -, h⟩ := bind_eq_ok_iff.1 h
  obtain rfl := Except.ok.inj h
  exact hsort

theorem length_sorted (h : summarize vs = .ok s) : s.sorted.length = vs.length :=
  (perm_of_sortValues (sortValues_of_summarize h)).length_eq

theorem sorted_of_summarize (h : summarize (ns.map .int) = .ok s) :
    s.sorted = (ns.mergeSort (· ≤ ·)).map .int := by
  have hsort := sortValues_of_summarize h
  rw [sortValues_counts] at hsort
  exact (Except.ok.inj hsort).symm

/-- The same whole numbers have the same summary, or the same failure. -/
theorem summarize_eq_of_perm (h : ms.Perm ns) :
    summarize (ms.map .int) = summarize (ns.map .int) := by
  unfold summarize
  rw [sortValues_counts, sortValues_counts, mergeSort_eq_of_perm h]

/-- The sorted values of two lists together are merged from those of each. -/
theorem sorted_append (hs : summarize (ms.map .int) = .ok s) (ht : summarize (ns.map .int) = .ok t)
    (hu : summarize ((ms ++ ns).map .int) = .ok u) :
    u.sorted = s.sorted.merge t.sorted Arrange.mayPrecede := by
  rw [sorted_of_summarize hs, sorted_of_summarize ht, sorted_of_summarize hu, mergeSort_append]
  exact List.map_merge fun m _ n _ => (mayPrecede_int m n).symm

end CodeMetrics

import CodeMetrics.Proofs.Corpus.Analysis
import CodeMetrics.Proofs.Statistics.Order
import Mathlib.Algebra.Order.BigOperators.Group.List
import Mathlib.Algebra.Ring.Int.Defs
import Mathlib.Algebra.Ring.Nat

/-!
# Corpora that were counted

The measurements of a corpus that was counted are whole numbers of a magnitude below `2 ^ 53`.  Its
totals are then sums of whole numbers, and its analysis can fail in one way only: the total of the
lines has too many digits to be written (`exists_analyze_iff`).  No list in memory is long enough for
that (`exists_analyze_of_length`).
-/

namespace CodeMetrics

/-! ## Counts -/

namespace Value

/-- The whole number that a value is, and zero for anything else. -/
def count : Value → Int
  | .int n => n
  | _ => 0

/-- The value is a whole number of a magnitude below `2 ^ 53`. -/
def isCount : Value → Bool
  | .int n => n.natAbs < 2 ^ 53
  | _ => false

theorem eq_int_count {v : Value} (h : v.isCount) : v = .int v.count := by
  cases v with
  | int n => rfl
  | _ => cases h

theorem natAbs_count_lt {v : Value} (h : v.isCount) : v.count.natAbs < 2 ^ 53 := by
  cases v with
  | int n => exact of_decide_eq_true h
  | _ => cases h

end Value

theorem natAbs_sum_le {ns : List Int} {bound : Nat} (h : ∀ n ∈ ns, n.natAbs ≤ bound) :
    ns.sum.natAbs ≤ ns.length * bound := by
  induction ns with
  | nil => simp
  | cons n ns ih =>
    obtain ⟨hn, hns⟩ := List.forall_mem_cons.1 h
    have := ih hns
    have := Int.natAbs_add_le n ns.sum
    rw [List.sum_cons, List.length_cons, Nat.succ_mul]
    omega

/-- Everything that was measured in the file and is added up or summarised is a count. -/
structure FileRecord.HasCounts (r : FileRecord) : Prop where
  lines : r.lines.isCount
  mainLines : r.main.lines.isCount
  subs : ∀ s ∈ r.subs, s.lines.isCount ∧ s.complexity.isCount

instance (r : FileRecord) : Decidable r.HasCounts :=
  decidable_of_iff (r.lines.isCount ∧ r.main.lines.isCount ∧
    ∀ s ∈ r.subs, s.lines.isCount ∧ s.complexity.isCount)
    ⟨fun ⟨lines, mainLines, subs⟩ => ⟨lines, mainLines, subs⟩,
      fun ⟨lines, mainLines, subs⟩ => ⟨lines, mainLines, subs⟩⟩

/-! ## What is added up and summarised -/

variable {rs : List FileRecord} {a : Analysis}

/-- The lines of all files. -/
def lineTotal (rs : List FileRecord) : Int := (rs.map fun r => r.lines.count).sum

/-- The lines of the main code of all files. -/
def mainLineTotal (rs : List FileRecord) : Int := (rs.map fun r => r.main.lines.count).sum

/-- The lengths of all subroutines. -/
def subLengths (rs : List FileRecord) : List Int :=
  (rs.flatMap FileRecord.subs).map fun s => s.lines.count

/-- The complexities of all subroutines. -/
def subComplexities (rs : List FileRecord) : List Int :=
  (rs.flatMap FileRecord.subs).map fun s => s.complexity.count

theorem lineTotal_append (xs ys : List FileRecord) :
    lineTotal (xs ++ ys) = lineTotal xs + lineTotal ys := by
  simp [lineTotal]

theorem mainLineTotal_append (xs ys : List FileRecord) :
    mainLineTotal (xs ++ ys) = mainLineTotal xs + mainLineTotal ys := by
  simp [mainLineTotal]

theorem subLengths_append (xs ys : List FileRecord) :
    subLengths (xs ++ ys) = subLengths xs ++ subLengths ys := by
  simp [subLengths]

theorem subComplexities_append (xs ys : List FileRecord) :
    subComplexities (xs ++ ys) = subComplexities xs ++ subComplexities ys := by
  simp [subComplexities]

theorem counts_of_mem_subs (h : ∀ r ∈ rs, r.HasCounts) {s : Subroutine}
    (hs : s ∈ rs.flatMap FileRecord.subs) : s.lines.isCount ∧ s.complexity.isCount := by
  obtain ⟨r, hr, hs⟩ := List.mem_flatMap.1 hs
  exact (h r hr).subs s hs

theorem map_lines (h : ∀ r ∈ rs, r.HasCounts) :
    (rs.flatMap FileRecord.subs).map Subroutine.lines = (subLengths rs).map .int := by
  rw [subLengths, List.map_map]
  exact List.map_congr_left fun s hs => Value.eq_int_count (counts_of_mem_subs h hs).1

theorem map_complexity (h : ∀ r ∈ rs, r.HasCounts) :
    (rs.flatMap FileRecord.subs).map Subroutine.complexity = (subComplexities rs).map .int := by
  rw [subComplexities, List.map_map]
  exact List.map_congr_left fun s hs => Value.eq_int_count (counts_of_mem_subs h hs).2

/-- Counts add up to a whole number: no step of their sum is rounded. -/
theorem foldlM_addValue_counts {vs : List Value} (h : ∀ v ∈ vs, v.isCount) (m : Int) :
    vs.foldlM addValue (.int m) = .ok (.int (m + (vs.map Value.count).sum)) := by
  induction vs generalizing m with
  | nil =>
    rw [List.map_nil, List.sum_nil, Int.add_zero]
    rfl
  | cons v vs ih =>
    obtain ⟨hv, hvs⟩ := List.forall_mem_cons.1 h
    have next : addValue (.int m) v = .ok (.int (m + v.count)) := by
      rw [Value.eq_int_count hv]
      rfl
    rw [List.foldlM_cons, List.map_cons, List.sum_cons, ← Int.add_assoc]
    exact bind_eq_ok_iff.2 ⟨_, next, ih hvs _⟩

theorem totals_of_counts (h : ∀ r ∈ rs, r.HasCounts) :
    totals rs = .ok (.int (lineTotal rs), .int (mainLineTotal rs)) := by
  have lines := foldlM_addValue_counts (List.forall_mem_map.2 fun r hr => (h r hr).lines) 0
  have mainLines := foldlM_addValue_counts (List.forall_mem_map.2 fun r hr => (h r hr).mainLines) 0
  rw [Int.zero_add, List.map_map] at lines mainLines
  exact totals_eq_ok lines mainLines

/-! ## The analysis -/

theorem lines_of_analyze (h : ∀ r ∈ rs, r.HasCounts) (ha : analyze rs = .ok a) :
    a.lines = .int (lineTotal rs) ∧ a.mainLines = .int (mainLineTotal rs) := by
  obtain ⟨lines, mainLines, _, _, ht, -, -, -, rfl⟩ := analyze_eq_ok_iff.1 ha
  rw [totals_of_counts h] at ht
  obtain ⟨rfl, rfl⟩ := Prod.mk.inj (Except.ok.inj ht)
  exact ⟨rfl, rfl⟩

theorem summaries_of_analyze (h : ∀ r ∈ rs, r.HasCounts) (ha : analyze rs = .ok a) :
    summarize ((subLengths rs).map .int) = .ok a.lengths ∧
      summarize ((subComplexities rs).map .int) = .ok a.complexities := by
  obtain ⟨_, _, lengths, complexities, -, hl, hc, -, rfl⟩ := analyze_eq_ok_iff.1 ha
  rw [← map_lines h, ← map_complexity h]
  exact ⟨hl, hc⟩

theorem fitsSigned_of_isCount {v : Value} (h : v.isCount) : Series.fitsSigned v.count := by
  have := Value.natAbs_count_lt h
  unfold Series.fitsSigned
  rw [Bool.and_eq_true, decide_eq_true_eq, decide_eq_true_eq]
  omega

/-- A corpus that was counted can be analysed unless the total of its lines is too long to write. -/
theorem exists_analyze_iff (h : ∀ r ∈ rs, r.HasCounts) :
    (∃ a, analyze rs = .ok a) ↔ (Value.int (lineTotal rs)).printable := by
  constructor
  · rintro ⟨a, ha⟩
    obtain ⟨lines, mainLines, _, _, ht, -, -, hp, -⟩ := analyze_eq_ok_iff.1 ha
    rw [totals_of_counts h] at ht
    obtain ⟨rfl, rfl⟩ := Prod.mk.inj (Except.ok.inj ht)
    exact hp
  · intro hp
    apply exists_analyze_of_counts (subLengths rs) (subComplexities rs) (map_lines h)
      (map_complexity h) _ _ _ _ (totals_of_counts h) hp
    · intro n hn
      obtain ⟨s, hs, rfl⟩ := List.mem_map.1 hn
      exact fitsSigned_of_isCount (counts_of_mem_subs h hs).1
    · intro n hn
      obtain ⟨s, hs, rfl⟩ := List.mem_map.1 hn
      exact fitsSigned_of_isCount (counts_of_mem_subs h hs).2

/-- A list in memory, whose length is a signed word, has too few records for so long a total. -/
theorem exists_analyze_of_length (h : ∀ r ∈ rs, r.HasCounts) (short : rs.length < 2 ^ 63) :
    ∃ a, analyze rs = .ok a := by
  rw [exists_analyze_iff h, Value.printable, decide_eq_true_eq]
  have bound : ∀ n ∈ rs.map fun r => r.lines.count, n.natAbs ≤ 2 ^ 53 := by
    intro n hn
    obtain ⟨r, hr, rfl⟩ := List.mem_map.1 hn
    exact Nat.le_of_lt (Value.natAbs_count_lt (h r hr).lines)
  have digits : 2 ^ 63 * 2 ^ 53 < Value.unwritable := by decide +kernel
  calc (lineTotal rs).natAbs
      ≤ (rs.map fun r => r.lines.count).length * 2 ^ 53 := natAbs_sum_le bound
    _ ≤ 2 ^ 63 * 2 ^ 53 := by
        rw [List.length_map]
        exact Nat.mul_le_mul_right _ (Nat.le_of_lt short)
    _ < Value.unwritable := digits

end CodeMetrics

import CodeMetrics.Proofs.Binary64.Hundredths
import CodeMetrics.Proofs.Statistics.Stability
import CodeMetrics.Proofs.Statistics.Sums
import Mathlib.Algebra.Order.BigOperators.Group.List

/-!
# Averages of whole numbers

The mean of whole numbers is rounded twice, first to a number of the format and then to hundredths, and
still is a nearest hundredth of the exact mean: between the exact mean and a tie there is room for the
first rounding (`near_of_quotient`).  The median of whole numbers is not rounded at all
(`median_exact`), so half of the numbers lie on either side of it.
-/

namespace CodeMetrics

variable {ns : List Int} {s : Summary}

/-! ## Summaries of whole numbers -/

theorem fitsSigned_of_natAbs_le {n : Int} (h : n.natAbs ≤ 2 ^ 53) : Series.fitsSigned n := by
  unfold Series.fitsSigned
  rw [Bool.and_eq_true, decide_eq_true_eq, decide_eq_true_eq]
  omega

/-- A statistic of whole numbers is that of the series of these counts, rounded to hundredths. -/
theorem roundedStatistic_counts {f : Series → Except Breakdown Binary64} {x : Binary64}
    (hne : ns ≠ []) (fits : ∀ n ∈ ns, Series.fitsSigned n) (hf : f (.counts ns) = .ok x) :
    roundedStatistic f (ns.map .int) = .ok (some x.roundHundredths) := by
  have hfull : (ns.map Value.int).isEmpty = false := by simpa using hne
  rw [roundedStatistic, if_neg (by rw [hfull]; exact Bool.false_ne_true),
    Series.ofValues_counts hne fits]
  exact bind_eq_ok_iff.2 ⟨_, rfl, bind_eq_ok_iff.2 ⟨x, hf, rfl⟩⟩

theorem mergeSort_ne_nil (hne : ns ≠ []) : ns.mergeSort (· ≤ ·) ≠ [] :=
  fun hnil => hne (hnil ▸ List.mergeSort_perm ns (· ≤ ·)).symm.eq_nil

/-- A statistic of a summary of whole numbers is that of the sorted numbers. -/
theorem eq_of_roundedStatistic_sorted {f : Series → Except Breakdown Binary64} {x : Binary64}
    {statistic : Option Binary64} (hne : ns ≠ []) (fits : ∀ n ∈ ns, Series.fitsSigned n)
    (h : summarize (ns.map .int) = .ok s) (hf : f (.counts (ns.mergeSort (· ≤ ·))) = .ok x)
    (hstatistic : roundedStatistic f s.sorted = .ok statistic) :
    statistic = some x.roundHundredths := by
  rw [sorted_of_summarize h, roundedStatistic_counts (mergeSort_ne_nil hne)
    (fun n hn => fits n (List.mem_mergeSort.1 hn)) hf] at hstatistic
  exact (Except.ok.inj hstatistic).symm

theorem mean_counts (hne : ns ≠ []) :
    Series.mean (.counts ns) = .ok ((Binary64.sumInts ns).divCount ns.length) := by
  have hlength : ns.length ≠ 0 := by simpa using hne
  rw [Series.mean, Series.mean.divide, if_neg hlength]

theorem exact_int_le_iff (m n : Int) : (Value.int m).exact ≤ (Value.int n).exact ↔ m ≤ n := by
  show Extended.ofRat m ≤ Extended.ofRat n ↔ m ≤ n
  rw [← not_lt, Extended.ofRat_lt_iff, not_lt, Int.cast_le]

/-- The least and the greatest of the whole numbers stand first and last. -/
theorem exists_bounds_counts (hne : ns ≠ []) (h : summarize (ns.map .int) = .ok s) :
    ∃ lo ∈ ns, ∃ hi ∈ ns, s.min? = some (.int lo) ∧ s.max? = some (.int hi) ∧
      ∀ n ∈ ns, lo ≤ n ∧ n ≤ hi := by
  have numbers : ∀ v ∈ ns.map Value.int, v.IsNumber := List.forall_mem_map.2 fun n _ => .int n
  have hstable : StableSort (ns.map .int) s.sorted := by
    have hsort := sortValues_of_summarize h
    rw [sortValues_of_isNumber numbers] at hsort
    exact Except.ok.inj hsort ▸ stableSort_mergeSort _
  have hfull : s.sorted ≠ [] := by
    rw [sorted_of_summarize h, Ne, List.map_eq_nil_iff]
    exact mergeSort_ne_nil hne
  obtain ⟨hleast, hgreatest⟩ := hstable.bounds
  obtain ⟨hlo, hbelow⟩ := hleast _ (List.head?_eq_some_head hfull)
  obtain ⟨hhi, habove⟩ := hgreatest _ (List.getLast?_eq_some_getLast hfull)
  obtain ⟨lo, hlo, hmin⟩ := List.mem_map.1 hlo
  obtain ⟨hi, hhi, hmax⟩ := List.mem_map.1 hhi
  rw [← hmin] at hbelow
  rw [← hmax] at habove
  refine ⟨lo, hlo, hi, hhi, ?_, ?_, fun n hn => ⟨?_, ?_⟩⟩
  · rw [Summary.min?, hmin, List.head?_eq_some_head hfull]
  · rw [Summary.max?, hmax, List.getLast?_eq_some_getLast hfull]
  · exact (exact_int_le_iff lo n).1 (hbelow _ (List.mem_map_of_mem hn))
  · exact (exact_int_le_iff n hi).1 (habove _ (List.mem_map_of_mem hn))

/-! ## The mean -/

theorem natAbs_sum_le_sum (ns : List Int) : ns.sum.natAbs ≤ (ns.map Int.natAbs).sum := by
  induction ns with
  | nil => simp
  | cons n ns ih =>
    have h := Int.natAbs_add_le n ns.sum
    rw [List.sum_cons, List.map_cons, List.sum_cons]
    omega

theorem tiny_le : (2 ^ 52 / Binary64.one : ℚ) ≤ 1 / 1024 := by
  have hdvd : 2 ^ 62 ∣ Binary64.one := ⟨_, Binary64.one_eq_mul (by omega : 62 + 1012 = 1074)⟩
  have hone : 2 ^ 62 ≤ Binary64.one := Nat.le_of_dvd (Int.natCast_pos.1 Binary64.one_pos) hdvd
  have hmul : 2 ^ 52 * 1024 ≤ 1 * Binary64.one := by omega
  rw [div_le_div_iff₀ Binary64.one_pos_rat (by norm_num)]
  exact_mod_cast hmul

section Quotient

variable {total c : Int} {count : Nat} {v : ℚ}

/-- The distance of hundredths from a quotient is a whole number of parts. -/
theorem abs_hundredths_sub_quotient (hcount : 0 < count) :
    |(c / 100 - total / count : ℚ)| = (|2 * c * count - 200 * total| : Int) / (200 * count) := by
  have hcount' : (0 : ℚ) < count := Nat.cast_pos.2 hcount
  have hsub : (c / 100 - total / count : ℚ) =
      ((2 * c * count - 200 * total : Int) : ℚ) / (200 * count) := by
    push_cast
    field_simp
    ring
  rw [hsub, abs_div, abs_of_pos (by positivity : (0 : ℚ) < 200 * count), Int.cast_abs]

/-- A nearest hundredth of a quotient that was rounded to 53 bits is a nearest hundredth of the quotient
itself, if its numerator is so small that the rounding cannot reach a tie. -/
theorem near_of_quotient (hcount : 0 < count) (hsmall : 200 * total.natAbs < 2 ^ 53)
    (hv : 2 ^ 53 * |v - total / count| ≤ |(total / count : ℚ)|) (hc : |c / 100 - v| ≤ 1 / 200) :
    |(c / 100 - total / count : ℚ)| ≤ 1 / 200 := by
  have hcount' : (0 : ℚ) < count := Nat.cast_pos.2 hcount
  have hparts : (0 : ℚ) < 200 * count := by positivity
  have hsmall' : 200 * |(total : ℚ)| < 2 ^ 53 := by
    rw [← Int.cast_abs, ← Nat.cast_natAbs]
    exact_mod_cast hsmall
  have hfirst : 200 * count * |v - total / count| < 1 := by
    rw [abs_div, abs_of_pos hcount', le_div_iff₀ hcount'] at hv
    linarith
  have hmul : (200 * count : ℚ) * |(c / 100 - total / count : ℚ)| < count + 1 := by
    calc (200 * count : ℚ) * |(c / 100 - total / count : ℚ)|
        ≤ 200 * count * (|c / 100 - v| + |v - total / count|) :=
          mul_le_mul_of_nonneg_left (abs_sub_le _ _ _) hparts.le
      _ ≤ 200 * count * (1 / 200) + 200 * count * |v - total / count| := by
          rw [mul_add]
          exact add_le_add_left (mul_le_mul_of_nonneg_left hc hparts.le) _
      _ < count + 1 := by linarith
  rw [abs_hundredths_sub_quotient hcount] at hmul ⊢
  -- The distance is a whole number of parts, and the first rounding moves less than one of them.
  rw [mul_div_cancel₀ _ hparts.ne'] at hmul
  have hlt : |2 * c * count - 200 * total| < (count : Int) + 1 := by exact_mod_cast hmul
  have hle : ((|2 * c * count - 200 * total| : Int) : ℚ) ≤ count := by
    exact_mod_cast Int.lt_add_one_iff.1 hlt
  rw [div_le_iff₀ hparts]
  linarith

/-- A quotient that is too small for 53 bits is rounded to zero. -/
theorem near_of_tiny_quotient (hv : |v| ≤ 2 ^ 52 / Binary64.one)
    (hquotient : |(total / count : ℚ)| ≤ 2 ^ 52 / Binary64.one) (hc : |c / 100 - v| ≤ 1 / 200) :
    |(c / 100 - total / count : ℚ)| ≤ 1 / 200 := by
  have htiny := tiny_le
  have htriangle : |(c / 100 : ℚ)| ≤ |c / 100 - v| + |v| := by
    have h := abs_add_le (c / 100 - v : ℚ) v
    rwa [sub_add_cancel] at h
  rw [abs_div, abs_of_pos (by norm_num : (0 : ℚ) < 100)] at htriangle
  have hlt : |(c : ℚ)| < 1 := by linarith
  have hzero : c = 0 := Int.abs_lt_one_iff.1 (by exact_mod_cast hlt)
  rw [hzero, Int.cast_zero, zero_div, zero_sub, abs_neg]
  linarith

end Quotient

open Binary64 in
/-- Whole numbers whose magnitudes add up to less than `2 ^ 53 / 200` are added in any order, their sum
is divided by their number, and the quotient is rounded to hundredths.  The result is the number of
the format nearest to a nearest hundredth of the exact mean. -/
theorem mean_of_adds (hne : ns ≠ []) (hsmall : 200 * (ns.map Int.natAbs).sum < 2 ^ 53)
    {total : Binary64} (h : Adds (ns.map ofInt) [total]) :
    ∃ c : Int, (total.divCount ns.length).roundHundredths.IsNearest (c / 100) ∧
      |(c / 100 - ns.sum / ns.length : ℚ)| ≤ 1 / 200 := by
  have hlength : 0 < ns.length := List.length_pos_of_ne_nil hne
  have htotal : total.HasValue (ns.sum : Int) := hasValue_of_adds (by omega) h
  obtain ⟨v, hv, herror⟩ := exists_hasValue_divCount htotal hlength
  obtain ⟨c, hc, hnearest⟩ := exists_hundredths hv
  have hsum := natAbs_sum_le_sum ns
  refine ⟨c, hnearest, ?_⟩
  obtain hnormal | ⟨htiny, hquotient⟩ := herror
  · exact near_of_quotient hlength (by omega) hnormal hc.near
  · exact near_of_tiny_quotient htiny hquotient hc.near

theorem hundredths_divCount_zero {x : Binary64} {n : Nat} (hx : x.HasValue ((0 : Int) : ℚ))
    (hn : 0 < n) : (x.divCount n).roundHundredths.HasValue ((0 : Int) / 100) := by
  apply Binary64.HasValue.roundHundredths
  have hzero : ((0 : Int) / n : ℚ) = ((0 : Int) / 100) := by simp
  rw [← hzero]
  apply hx.divCount hn
  rw [hzero, Int.cast_zero, zero_div, ← Int.cast_zero]
  exact ⟨x, hx⟩

open Binary64 in
/-- In whatever order the numbers are added, their mean is the same. -/
theorem mean_of_adds_of_adds (hne : ns ≠ []) (hsmall : 200 * (ns.map Int.natAbs).sum < 2 ^ 53)
    {total total' : Binary64} (h : Adds (ns.map ofInt) [total]) (h' : Adds (ns.map ofInt) [total'])
    {v : ℚ} (hv : (total.divCount ns.length).roundHundredths.HasValue v) :
    (total'.divCount ns.length).roundHundredths.HasValue v := by
  have htotal : total.HasValue (ns.sum : Int) := hasValue_of_adds (by omega) h
  have htotal' : total'.HasValue (ns.sum : Int) := hasValue_of_adds (by omega) h'
  by_cases hsum : ns.sum = 0
  · -- The sums may be zeros of two signs, and then so are the means.
    rw [hsum] at htotal htotal'
    have hlength : 0 < ns.length := List.length_pos_of_ne_nil hne
    rw [hv.inj (hundredths_divCount_zero htotal hlength)]
    exact hundredths_divCount_zero htotal' hlength
  · rwa [← htotal.eq_of_ne_zero htotal' hsum]

/-- A nearest hundredth of the mean of whole numbers lies between them. -/
theorem bounds_of_near {lo hi c : Int} (hne : ns ≠ []) (hbounds : ∀ n ∈ ns, lo ≤ n ∧ n ≤ hi)
    (hc : |(c / 100 - ns.sum / ns.length : ℚ)| ≤ 1 / 200) :
    (lo : ℚ) ≤ c / 100 ∧ (c / 100 : ℚ) ≤ hi := by
  have hlength : (0 : ℚ) < ns.length := Nat.cast_pos.2 (List.length_pos_of_ne_nil hne)
  have hlo : ns.length • lo ≤ ns.sum := List.card_nsmul_le_sum ns lo fun n hn => (hbounds n hn).1
  have hhi : ns.sum ≤ ns.length • hi := List.sum_le_card_nsmul ns hi fun n hn => (hbounds n hn).2
  rw [nsmul_eq_mul] at hlo hhi
  have hlo' : (lo : ℚ) ≤ ns.sum / ns.length := by
    rw [le_div_iff₀ hlength, mul_comm]
    exact_mod_cast hlo
  have hhi' : (ns.sum / ns.length : ℚ) ≤ hi := by
    rw [div_le_iff₀ hlength, mul_comm]
    exact_mod_cast hhi
  obtain ⟨hbelow, habove⟩ := abs_le.1 hc
  -- Hundredths that are less than one away from a whole number of them do not pass it.
  have hlow : 100 * lo ≤ c := by
    have hlt : (100 * lo : ℚ) < c + 1 := by linarith
    exact Int.lt_add_one_iff.1 (by exact_mod_cast hlt)
  have hhigh : c ≤ 100 * hi := by
    have hlt : (c : ℚ) < 100 * hi + 1 := by linarith
    exact Int.lt_add_one_iff.1 (by exact_mod_cast hlt)
  have hlow' : (100 * lo : ℚ) ≤ c := by exact_mod_cast hlow
  have hhigh' : (c : ℚ) ≤ 100 * hi := by exact_mod_cast hhigh
  constructor <;> linarith

/-- Let the magnitudes of some whole numbers add up to less than `2 ^ 53 / 200`.  They have a summary,
and its mean is the number of the format nearest to a whole number of hundredths that is nearest to
the exact mean, so rounding twice is as good as rounding once; it lies between the least and the
greatest of the numbers; and it is the same in whatever order the numbers are added. -/
theorem mean_nearest_hundredth (hne : ns ≠ []) (hsmall : 200 * (ns.map Int.natAbs).sum < 2 ^ 53) :
    ∃ (s : Summary) (x : Binary64) (v : ℚ) (c lo hi : Int), summarize (ns.map .int) = .ok s ∧
      s.mean = some x ∧ x.HasValue v ∧ x.IsNearest (c / 100) ∧
      |(c / 100 - ns.sum / ns.length : ℚ)| ≤ 1 / 200 ∧
      s.min? = some (.int lo) ∧ s.max? = some (.int hi) ∧ lo ≤ v ∧ v ≤ hi ∧
      ∀ total, Binary64.Adds (ns.map .ofInt) [total] →
        (total.divCount ns.length).roundHundredths.HasValue v := by
  have hword : ∀ n ∈ ns, n.natAbs ≤ 2 ^ 53 :=
    fun n hn => Binary64.natAbs_le_of_mem (by omega) hn
  have fits : ∀ n ∈ ns, Series.fitsSigned n := fun n hn => fitsSigned_of_natAbs_le (hword n hn)
  obtain ⟨s, hs⟩ := exists_summarize_counts fits
  obtain ⟨lo, hlo, hi, hhi, hmin, hmax, hbounds⟩ := exists_bounds_counts hne hs
  have hadds : Binary64.Adds (ns.map .ofInt) [Binary64.sumInts (ns.mergeSort (· ≤ ·))] :=
    (Binary64.Adds.refl.perm ((List.mergeSort_perm ns _).symm.map _)).trans
      (Binary64.adds_sumInts _)
  obtain ⟨c, hnearest, hnear⟩ := mean_of_adds hne hsmall hadds
  obtain ⟨hbelow, habove⟩ := bounds_of_near hne hbounds hnear
  obtain ⟨v, hv, -⟩ := id hnearest
  have hmean := mean_counts (mergeSort_ne_nil hne)
  rw [List.length_mergeSort] at hmean
  obtain ⟨hstatistic, -, -⟩ := statistics_of_summarize hs
  refine ⟨s, _, v, c, lo, hi, hs, eq_of_roundedStatistic_sorted hne fits hs hmean hstatistic, hv,
    hnearest, hnear, hmin, hmax, ?_, ?_, ?_⟩
  · exact hnearest.ge hv (Binary64.hasValue_ofInt (hword lo hlo)) hbelow
  · exact hnearest.le hv (Binary64.hasValue_ofInt (hword hi hhi)) habove
  · exact fun total htotal => mean_of_adds_of_adds hne hsmall hadds htotal hv

/-- The mean of 1, 2 and 2 is rounded up. -/
theorem mean_nearest_hundredth_sample :
    200 * (([1, 2, 2] : List Int).map Int.natAbs).sum < 2 ^ 53 ∧
      ∃ s x, summarize [.int 1, .int 2, .int 2] = .ok s ∧ s.mean = some x ∧
        x.IsNearest (167 / 100) := by
  have hsmall : 200 * (([1, 2, 2] : List Int).map Int.natAbs).sum < 2 ^ 53 := by decide
  refine ⟨hsmall, ?_⟩
  obtain ⟨s, x, v, c, lo, hi, hs, hx, -, hnearest, hnear, -⟩ :=
    mean_nearest_hundredth (by decide) hsmall
  have hc : c = 167 := by
    rw [abs_le] at hnear
    norm_num at hnear
    have hlow : (166 : ℚ) < c := by linarith
    have hhigh : (c : ℚ) < 168 := by linarith
    have hlow' : 166 < c := by exact_mod_cast hlow
    have hhigh' : c < 168 := by exact_mod_cast hhigh
    omega
  subst hc
  rw [Int.cast_ofNat] at hnearest
  exact ⟨s, x, hs, hx, hnearest⟩

/-! ## The middle of a sorted list -/

/-- The middle one or two stand at the two middle places, which are the same for an odd length. -/
theorem exists_middle {xs : List Int} (hne : xs ≠ []) :
    ∃ a b, xs[(xs.length - 1) / 2]? = some a ∧ xs[xs.length / 2]? = some b ∧
      (Series.middle xs = [a] ∧ a = b ∨ Series.middle xs = [a, b]) := by
  have hlength : 0 < xs.length := List.length_pos_of_ne_nil hne
  have hleft : (xs.length - 1) / 2 < xs.length := by omega
  have hright : xs.length / 2 < xs.length := by omega
  refine ⟨xs[(xs.length - 1) / 2], xs[xs.length / 2], List.getElem?_eq_getElem hleft,
    List.getElem?_eq_getElem hright, ?_⟩
  unfold Series.middle
  split
  · next hodd =>
    left
    have hsame : (xs.length - 1) / 2 = xs.length / 2 := by omega
    rw [List.drop_eq_getElem_cons hright]
    simp only [hsame, List.take_succ_cons, List.take_zero, and_self]
  · next heven =>
    right
    have hleft' : xs.length / 2 - 1 = (xs.length - 1) / 2 := by omega
    have hnext : (xs.length - 1) / 2 + 1 = xs.length / 2 := by omega
    rw [hleft', List.drop_eq_getElem_cons hleft]
    simp only [hnext]
    rw [List.drop_eq_getElem_cons hright]
    rfl

/-- The numbers up to a place of a sorted list are not greater than the one there. -/
theorem le_countP_le {xs : List Int} (h : xs.Pairwise (· ≤ ·)) {i : Nat} {a : Int}
    (ha : xs[i]? = some a) : i + 1 ≤ xs.countP (· ≤ a) := by
  obtain ⟨hi, rfl⟩ := List.getElem?_eq_some_iff.1 ha
  have htake : (xs.take (i + 1)).countP (· ≤ xs[i]) = (xs.take (i + 1)).length := by
    rw [List.countP_eq_length]
    intro x hx
    obtain ⟨j, hj, rfl⟩ := List.mem_take_iff_getElem.1 hx
    exact decide_eq_true (h.sortedLE.getElem_le_getElem_of_le (by omega))
  calc i + 1 = (xs.take (i + 1)).length := by rw [List.length_take]; omega
    _ = (xs.take (i + 1)).countP (· ≤ xs[i]) := htake.symm
    _ ≤ xs.countP (· ≤ xs[i]) := (List.take_sublist _ _).countP_le

/-- The numbers from a place of a sorted list on are not less than the one there. -/
theorem le_countP_ge {xs : List Int} (h : xs.Pairwise (· ≤ ·)) {i : Nat} {a : Int}
    (ha : xs[i]? = some a) : xs.length - i ≤ xs.countP (a ≤ ·) := by
  obtain ⟨hi, rfl⟩ := List.getElem?_eq_some_iff.1 ha
  have hdrop : (xs.drop i).countP (xs[i] ≤ ·) = (xs.drop i).length := by
    rw [List.countP_eq_length]
    intro x hx
    obtain ⟨j, hj, rfl⟩ := List.mem_drop_iff_getElem.1 hx
    exact decide_eq_true (h.sortedLE.getElem_le_getElem_of_le (Nat.le_add_right i j))
  calc xs.length - i = (xs.drop i).length := List.length_drop.symm
    _ = (xs.drop i).countP (xs[i] ≤ ·) := hdrop.symm
    _ ≤ xs.countP (xs[i] ≤ ·) := (List.drop_sublist _ _).countP_le

/-! ## The median -/

/-- Below `2 ^ 53`, halves of the sums of two whole numbers are numbers of the format, and stay what they
are when they are rounded to hundredths. -/
theorem median_of_middle {cs : List Int} {a b : Int} (hcs : cs = [a] ∧ a = b ∨ cs = [a, b])
    (ha : a.natAbs < 2 ^ 52) (hb : b.natAbs < 2 ^ 52) :
    ∃ x, Series.mean (.counts cs) = .ok x ∧ x.roundHundredths.HasValue ((a + b : Int) / 2) := by
  have hne : cs ≠ [] := by
    obtain ⟨rfl, -⟩ | rfl := hcs <;> exact List.cons_ne_nil _ _
  have hlength : 0 < cs.length := List.length_pos_of_ne_nil hne
  have hsmall : (cs.map Int.natAbs).sum ≤ 2 ^ 53 := by
    obtain ⟨rfl, -⟩ | rfl := hcs <;> simp <;> omega
  have hmean : (cs.sum / cs.length : ℚ) = (a + b : Int) / 2 := by
    obtain ⟨rfl, rfl⟩ | rfl := hcs
    · simp
    · simp
  have htotal := Binary64.hasValue_of_adds hsmall (Binary64.adds_sumInts cs)
  have hhalf : ∃ x : Binary64, x.HasValue ((a + b : Int) / 2) :=
    Binary64.exists_hasValue_half (by omega)
  refine ⟨_, mean_counts hne, ?_⟩
  have hquotient := htotal.divCount hlength (hmean ▸ hhalf)
  rw [hmean] at hquotient
  -- Halves are whole numbers of hundredths.
  have hhundredths : ((a + b : Int) / 2 : ℚ) = (50 * (a + b) : Int) / 100 := by
    push_cast
    ring
  rw [hhundredths] at hquotient ⊢
  exact hquotient.roundHundredths

/-- The number is the middle of the sorted values or lies halfway between the two in the middle, and
between the least and the greatest; and half of the values or more lie on either side of it. -/
structure Summary.IsMedian (s : Summary) (ns : List Int) (m : ℚ) : Prop where
  sorted : s.sorted = (ns.mergeSort (· ≤ ·)).map .int
  middle : ∃ a b : Int, s.sorted[(ns.length - 1) / 2]? = some (.int a) ∧
    s.sorted[ns.length / 2]? = some (.int b) ∧ 2 * m = a + b
  bounds : ∃ lo hi : Int, s.min? = some (.int lo) ∧ s.max? = some (.int hi) ∧ lo ≤ m ∧ m ≤ hi
  below : ns.length ≤ 2 * ns.countP fun n : Int => (n : ℚ) ≤ m
  above : ns.length ≤ 2 * ns.countP fun n : Int => m ≤ (n : ℚ)

/-- Half of the numbers or more are not greater than what the lower middle does not exceed. -/
theorem length_le_two_mul_countP_le {a : Int} {m : ℚ}
    (ha : (ns.mergeSort (· ≤ ·))[(ns.length - 1) / 2]? = some a) (h : a ≤ m) :
    ns.length ≤ 2 * ns.countP fun n : Int => (n : ℚ) ≤ m := by
  have hlow := le_countP_le (pairwise_mergeSort_int ns) ha
  rw [(List.mergeSort_perm ns _).countP_eq] at hlow
  have hmono : ns.countP (· ≤ a) ≤ ns.countP fun n : Int => (n : ℚ) ≤ m := by
    apply List.countP_mono_left
    intro n _ hn
    exact decide_eq_true ((Int.cast_le.2 (of_decide_eq_true hn)).trans h)
  omega

/-- Half of the numbers or more are not less than what does not exceed the upper middle. -/
theorem length_le_two_mul_countP_ge {b : Int} {m : ℚ}
    (hb : (ns.mergeSort (· ≤ ·))[ns.length / 2]? = some b) (h : m ≤ b) :
    ns.length ≤ 2 * ns.countP fun n : Int => m ≤ (n : ℚ) := by
  have hhigh := le_countP_ge (pairwise_mergeSort_int ns) hb
  rw [(List.mergeSort_perm ns _).countP_eq, List.length_mergeSort] at hhigh
  have hmono : ns.countP (b ≤ ·) ≤ ns.countP fun n : Int => m ≤ (n : ℚ) := by
    apply List.countP_mono_left
    intro n _ hn
    exact decide_eq_true (h.trans (Int.cast_le.2 (of_decide_eq_true hn)))
  omega

theorem isMedian_of_middle {a b : Int} (hne : ns ≠ []) (h : summarize (ns.map .int) = .ok s)
    (ha : (ns.mergeSort (· ≤ ·))[(ns.length - 1) / 2]? = some a)
    (hb : (ns.mergeSort (· ≤ ·))[ns.length / 2]? = some b) :
    s.IsMedian ns ((a + b : Int) / 2) := by
  have hsorted := sorted_of_summarize h
  have hle : (a : ℚ) ≤ b := by
    obtain ⟨hi, rfl⟩ := List.getElem?_eq_some_iff.1 ha
    obtain ⟨hj, rfl⟩ := List.getElem?_eq_some_iff.1 hb
    exact Int.cast_le.2 ((pairwise_mergeSort_int ns).sortedLE.getElem_le_getElem_of_le (by omega))
  have hbelow : (a : ℚ) ≤ (a + b : Int) / 2 := by
    push_cast
    linarith
  have habove : ((a + b : Int) / 2 : ℚ) ≤ b := by
    push_cast
    linarith
  constructor
  · exact hsorted
  · refine ⟨a, b, ?_, ?_, ?_⟩
    · rw [hsorted, List.getElem?_map, ha, Option.map_some]
    · rw [hsorted, List.getElem?_map, hb, Option.map_some]
    · push_cast
      ring
  · obtain ⟨lo, -, hi, -, hmin, hmax, hbounds⟩ := exists_bounds_counts hne h
    have hlo := (hbounds a (List.mem_mergeSort.1 (List.mem_of_getElem? ha))).1
    have hhi := (hbounds b (List.mem_mergeSort.1 (List.mem_of_getElem? hb))).2
    exact ⟨lo, hi, hmin, hmax, (Int.cast_le.2 hlo).trans hbelow, habove.trans (Int.cast_le.2 hhi)⟩
  · exact length_le_two_mul_countP_le ha hbelow
  · exact length_le_two_mul_countP_ge hb habove

/-- Whole numbers of magnitudes below `2 ^ 52` have a summary, and its median is not rounded: its exact
value is the middle number or halfway between the two in the middle, so it has half of the numbers on
either side. -/
theorem median_exact (hne : ns ≠ []) (hsmall : ∀ n ∈ ns, n.natAbs < 2 ^ 52) :
    ∃ s x m, summarize (ns.map .int) = .ok s ∧ s.median = some x ∧ x.HasValue m ∧
      s.IsMedian ns m := by
  have fits : ∀ n ∈ ns, Series.fitsSigned n :=
    fun n hn => fitsSigned_of_natAbs_le ((hsmall n hn).le.trans (by decide))
  obtain ⟨s, hs⟩ := exists_summarize_counts fits
  obtain ⟨a, b, ha, hb, hmiddle⟩ := exists_middle (mergeSort_ne_nil hne)
  have ha' := hsmall a (List.mem_mergeSort.1 (List.mem_of_getElem? ha))
  have hb' := hsmall b (List.mem_mergeSort.1 (List.mem_of_getElem? hb))
  obtain ⟨x, hmean, hvalue⟩ := median_of_middle hmiddle ha' hb'
  have hmedian : Series.median (.counts (ns.mergeSort (· ≤ ·))) = .ok x := by
    rw [Series.median, Series.middleOf, mergeSort_eq_of_perm (List.mergeSort_perm ns _), hmean]
  obtain ⟨-, hstatistic, -⟩ := statistics_of_summarize hs
  rw [List.length_mergeSort] at ha hb
  exact ⟨s, _, _, hs, eq_of_roundedStatistic_sorted hne fits hs hmedian hstatistic, hvalue,
    isMedian_of_middle hne hs ha hb⟩

/-- The two greatest numbers have a median that is no whole number. -/
theorem median_exact_sample :
    (∀ n ∈ ([2 ^ 52 - 1, 2 ^ 52 - 2] : List Int), n.natAbs < 2 ^ 52) ∧
      ∃ s x, summarize [.int (2 ^ 52 - 1), .int (2 ^ 52 - 2)] = .ok s ∧ s.median = some x ∧
        x.HasValue ((2 ^ 53 - 3) / 2) := by
  have hsmall : ∀ n ∈ ([2 ^ 52 - 1, 2 ^ 52 - 2] : List Int), n.natAbs < 2 ^ 52 := by decide
  refine ⟨hsmall, ?_⟩
  obtain ⟨s, x, m, hs, hx, hvalue, hmedian⟩ := median_exact (by decide) hsmall
  have hsorted : ([2 ^ 52 - 1, 2 ^ 52 - 2] : List Int).mergeSort (· ≤ ·) =
      [2 ^ 52 - 2, 2 ^ 52 - 1] := by simp [List.mergeSort]
  obtain ⟨a, b, ha, hb, hm⟩ := hmedian.middle
  rw [hmedian.sorted, hsorted] at ha hb
  cases ha
  cases hb
  refine ⟨s, x, hs, hx, ?_⟩
  have hhalf : m = (2 ^ 53 - 3) / 2 := by
    push_cast at hm
    linarith
  rwa [← hhalf]

end CodeMetrics

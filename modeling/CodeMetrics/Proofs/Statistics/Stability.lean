import CodeMetrics.Proofs.Binary64.Exact
import CodeMetrics.Proofs.Statistics.Order

/-!
# Stable sorting

Truth values, whole numbers and floating-point numbers are sorted together by their exact values,
an order in which different values may count as equal.  So the sorted values are not settled by the
order alone; together with the rule that equal values keep the order in which they came, they are
(`StableSort.eq`).  A summary holds exactly this arrangement of its values, and its other fields
are there when there are values (`summarize_stable`).
-/

namespace CodeMetrics

variable {vs ws : List Value}

/-! ## Stable arrangements -/

/-- The second list is the first one sorted by exact values, where values that are equal as numbers
keep the order in which they came. -/
structure StableSort (vs ws : List Value) : Prop where
  perm : ws.Perm vs
  sorted : ws.Pairwise fun v w => v.exact ≤ w.exact
  stable : ∀ q : Extended, ws.filter (fun w => w.exact = q) = vs.filter fun v => v.exact = q

/-- The head of a sorted list is its least value. -/
theorem exact_head_le {v : Value} (h : (v :: vs).Pairwise fun v w => v.exact ≤ w.exact) :
    ∀ w ∈ v :: vs, v.exact ≤ w.exact :=
  List.forall_mem_cons.2 ⟨le_refl _, (List.pairwise_cons.1 h).1⟩

/-- Lists with the same values of each size have the same members. -/
theorem mem_of_filter_exact {v : Value}
    (h : vs.filter (fun u => u.exact = v.exact) = ws.filter fun u => u.exact = v.exact)
    (hv : v ∈ vs) : v ∈ ws := by
  have hself : v ∈ vs.filter fun u => u.exact = v.exact := by simp [hv]
  rw [h] at hself
  exact (List.mem_filter.1 hself).1

/-- Sorted lists with the same values of each size are the same. -/
theorem eq_of_sorted_of_filter (hv : vs.Pairwise fun v w => v.exact ≤ w.exact)
    (hw : ws.Pairwise fun v w => v.exact ≤ w.exact)
    (h : ∀ q : Extended, vs.filter (fun v => v.exact = q) = ws.filter fun w => w.exact = q) :
    vs = ws := by
  induction vs generalizing ws with
  | nil =>
    cases ws with
    | nil => rfl
    | cons w ws =>
      have hw := h w.exact
      simp at hw
  | cons v vs ih =>
    cases ws with
    | nil =>
      have hv := h v.exact
      simp at hv
    | cons w ws =>
      -- Each head is in the other list too, so neither is greater.
      have hle : v.exact ≤ w.exact :=
        exact_head_le hv w (mem_of_filter_exact (h w.exact).symm (List.mem_cons_self ..))
      have hge : w.exact ≤ v.exact :=
        exact_head_le hw v (mem_of_filter_exact (h v.exact) (List.mem_cons_self ..))
      have hexact : w.exact = v.exact := le_antisymm hge hle
      have hheads := h v.exact
      rw [List.filter_cons_of_pos (by simp), List.filter_cons_of_pos (by simp [hexact])] at hheads
      obtain ⟨rfl, -⟩ := List.cons.inj hheads
      congr 1
      apply ih (List.pairwise_cons.1 hv).2 (List.pairwise_cons.1 hw).2
      intro q
      have hq := h q
      rw [List.filter_cons, List.filter_cons] at hq
      split at hq
      · exact (List.cons.inj hq).2
      · exact hq

/-- There is only one stable arrangement. -/
theorem StableSort.eq {us : List Value} (h : StableSort us vs) (h' : StableSort us ws) : vs = ws :=
  eq_of_sorted_of_filter h.sorted h'.sorted fun q => (h.stable q).trans (h'.stable q).symm

/-! ## Sorting -/

/-- The order of exact values, in which every two values have a place. -/
def exactOrder (v w : Value) : Bool := v.exact ≤ w.exact

theorem isPlaced_of_isNumber {v : Value} (h : v.IsNumber) : Arrange.isPlaced v := by
  obtain ⟨n, hn, hplace⟩ := h.exists_number
  simp [Arrange.isPlaced, hn, hplace]

theorem mayPrecede_eq_exactOrder {v w : Value} (hv : v.IsNumber) (hw : w.IsNumber) :
    Arrange.mayPrecede v w = exactOrder v w := by
  rw [Arrange.mayPrecede, Value.before?_eq hw hv, exactOrder]
  simp

/-- Numbers are sorted by their exact values. -/
theorem sortValues_of_isNumber (numbers : ∀ v ∈ vs, v.IsNumber) :
    sortValues vs = .ok (vs.mergeSort exactOrder) := by
  have placed : vs.all Arrange.isPlaced :=
    List.all_eq_true.2 fun v hv => isPlaced_of_isNumber (numbers v hv)
  have order : (vs.mergeSort Arrange.mayPrecede).map id = (vs.map id).mergeSort exactOrder :=
    List.map_mergeSort fun v hv w hw => mayPrecede_eq_exactOrder (numbers v hv) (numbers w hw)
  rw [List.map_id, List.map_id] at order
  rw [sortValues, if_pos placed, order]

theorem exactOrder_trans (u v w : Value) (huv : exactOrder u v) (hvw : exactOrder v w) :
    exactOrder u w := by
  rw [exactOrder, decide_eq_true_eq] at *
  exact le_trans huv hvw

theorem exactOrder_total (v w : Value) : exactOrder v w || exactOrder w v := by
  simp [exactOrder, le_total]

theorem stableSort_mergeSort (vs : List Value) : StableSort vs (vs.mergeSort exactOrder) where
  perm := List.mergeSort_perm vs exactOrder
  sorted := by
    have h := List.pairwise_mergeSort exactOrder_trans exactOrder_total vs
    simpa only [exactOrder, decide_eq_true_eq] using h
  stable q := by
    -- The values of one size are sorted as they stand, so sorting keeps them in place.
    have hequal : (vs.filter fun v => v.exact = q).Pairwise fun v w => exactOrder v w := by
      rw [List.pairwise_filter]
      apply List.pairwise_of_forall
      intro v w hv hw
      rw [decide_eq_true_eq] at hv hw
      simp [exactOrder, hv, hw]
    have hsub : (vs.filter fun v => v.exact = q).Sublist
        ((vs.mergeSort exactOrder).filter fun v => v.exact = q) := by
      have h := (List.sublist_mergeSort exactOrder_trans exactOrder_total hequal
        List.filter_sublist).filter fun v => v.exact = q
      simpa only [List.filter_filter, Bool.and_self] using h
    have hperm := (List.mergeSort_perm vs exactOrder).filter fun v => v.exact = q
    exact (hsub.eq_of_length hperm.length_eq.symm).symm

/-! ## Summaries -/

variable {s : Summary}

/-- A statistic is a rounded number, and there is none of no values. -/
theorem roundedStatistic_cases {f : Series → Except Breakdown Binary64} {x : Option Binary64}
    (h : roundedStatistic f vs = .ok x) :
    vs = [] ∧ x = none ∨ vs ≠ [] ∧ ∃ y : Binary64, x = some y.roundHundredths := by
  unfold roundedStatistic at h
  by_cases hvs : vs.isEmpty
  · rw [if_pos hvs] at h
    exact .inl ⟨List.isEmpty_iff.1 hvs, (Except.ok.inj h).symm⟩
  · rw [if_neg hvs] at h
    obtain ⟨series, -, h⟩ := bind_eq_ok_iff.1 h
    obtain ⟨y, -, h⟩ := bind_eq_ok_iff.1 h
    exact .inr ⟨mt List.isEmpty_iff.2 hvs, y, (Except.ok.inj h).symm⟩

/-- A statistic is there exactly when there are values. -/
theorem isSome_of_roundedStatistic {f : Series → Except Breakdown Binary64} {x : Option Binary64}
    (h : roundedStatistic f vs = .ok x) : x.isSome = !vs.isEmpty := by
  obtain ⟨rfl, rfl⟩ | ⟨hne, y, rfl⟩ := roundedStatistic_cases h
  · rfl
  · simp [hne]

theorem statistics_of_summarize (h : summarize vs = .ok s) :
    mean? s.sorted = .ok s.mean ∧ median? s.sorted = .ok s.median ∧
      deviation? s.sorted = .ok s.deviation := by
  obtain ⟨sorted, -, h⟩ := bind_eq_ok_iff.1 h
  obtain ⟨mean, hmean, h⟩ := bind_eq_ok_iff.1 h
  obtain ⟨median, hmedian, h⟩ := bind_eq_ok_iff.1 h
  obtain ⟨deviation, hdeviation, h⟩ := bind_eq_ok_iff.1 h
  obtain rfl := Except.ok.inj h
  exact ⟨hmean, hmedian, hdeviation⟩

/-- The least value stands first and the greatest last. -/
theorem StableSort.bounds (h : StableSort vs ws) :
    (∀ m ∈ ws.head?, m ∈ vs ∧ ∀ v ∈ vs, m.exact ≤ v.exact) ∧
      ∀ m ∈ ws.getLast?, m ∈ vs ∧ ∀ v ∈ vs, v.exact ≤ m.exact := by
  constructor
  · intro m hm
    obtain ⟨rest, rfl⟩ := List.head?_eq_some_iff.1 hm
    refine ⟨h.perm.subset (List.mem_cons_self ..), fun v hv => ?_⟩
    exact exact_head_le h.sorted v (h.perm.symm.subset hv)
  · intro m hm
    obtain ⟨rest, rfl⟩ := List.getLast?_eq_some_iff.1 hm
    refine ⟨h.perm.subset (by simp), fun v hv => ?_⟩
    rcases List.mem_append.1 (h.perm.symm.subset hv) with hv | hv
    · exact (List.pairwise_append.1 h.sorted).2.2 v hv m (List.mem_singleton_self m)
    · rw [List.mem_singleton.1 hv]

/-- Take truth values, whole numbers and floating-point numbers in any mix, none of which is NaN, that
have a summary.  They are compared by their exact values.  The sorted values are the only stable
arrangement, and there are as many as were given.  The least and the greatest value, which are the
first and the last of them, are among the given values and bound them all; and those two, the mean,
the median and the deviation are all there when there are values and all absent when there are
none. -/
theorem summarize_stable (numbers : ∀ v ∈ vs, v.IsNumber) (h : summarize vs = .ok s) :
    (∀ v ∈ vs, ∀ w ∈ vs, Value.before? v w = some (decide (v.exact < w.exact)) ∧
        Value.same false v w = decide (v.exact = w.exact)) ∧
      StableSort vs s.sorted ∧ (∀ ws, StableSort vs ws → ws = s.sorted) ∧
      s.count = vs.length ∧
      s.min? = s.sorted.head? ∧ (∀ m ∈ s.min?, m ∈ vs ∧ ∀ v ∈ vs, m.exact ≤ v.exact) ∧
      s.max? = s.sorted.getLast? ∧ (∀ m ∈ s.max?, m ∈ vs ∧ ∀ v ∈ vs, v.exact ≤ m.exact) ∧
      ∀ present ∈ [s.min?.isSome, s.max?.isSome, s.mean.isSome, s.median.isSome,
        s.deviation.isSome], present = !vs.isEmpty := by
  have hsort := sortValues_of_summarize h
  rw [sortValues_of_isNumber numbers] at hsort
  have hstable : StableSort vs s.sorted := Except.ok.inj hsort ▸ stableSort_mergeSort vs
  have hlength : s.sorted.length = vs.length := hstable.perm.length_eq
  have hempty : s.sorted.isEmpty = vs.isEmpty := by
    rw [Bool.eq_iff_iff, List.isEmpty_iff_length_eq_zero, List.isEmpty_iff_length_eq_zero, hlength]
  obtain ⟨hmean, hmedian, hdeviation⟩ := statistics_of_summarize h
  refine ⟨fun v hv w hw => ⟨?_, ?_⟩, hstable, fun ws hws => hws.eq hstable, hlength, rfl,
    hstable.bounds.1, rfl, hstable.bounds.2, ?_⟩
  · exact Value.before?_eq (numbers v hv) (numbers w hw)
  · exact Value.same_eq (numbers v hv) (numbers w hw)
  · rw [← hempty]
    simp only [List.forall_mem_cons]
    refine ⟨?_, ?_, isSome_of_roundedStatistic hmean, isSome_of_roundedStatistic hmedian,
      isSome_of_roundedStatistic hdeviation, List.forall_mem_nil _⟩
    · rw [Summary.min?]
      cases s.sorted <;> rfl
    · rw [Summary.max?]
      cases s.sorted with
      | nil => rfl
      | cons v rest => simp

/-- Two ones of different kinds, and a floating-point number after the next whole number, which has
no floating-point number of its own. -/
def mixedNumbers : List Value :=
  [.int (2 ^ 53 + 1), .float (.ofInt (2 ^ 53)), .int 1, .bool true]

theorem summarize_stable_sample :
    (∀ v ∈ mixedNumbers, v.IsNumber) ∧ ∃ s, summarize mixedNumbers = .ok s ∧
      s.sorted = [.int 1, .bool true, .float (.ofInt (2 ^ 53)), .int (2 ^ 53 + 1)] ∧
      StableSort mixedNumbers s.sorted ∧ s.count = 4 ∧ s.mean.isSome := by
  have numbers : ∀ v ∈ mixedNumbers, v.IsNumber := by
    simp only [mixedNumbers, List.forall_mem_cons]
    refine ⟨.int _, .float ?_, .int _, .bool _, List.forall_mem_nil _⟩
    decide +kernel
  have sorted : sortValues mixedNumbers =
      .ok [.int 1, .bool true, .float (.ofInt (2 ^ 53)), .int (2 ^ 53 + 1)] := by
    have placed : mixedNumbers.all Arrange.isPlaced := by decide +kernel
    have h₁ : Arrange.mayPrecede (.int (2 ^ 53 + 1)) (.float (.ofInt (2 ^ 53))) = false := by
      decide +kernel
    have h₂ : Arrange.mayPrecede (.int 1) (.bool true) := by decide +kernel
    have h₃ : Arrange.mayPrecede (.float (.ofInt (2 ^ 53))) (.int 1) = false := by decide +kernel
    have h₄ : Arrange.mayPrecede (.float (.ofInt (2 ^ 53))) (.bool true) = false := by
      decide +kernel
    rw [sortValues, if_pos placed, mixedNumbers]
    generalize Value.int (2 ^ 53 + 1) = a, Value.float (.ofInt (2 ^ 53)) = b, Value.int 1 = c,
      Value.bool true = d at h₁ h₂ h₃ h₄
    simp [List.mergeSort, h₁, h₂, h₃, h₄]
  have outcome : (summarize mixedNumbers).toOption.map (fun _ => ()) = some () := by
    rw [summarize, sorted]
    decide +kernel
  obtain ⟨s, hs, -⟩ := exists_of_toOption_map_eq_some outcome
  have hsorted := Except.ok.inj ((sortValues_of_summarize hs).symm.trans sorted)
  obtain ⟨-, stable, -, count, -, -, -, -, present⟩ := summarize_stable numbers hs
  exact ⟨numbers, s, hs, hsorted, stable, count, present _ (by simp)⟩

end CodeMetrics

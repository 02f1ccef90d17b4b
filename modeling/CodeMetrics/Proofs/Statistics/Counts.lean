import CodeMetrics.Statistics.Summary
import CodeMetrics.Proofs.Binary64.Place
import CodeMetrics.Proofs.Except

/-!
# Summaries of whole numbers

Whole numbers that fit into a signed word have a summary, whatever their order: sorting only
rearranges them, the series they make up is one of counts, and no step on counts can fail
(`exists_summarize_counts`).
-/

namespace CodeMetrics

/-! ## Sorting -/

theorem isPlaced_int (n : Int) : Arrange.isPlaced (.int n) := rfl

theorem mayPrecede_int (m n : Int) : Arrange.mayPrecede (.int m) (.int n) = decide (m ≤ n) := by
  show decide (some ((Number.int n).place.before (Number.int m).place) ≠ some true) = _
  rw [Number.before_int_iff, decide_eq_decide, Ne, Option.some.injEq, decide_eq_true_eq, Int.not_lt]

/-- Whole numbers are sorted as such. -/
theorem sortValues_counts (ns : List Int) :
    sortValues (ns.map Value.int) = .ok ((ns.mergeSort (· ≤ ·)).map Value.int) := by
  have placed : (ns.map Value.int).all Arrange.isPlaced :=
    List.all_eq_true.2 (List.forall_mem_map.2 fun n _ => isPlaced_int n)
  unfold sortValues
  rw [if_pos placed, List.map_mergeSort fun m _ n _ => (mayPrecede_int m n).symm]

/-! ## The series -/

namespace Series

variable {v : Value} {vs : List Value}

theorem leaves_of_number (h : v.number?.isSome) : leaves v = [v] := by
  cases v <;> first | rfl | cases h

theorem shape?_of_number (h : v.number?.isSome) : shape? v = some [] := by
  cases v <;> first | rfl | cases h

theorem leavesOfItems_of_number (h : ∀ v ∈ vs, v.number?.isSome) : leavesOfItems vs = vs := by
  induction vs with
  | nil => rfl
  | cons v rest ih =>
    obtain ⟨hv, hrest⟩ := List.forall_mem_cons.1 h
    rw [leavesOfItems, leaves_of_number hv, ih hrest, List.singleton_append]

theorem shapeOfItems?_of_number (h : ∀ w ∈ v :: vs, w.number?.isSome) :
    shapeOfItems? (v :: vs) = some [vs.length + 1] := by
  induction vs generalizing v with
  | nil =>
    rw [shapeOfItems?, shape?_of_number (h v (List.mem_singleton_self v))]
    rfl
  | cons w rest ih =>
    obtain ⟨hv, hrest⟩ := List.forall_mem_cons.1 h
    rw [shapeOfItems?, shape?_of_number hv, ih hrest]
    · rfl
    · intro h
      cases h

/-- Numbers are a regular nest of lists. -/
theorem ofValues_of_number (hne : vs ≠ []) (h : ∀ v ∈ vs, v.number?.isSome) :
    ofValues vs = ofLeaves vs := by
  obtain ⟨v, rest, rfl⟩ := List.exists_cons_of_ne_nil hne
  rw [ofValues, shapeOfItems?_of_number h, leavesOfItems_of_number h]

theorem mapM_number?_counts (ns : List Int) :
    (ns.map Value.int).mapM Value.number? = some (ns.map Number.int) := by
  induction ns with
  | nil => rfl
  | cons n rest ih =>
    rw [List.map_cons, List.mapM_cons, ih]
    rfl

theorem ints_counts (ns : List Int) : ints (ns.map Number.int) = ns := by
  unfold ints
  rw [List.filterMap_map]
  exact List.filterMap_some

/-- One whole number or more in signed words are a series of counts. -/
theorem ofValues_counts {ns : List Int} (hne : ns ≠ []) (fits : ∀ n ∈ ns, fitsSigned n) :
    ofValues (ns.map Value.int) = .ok (counts ns) := by
  have number : ∀ v ∈ ns.map Value.int, v.number?.isSome := List.forall_mem_map.2 fun _ _ => rfl
  rw [ofValues_of_number (by simpa using hne) number]
  obtain ⟨n, rest, rfl⟩ := List.exists_cons_of_ne_nil hne
  have word : ∀ m ∈ n :: rest, fitsWord m := by
    intro m hm
    have h := fits m hm
    unfold fitsSigned at h
    unfold fitsWord
    rw [Bool.and_eq_true, decide_eq_true_eq, decide_eq_true_eq] at h ⊢
    omega
  have noLong : ((n :: rest).map Value.int).any (isIntWhere fun n => !fitsWord n) = false := by
    rw [List.any_eq_false, List.forall_mem_map]
    intro m hm
    show ¬ (!fitsWord m) = true
    rw [word m hm]
    exact nofun
  have noFloat : ((n :: rest).map Value.int).any isFloat = false := by
    rw [List.any_eq_false, List.forall_mem_map]
    exact fun n _ => nofun
  have noUnsigned :
      ((n :: rest).map Value.int).any (isIntWhere fun n => !fitsSigned n) = false := by
    rw [List.any_eq_false, List.forall_mem_map]
    intro m hm
    show ¬ (!fitsSigned m) = true
    rw [fits m hm]
    exact nofun
  unfold ofLeaves
  rw [mapM_number?_counts]
  dsimp only
  rw [noLong, noFloat, noUnsigned, ints_counts]
  rfl

end Series

/-! ## Summaries -/

/-- A statistic that counts always have is one of every list of whole numbers in signed words. -/
theorem exists_roundedStatistic_counts {f : Series → Except Breakdown Binary64}
    (hf : ∀ ns, ∃ x, f (.counts ns) = .ok x) {ns : List Int}
    (fits : ∀ n ∈ ns, Series.fitsSigned n) :
    ∃ x, roundedStatistic f (ns.map Value.int) = .ok x := by
  unfold roundedStatistic
  split
  · exact ⟨none, rfl⟩
  · next h =>
    have hne : ns ≠ [] := by
      rintro rfl
      exact h rfl
    obtain ⟨x, hx⟩ := hf ns
    rw [Series.ofValues_counts hne fits]
    exact ⟨_, bind_eq_ok_iff.2 ⟨_, rfl, bind_eq_ok_iff.2 ⟨x, hx, rfl⟩⟩⟩

theorem exists_mean_counts (ns : List Int) : ∃ x, Series.mean (.counts ns) = .ok x := ⟨_, rfl⟩

theorem exists_median_counts (ns : List Int) : ∃ x, Series.median (.counts ns) = .ok x := ⟨_, rfl⟩

theorem exists_populationDeviation_counts (ns : List Int) :
    ∃ x, Series.populationDeviation (.counts ns) = .ok x := ⟨_, rfl⟩

/-- A summary is put together from the sorted values and their statistics. -/
theorem summarize_eq_ok {vs sorted : List Value} {mean median deviation : Option Binary64}
    (hsort : sortValues vs = .ok sorted) (hmean : mean? sorted = .ok mean)
    (hmedian : median? sorted = .ok median) (hdeviation : deviation? sorted = .ok deviation) :
    summarize vs = .ok ⟨sorted, mean, median, deviation⟩ := by
  refine bind_eq_ok_iff.2 ⟨sorted, hsort, bind_eq_ok_iff.2 ⟨mean, hmean, ?_⟩⟩
  exact bind_eq_ok_iff.2 ⟨median, hmedian, bind_eq_ok_iff.2 ⟨deviation, hdeviation, rfl⟩⟩

theorem exists_summarize_counts {ns : List Int} (fits : ∀ n ∈ ns, Series.fitsSigned n) :
    ∃ s, summarize (ns.map Value.int) = .ok s := by
  have fits : ∀ m ∈ ns.mergeSort (· ≤ ·), Series.fitsSigned m :=
    fun m hm => fits m (List.mem_mergeSort.1 hm)
  obtain ⟨mean, hmean⟩ := exists_roundedStatistic_counts exists_mean_counts fits
  obtain ⟨median, hmedian⟩ := exists_roundedStatistic_counts exists_median_counts fits
  obtain ⟨deviation, hdeviation⟩ :=
    exists_roundedStatistic_counts exists_populationDeviation_counts fits
  exact ⟨_, summarize_eq_ok (sortValues_counts ns) hmean hmedian hdeviation⟩

end CodeMetrics

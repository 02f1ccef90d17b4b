import CodeMetrics.Proofs.Binary64.Zeros
import CodeMetrics.Proofs.Statistics.Averages

/-!
# Whole numbers of several kinds

A truth value, a whole number and a floating-point number without a fraction may be the same whole
number, and then they are equal.  Values of different kinds become series of different kinds, whose
numbers are added in different orders; but as long as the magnitudes add up to less than `2 ^ 53` no
statistic shows the difference (`Series.IgnoresKind`), and lists of equal values have summaries that
agree (`exists_summaries_same`).
-/

namespace CodeMetrics

/-! ## Whole numbers -/

namespace Number

/-- The number has no fraction. -/
def isWhole : Number → Bool
  | int _ => true
  | float (.finite _ units _) => Binary64.one ∣ units
  | float _ => false

/-- The whole number that a number is, and its whole part if it has a fraction. -/
def whole : Number → Int
  | int n => n
  | float x => x.whole

theorem place_eq_iff {m : Number} {n : Int} :
    m.place = (int n).place ↔ m.isWhole ∧ m.whole = n := by
  have hone := Binary64.one_pos.ne'
  cases m with
  | int k =>
    simp only [place, isWhole, whole, Place.exactly.injEq, true_and]
    exact Int.mul_eq_mul_right_iff hone
  | float x =>
    cases x with
    | nan => exact ⟨nofun, nofun⟩
    | inf neg => cases neg <;> exact ⟨nofun, nofun⟩
    | finite neg units h =>
      simp only [place, Binary64.place, isWhole, whole, Binary64.whole, Place.exactly.injEq,
        decide_eq_true_eq]
      constructor
      · intro hunits
        have hmul : units = n.natAbs * Binary64.one := by
          rw [← Binary64.natAbs_signed neg units, hunits, Int.natAbs_mul, Int.natAbs_natCast]
        exact ⟨hmul ▸ Nat.dvd_mul_left _ _, by rw [hunits, Int.mul_ediv_cancel n hone]⟩
      · rintro ⟨hdvd, rfl⟩
        rw [← Nat.div_mul_cancel hdvd, ← Binary64.signed_mul, Int.mul_ediv_cancel _ hone]

theorem place_of_isWhole {m : Number} (h : m.isWhole) : m.place = (int m.whole).place :=
  place_eq_iff.2 ⟨h, rfl⟩

end Number

namespace Value

variable {v w : Value} {nanAgrees : Bool}

/-- The value is a whole number of whatever kind: a truth value, or a number without a fraction. -/
def isWhole (v : Value) : Bool := v.number?.any Number.isWhole

/-- The whole number that a value is. -/
def whole (v : Value) : Int := (v.number?.map Number.whole).getD 0

theorem exists_number_of_isWhole (h : v.isWhole) :
    ∃ m, v.number? = some m ∧ m.isWhole ∧ m.whole = v.whole := by
  unfold isWhole at h
  unfold whole
  rcases hm : v.number? with _ | m
  · rw [hm] at h
    cases h
  · rw [hm] at h
    exact ⟨m, rfl, h, rfl⟩

theorem exact_of_isWhole (h : v.isWhole) : v.exact = .ofRat v.whole := by
  obtain ⟨m, hm, hwhole, hv⟩ := exists_number_of_isWhole h
  rw [exact_of_number? hm, Number.place_of_isWhole hwhole, hv, Number.exact_place]
  rfl

theorem isNumber_of_isWhole (h : v.isWhole) : v.IsNumber := by
  cases v with
  | bool b => exact .bool b
  | int n => exact .int n
  | float x =>
    apply IsNumber.float
    rintro rfl
    cases h
  | _ => cases h

theorem same_of_number? {m : Number} (hm : v.number? = some m) (h : same nanAgrees v w) :
    ∃ n, w.number? = some n ∧ sameNumber nanAgrees m n := by
  cases v with
  | bool b | int b | float b =>
    obtain rfl := Option.some.inj hm
    rw [same] at h
    split at h
    · next n hn => exact ⟨n, hn, h⟩
    · cases h
  | _ => cases hm

/-- What equals a whole number is the same whole number. -/
theorem isWhole_of_same (h : same nanAgrees v w) (hv : v.isWhole) :
    w.isWhole ∧ w.whole = v.whole := by
  obtain ⟨m, hm, hwhole, hvalue⟩ := exists_number_of_isWhole hv
  obtain ⟨n, hn, hsame⟩ := same_of_number? hm h
  have hplace := Number.place_of_isWhole hwhole
  have hdefined : m.place ≠ .undefined := by
    rw [hplace]
    exact nofun
  have hequal : m.place.same n.place := by
    unfold sameNumber at hsame
    simpa [hdefined] using hsame
  obtain ⟨hw, hwvalue⟩ := Number.place_eq_iff.1 ((Place.eq_of_same hequal).1.symm.trans hplace)
  rw [isWhole, whole, hn, ← hvalue]
  exact ⟨hw, hwvalue⟩

theorem same_of_whole (hv : v.isWhole) (hw : w.isWhole) (h : v.whole = w.whole) :
    same false v w := by
  rw [same_eq (isNumber_of_isWhole hv) (isNumber_of_isWhole hw), exact_of_isWhole hv,
    exact_of_isWhole hw, h]
  exact decide_eq_true rfl

end Value

/-! ## Lists of whole numbers -/

/-- The values are whole numbers whose magnitudes add up to less than `2 ^ 53`. -/
structure SmallWholes (vs : List Value) : Prop where
  whole : ∀ v ∈ vs, v.isWhole
  small : (vs.map fun v => v.whole.natAbs).sum < 2 ^ 53

instance (vs : List Value) : Decidable (SmallWholes vs) :=
  decidable_of_iff ((∀ v ∈ vs, v.isWhole) ∧ (vs.map fun v => v.whole.natAbs).sum < 2 ^ 53)
    ⟨fun ⟨whole, small⟩ => ⟨whole, small⟩, fun ⟨whole, small⟩ => ⟨whole, small⟩⟩

variable {vs ws : List Value} {nanAgrees : Bool}

theorem SmallWholes.natAbs_sum (h : SmallWholes vs) :
    ((vs.map Value.whole).map Int.natAbs).sum < 2 ^ 53 := by
  rw [List.map_map]
  exact h.small

theorem SmallWholes.perm (h : SmallWholes vs) (hperm : ws.Perm vs) : SmallWholes ws where
  whole v hv := h.whole v (hperm.subset hv)
  small := by
    rw [(hperm.map fun v : Value => v.whole.natAbs).sum_eq]
    exact h.small

theorem sameAll_iff :
    Value.sameAll nanAgrees vs ws ↔ List.Forall₂ (fun v w => Value.same nanAgrees v w) vs ws := by
  induction vs generalizing ws with
  | nil => cases ws <;> simp [Value.sameAll]
  | cons v vs ih => cases ws <;> simp [Value.sameAll, ih]

/-- What equals a list of whole numbers is a list of the same whole numbers. -/
theorem SmallWholes.of_sameAll (h : SmallWholes vs) (hsame : Value.sameAll nanAgrees vs ws) :
    SmallWholes ws ∧ ws.map Value.whole = vs.map Value.whole := by
  have hwholes : (∀ w ∈ ws, w.isWhole) ∧ ws.map Value.whole = vs.map Value.whole := by
    have hwhole := h.whole
    clear h
    induction sameAll_iff.1 hsame with
    | nil => exact ⟨nofun, rfl⟩
    | @cons v w vs ws hvw hrest ih =>
      obtain ⟨hv, hvs⟩ := List.forall_mem_cons.1 hwhole
      obtain ⟨hw, hvalue⟩ := Value.isWhole_of_same hvw hv
      obtain ⟨hws, hvalues⟩ := ih (sameAll_iff.2 hrest) hvs
      exact ⟨List.forall_mem_cons.2 ⟨hw, hws⟩, congrArg₂ List.cons hvalue hvalues⟩
  refine ⟨⟨hwholes.1, ?_⟩, hwholes.2⟩
  have hsmall := h.natAbs_sum
  rwa [← hwholes.2, List.map_map] at hsmall

/-- Lists of the same whole numbers are equal. -/
theorem sameAll_of_wholes (hv : ∀ v ∈ vs, v.isWhole) (hw : ∀ w ∈ ws, w.isWhole)
    (h : vs.map Value.whole = ws.map Value.whole) : Value.sameAll false vs ws := by
  rw [sameAll_iff]
  induction vs generalizing ws with
  | nil =>
    obtain rfl : ws = [] := List.map_eq_nil_iff.1 h.symm
    exact .nil
  | cons v vs ih =>
    cases ws with
    | nil => cases h
    | cons w ws =>
      obtain ⟨hv, hvs⟩ := List.forall_mem_cons.1 hv
      obtain ⟨hw, hws⟩ := List.forall_mem_cons.1 hw
      obtain ⟨hvalue, hvalues⟩ := List.cons.inj h
      exact .cons (Value.same_of_whole hv hw hvalue) (ih hvs hws hvalues)

/-- Whole numbers of all kinds are sorted as whole numbers. -/
theorem map_whole_mergeSort (h : ∀ v ∈ vs, v.isWhole) :
    (vs.mergeSort exactOrder).map Value.whole = (vs.map Value.whole).mergeSort (· ≤ ·) := by
  apply List.map_mergeSort
  intro v hv w hw
  unfold exactOrder
  rw [Value.exact_of_isWhole (h v hv), Value.exact_of_isWhole (h w hw), decide_eq_decide]
  exact exact_int_le_iff v.whole w.whole

/-! ## Series of whole numbers -/

namespace Series

/-- The series consists of the whole numbers `ns`, as counts or as floating-point numbers. -/
inductive Holds (ns : List Int) : Series → Prop
  | counts : Holds ns (counts ns)
  | reals {xs : List Binary64} (hwhole : ∀ x ∈ xs, x.HasValue x.whole)
    (hmap : xs.map Binary64.whole = ns) : Holds ns (reals xs)

/-- The numbers of a series as floating-point numbers. -/
def numbers : Series → List Binary64
  | counts ns => ns.map .ofInt
  | reals xs => xs
  | exact ns => ns.map toBinary64

variable {s t : Series} {ns : List Int} {m : Binary64}

/-- Small whole numbers have exact floating-point numbers. -/
theorem Holds.wholeTerms (h : s.Holds ns) (hsmall : (ns.map Int.natAbs).sum < 2 ^ 53) :
    Binary64.WholeTerms s.numbers ns.sum ∧ s.numbers.map Binary64.whole = ns := by
  cases h with
  | counts =>
    exact ⟨Binary64.wholeTerms_ofInt hsmall.le, Binary64.map_whole_ofInt hsmall.le⟩
  | reals hwhole hmap =>
    refine ⟨⟨hwhole, ?_, ?_⟩, hmap⟩
    · rw [numbers, hmap]
    · rw [← hmap, List.map_map] at hsmall
      exact hsmall.le

theorem Holds.length_numbers (h : s.Holds ns) : s.numbers.length = ns.length := by
  cases h with
  | counts => exact List.length_map _
  | reals hwhole hmap => rw [← hmap, List.length_map, numbers]

/-! ### The mean -/

/-- The mean is the exact sum, divided by the count. -/
theorem Holds.mean_eq (h : s.Holds ns) (hne : ns ≠ [])
    (hsmall : (ns.map Int.natAbs).sum < 2 ^ 53) :
    ∃ total : Binary64, mean s = .ok (total.divCount ns.length) ∧ total.HasValue (ns.sum : Int) := by
  have hterms := (h.wholeTerms hsmall).1
  have hlength := h.length_numbers
  cases h with
  | counts =>
    exact ⟨_, mean_counts hne, hterms.hasValue_of_adds (Binary64.adds_sumInts ns)⟩
  | @reals xs hwhole hmap =>
    refine ⟨Binary64.sum xs, ?_, hterms.hasValue_of_adds (Binary64.adds_sum xs)⟩
    have hpos : xs.length ≠ 0 := by
      rw [show xs.length = ns.length from hlength]
      simpa using hne
    rw [mean, mean.divide, if_neg hpos, show xs.length = ns.length from hlength]

/-- The statistic of small whole numbers does not show what kind of series they make up. -/
def IgnoresKind (f : Series → Except Breakdown Binary64) : Prop :=
  ∀ ⦃ns : List Int⦄ ⦃s t : Series⦄, ns ≠ [] → (ns.map Int.natAbs).sum < 2 ^ 53 →
    s.Holds ns → t.Holds ns → ∃ x y, f s = .ok x ∧ f t = .ok y ∧ x.place = y.place ∧ x ≠ .nan

theorem ignoresKind_mean : IgnoresKind mean := by
  intro ns s t hne hsmall hs ht
  obtain ⟨total, hmean, htotal⟩ := hs.mean_eq hne hsmall
  obtain ⟨total', hmean', htotal'⟩ := ht.mean_eq hne hsmall
  refine ⟨_, _, hmean, hmean', ?_, ?_⟩
  · exact Binary64.place_divCount_congr (htotal.place_eq htotal') _
  · exact Binary64.divCount_ne_nan htotal.ne_nan _

/-! ### The median -/

theorem map_middle {α β : Type} (f : α → β) (xs : List α) :
    (middle xs).map f = middle (xs.map f) := by
  unfold middle
  rw [List.length_map]
  split
  · rw [List.map_take, List.map_drop]
  · rw [List.map_take, List.map_drop]

theorem middle_sublist {α : Type} (xs : List α) : (middle xs).Sublist xs := by
  unfold middle
  split
  · exact (List.take_sublist _ _).trans (List.drop_sublist _ _)
  · exact (List.take_sublist _ _).trans (List.drop_sublist _ _)

theorem middle_ne_nil {xs : List Int} (hne : xs ≠ []) : middle xs ≠ [] := by
  obtain ⟨a, b, -, -, ⟨h, -⟩ | h⟩ := exists_middle hne
  · rw [h]
    exact List.cons_ne_nil _ _
  · rw [h]
    exact List.cons_ne_nil _ _

/-- Whole numbers are sorted by their places, whatever their kind is. -/
theorem Holds.middleOf (h : s.Holds ns) : (middleOf s).Holds (middle (ns.mergeSort (· ≤ ·))) := by
  cases h with
  | counts => exact .counts
  | @reals xs hwhole hmap =>
    have hnan : xs.any Binary64.isNaN = false := by
      rw [List.any_eq_false]
      intro x hx hnan
      apply (hwhole x hx).ne_nan
      cases x <;> first | rfl | cases hnan
    have hsort : (xs.mergeSort fun x y => !y.place.before x.place).map Binary64.whole =
        ns.mergeSort (· ≤ ·) := by
      rw [← hmap]
      apply List.map_mergeSort
      intro x hx y hy
      rw [Binary64.hasValue_int_iff.1 (hwhole x hx), Binary64.hasValue_int_iff.1 (hwhole y hy),
        Number.before_int_iff, ← decide_not, decide_eq_decide, Int.not_lt]
    rw [Series.middleOf, hnan, if_neg Bool.false_ne_true]
    refine .reals ?_ ?_
    · intro x hx
      exact hwhole x (List.mem_mergeSort.1 ((middle_sublist _).subset hx))
    · rw [map_middle, hsort]

theorem ignoresKind_median : IgnoresKind median := by
  intro ns s t hne hsmall hs ht
  apply ignoresKind_mean _ _ hs.middleOf ht.middleOf
  · exact middle_ne_nil (mergeSort_ne_nil hne)
  · have hle := ((middle_sublist (ns.mergeSort (· ≤ ·))).map Int.natAbs).sum_le_sum (by simp)
    rw [((List.mergeSort_perm ns _).map Int.natAbs).sum_eq] at hle
    omega

/-! ### The standard deviation -/

/-- The squares of the deviations from `m`. -/
def squares (xs : List Binary64) (m : Binary64) : List Binary64 :=
  xs.map fun x => (x.sub m).mul (x.sub m)

theorem Holds.populationDeviation_eq (h : s.Holds ns) (hne : ns ≠ []) (hm : mean s = .ok m) :
    populationDeviation s =
      .ok ((Binary64.sum (squares s.numbers m)).divCount ns.length).sqrt := by
  have hlength := h.length_numbers
  have hpos : ns.length ≠ 0 := by simpa using hne
  have hspread : populationDeviation s =
      .ok (populationDeviation.spread (s.numbers.map fun x => x.sub m)) := by
    cases h with
    | counts =>
      simp only [numbers, List.map_map, Function.comp_def]
      exact bind_eq_ok_iff.2 ⟨m, hm, rfl⟩
    | reals => exact bind_eq_ok_iff.2 ⟨m, hm, rfl⟩
  rw [hspread, populationDeviation.spread, List.length_map, hlength, mean.divide, if_neg hpos,
    List.map_map]
  rfl

/-- The squares do not show the kinds of the numbers either: all that may differ before is the sign of
zero. -/
theorem squares_congr {xs ys : List Binary64} {m m' : Binary64}
    (hx : ∀ x ∈ xs, x.HasValue x.whole) (hy : ∀ y ∈ ys, y.HasValue y.whole)
    (h : xs.map Binary64.whole = ys.map Binary64.whole) (hm : m.place = m'.place) :
    squares xs m = squares ys m' := by
  induction xs generalizing ys with
  | nil =>
    obtain rfl : ys = [] := List.map_eq_nil_iff.1 h.symm
    rfl
  | cons x xs ih =>
    cases ys with
    | nil => cases h
    | cons y ys =>
      obtain ⟨hx, hxs⟩ := List.forall_mem_cons.1 hx
      obtain ⟨hy, hys⟩ := List.forall_mem_cons.1 hy
      obtain ⟨hwhole, hwholes⟩ := List.cons.inj h
      have hplace : x.place = y.place := hx.place_eq (hwhole ▸ hy)
      have hsquare := Binary64.mul_self_congr (Binary64.place_sub_congr hplace hm)
      exact congrArg₂ List.cons hsquare (ih hxs hys hwholes)

theorem isNonneg_squares {xs : List Binary64} (hx : ∀ x ∈ xs, x.HasValue x.whole) (hm : m ≠ .nan) :
    ∀ d ∈ squares xs m, d.isNonneg := by
  rw [squares, List.forall_mem_map]
  intro x hmem
  apply Binary64.isNonneg_mul_self
  exact Binary64.sub_ne_nan (hx x hmem).isFinite hm

theorem ignoresKind_populationDeviation : IgnoresKind populationDeviation := by
  intro ns s t hne hsmall hs ht
  obtain ⟨m, m', hm, hm', hplace, hnan⟩ := ignoresKind_mean hne hsmall hs ht
  obtain ⟨hterms, hwholes⟩ := hs.wholeTerms hsmall
  obtain ⟨hterms', hwholes'⟩ := ht.wholeTerms hsmall
  have hsquares : squares s.numbers m = squares t.numbers m' :=
    squares_congr hterms.whole hterms'.whole (hwholes.trans hwholes'.symm) hplace
  refine ⟨_, _, hs.populationDeviation_eq hne hm, ht.populationDeviation_eq hne hm', ?_, ?_⟩
  · rw [hsquares]
  · have hsum := Binary64.isNonneg_of_adds (Binary64.adds_sum _) (isNonneg_squares hterms.whole hnan)
    apply Binary64.ne_nan_of_isNonneg
    apply Binary64.isNonneg_sqrt
    apply Binary64.isNonneg_divCount
    exact hsum _ (List.mem_singleton_self _)

/-! ### The series of whole values -/

theorem hasValue_toBinary64 {m : Number} (h : m.isWhole) (hsmall : m.whole.natAbs ≤ 2 ^ 53) :
    (toBinary64 m).HasValue m.whole := by
  cases m with
  | int n => exact Binary64.hasValue_ofInt hsmall
  | float x =>
    rw [toBinary64, Binary64.hasValue_int_iff, ← Number.place_of_isWhole h, Number.place]

theorem mapM_number? {vs : List Value} (h : ∀ v ∈ vs, v.isWhole) :
    ∃ ms : List Number, vs.mapM Value.number? = some ms ∧ (∀ m ∈ ms, m.isWhole) ∧
      ms.map Number.whole = vs.map Value.whole := by
  induction vs with
  | nil => exact ⟨[], rfl, List.forall_mem_nil _, rfl⟩
  | cons v vs ih =>
    obtain ⟨hv, hvs⟩ := List.forall_mem_cons.1 h
    obtain ⟨m, hm, hwhole, hvalue⟩ := Value.exists_number_of_isWhole hv
    obtain ⟨ms, hms, hwholes, hvalues⟩ := ih hvs
    refine ⟨m :: ms, ?_, List.forall_mem_cons.2 ⟨hwhole, hwholes⟩, congrArg₂ List.cons hvalue hvalues⟩
    rw [List.mapM_cons, hm, hms]
    rfl

/-- Without floating-point numbers among them, the values are counts. -/
theorem mapM_number?_of_not_isFloat {vs : List Value} (h : ∀ v ∈ vs, v.isWhole)
    (hfloat : ∀ v ∈ vs, ¬ isFloat v) :
    vs.mapM Value.number? = some ((vs.map Value.whole).map .int) := by
  induction vs with
  | nil => rfl
  | cons v vs ih =>
    obtain ⟨hv, hvs⟩ := List.forall_mem_cons.1 h
    obtain ⟨hcount, hcounts⟩ := List.forall_mem_cons.1 hfloat
    have hnumber : v.number? = some (.int v.whole) := by
      cases v with
      | bool b => rfl
      | int n => rfl
      | float x => exact absurd rfl hcount
      | _ => cases hv
    rw [List.mapM_cons, hnumber, ih hvs hcounts]
    rfl

/-- No small whole number needs more than a signed word. -/
theorem any_isIntWhere {vs : List Value} {p : Int → Bool} (h : SmallWholes vs)
    (hp : ∀ n : Int, n.natAbs < 2 ^ 53 → p n = false) : vs.any (isIntWhere p) = false := by
  rw [List.any_eq_false]
  intro v hv
  have hle := List.le_sum_of_mem (List.mem_map_of_mem (f := fun v : Value => v.whole.natAbs) hv)
  cases v with
  | int n =>
    rw [isIntWhere, hp n (hle.trans_lt h.small)]
    exact Bool.false_ne_true
  | _ => exact Bool.false_ne_true

theorem holds_reals {ms : List Number} {ns : List Int} (hwhole : ∀ m ∈ ms, m.isWhole)
    (hmap : ms.map Number.whole = ns) (hsmall : (ns.map Int.natAbs).sum < 2 ^ 53) :
    Holds ns (reals (ms.map toBinary64)) := by
  have hvalue : ∀ m ∈ ms, (toBinary64 m).HasValue m.whole := by
    intro m hm
    have hmem : m.whole ∈ ns := hmap ▸ List.mem_map_of_mem hm
    exact hasValue_toBinary64 (hwhole m hm) (Binary64.natAbs_le_of_mem hsmall.le hmem)
  refine .reals ?_ ?_
  · rw [List.forall_mem_map]
    intro m hm
    rw [(hvalue m hm).whole_eq]
    exact hvalue m hm
  · rw [List.map_map, ← hmap]
    apply List.map_congr_left
    intro m hm
    rw [Function.comp_apply, (hvalue m hm).whole_eq]

/-- Small whole numbers make up a series of counts or of floating-point numbers. -/
theorem exists_holds {vs : List Value} (h : SmallWholes vs) (hne : vs ≠ []) :
    ∃ s, ofValues vs = .ok s ∧ s.Holds (vs.map Value.whole) := by
  obtain ⟨ms, hms, hwholes, hvalues⟩ := mapM_number? h.whole
  have hnumber : ∀ v ∈ vs, v.number?.isSome := by
    intro v hv
    obtain ⟨m, hm, -⟩ := Value.exists_number_of_isWhole (h.whole v hv)
    rw [hm]
    rfl
  have hword : vs.any (isIntWhere fun n => !fitsWord n) = false :=
    any_isIntWhere h fun n hn => by simp [fitsWord]; omega
  have hsigned : vs.any (isIntWhere fun n => !fitsSigned n) = false :=
    any_isIntWhere h fun n hn => by simp [fitsSigned]; omega
  have hfull : vs.isEmpty = false := by simpa using hne
  rw [ofValues_of_number hne hnumber, ofLeaves]
  by_cases hfloat : vs.any isFloat
  · rw [hms]
    dsimp only
    rw [hword, hfloat, if_neg Bool.false_ne_true]
    exact ⟨_, rfl, holds_reals hwholes hvalues h.natAbs_sum⟩
  · rw [Bool.not_eq_true] at hfloat
    rw [mapM_number?_of_not_isFloat h.whole (List.any_eq_false.1 hfloat)]
    dsimp only
    rw [hword, hsigned, hfloat, hfull, if_neg Bool.false_ne_true, ints_counts]
    exact ⟨_, rfl, .counts⟩

end Series

/-! ## Summaries -/

/-- A statistic that ignores the kind of its series is the same for the same whole numbers. -/
theorem exists_roundedStatistic_same {f : Series → Except Breakdown Binary64}
    (hf : Series.IgnoresKind f) (hv : SmallWholes vs) (hw : SmallWholes ws)
    (h : vs.map Value.whole = ws.map Value.whole) :
    ∃ x y, roundedStatistic f vs = .ok x ∧ roundedStatistic f ws = .ok y ∧
      Summary.sameStatistic x y := by
  by_cases hne : vs = []
  · subst hne
    obtain rfl : ws = [] := List.map_eq_nil_iff.1 h.symm
    exact ⟨none, none, rfl, rfl, rfl⟩
  · have hne' : ws ≠ [] := by
      rintro rfl
      exact hne (List.map_eq_nil_iff.1 h)
    obtain ⟨s, hs, holds⟩ := Series.exists_holds hv hne
    obtain ⟨t, ht, holds'⟩ := Series.exists_holds hw hne'
    obtain ⟨x, y, hx, hy, hplace, hnan⟩ :=
      hf (by simpa using hne) hv.natAbs_sum holds (h ▸ holds')
    have hfull : vs.isEmpty = false := by simpa using hne
    have hfull' : ws.isEmpty = false := by simpa using hne'
    refine ⟨some x.roundHundredths, some y.roundHundredths, ?_, ?_, ?_⟩
    · rw [roundedStatistic, hfull, if_neg Bool.false_ne_true, hs]
      exact bind_eq_ok_iff.2 ⟨s, rfl, bind_eq_ok_iff.2 ⟨x, hx, rfl⟩⟩
    · rw [roundedStatistic, hfull', if_neg Bool.false_ne_true, ht]
      exact bind_eq_ok_iff.2 ⟨t, rfl, bind_eq_ok_iff.2 ⟨y, hy, rfl⟩⟩
    · apply Place.same_of_eq
      · exact Binary64.place_roundHundredths_congr hplace
      · exact Binary64.place_ne_undefined (Binary64.roundHundredths_ne_nan hnan)

/-- Equal lists of small whole numbers have summaries, and these agree. -/
theorem exists_summaries_same (h : SmallWholes vs) (hsame : Value.sameAll nanAgrees vs ws) :
    ∃ s t, summarize vs = .ok s ∧ summarize ws = .ok t ∧ s.same t := by
  obtain ⟨hw, hwholes⟩ := h.of_sameAll hsame
  have hsort := sortValues_of_isNumber fun v hv => Value.isNumber_of_isWhole (h.whole v hv)
  have hsort' := sortValues_of_isNumber fun w hmem => Value.isNumber_of_isWhole (hw.whole w hmem)
  have hsorted : SmallWholes (vs.mergeSort exactOrder) := h.perm (List.mergeSort_perm _ _)
  have hsorted' : SmallWholes (ws.mergeSort exactOrder) := hw.perm (List.mergeSort_perm _ _)
  have hequal : (vs.mergeSort exactOrder).map Value.whole =
      (ws.mergeSort exactOrder).map Value.whole := by
    rw [map_whole_mergeSort h.whole, map_whole_mergeSort hw.whole, hwholes]
  obtain ⟨mean, mean', hmean, hmean', sameMean⟩ :=
    exists_roundedStatistic_same Series.ignoresKind_mean hsorted hsorted' hequal
  obtain ⟨median, median', hmedian, hmedian', sameMedian⟩ :=
    exists_roundedStatistic_same Series.ignoresKind_median hsorted hsorted' hequal
  obtain ⟨deviation, deviation', hdeviation, hdeviation', sameDeviation⟩ :=
    exists_roundedStatistic_same Series.ignoresKind_populationDeviation hsorted hsorted' hequal
  refine ⟨_, _, summarize_eq_ok hsort hmean hmedian hdeviation,
    summarize_eq_ok hsort' hmean' hmedian' hdeviation', ?_⟩
  simp only [Summary.same, Bool.and_eq_true]
  exact ⟨⟨⟨sameAll_of_wholes hsorted.whole hsorted'.whole hequal, sameMean⟩, sameMedian⟩,
    sameDeviation⟩

end CodeMetrics

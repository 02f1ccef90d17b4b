import CodeMetrics.Binary64.Decimal
import CodeMetrics.Proofs.Binary64.Rounding
import CodeMetrics.Proofs.Statistics.Sums

/-!
# The sign of zero

Numbers of the same place are the same but for the sign of zero (`eq_or_zero_of_place_eq`), and no
operation makes more of this difference: its results for numbers of the same place have the same
place.  A sum of squares is never undefined, and neither is its root (`isNonneg_of_adds`,
`isNonneg_sqrt`).
-/

namespace CodeMetrics

namespace Place

variable {p q : Place}

theorem same_self (h : p ≠ undefined) : p.same p := by
  rw [same_eq h h]
  exact decide_eq_true rfl

theorem same_of_eq (h : p = q) (hp : p ≠ undefined) : p.same q := h ▸ same_self hp

theorem eq_of_same (h : p.same q) : p = q ∧ p ≠ undefined := by
  unfold same at h
  split at h
  · cases h
  · cases h
  · next hp _ => exact ⟨of_decide_eq_true h, hp⟩

end Place

namespace Binary64

variable {x x' y y' : Binary64} {s t : Bool} {num den : Nat}

theorem inf_ne_nan (s : Bool) : inf s ≠ nan := by
  intro h
  cases h

theorem finite_ne_nan (s : Bool) (u : Nat) (h : Representable u) : finite s u h ≠ nan := by
  intro h
  cases h

theorem place_zero (s : Bool) : (zero s).place = .exactly 0 := by
  rw [zero, place, signed_zero]

/-- Numbers of the same place are the same, or zeros of any signs. -/
theorem eq_or_zero_of_place_eq (h : x.place = y.place) :
    x = y ∨ ∃ s t, x = zero s ∧ y = zero t := by
  cases x with
  | nan =>
    cases y with
    | nan => exact .inl rfl
    | inf t => cases t <;> cases h
    | finite t v hv => cases h
  | inf s =>
    cases y with
    | nan => cases s <;> cases h
    | inf t =>
      cases s <;> cases t
      · exact .inl rfl
      · cases h
      · cases h
      · exact .inl rfl
    | finite t v hv => cases s <;> cases h
  | finite s u hu =>
    cases y with
    | nan => cases h
    | inf t => cases t <;> cases h
    | finite t v hv =>
      have hsigned : signed s u = signed t v := Place.exactly.inj h
      have huv : u = v := by rw [← natAbs_signed s u, hsigned, natAbs_signed]
      subst huv
      by_cases hzero : u = 0
      · subst hzero
        exact .inr ⟨s, t, rfl, rfl⟩
      · left
        rw [eq_of_signed_eq hzero hsigned]

theorem place_ne_undefined (h : x ≠ nan) : x.place ≠ .undefined := by
  cases x with
  | nan => exact absurd rfl h
  | inf s => cases s <;> exact nofun
  | finite s u hu => exact nofun

theorem HasValue.ne_nan {q : ℚ} (h : x.HasValue q) : x ≠ nan := by
  obtain ⟨s, u, hu, rfl, -⟩ := h.exists_finite
  exact finite_ne_nan s u hu

theorem HasValue.isFinite {q : ℚ} (h : x.HasValue q) : x.isFinite := by
  obtain ⟨s, u, hu, rfl, -⟩ := h.exists_finite
  rfl

/-- Finite numbers of the same value have the same place. -/
theorem HasValue.place_eq {q : ℚ} (hx : x.HasValue q) (hy : y.HasValue q) : x.place = y.place :=
  (Place.exact_inj (place_ne_undefined hx.ne_nan) (place_ne_undefined hy.ne_nan)).1
    (hx.trans hy.symm)

theorem hasValue_int_iff {n : Int} : x.HasValue n ↔ x.place = (Number.int n).place := by
  have hint : (Number.int n).place.exact = .ofRat n := Number.exact_place (.int n)
  have hdefined : (Number.int n).place ≠ .undefined := by
    intro h
    cases h
  constructor
  · intro h
    exact (Place.exact_inj (place_ne_undefined h.ne_nan) hdefined).1 (h.trans hint.symm)
  · intro h
    rw [HasValue, h, hint]

/-! ## Results of the same place -/

theorem nearest_zero (den : Nat) : nearest 0 den = 0 := by
  simp [nearest, roundDiv]

theorem ofQuotient_zero (s : Bool) (den : Nat) : ofQuotient s 0 den = zero s := by
  unfold ofQuotient
  dsimp only
  simp only [nearest_zero]
  exact dif_pos representable_zero

theorem place_ofUnits (s t : Bool) (z : Int) : (ofUnits s z).place = (ofUnits t z).place := by
  unfold ofUnits
  split
  · rw [place_zero, place_zero]
  · rfl

theorem place_zero_add (s t : Bool) (y : Binary64) :
    ((zero s).add y).place = ((zero t).add y).place := by
  cases y with
  | nan => rfl
  | inf a => rfl
  | finite a u hu =>
    rw [zero, zero, add, add, signed_zero, signed_zero]
    exact place_ofUnits _ _ _

theorem place_add_zero (x : Binary64) (s t : Bool) :
    (x.add (zero s)).place = (x.add (zero t)).place := by
  cases x with
  | nan => rfl
  | inf a => rfl
  | finite a u hu =>
    rw [zero, zero, add, add, signed_zero, signed_zero]
    exact place_ofUnits _ _ _

theorem place_add_congr (hx : x.place = x'.place) (hy : y.place = y'.place) :
    (x.add y).place = (x'.add y').place := by
  have left : (x.add y).place = (x'.add y).place := by
    obtain rfl | ⟨s, t, rfl, rfl⟩ := eq_or_zero_of_place_eq hx
    · rfl
    · exact place_zero_add s t y
  have right : (x'.add y).place = (x'.add y').place := by
    obtain rfl | ⟨s, t, rfl, rfl⟩ := eq_or_zero_of_place_eq hy
    · rfl
    · exact place_add_zero x' s t
  exact left.trans right

theorem place_neg_congr (h : x.place = y.place) : x.neg.place = y.neg.place := by
  obtain rfl | ⟨s, t, rfl, rfl⟩ := eq_or_zero_of_place_eq h
  · rfl
  · exact (place_zero !s).trans (place_zero !t).symm

theorem place_sub_congr (hx : x.place = x'.place) (hy : y.place = y'.place) :
    (x.sub y).place = (x'.sub y').place :=
  place_add_congr hx (place_neg_congr hy)

theorem place_divCount_congr (h : x.place = y.place) (n : Nat) :
    (x.divCount n).place = (y.divCount n).place := by
  obtain rfl | ⟨s, t, rfl, rfl⟩ := eq_or_zero_of_place_eq h
  · rfl
  · rw [zero, zero, divCount, divCount, ofQuotient_zero, ofQuotient_zero, place_zero, place_zero]

theorem place_roundHundredths_congr (h : x.place = y.place) :
    x.roundHundredths.place = y.roundHundredths.place := by
  obtain rfl | ⟨s, t, rfl, rfl⟩ := eq_or_zero_of_place_eq h
  · rfl
  · have hzero : hundredths 0 * one = 0 := by simp [hundredths, roundDiv]
    rw [zero, zero, roundHundredths, roundHundredths, hzero, ofQuotient_zero, ofQuotient_zero,
      place_zero, place_zero]

/-- Squares have no sign that could differ. -/
theorem mul_self_congr (h : x.place = y.place) : x.mul x = y.mul y := by
  obtain rfl | ⟨s, t, rfl, rfl⟩ := eq_or_zero_of_place_eq h
  · rfl
  · rw [zero, zero, mul, mul, Bool.xor_self, Bool.xor_self]

/-! ## Results that are numbers -/

theorem ofQuotient_finite_or_inf (s : Bool) (num den : Nat) :
    (∃ h, ofQuotient s num den = finite s (nearest num den) h) ∨ ofQuotient s num den = inf s := by
  unfold ofQuotient
  dsimp only
  split
  · next h => exact .inl ⟨h, rfl⟩
  · exact .inr rfl

theorem ofQuotient_ne_nan (s : Bool) (num den : Nat) : ofQuotient s num den ≠ nan := by
  obtain ⟨h, hfinite⟩ | hinf := ofQuotient_finite_or_inf s num den
  · rw [hfinite]
    exact finite_ne_nan _ _ h
  · rw [hinf]
    exact inf_ne_nan s

theorem divCount_ne_nan (h : x ≠ nan) (n : Nat) : x.divCount n ≠ nan := by
  cases x with
  | nan => exact absurd rfl h
  | inf s => exact inf_ne_nan s
  | finite s u hu => exact ofQuotient_ne_nan s u n

theorem roundHundredths_ne_nan (h : x ≠ nan) : x.roundHundredths ≠ nan := by
  cases x with
  | nan => exact absurd rfl h
  | inf s => exact inf_ne_nan s
  | finite s u hu =>
    rw [roundHundredths]
    exact ofQuotient_ne_nan _ _ _

/-- The number does not lie before zero. -/
def isNonneg : Binary64 → Bool
  | nan => false
  | inf s => !s
  | finite s u _ => !s || u = 0

theorem ne_nan_of_isNonneg (h : x.isNonneg) : x ≠ nan := by
  rintro rfl
  cases h

theorem isNonneg_zero (s : Bool) : (zero s).isNonneg := by
  cases s <;> rfl

theorem isNonneg_ofQuotient (num den : Nat) : (ofQuotient false num den).isNonneg := by
  obtain ⟨h, hfinite⟩ | hinf := ofQuotient_finite_or_inf false num den
  · rw [hfinite]
    rfl
  · rw [hinf]
    rfl

theorem isNonneg_ofUnits (s : Bool) {z : Int} (h : 0 ≤ z) : (ofUnits s z).isNonneg := by
  unfold ofUnits
  split
  · exact isNonneg_zero s
  · rw [decide_eq_false (by omega : ¬ z < 0)]
    exact isNonneg_ofQuotient _ _

theorem isNonneg_finite_iff {u : Nat} {h : Representable u} :
    (finite s u h).isNonneg ↔ 0 ≤ signed s u := by
  cases s with
  | false => simp [isNonneg, signed]
  | true => simp [isNonneg, signed]

theorem isNonneg_add (hx : x.isNonneg) (hy : y.isNonneg) : (x.add y).isNonneg := by
  cases x with
  | nan => cases hx
  | inf s =>
    cases s with
    | true => cases hx
    | false =>
      cases y with
      | nan => cases hy
      | inf t => cases t <;> first | rfl | cases hy
      | finite t v hv => rfl
  | finite s u hu =>
    cases y with
    | nan => cases hy
    | inf t => exact hy
    | finite t v hv =>
      rw [isNonneg_finite_iff] at hx hy
      exact isNonneg_ofUnits _ (by omega)

/-- A sum of numbers that do not lie before zero does not either. -/
theorem isNonneg_of_adds {xs ys : List Binary64} (h : Adds xs ys) (hxs : ∀ x ∈ xs, x.isNonneg) :
    ∀ y ∈ ys, y.isNonneg := by
  induction h with
  | refl => exact hxs
  | perm _ hperm ih => exact fun y hy => ih y (hperm.symm.subset hy)
  | zero s _ ih => exact List.forall_mem_cons.2 ⟨isNonneg_zero s, ih⟩
  | add _ ih =>
    simp only [List.forall_mem_cons] at ih ⊢
    exact ⟨isNonneg_add ih.1 ih.2.1, ih.2.2⟩

theorem isNonneg_mul_self (h : x ≠ nan) : (x.mul x).isNonneg := by
  cases x with
  | nan => exact absurd rfl h
  | inf s => rw [mul, Bool.xor_self]; rfl
  | finite s u hu =>
    rw [mul, Bool.xor_self]
    exact isNonneg_ofQuotient _ _

theorem isNonneg_divCount (h : x.isNonneg) (n : Nat) : (x.divCount n).isNonneg := by
  cases x with
  | nan => cases h
  | inf s => exact h
  | finite s u hu =>
    cases s with
    | false => exact isNonneg_ofQuotient u n
    | true =>
      obtain rfl : u = 0 := by simpa [isNonneg] using h
      rw [divCount, ofQuotient_zero]
      exact isNonneg_zero true

theorem isNonneg_sqrt (h : x.isNonneg) : x.sqrt.isNonneg := by
  cases x with
  | nan => cases h
  | inf s =>
    cases s with
    | false => rfl
    | true => cases h
  | finite s u hu =>
    rw [sqrt]
    split
    · exact h
    · next hne =>
      have hs : s = false := by simpa [isNonneg, hne] using h
      rw [hs, if_neg Bool.false_ne_true]
      exact isNonneg_ofQuotient _ _

/-- The difference of a finite number and any number is a number. -/
theorem sub_ne_nan (hx : x.isFinite) (hy : y ≠ nan) : x.sub y ≠ nan := by
  cases x with
  | nan => cases hx
  | inf s => cases hx
  | finite s u hu =>
    cases y with
    | nan => exact absurd rfl hy
    | inf t => exact inf_ne_nan !t
    | finite t v hv =>
      rw [sub, neg, add, ofUnits]
      split
      · exact finite_ne_nan _ _ _
      · exact ofQuotient_ne_nan _ _ _

end Binary64

end CodeMetrics

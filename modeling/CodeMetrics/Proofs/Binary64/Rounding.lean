import CodeMetrics.Proofs.Binary64.Exact
import CodeMetrics.Proofs.Binary64.Nearest
import Mathlib.Tactic.FieldSimp
import Mathlib.Tactic.Linarith
import Mathlib.Tactic.NormNum

/-!
# Rounded results

The result of an operation is the exact one whenever that is a number of the format
(`HasValue.add`, `HasValue.divCount`), as it is for whole numbers and halves of them up to `2 ^ 53`
(`hasValue_ofInt`, `exists_hasValue_half`).  A quotient that is no tie is rounded to the nearest number
of the format (`isNearest_finite`), and is as exact as 53 bits can be (`exists_hasValue_divCount`).
-/

namespace CodeMetrics

namespace Binary64

/-! ## Exact values -/

/-- The number is finite and its exact value is `q`. -/
def HasValue (x : Binary64) (q : ℚ) : Prop := x.place.exact = .ofRat q

/-- The number is finite, and every number of another value is farther from `q`. -/
def IsNearest (x : Binary64) (q : ℚ) : Prop :=
  ∃ v, x.HasValue v ∧ ∀ (y : Binary64) w, y.HasValue w → w ≠ v → |v - q| < |w - q|

variable {x y : Binary64} {q v w : ℚ} {neg : Bool} {num den u : Nat}

theorem one_pos_rat : (0 : ℚ) < one := Place.one_pos

theorem hasValue_finite_iff {h : Representable u} :
    (finite neg u h).HasValue q ↔ q = signed neg u / one :=
  Extended.ofRat_inj.trans eq_comm

theorem HasValue.exists_finite (hx : x.HasValue q) :
    ∃ neg u h, x = finite neg u h ∧ q = signed neg u / one := by
  cases x with
  | nan => cases hx
  | inf neg => cases neg <;> cases hx
  | finite neg u h => exact ⟨neg, u, h, rfl, hasValue_finite_iff.1 hx⟩

theorem HasValue.inj (hv : x.HasValue v) (hw : x.HasValue w) : v = w :=
  Extended.ofRat_inj.1 (hv.symm.trans hw)

theorem HasValue.isNearest (hx : x.HasValue q) : x.IsNearest q := by
  refine ⟨q, hx, fun y w _ hw => ?_⟩
  rw [sub_self, abs_zero, abs_pos, sub_ne_zero]
  exact hw

/-- What is nearest to a number of the format is this number. -/
theorem IsNearest.hasValue (hx : x.IsNearest q) (hq : ∃ y : Binary64, y.HasValue q) :
    x.HasValue q := by
  obtain ⟨v, hv, hnearest⟩ := hx
  obtain ⟨y, hy⟩ := hq
  by_cases h : q = v
  · rwa [h]
  · have hlt := hnearest y q hy h
    rw [sub_self, abs_zero] at hlt
    exact absurd hlt (abs_nonneg _).not_gt

/-- Rounding does not pass a number of the format from below. -/
theorem IsNearest.le (hx : x.IsNearest q) (hv : x.HasValue v) (hy : y.HasValue w) (h : q ≤ w) :
    v ≤ w := by
  obtain ⟨v', hv', hnearest⟩ := hx
  obtain rfl := hv.inj hv'
  by_contra hlt
  push Not at hlt
  have hfar := hnearest y w hy hlt.ne
  rw [abs_of_nonneg (by linarith), abs_of_nonneg (by linarith)] at hfar
  linarith

/-- Rounding does not pass a number of the format from above. -/
theorem IsNearest.ge (hx : x.IsNearest q) (hv : x.HasValue v) (hy : y.HasValue w) (h : w ≤ q) :
    w ≤ v := by
  obtain ⟨v', hv', hnearest⟩ := hx
  obtain rfl := hv.inj hv'
  by_contra hlt
  push Not at hlt
  have hfar := hnearest y w hy hlt.ne'
  rw [abs_of_nonpos (by linarith), abs_of_nonpos (by linarith)] at hfar
  linarith

/-! ## Signs -/

theorem signed_mul (neg : Bool) (a b : Nat) : signed neg a * b = signed neg (a * b) := by
  cases neg <;> simp [signed]

theorem signed_zero (neg : Bool) : signed neg 0 = 0 := by
  cases neg <;> rfl

theorem natAbs_signed (neg : Bool) (a : Nat) : (signed neg a).natAbs = a := by
  cases neg <;> simp [signed]

theorem signed_natAbs (z : Int) : signed (decide (z < 0)) z.natAbs = z := by
  unfold signed
  by_cases h : z < 0
  · rw [decide_eq_true h, if_pos rfl]
    omega
  · rw [decide_eq_false h, if_neg Bool.false_ne_true]
    omega

theorem eq_of_signed_eq {s t : Bool} {a : Nat} (ha : a ≠ 0) (h : signed s a = signed t a) :
    s = t := by
  unfold signed at h
  cases s <;> cases t <;> simp at h ⊢ <;> omega

theorem abs_signed_sub (neg : Bool) (a b : Nat) : |signed neg a - signed neg b| = |(a : Int) - b| := by
  cases neg with
  | false => rfl
  | true =>
    rw [abs_sub_comm (a : Int)]
    congr 1
    simp only [signed, if_true]
    ring

/-- Numbers on the two sides of zero are as far from each other as both are from zero together. -/
theorem abs_signed_not_sub (neg : Bool) (a b : Nat) : |signed (!neg) a - signed neg b| = a + b := by
  cases neg with
  | false =>
    rw [show signed (!false) a - signed false b = -((a : Int) + b) by simp [signed]; ring, abs_neg]
    exact Nat.abs_cast (a + b)
  | true =>
    rw [show signed (!true) a - signed true b = (a : Int) + b by simp [signed]]
    exact Nat.abs_cast (a + b)

/-! ## Numbers of the format -/

theorem limit_eq : limit = 2 ^ bits := by
  delta limit
  generalize bits = k
  exact Nat.pow_eq

theorem representable_mul_two_pow {m k : Nat} (hm : m ≤ 2 ^ 53) (hk : k < 2045) :
    Representable (m * 2 ^ k) := by
  have hbits : 53 + k < bits := by
    unfold bits
    omega
  constructor
  · rw [limit_eq]
    calc m * 2 ^ k ≤ 2 ^ 53 * 2 ^ k := Nat.mul_le_mul_right _ hm
      _ = 2 ^ (53 + k) := (Nat.pow_add ..).symm
      _ < 2 ^ bits := Nat.pow_lt_pow_right Nat.one_lt_two hbits
  · exact spacing_dvd_of_le (Nat.mul_le_mul_right _ hm) (Nat.dvd_mul_left ..)

/-- A quotient is the nearest number of the format or infinite. -/
theorem ofQuotient_cases (neg : Bool) (num : Nat) (hden : 0 < den) :
    (∃ hn, ofQuotient neg num den = finite neg (nearest num den) hn) ∨
      limit ≤ nearest num den ∧ ofQuotient neg num den = inf neg := by
  unfold ofQuotient
  dsimp only
  by_cases hn : Representable (nearest num den)
  · exact .inl ⟨hn, dif_pos hn⟩
  · have hlarge : limit ≤ nearest num den := by
      by_contra hlt
      exact hn ⟨Nat.lt_of_not_le hlt, spacing_dvd_nearest num hden⟩
    exact .inr ⟨hlarge, dif_neg hn⟩

/-- A quotient is finite when it does not exceed a number of the format. -/
theorem ofQuotient_of_le (neg : Bool) (hden : 0 < den) (hu : Representable u) (h : num ≤ u * den) :
    ∃ hn, ofQuotient neg num den = finite neg (nearest num den) hn := by
  obtain hfinite | ⟨hlarge, -⟩ := ofQuotient_cases neg num hden
  · exact hfinite
  · exact absurd ((nearest_le hden hu.2 h).trans_lt hu.1) hlarge.not_gt

/-- A quotient that is a number of the format is not rounded. -/
theorem ofQuotient_of_mul_eq (neg : Bool) (hden : 0 < den) (hu : Representable u)
    (h : u * den = num) : ofQuotient neg num den = finite neg u hu := by
  have hnearest : nearest num den = u := nearest_eq_of_mul_eq hden hu.2 h
  unfold ofQuotient
  dsimp only
  simp only [hnearest]
  exact dif_pos hu

theorem hasValue_zero (neg : Bool) : (zero neg).HasValue 0 := by
  rw [zero, hasValue_finite_iff, signed_zero, Int.cast_zero, zero_div]

theorem hasValue_ofUnits {z : Int} (h : Representable z.natAbs) (zeroNeg : Bool) :
    (ofUnits zeroNeg z).HasValue (z / one) := by
  unfold ofUnits
  split
  · next hz =>
    rw [hz, Int.cast_zero, zero_div]
    exact hasValue_zero zeroNeg
  · rw [ofQuotient_of_mul_eq _ Nat.one_pos h (Nat.mul_one _), hasValue_finite_iff, signed_natAbs]

/-- An exact sum that is a number of the format is not rounded. -/
theorem HasValue.add (hx : x.HasValue v) (hy : y.HasValue w)
    (hsum : ∃ z : Binary64, z.HasValue (v + w)) : (x.add y).HasValue (v + w) := by
  obtain ⟨s, a, ha, rfl, rfl⟩ := hx.exists_finite
  obtain ⟨t, b, hb, rfl, rfl⟩ := hy.exists_finite
  obtain ⟨z, hz⟩ := hsum
  obtain ⟨r, c, hc, rfl, hexact⟩ := hz.exists_finite
  rw [← add_div, div_left_inj' one_pos_rat.ne'] at hexact
  have hunits : signed s a + signed t b = signed r c := by exact_mod_cast hexact
  rw [← add_div, ← Int.cast_add]
  apply hasValue_ofUnits
  rwa [hunits, natAbs_signed]

/-! ## Whole numbers -/

theorem one_eq : one = 2 ^ 1074 := by
  delta one
  -- the power is too large to be computed
  generalize 1074 = k
  exact Nat.pow_eq

theorem one_eq_mul {j k : Nat} (h : j + k = 1074) : one = 2 ^ j * 2 ^ k := by
  rw [one_eq, ← h, Nat.pow_add]

/-- Whole numbers up to `2 ^ 53` are numbers of the format. -/
theorem hasValue_ofInt {n : Int} (h : n.natAbs ≤ 2 ^ 53) : (ofInt n).HasValue n := by
  have hu : Representable (n.natAbs * one) := by
    rw [one_eq]
    exact representable_mul_two_pow h (by omega)
  unfold ofInt
  rw [ofQuotient_of_mul_eq _ Nat.one_pos hu (Nat.mul_one _), hasValue_finite_iff, ← signed_mul,
    signed_natAbs, Int.cast_mul, Int.cast_natCast, mul_div_cancel_right₀ _ one_pos_rat.ne']

/-- A number with a whole value has as many times `one` units. -/
theorem HasValue.exists_whole {n : Int} (hx : x.HasValue n) :
    ∃ neg h, x = finite neg (n.natAbs * one) h ∧ signed neg n.natAbs = n := by
  obtain ⟨neg, u, h, rfl, hvalue⟩ := hx.exists_finite
  rw [eq_div_iff one_pos_rat.ne'] at hvalue
  have hunits : n * one = signed neg u := by exact_mod_cast hvalue
  have hu : n.natAbs * one = u := by
    rw [← natAbs_signed neg u, ← hunits, Int.natAbs_mul, Int.natAbs_natCast]
  subst hu
  refine ⟨neg, h, rfl, ?_⟩
  rw [← signed_mul] at hunits
  exact (Int.eq_of_mul_eq_mul_right one_pos.ne' hunits).symm

/-- Numbers with the same whole value are the same, except for the sign of zero. -/
theorem HasValue.eq_of_ne_zero {n : Int} (hx : x.HasValue n) (hy : y.HasValue n) (hn : n ≠ 0) :
    x = y := by
  obtain ⟨s, hs, rfl, hsigned⟩ := hx.exists_whole
  obtain ⟨t, ht, rfl, hsigned'⟩ := hy.exists_whole
  obtain rfl : s = t := eq_of_signed_eq (Int.natAbs_ne_zero.2 hn) (hsigned.trans hsigned'.symm)
  rfl

/-- Halves of whole numbers below `2 ^ 53` are numbers of the format. -/
theorem exists_hasValue_half {n : Int} (h : n.natAbs ≤ 2 ^ 53) :
    ∃ x : Binary64, x.HasValue (n / 2) := by
  obtain ⟨half, hone, hu⟩ : ∃ half, one = half * 2 ^ 1 ∧ Representable (n.natAbs * half) :=
    ⟨2 ^ 1073, one_eq_mul (by omega : 1073 + 1 = 1074), representable_mul_two_pow h (by omega)⟩
  have hhalf : (half : ℚ) ≠ 0 := by
    have := one_pos_rat
    rw [hone] at this
    intro h0
    simp [h0] at this
  refine ⟨finite (decide (n < 0)) _ hu, ?_⟩
  rw [hasValue_finite_iff, ← signed_mul, signed_natAbs, hone]
  push_cast
  field_simp

/-! ## Quotients -/

theorem div_eq_units (q r : ℚ) : q / r = q * one / (one * r) := by
  rw [mul_comm q, mul_div_mul_left _ _ one_pos_rat.ne']

theorem abs_sub_units (z t : Int) (hden : 0 < den) :
    |(z / one - t / (one * den) : ℚ)| = (|z * den - t| : Int) / (one * den) := by
  have hden' : (0 : ℚ) < den := Nat.cast_pos.2 hden
  have hsub : (z / one - t / (one * den) : ℚ) = ((z * den - t : Int) : ℚ) / (one * den) := by
    rw [← mul_div_mul_right _ _ hden'.ne', ← sub_div]
    push_cast
    rfl
  rw [hsub, abs_div, abs_of_pos (mul_pos one_pos_rat hden'), Int.cast_abs]

/-- The nearest magnitude is a number that is nearest to the quotient, unless the quotient lies halfway
between two magnitudes. -/
theorem isNearest_finite (neg : Bool) (hden : 0 < den) (hn : Representable (nearest num den))
    (htie : 2 * |(nearest num den * den : Int) - num| ≠ den * spacing (num / den)) :
    (finite neg (nearest num den) hn).IsNearest (signed neg num / (one * den)) := by
  have hden' : (0 : ℚ) < den := Nat.cast_pos.2 hden
  refine ⟨_, hasValue_finite_iff.2 rfl, ?_⟩
  intro y w hy hw
  obtain ⟨s, u, hu, rfl, rfl⟩ := hy.exists_finite
  rw [abs_sub_units _ _ hden, abs_sub_units _ _ hden,
    div_lt_div_iff_of_pos_right (mul_pos one_pos_rat hden'), Int.cast_lt, signed_mul, signed_mul,
    abs_signed_sub]
  by_cases hs : s = neg
  · rw [hs, abs_signed_sub]
    have hne : u ≠ nearest num den := by
      rintro rfl
      exact hw (by rw [hs])
    exact_mod_cast abs_nearest_sub_lt hden hu.2 hne htie
  · obtain rfl : s = !neg := Bool.eq_not.2 hs
    rw [abs_signed_not_sub]
    have hne : u = 0 → nearest num den ≠ 0 := by
      intro hu0 hn0
      apply hw
      rw [hu0, hn0, signed_zero, signed_zero]
    exact_mod_cast abs_nearest_sub_lt_across hden hne htie

/-- An exact quotient that is a number of the format is not rounded. -/
theorem HasValue.divCount (hx : x.HasValue v) (hden : 0 < den)
    (hquotient : ∃ z : Binary64, z.HasValue (v / den)) : (x.divCount den).HasValue (v / den) := by
  obtain ⟨s, u, hu, rfl, rfl⟩ := hx.exists_finite
  obtain ⟨z, hz⟩ := hquotient
  obtain ⟨t, c, hc, rfl, hexact⟩ := hz.exists_finite
  have hden' : (den : ℚ) ≠ 0 := Nat.cast_ne_zero.2 hden.ne'
  have hunits : signed s u = signed t c * den := by
    rw [div_right_comm, div_left_inj' one_pos_rat.ne', div_eq_iff hden'] at hexact
    exact_mod_cast hexact
  have hmul : c * den = u := by
    rw [← natAbs_signed s u, hunits, signed_mul, natAbs_signed]
  have hsame : signed s c = signed t c := by
    rw [← hmul, ← signed_mul] at hunits
    exact Int.eq_of_mul_eq_mul_right (by omega) hunits
  have hdiv : (finite s u hu).divCount den = finite s c hc := by
    rw [Binary64.divCount, ofQuotient_of_mul_eq s hden hc hmul]
  rw [hdiv, hexact, ← hsame]
  exact hasValue_finite_iff.2 rfl

theorem two_pow_mul_abs_sub_units_le (neg : Bool) (hden : 0 < den) (h : 2 ^ 52 ≤ num / den) :
    2 ^ 53 * |(signed neg (nearest num den) / one - signed neg num / (one * den) : ℚ)| ≤
      num / (one * den) := by
  have hden' : (0 : ℚ) < den := Nat.cast_pos.2 hden
  rw [abs_sub_units _ _ hden, signed_mul, abs_signed_sub, ← mul_div_assoc,
    div_le_div_iff_of_pos_right (mul_pos one_pos_rat hden')]
  have herror := Int.cast_le (R := ℚ).2 (two_pow_mul_abs_nearest_sub_le hden h)
  push_cast at herror ⊢
  linarith

/-- The quotient by a count is as near to the exact quotient as 53 bits allow, unless both are smaller
than every number of that precision. -/
theorem exists_hasValue_divCount {n : Int} (hx : x.HasValue n) (hden : 0 < den) :
    ∃ v, (x.divCount den).HasValue v ∧ (2 ^ 53 * |v - n / den| ≤ |(n / den : ℚ)| ∨
      |v| ≤ 2 ^ 52 / one ∧ |(n / den : ℚ)| ≤ 2 ^ 52 / one) := by
  obtain ⟨neg, h, rfl, hsigned⟩ := hx.exists_whole
  have hden' : (0 : ℚ) < den := Nat.cast_pos.2 hden
  have hquotient : (n / den : ℚ) = signed neg (n.natAbs * one) / (one * den) := by
    rw [← signed_mul, hsigned, Int.cast_mul, Int.cast_natCast, div_eq_units]
  have habs : |(n / den : ℚ)| = (n.natAbs * one : Nat) / (one * den) := by
    rw [abs_div, abs_of_pos hden', Nat.cast_mul, Nat.cast_natAbs, Int.cast_abs, div_eq_units]
  obtain ⟨hn, hfinite⟩ := ofQuotient_of_le neg hden h (Nat.le_mul_of_pos_right _ hden)
  refine ⟨_, hfinite ▸ hasValue_finite_iff.2 rfl, ?_⟩
  rw [habs, hquotient]
  generalize n.natAbs * one = num at hn ⊢
  by_cases hnormal : 2 ^ 52 ≤ num / den
  · exact .inl (two_pow_mul_abs_sub_units_le neg hden hnormal)
  · right
    have hlt : num < 2 ^ 52 * den := (Nat.div_lt_iff_lt_mul hden).1 (Nat.lt_of_not_le hnormal)
    constructor
    · rw [abs_div, abs_of_pos one_pos_rat, div_le_div_iff_of_pos_right one_pos_rat, ← Int.cast_abs,
        Int.abs_eq_natAbs, natAbs_signed]
      exact_mod_cast nearest_le_two_pow hden hlt.le
    · rw [div_le_div_iff₀ (mul_pos one_pos_rat hden') one_pos_rat]
      have hmul : num * one ≤ 2 ^ 52 * (one * den) := by
        rw [Nat.mul_comm one den, ← Nat.mul_assoc]
        exact Nat.mul_le_mul_right one hlt.le
      exact_mod_cast hmul

end Binary64

end CodeMetrics

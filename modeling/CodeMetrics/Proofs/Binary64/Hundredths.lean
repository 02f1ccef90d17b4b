import CodeMetrics.Binary64.Decimal
import CodeMetrics.Proofs.Binary64.Rounding

/-!
# Rounding to hundredths

A number is rounded to the nearest hundredth and that to the nearest number of the format
(`exists_hundredths`).  Doing so again changes nothing (`roundHundredths_roundHundredths`): where
neighbours of the format are closer than a hundredth, the hundredth is found again, and where they are
farther apart, the number itself was nearest to its hundredth.
-/

namespace CodeMetrics

namespace Binary64

variable {x : Binary64} {v : ℚ} {u c : Nat}

/-! ## Hundredths of units -/

theorem two_mul_abs_hundredths_sub_le (u : Nat) :
    2 * |(hundredths u * one : Int) - (u * 100 : Nat)| ≤ one :=
  two_mul_abs_roundDiv_sub_le (u * 100) (Int.natCast_pos.1 one_pos)

theorem hundredths_eq_of_lt (h : 2 * |(c * one : Int) - (u * 100 : Nat)| < one) :
    hundredths u = c :=
  roundDiv_eq_of_lt (Int.natCast_pos.1 one_pos) h

/-- Rounding to hundredths does not pass a whole number. -/
theorem hundredths_le {m : Nat} (h : u ≤ m * one) : hundredths u ≤ m * 100 := by
  have near := two_mul_abs_hundredths_sub_le u
  have hone := one_pos
  have hdiff := le_abs_self ((hundredths u * one : Int) - (u * 100 : Nat))
  by_contra hlt
  have hmul : (m * 100 + 1) * one ≤ hundredths u * one :=
    Nat.mul_le_mul_right one (Nat.lt_of_not_le hlt)
  rw [Nat.add_mul, Nat.one_mul, Nat.mul_right_comm] at hmul
  rw [← Nat.cast_mul] at near hdiff
  omega

/-! ## Rounding twice -/

theorem two_pow_eq_mul_one {e : Nat} (h : 1074 ≤ e) : 2 ^ e = 2 ^ (e - 1074) * one := by
  rw [one_eq, ← Nat.pow_add, Nat.sub_add_cancel h]

/-- Where the neighbours of the format are closer than a hundredth, what is nearest to a hundredth is
nearest to no other one. -/
theorem hundredths_nearest_of_lt (h : 100 * spacing (c * one / 100) < one) :
    hundredths (nearest (c * one) 100) = c := by
  have near := two_mul_abs_nearest_sub_le (c * one) (by omega : 0 < 100)
  apply hundredths_eq_of_lt
  rw [abs_sub_comm]
  push_cast at near ⊢
  omega

/-- Where neighbours are a hundredth apart or more, they are 64th parts apart or more. -/
theorem of_one_le_spacing {w : Nat} (h : one ≤ 100 * spacing w) :
    1120 ≤ w.log2 ∧ one < 100 * spacing w := by
  have hlog : 1120 ≤ w.log2 := by
    by_contra hlt
    have hspacing : spacing w ≤ 2 ^ 1067 := spacing_le_two_pow (by omega)
    have hone : one = 2 ^ 7 * 2 ^ 1067 := one_eq_mul (by omega)
    generalize 2 ^ 1067 = step at hspacing hone
    have hpos := one_pos
    omega
  refine ⟨hlog, ?_⟩
  have hspacing : 2 ^ 1068 ≤ spacing w := two_pow_le_spacing (by omega)
  have hone : one = 2 ^ 6 * 2 ^ 1068 := one_eq_mul (by omega)
  generalize 2 ^ 1068 = step at hspacing hone
  have hpos := one_pos
  omega

theorem hundredths_eq_of_exact (h : u * 100 = c * one) : hundredths u = c := by
  apply hundredths_eq_of_lt
  rw [h, Nat.cast_mul, sub_self, abs_zero, mul_zero]
  exact one_pos

/-- A hundredth that has been rounded up to the power of two at which the next binade begins is this
power. -/
theorem hundredths_nearest_of_lt_two_pow {e : Nat} (he : 1120 ≤ e)
    (hbegin : 2 ^ e * 100 ≤ hundredths u * one) (hbelow : u < 2 ^ e) :
    hundredths (nearest (hundredths u * one) 100) = hundredths u := by
  have hmul : 2 ^ e = 2 ^ (e - 1074) * one := two_pow_eq_mul_one (by omega)
  have hend : hundredths u * one ≤ 2 ^ e * 100 := by
    rw [hmul, Nat.mul_right_comm]
    exact Nat.mul_le_mul_right one (hundredths_le (hmul ▸ hbelow.le))
  have hexact : 2 ^ e * 100 = hundredths u * one := Nat.le_antisymm hbegin hend
  have hgrid : spacing (2 ^ e) ∣ 2 ^ e := spacing_dvd_of_le (by omega) (Nat.dvd_refl _)
  rw [nearest_eq_of_mul_eq (by omega) hgrid hexact]
  exact hundredths_eq_of_exact hexact

/-- A number of the format is found again from its hundredth, or its hundredth is. -/
theorem hundredths_nearest (hu : spacing u ∣ u) :
    hundredths (nearest (hundredths u * one) 100) = hundredths u := by
  obtain h | h := Nat.lt_or_ge (100 * spacing (hundredths u * one / 100)) one
  · exact hundredths_nearest_of_lt h
  have near := two_mul_abs_hundredths_sub_le u
  generalize hw : hundredths u * one / 100 = w at h
  obtain ⟨hlog, hwide⟩ := of_one_le_spacing h
  have hw0 : w ≠ 0 := by
    rintro rfl
    exact absurd hlog (by decide)
  have hbegin : 2 ^ w.log2 * 100 ≤ hundredths u * one :=
    calc 2 ^ w.log2 * 100 ≤ w * 100 := Nat.mul_le_mul_right 100 (Nat.log2_self_le hw0)
      _ ≤ hundredths u * one := hw ▸ Nat.div_mul_le_self _ 100
  obtain hbelow | habove := Nat.lt_or_ge u (2 ^ w.log2)
  · exact hundredths_nearest_of_lt_two_pow hlog hbegin hbelow
  · have hpos := Nat.two_pow_pos w.log2
    have hlog2 : w.log2 ≤ u.log2 := (Nat.le_log2 (by omega)).2 habove
    have hnearest : nearest (hundredths u * one) 100 = u := by
      apply nearest_eq_of_lt (by omega) (hw ▸ (spacing_dvd_spacing hlog2).trans hu)
      rw [hw, abs_sub_comm]
      push_cast at near ⊢
      omega
    rw [hnearest]

theorem roundHundredths_finite {neg : Bool} {h : Representable u} :
    (finite neg u h).roundHundredths = ofQuotient neg (hundredths u * one) 100 := by
  rw [roundHundredths]

/-- Rounding to hundredths twice is rounding once. -/
theorem roundHundredths_roundHundredths (x : Binary64) :
    x.roundHundredths.roundHundredths = x.roundHundredths := by
  cases x with
  | nan => rfl
  | inf neg => rfl
  | finite neg u h =>
    obtain ⟨hn, hfinite⟩ | ⟨-, hinf⟩ := ofQuotient_cases neg (hundredths u * one) (by omega : 0 < 100)
    · rw [roundHundredths_finite, hfinite, roundHundredths_finite, hundredths_nearest h.2, hfinite]
    · rw [roundHundredths_finite, hinf]
      rfl

/-! ## The nearest hundredth -/

/-- The hundredths are nearest to `q`, an even number of them if two are as near. -/
structure IsHundredths (c : Int) (q : ℚ) : Prop where
  near : |c / 100 - q| ≤ 1 / 200
  even : |c / 100 - q| = 1 / 200 → Even c

theorem signed_div_hundred (neg : Bool) (c : Nat) :
    (signed neg c / 100 : ℚ) = signed neg (c * one) / (one * (100 : Nat)) := by
  rw [← signed_mul, Int.cast_mul, Int.cast_natCast, div_eq_units, Nat.cast_ofNat]

theorem isHundredths_signed (neg : Bool) (u : Nat) :
    IsHundredths (signed neg (hundredths u)) (signed neg u / one) := by
  have hone := one_pos
  have hdistance : |(signed neg (hundredths u) / 100 - signed neg u / one : ℚ)| =
      (|(hundredths u * one : Int) - (u * 100 : Nat)| : Int) / (one * (100 : Nat)) := by
    rw [abs_sub_comm, signed_div_hundred, abs_sub_units _ _ (by omega), signed_mul, abs_signed_sub,
      abs_sub_comm, Nat.cast_mul]
  have hhundred : (0 : ℚ) < one * (100 : Nat) := mul_pos one_pos_rat (by norm_num)
  have hhalf : (one * (100 : Nat) : ℚ) * (1 / 200) = one / 2 := by
    push_cast
    ring
  constructor
  · have near := Int.cast_le (R := ℚ).2 (two_mul_abs_hundredths_sub_le u)
    rw [hdistance, div_le_iff₀' hhundred, hhalf]
    push_cast at near ⊢
    linarith
  · intro htie
    rw [hdistance, div_eq_iff hhundred.ne'] at htie
    have hunits : 2 * |(hundredths u * one : Int) - (u * 100 : Nat)| = one := by
      have : ((2 * |(hundredths u * one : Int) - (u * 100 : Nat)| : Int) : ℚ) = (one : Int) := by
        push_cast at htie ⊢
        linarith
      exact_mod_cast this
    have heven : hundredths u % 2 = 0 := roundDiv_mod_two (by omega) hunits
    rw [Int.even_iff]
    cases neg <;> simp only [signed] <;> omega

/-- The hundredths nearest to hundredths are these. -/
theorem IsHundredths.eq {c d : Int} (h : IsHundredths c (d / 100)) : c = d := by
  have near := h.near
  rw [← sub_div, abs_div, abs_of_pos (by norm_num : (0 : ℚ) < 100)] at near
  have hlt : |(c - d : ℚ)| < 1 := by linarith
  exact Int.sub_eq_zero.1 (Int.abs_lt_one_iff.1 (by exact_mod_cast hlt))

/-- Whole numbers of quarters are whole numbers of hundredths. -/
theorem hundredths_mul_one_of_dvd (h : one ∣ 4 * u) : hundredths u * one = u * 100 := by
  obtain ⟨k, hk⟩ := h
  have hexact : u * 100 = 25 * k * one := by
    calc u * 100 = 25 * (4 * u) := by ring
      _ = 25 * k * one := by rw [hk]; ring
  rw [hundredths_eq_of_exact hexact, hexact]

/-- Where quarters are on the grid of the format, no hundredth lies halfway between two of its points. -/
theorem hundredth_not_halfway (h : 4 * spacing (c * one / 100) ∣ one) :
    2 * |(nearest (c * one) 100 * (100 : Nat) : Int) - (c * one : Nat)| ≠
      (100 : Nat) * spacing (c * one / 100) := by
  obtain ⟨t, ht⟩ := h
  intro htie
  have hpos := spacing_pos (c * one / 100)
  rw [nearest_eq] at htie
  generalize roundDiv (c * one) (100 * spacing (c * one / 100)) = k at htie
  generalize spacing (c * one / 100) = step at *
  have hstep : ((k * step : Nat) * (100 : Nat) - (c * one : Nat) : Int) =
      (100 * k - 4 * (c * t)) * step := by
    rw [ht]
    push_cast
    ring
  rw [hstep, abs_mul, Nat.abs_cast, ← mul_assoc] at htie
  have hfifty : 2 * |(100 * k - 4 * (c * t) : Int)| = 100 :=
    Int.eq_of_mul_eq_mul_right (by omega) htie
  -- Half of a hundred is no multiple of four.
  obtain habs | habs := abs_choice (100 * k - 4 * (c * t) : Int) <;> omega

theorem one_eq_quarters : one = 4 * 2 ^ 1072 := by
  have h : one = 2 ^ 2 * 2 ^ 1072 := one_eq_mul (by omega)
  rwa [show 2 ^ 2 = 4 from rfl] at h

theorem log2_two_pow_mul_one (j : Nat) : (2 ^ j * one).log2 = j + 1074 := by
  rw [one_eq, ← Nat.pow_add, Nat.log2_two_pow]

theorem lt_of_not_dvd (hu : spacing u ∣ u) (h : ¬ one ∣ 4 * u) : u < 2 ^ 50 * one := by
  by_contra hle
  have hlog : (2 ^ 50 * one).log2 ≤ u.log2 := log2_mono (Nat.le_of_not_lt hle)
  rw [log2_two_pow_mul_one] at hlog
  apply h
  rw [one_eq_quarters]
  exact Nat.mul_dvd_mul_left 4 ((two_pow_dvd_spacing (by omega)).trans hu)

theorem dvd_one_of_log2_le {w : Nat} (h : w.log2 ≤ 1124) : 4 * spacing w ∣ one := by
  rw [one_eq_quarters]
  exact Nat.mul_dvd_mul_left 4 (spacing_dvd_two_pow (by omega))

/-- A number is rounded to the nearest hundredth, and that to the nearest number of the format. -/
theorem exists_hundredths (hx : x.HasValue v) :
    ∃ c : Int, IsHundredths c v ∧ x.roundHundredths.IsNearest (c / 100) := by
  obtain ⟨neg, u, hu, rfl, rfl⟩ := hx.exists_finite
  refine ⟨signed neg (hundredths u), isHundredths_signed neg u, ?_⟩
  rw [roundHundredths_finite]
  by_cases hquarters : one ∣ 4 * u
  · have hexact : u * 100 = hundredths u * one := (hundredths_mul_one_of_dvd hquarters).symm
    rw [ofQuotient_of_mul_eq neg (by omega) hu hexact]
    apply HasValue.isNearest
    rw [hasValue_finite_iff, signed_div_hundred, ← hexact, ← signed_mul, Int.cast_mul,
      Int.cast_natCast, mul_div_mul_right _ _ (by norm_num)]
  · have htop := lt_of_not_dvd hu.2 hquarters
    have hle : hundredths u * one ≤ 2 ^ 50 * one * 100 := by
      rw [Nat.mul_right_comm]
      exact Nat.mul_le_mul_right one (hundredths_le htop.le)
    have hlog : (hundredths u * one / 100).log2 ≤ 1124 := by
      have hquotient : hundredths u * one / 100 ≤ 2 ^ 50 * one := by
        apply Nat.div_le_of_le_mul
        rw [Nat.mul_comm 100]
        exact hle
      have hmono := log2_mono hquotient
      rwa [log2_two_pow_mul_one] at hmono
    have hbound : Representable (2 ^ 50 * one) := by
      rw [one_eq]
      exact representable_mul_two_pow (Nat.pow_le_pow_right Nat.two_pos (by omega)) (by omega)
    obtain ⟨hn, hfinite⟩ := ofQuotient_of_le neg (by omega) hbound hle
    rw [hfinite, signed_div_hundred]
    exact isNearest_finite neg (by omega) hn (hundredth_not_halfway (dvd_one_of_log2_le hlog))

/-- Rounding does not change a number that is a whole number of hundredths. -/
theorem HasValue.roundHundredths {c : Int} (hx : x.HasValue (c / 100)) :
    x.roundHundredths.HasValue (c / 100) := by
  obtain ⟨d, hd, hnearest⟩ := exists_hundredths hx
  obtain rfl := hd.eq
  exact hnearest.hasValue ⟨x, hx⟩

end Binary64

end CodeMetrics

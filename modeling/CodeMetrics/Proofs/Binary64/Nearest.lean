import CodeMetrics.Binary64.Basic
import Mathlib.Algebra.Order.Ring.Abs
import Mathlib.Algebra.Order.Ring.Int
import Mathlib.Data.Nat.Log
import Mathlib.Tactic.Ring

/-!
# Rounding to the nearest magnitude

`roundDiv` is the nearest whole number and `nearest` the nearest magnitude of 53 significant bits, both
for every quotient (`roundDiv_cases`, `abs_nearest_sub_le`).  Magnitudes on the grid of the
quotient's own binade are compared by `roundDiv`.  The grid below is finer, but all of it lies beyond
the power of two at which the binade begins.  Away from ties no other magnitude is as near
(`abs_nearest_sub_lt`), a magnitude of the format is not changed (`nearest_eq_of_mul_eq`), and a
quotient in the normal range is changed by at most a part in `2 ^ 53`
(`two_pow_mul_abs_nearest_sub_le`).
-/

namespace CodeMetrics

namespace Binary64

variable {num den u v : Nat}

/-! ## The nearest whole number -/

/-- The nearest whole number is less than half a step away, or half a step and even. -/
theorem roundDiv_cases (num : Nat) (hden : 0 < den) :
    2 * |(roundDiv num den * den : Int) - num| < den ∨
      2 * |(roundDiv num den * den : Int) - num| = den ∧ roundDiv num den % 2 = 0 := by
  have hnum : num = num / den * den + num % den := (Nat.div_add_mod' num den).symm
  have hr : num % den < den := Nat.mod_lt num hden
  unfold roundDiv
  dsimp only
  generalize num / den = q at hnum ⊢
  generalize num % den = r at hnum hr ⊢
  subst hnum
  have low : (q * den : Int) - (q * den + r : Nat) = -r := by push_cast; ring
  have high : ((q + 1 : Nat) * den : Int) - (q * den + r : Nat) = den - r := by push_cast; ring
  split
  · left
    rw [low, abs_neg, Nat.abs_cast]
    omega
  · split
    · left
      rw [high, abs_of_nonneg (by omega)]
      omega
    · right
      obtain heven | hodd := Nat.mod_two_eq_zero_or_one q
      · rw [heven, Nat.add_zero, low, abs_neg, Nat.abs_cast]
        omega
      · rw [hodd, high, abs_of_nonneg (by omega)]
        omega

theorem two_mul_abs_roundDiv_sub_le (num : Nat) (hden : 0 < den) :
    2 * |(roundDiv num den * den : Int) - num| ≤ den := by
  obtain h | ⟨h, -⟩ := roundDiv_cases num hden <;> omega

/-- Of two whole numbers that are as near the even one is taken. -/
theorem roundDiv_mod_two (hden : 0 < den)
    (h : 2 * |(roundDiv num den * den : Int) - num| = den) : roundDiv num den % 2 = 0 := by
  obtain hlt | ⟨-, heven⟩ := roundDiv_cases num hden
  · omega
  · exact heven

/-- Multiples of `den` are at least `den` apart. -/
theorem abs_roundDiv_add_le (num : Nat) {k : Nat} (h : k ≠ roundDiv num den) :
    (den : Int) ≤ |(roundDiv num den * den : Int) - num| + |(k * den : Int) - num| := by
  have apart : 1 ≤ |(k : Int) - roundDiv num den| := Int.one_le_abs (by omega)
  calc (den : Int) ≤ |(k : Int) - roundDiv num den| * den :=
        le_mul_of_one_le_left (Int.natCast_nonneg den) apart
    _ = |((k : Int) - roundDiv num den) * den| := by rw [abs_mul, Nat.abs_cast]
    _ = |(k * den - num : Int) - (roundDiv num den * den - num)| := by
        congr 1
        ring
    _ ≤ |(k * den - num : Int)| + |(roundDiv num den * den - num : Int)| := abs_sub _ _
    _ = _ := add_comm _ _

theorem roundDiv_eq_of_lt (hden : 0 < den) {k : Nat} (h : 2 * |(k * den : Int) - num| < den) :
    roundDiv num den = k := by
  by_contra hne
  have near := two_mul_abs_roundDiv_sub_le num hden
  have apart := abs_roundDiv_add_le num (Ne.symm hne)
  omega

/-! ## Spacings -/

theorem spacing_eq (u : Nat) : spacing u = 2 ^ (u.log2 - 52) := rfl

theorem spacing_pos (u : Nat) : 0 < spacing u := pow_two_pos _

theorem spacing_dvd_spacing (h : u.log2 ≤ v.log2) : spacing u ∣ spacing v :=
  Nat.pow_dvd_pow 2 (by omega)

theorem spacing_le_two_pow {j : Nat} (h : u.log2 ≤ j + 52) : spacing u ≤ 2 ^ j :=
  Nat.pow_le_pow_right Nat.two_pos (by omega)

theorem two_pow_le_spacing {j : Nat} (h : j + 52 ≤ u.log2) : 2 ^ j ≤ spacing u :=
  Nat.pow_le_pow_right Nat.two_pos (by omega)

theorem spacing_dvd_two_pow {j : Nat} (h : u.log2 ≤ j + 52) : spacing u ∣ 2 ^ j :=
  Nat.pow_dvd_pow 2 (by omega)

theorem two_pow_dvd_spacing {j : Nat} (h : j + 52 ≤ u.log2) : 2 ^ j ∣ spacing u :=
  Nat.pow_dvd_pow 2 (by omega)

theorem log2_mono (h : u ≤ v) : u.log2 ≤ v.log2 := by
  by_cases hu : u = 0
  · simp [hu]
  · exact (Nat.le_log2 (by omega)).2 ((Nat.log2_self_le hu).trans h)

/-- Up to `2 ^ 53` steps of a power of two make a magnitude of 53 significant bits. -/
theorem spacing_dvd_of_le {j : Nat} (hle : u ≤ 2 ^ 53 * 2 ^ j) (hdvd : 2 ^ j ∣ u) :
    spacing u ∣ u := by
  obtain hlt | rfl := hle.lt_or_eq
  · refine Nat.dvd_trans (Nat.pow_dvd_pow 2 ?_) hdvd
    by_cases hu : u = 0
    · simp [hu]
    · rw [← Nat.pow_add, ← Nat.log2_lt hu] at hlt
      omega
  · rw [← Nat.pow_add, spacing_eq, Nat.log2_two_pow]
    exact Nat.pow_dvd_pow 2 (by omega)

/-- A magnitude that is off the grid of another one lies below the binade of that one. -/
theorem lt_of_spacing_not_dvd (hv : spacing v ∣ v) (h : ¬ spacing u ∣ v) : v < 2 ^ u.log2 := by
  have hv0 : v ≠ 0 := by
    rintro rfl
    exact h (Nat.dvd_zero _)
  by_contra hle
  have hlog : u.log2 ≤ v.log2 := (Nat.le_log2 hv0).2 (Nat.le_of_not_lt hle)
  exact h ((spacing_dvd_spacing hlog).trans hv)

/-- The power of two at which a binade begins is on its grid. -/
theorem spacing_dvd_two_pow_log2 (u : Nat) : spacing u ∣ 2 ^ u.log2 :=
  Nat.pow_dvd_pow 2 (Nat.sub_le _ _)

/-! ## The nearest magnitude -/

theorem nearest_eq (num den : Nat) :
    nearest num den = roundDiv num (den * spacing (num / den)) * spacing (num / den) := rfl

theorem nearest_mul_cast (num den : Nat) : (nearest num den * den : Int) =
    roundDiv num (den * spacing (num / den)) * (den * spacing (num / den) : Nat) := by
  rw [nearest_eq]
  push_cast
  ring

theorem two_mul_abs_nearest_sub_le (num : Nat) (hden : 0 < den) :
    2 * |(nearest num den * den : Int) - num| ≤ den * spacing (num / den) := by
  rw [nearest_mul_cast]
  exact two_mul_abs_roundDiv_sub_le num (Nat.mul_pos hden (spacing_pos _))

/-- On the grid of the quotient's binade, magnitudes are at least a spacing apart. -/
theorem abs_nearest_add_le (num : Nat) (hv : spacing (num / den) ∣ v) (h : v ≠ nearest num den) :
    (den * spacing (num / den) : Int) ≤
      |(nearest num den * den : Int) - num| + |(v * den : Int) - num| := by
  obtain ⟨k, rfl⟩ := hv
  have hk : k ≠ roundDiv num (den * spacing (num / den)) := by
    rintro rfl
    exact h (Nat.mul_comm _ _)
  have hgrid : ((spacing (num / den) * k : Nat) * den : Int) =
      k * (den * spacing (num / den) : Nat) := by
    push_cast
    ring
  rw [nearest_mul_cast, hgrid, ← Nat.cast_mul]
  exact abs_roundDiv_add_le num hk

theorem abs_nearest_sub_le_of_dvd (num : Nat) (hden : 0 < den) (hv : spacing (num / den) ∣ v) :
    |(nearest num den * den : Int) - num| ≤ |(v * den : Int) - num| := by
  by_cases h : v = nearest num den
  · rw [h]
  · have near := two_mul_abs_nearest_sub_le num hden
    have apart := abs_nearest_add_le num hv h
    omega

/-- A magnitude off the grid of the quotient's binade is farther from the quotient than the power of
two between them, which is on the grid. -/
theorem abs_nearest_sub_lt_of_not_dvd (num : Nat) (hden : 0 < den) (hv : spacing v ∣ v)
    (h : ¬ spacing (num / den) ∣ v) :
    |(nearest num den * den : Int) - num| < |(v * den : Int) - num| := by
  have hquotient : num / den ≠ 0 := by
    intro h0
    rw [h0] at h
    exact h (Nat.one_dvd v)
  have hbegin : 2 ^ (num / den).log2 * den ≤ num :=
    (Nat.mul_le_mul_right den (Nat.log2_self_le hquotient)).trans (Nat.div_mul_le_self num den)
  have hbelow : v * den < 2 ^ (num / den).log2 * den :=
    Nat.mul_lt_mul_of_pos_right (lt_of_spacing_not_dvd hv h) hden
  calc |(nearest num den * den : Int) - num|
      ≤ |((2 ^ (num / den).log2 : Nat) * den : Int) - num| :=
        abs_nearest_sub_le_of_dvd num hden (spacing_dvd_two_pow_log2 _)
    _ = num - (2 ^ (num / den).log2 * den : Nat) := by
        rw [abs_sub_comm, ← Nat.cast_mul, abs_of_nonneg (by omega)]
    _ < num - (v * den : Nat) := by omega
    _ = |(v * den : Int) - num| := by
        rw [abs_sub_comm, ← Nat.cast_mul, abs_of_nonneg (by omega)]

/-- No magnitude of the format is nearer to the quotient. -/
theorem abs_nearest_sub_le (num : Nat) (hden : 0 < den) (hv : spacing v ∣ v) :
    |(nearest num den * den : Int) - num| ≤ |(v * den : Int) - num| := by
  by_cases h : spacing (num / den) ∣ v
  · exact abs_nearest_sub_le_of_dvd num hden h
  · exact (abs_nearest_sub_lt_of_not_dvd num hden hv h).le

/-- Unless the quotient lies halfway between two magnitudes, every other one is farther from it. -/
theorem abs_nearest_sub_lt (hden : 0 < den) (hv : spacing v ∣ v) (hne : v ≠ nearest num den)
    (htie : 2 * |(nearest num den * den : Int) - num| ≠ den * spacing (num / den)) :
    |(nearest num den * den : Int) - num| < |(v * den : Int) - num| := by
  by_cases h : spacing (num / den) ∣ v
  · have near := two_mul_abs_nearest_sub_le num hden
    have apart := abs_nearest_add_le num h hne
    omega
  · exact abs_nearest_sub_lt_of_not_dvd num hden hv h

/-- Zero lies between the quotient and a magnitude with the other sign, which is as far from the
quotient as both are from zero together. -/
theorem abs_nearest_sub_lt_across (hden : 0 < den) (hne : u = 0 → nearest num den ≠ 0)
    (htie : 2 * |(nearest num den * den : Int) - num| ≠ den * spacing (num / den)) :
    |(nearest num den * den : Int) - num| < (u * den + num : Nat) := by
  have hzero : |((0 : Nat) * den : Int) - num| = num := by simp
  by_cases hu : u = 0
  · have hlt := abs_nearest_sub_lt hden (Nat.dvd_zero _) (hne hu).symm htie
    rw [hu]
    omega
  · have hle := abs_nearest_sub_le num hden (Nat.dvd_zero (spacing 0))
    have hpos : 0 < u * den := Nat.mul_pos (Nat.pos_of_ne_zero hu) hden
    omega

theorem nearest_eq_of_lt (hden : 0 < den) (hv : spacing (num / den) ∣ v)
    (h : 2 * |(v * den : Int) - num| < den * spacing (num / den)) : nearest num den = v := by
  by_contra hne
  have near := abs_nearest_sub_le_of_dvd num hden hv
  have apart := abs_nearest_add_le num hv (Ne.symm hne)
  omega

/-- A quotient that is a magnitude of the format is not rounded. -/
theorem nearest_eq_of_mul_eq (hden : 0 < den) (hv : spacing v ∣ v) (h : v * den = num) :
    nearest num den = v := by
  subst h
  have near := abs_nearest_sub_le (v * den) hden hv
  rw [Nat.cast_mul, sub_self, abs_zero, abs_nonpos_iff, sub_eq_zero] at near
  exact Nat.eq_of_mul_eq_mul_right hden (by exact_mod_cast near)

/-- Rounding does not pass a magnitude of the format. -/
theorem nearest_le (hden : 0 < den) (hv : spacing v ∣ v) (h : num ≤ v * den) :
    nearest num den ≤ v := by
  have near := abs_nearest_sub_le num hden hv
  rw [← Nat.cast_mul v, abs_of_nonneg (by omega : (0 : Int) ≤ (v * den : Nat) - num)] at near
  have hle : (nearest num den * den : Int) ≤ (v * den : Nat) := by
    have := le_abs_self ((nearest num den * den : Int) - num)
    omega
  exact Nat.le_of_mul_le_mul_right (by exact_mod_cast hle) hden

/-- Below the normal range nothing is rounded out of it. -/
theorem nearest_le_two_pow (hden : 0 < den) (h : num ≤ 2 ^ 52 * den) : nearest num den ≤ 2 ^ 52 := by
  apply nearest_le hden _ h
  exact spacing_dvd_of_le (j := 0) (by decide) (Nat.one_dvd _)

theorem spacing_dvd_nearest (num : Nat) (hden : 0 < den) :
    spacing (nearest num den) ∣ nearest num den := by
  have hlog : num / den < 2 ^ ((num / den).log2 + 1) := Nat.lt_log2_self
  have hpow : 2 ^ ((num / den).log2 + 1) ≤ 2 ^ 53 * spacing (num / den) := by
    rw [spacing_eq, ← Nat.pow_add]
    exact Nat.pow_le_pow_right Nat.two_pos (by omega)
  have hnum : num ≤ 2 ^ 53 * spacing (num / den) * den :=
    ((Nat.div_lt_iff_lt_mul hden).1 (hlog.trans_le hpow)).le
  apply spacing_dvd_of_le (j := (num / den).log2 - 52)
  · exact nearest_le hden (spacing_dvd_of_le (Nat.le_refl _) (Nat.dvd_mul_left _ _)) hnum
  · exact Nat.dvd_mul_left _ _

/-- In the normal range rounding changes a quotient by at most a part in `2 ^ 53`. -/
theorem two_pow_mul_abs_nearest_sub_le (hden : 0 < den) (h : 2 ^ 52 ≤ num / den) :
    2 ^ 53 * |(nearest num den * den : Int) - num| ≤ num := by
  have near := two_mul_abs_nearest_sub_le num hden
  have hquotient : num / den ≠ 0 := by omega
  have hlog : 52 ≤ (num / den).log2 := (Nat.le_log2 hquotient).2 h
  have hspacing : spacing (num / den) * 2 ^ 52 ≤ num / den := by
    rw [spacing_eq, ← Nat.pow_add, Nat.sub_add_cancel hlog]
    exact Nat.log2_self_le hquotient
  have hnum : den * spacing (num / den) * 2 ^ 52 ≤ num := by
    rw [Nat.mul_assoc, Nat.mul_comm]
    exact (Nat.mul_le_mul_right den hspacing).trans (Nat.div_mul_le_self num den)
  have hcast : (den * spacing (num / den) : Int) * 2 ^ 52 ≤ num := by exact_mod_cast hnum
  omega

end Binary64

end CodeMetrics

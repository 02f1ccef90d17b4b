import CodeMetrics.Binary64.Basic

/-!
# Places of whole numbers

Whole numbers are compared as such: the unit of places cancels.  What lies before a place lies
before every later one.
-/

namespace CodeMetrics

theorem Binary64.one_pos : (0 : Int) < Binary64.one := Int.natCast_pos.2 (pow_two_pos 1074)

theorem Place.before_exactly_mono {p : Place} {m n : Int} (h : m ≤ n) (hp : p.before (.exactly m)) :
    p.before (.exactly n) := by
  cases p with
  | undefined => cases hp
  | below => rfl
  | exactly units => exact decide_eq_true (Int.lt_of_lt_of_le (of_decide_eq_true hp) h)
  | above => cases hp

theorem Number.before_int_iff (m n : Int) :
    (Number.int m).place.before (Number.int n).place = decide (m < n) := by
  have h : m * (Binary64.one : Int) < n * Binary64.one ↔ m < n :=
    Int.mul_lt_mul_right Binary64.one_pos
  exact decide_eq_decide.2 h

theorem Number.before_int_mono {p : Place} {m n : Nat} (h : m ≤ n)
    (hp : p.before (Number.int m).place) : p.before (Number.int n).place :=
  Place.before_exactly_mono
    (Int.mul_le_mul_of_nonneg_right (Int.ofNat_le.2 h) (Int.le_of_lt Binary64.one_pos)) hp

end CodeMetrics

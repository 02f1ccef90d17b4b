import CodeMetrics.Value.Order
import CodeMetrics.Proofs.Binary64.Place
import Mathlib.Algebra.Order.Field.Rat
import Mathlib.Algebra.Order.Field.Basic
import Mathlib.Data.Rat.Cast.Order
import Mathlib.Order.WithBot

/-!
# Exact values of numbers

A number is read as a rational number, or as one of the two infinities.  Places are an exact image
of these values: one number comes before another when its value is less, and they are the same when
their values are equal, whatever kinds they are of (`before?_eq`, `same_eq`).
-/

namespace CodeMetrics

/-- The rational numbers between two infinities. -/
abbrev Extended := WithBot (WithTop ℚ)

namespace Extended

/-- A rational number as such. -/
def ofRat (q : ℚ) : Extended := ((q : WithTop ℚ) : WithBot (WithTop ℚ))

theorem ofRat_lt_iff {p q : ℚ} : ofRat p < ofRat q ↔ p < q :=
  WithBot.coe_lt_coe.trans WithTop.coe_lt_coe

theorem ofRat_inj {p q : ℚ} : ofRat p = ofRat q ↔ p = q :=
  WithBot.coe_inj.trans WithTop.coe_inj

theorem bot_lt_ofRat (q : ℚ) : (⊥ : Extended) < ofRat q := WithBot.bot_lt_coe _

theorem ofRat_lt_top (q : ℚ) : ofRat q < (⊤ : Extended) :=
  WithBot.coe_lt_coe.2 (WithTop.coe_lt_top q)

end Extended

namespace Number

/-- The exact value of a number: a finite one is its units, of which `one` make up the number one.
What is not a number has none, and `⊥` stands for it. -/
def exact : Number → Extended
  | int n => .ofRat n
  | float .nan => ⊥
  | float (.inf neg) => if neg then ⊥ else ⊤
  | float (.finite neg units _) => .ofRat (Binary64.signed neg units / Binary64.one)

end Number

namespace Place

/-- The value at a place. -/
def exact : Place → Extended
  | undefined => ⊥
  | below => ⊥
  | exactly units => .ofRat (units / Binary64.one)
  | above => ⊤

theorem one_pos : (0 : ℚ) < Binary64.one :=
  Nat.cast_pos.2 (Int.natCast_pos.1 Binary64.one_pos)

theorem exact_exactly_lt_iff (a b : Int) : (exactly a).exact < (exactly b).exact ↔ a < b := by
  show Extended.ofRat _ < Extended.ofRat _ ↔ _
  rw [Extended.ofRat_lt_iff, div_lt_div_iff_of_pos_right one_pos, Int.cast_lt]

theorem exact_exactly_inj (a b : Int) : (exactly a).exact = (exactly b).exact ↔ a = b := by
  show Extended.ofRat _ = Extended.ofRat _ ↔ _
  rw [Extended.ofRat_inj, div_left_inj' one_pos.ne', Int.cast_inj]

/-- Defined places are ordered as their values. -/
theorem before_eq {p q : Place} (hp : p ≠ undefined) (hq : q ≠ undefined) :
    p.before q = decide (p.exact < q.exact) := by
  cases p with
  | undefined => exact absurd rfl hp
  | below =>
    cases q with
    | undefined => exact absurd rfl hq
    | below => exact (decide_eq_false (lt_irrefl _)).symm
    | exactly b => exact (decide_eq_true (Extended.bot_lt_ofRat _)).symm
    | above => exact (decide_eq_true bot_lt_top).symm
  | exactly a =>
    cases q with
    | undefined => exact absurd rfl hq
    | below => exact (decide_eq_false not_lt_bot).symm
    | exactly b => exact (decide_eq_decide.2 (exact_exactly_lt_iff a b)).symm
    | above => exact (decide_eq_true (Extended.ofRat_lt_top _)).symm
  | above =>
    cases q with
    | undefined => exact absurd rfl hq
    | below => exact (decide_eq_false not_top_lt).symm
    | exactly b => exact (decide_eq_false not_top_lt).symm
    | above => exact (decide_eq_false (lt_irrefl _)).symm

/-- Different defined places have different values. -/
theorem exact_inj {p q : Place} (hp : p ≠ undefined) (hq : q ≠ undefined) :
    p.exact = q.exact ↔ p = q := by
  cases p with
  | undefined => exact absurd rfl hp
  | below =>
    cases q with
    | undefined => exact absurd rfl hq
    | below => exact iff_of_true rfl rfl
    | exactly b => exact iff_of_false (Extended.bot_lt_ofRat _).ne nofun
    | above => exact iff_of_false bot_ne_top nofun
  | exactly a =>
    cases q with
    | undefined => exact absurd rfl hq
    | below => exact iff_of_false (Extended.bot_lt_ofRat _).ne' nofun
    | exactly b => exact (exact_exactly_inj a b).trans ⟨congrArg exactly, exactly.inj⟩
    | above => exact iff_of_false (Extended.ofRat_lt_top _).ne nofun
  | above =>
    cases q with
    | undefined => exact absurd rfl hq
    | below => exact iff_of_false top_ne_bot nofun
    | exactly b => exact iff_of_false (Extended.ofRat_lt_top _).ne' nofun
    | above => exact iff_of_true rfl rfl

theorem same_eq {p q : Place} (hp : p ≠ undefined) (hq : q ≠ undefined) :
    p.same q = decide (p.exact = q.exact) := by
  have hsame : p.same q = decide (p = q) := by
    unfold same
    split
    · exact absurd rfl hp
    · exact absurd rfl hq
    · rfl
  rw [hsame]
  exact decide_eq_decide.2 (exact_inj hp hq).symm

end Place

namespace Number

theorem exact_place (n : Number) : n.place.exact = n.exact := by
  cases n with
  | int n =>
    show Extended.ofRat _ = Extended.ofRat _
    rw [Int.cast_mul, Int.cast_natCast, mul_div_cancel_right₀ _ Place.one_pos.ne']
  | float x =>
    cases x with
    | nan => rfl
    | inf neg => cases neg <;> rfl
    | finite neg units h => rfl

end Number

namespace Value

/-- The value is a truth value, a whole number or a floating-point number. -/
inductive IsNumber : Value → Prop
  | bool (b : Bool) : IsNumber (.bool b)
  | int (n : Int) : IsNumber (.int n)
  | float {x : Binary64} : x ≠ .nan → IsNumber (.float x)

/-- The exact value of a number, of which a truth value is one; `⊥` stands for everything else. -/
def exact (v : Value) : Extended := (v.number?.map Number.exact).getD ⊥

variable {v w : Value}

theorem exact_of_number? {n : Number} (h : v.number? = some n) : v.exact = n.place.exact := by
  rw [exact, h, Number.exact_place]
  rfl

/-- A number has a place. -/
theorem IsNumber.exists_number (h : v.IsNumber) :
    ∃ n, v.number? = some n ∧ n.place ≠ .undefined := by
  cases h with
  | bool b => exact ⟨_, rfl, nofun⟩
  | int n => exact ⟨_, rfl, nofun⟩
  | @float x h =>
    refine ⟨.float x, rfl, ?_⟩
    cases x with
    | nan => exact absurd rfl h
    | inf neg => cases neg <;> exact nofun
    | finite neg units h => exact nofun

/-- Numbers of all kinds are ordered by their exact values. -/
theorem before?_eq (hv : v.IsNumber) (hw : w.IsNumber) :
    before? v w = some (decide (v.exact < w.exact)) := by
  obtain ⟨m, hm, hplace⟩ := hv.exists_number
  obtain ⟨n, hn, hplace'⟩ := hw.exists_number
  have hbefore : before? v w = some (m.place.before n.place) := by
    cases hv <;> simp only [before?, hm, hn]
  rw [hbefore, Place.before_eq hplace hplace', exact_of_number? hm, exact_of_number? hn]

/-- Numbers of all kinds are equal when their exact values are. -/
theorem same_eq (hv : v.IsNumber) (hw : w.IsNumber) :
    same false v w = decide (v.exact = w.exact) := by
  obtain ⟨m, hm, hplace⟩ := hv.exists_number
  obtain ⟨n, hn, hplace'⟩ := hw.exists_number
  have hsame : same false v w = m.place.same n.place := by
    cases hv <;> obtain rfl := Option.some.inj hm <;> simp [same, hn, sameNumber]
  rw [hsame, Place.same_eq hplace hplace', exact_of_number? hm, exact_of_number? hn]

end Value

end CodeMetrics

/-!
# Binary floating-point numbers of 64 bits

A finite number is a sign and a whole number of units of `2 ^ -1074`, the distance between the
smallest neighbours of the format.  A magnitude of `u` units is a number of the format when it has
at most 53 significant bits (`spacing u ∣ u`) and lies below `2 ^ 1024`.  Every operation computes
its exact result as a quotient of natural numbers and rounds once, half to the even neighbour
(`nearest`), so all of them are statements about natural numbers.
-/

namespace CodeMetrics

namespace Binary64

/-- The number one, in units. -/
def one : Nat := Nat.pow 2 1074

/-- How many bits the units of a finite magnitude may take. -/
def bits : Nat := 2098

/-- The magnitudes from here on are too large for the format, in units. -/
def limit : Nat := Nat.pow 2 bits

/-- The distance between neighbours of the format in the binade of `u`. -/
def spacing (u : Nat) : Nat := Nat.pow 2 (u.log2 - 52)

/-- `u` units are the magnitude of a finite number. -/
def Representable (u : Nat) : Prop := u < limit ∧ spacing u ∣ u

instance (u : Nat) : Decidable (Representable u) :=
  inferInstanceAs (Decidable (u < limit ∧ spacing u ∣ u))

theorem pow_two_pos (n : Nat) : 0 < Nat.pow 2 n := Nat.pow_pos Nat.two_pos

theorem representable_zero : Representable 0 := ⟨pow_two_pos bits, Nat.dvd_zero _⟩

/-- The whole number nearest to `num / den`, a half going to the even neighbour. -/
def roundDiv (num den : Nat) : Nat :=
  let q := num / den
  let r := num % den
  if 2 * r < den then q else if den < 2 * r then q + 1 else q + q % 2

/-- The magnitude with 53 significant bits that is nearest to `num / den` units. -/
def nearest (num den : Nat) : Nat :=
  let s := spacing (num / den)
  roundDiv num (den * s) * s

/-- The greatest whole number whose square is at most `n`. -/
def floorSqrt (n : Nat) : Nat :=
  if n = 0 then 0
  else
    let r := 2 * floorSqrt (n / 4)
    if (r + 1) * (r + 1) ≤ n then r + 1 else r
termination_by n
decreasing_by omega

end Binary64

/-- A number of the format: a finite magnitude with its sign, an infinity, or not a number. -/
inductive Binary64 where
  | nan
  | inf (neg : Bool)
  | finite (neg : Bool) (units : Nat) (h : Binary64.Representable units)
deriving DecidableEq

namespace Binary64

/-- The zero of the given sign. -/
def zero (neg : Bool) : Binary64 := .finite neg 0 representable_zero

instance : Inhabited Binary64 := ⟨zero false⟩

/-- The number nearest to `num / den` units with the given sign; infinite when that is too large. -/
def ofQuotient (neg : Bool) (num den : Nat) : Binary64 :=
  let u := nearest num den
  if h : Representable u then .finite neg u h else .inf neg

/-- The number nearest to `z` units; a sum of nothing takes the sign `zeroNeg`. -/
def ofUnits (zeroNeg : Bool) (z : Int) : Binary64 :=
  if z = 0 then zero zeroNeg else ofQuotient (decide (z < 0)) z.natAbs 1

/-- The number nearest to a whole number. -/
def ofInt (n : Int) : Binary64 := ofQuotient (decide (n < 0)) (n.natAbs * one) 1

/-- A finite number's exact value, in units. -/
def signed (neg : Bool) (units : Nat) : Int := if neg then -(units : Int) else units

def isNaN : Binary64 → Bool
  | nan => true
  | _ => false

def isFinite : Binary64 → Bool
  | finite .. => true
  | _ => false

/-! ## Arithmetic -/

def neg : Binary64 → Binary64
  | nan => nan
  | inf s => inf !s
  | finite s u h => finite (!s) u h

/-- Sum.  An exact zero is negative only when both terms are. -/
def add : Binary64 → Binary64 → Binary64
  | nan, _ => nan
  | _, nan => nan
  | inf s, inf t => if s = t then inf s else nan
  | inf s, finite .. => inf s
  | finite .., inf t => inf t
  | finite s u _, finite t v _ => ofUnits (s && t) (signed s u + signed t v)

def sub (x y : Binary64) : Binary64 := add x (neg y)

/-- Product.  Zero times infinity is not a number. -/
def mul : Binary64 → Binary64 → Binary64
  | nan, _ => nan
  | _, nan => nan
  | inf s, inf t => inf (s ^^ t)
  | inf s, finite t v _ => if v = 0 then nan else inf (s ^^ t)
  | finite s u _, inf t => if u = 0 then nan else inf (s ^^ t)
  | finite s u _, finite t v _ => ofQuotient (s ^^ t) (u * v) one

/-- Quotient by a positive count. -/
def divCount (x : Binary64) (n : Nat) : Binary64 :=
  match x with
  | nan => nan
  | inf s => inf s
  | finite s u _ => ofQuotient s u n

/-- Square root, rounded once; that of a negative number is not a number. -/
def sqrt : Binary64 → Binary64
  | nan => nan
  | inf s => if s then nan else inf false
  | finite s u h =>
    if u = 0 then finite s u h
    else if s then nan
    else
      let square := u * one
      let step := spacing (floorSqrt square)
      let below := floorSqrt (square / (step * step))
      let middle := (2 * below + 1) * step
      let root := if middle * middle < 4 * square then below + 1 else below
      ofQuotient false (root * step) 1

end Binary64

/-! ## Exact places on the number line -/

/-- Where a number lies: nowhere, at an exact number of units, or beyond every finite number. -/
inductive Place where
  | undefined
  | below
  | exactly (units : Int)
  | above
deriving DecidableEq

namespace Place

/-- Strict order; no number lies before or after an undefined place. -/
def before : Place → Place → Bool
  | undefined, _ => false
  | _, undefined => false
  | below, below => false
  | below, _ => true
  | exactly _, below => false
  | exactly a, exactly b => decide (a < b)
  | exactly _, above => true
  | above, _ => false

/-- Numerical equality; an undefined place equals none, itself included. -/
def same : Place → Place → Bool
  | undefined, _ => false
  | _, undefined => false
  | p, q => decide (p = q)

end Place

namespace Binary64

/-- The exact place of a number; both zeros lie at the same one. -/
def place : Binary64 → Place
  | nan => .undefined
  | inf s => if s then .below else .above
  | finite s u _ => .exactly (signed s u)

end Binary64

/-- A whole number or a floating-point number. -/
inductive Number where
  | int (n : Int)
  | float (x : Binary64)
deriving DecidableEq

namespace Number

/-- The exact place of a number: no whole number is rounded for a comparison. -/
def place : Number → Place
  | int n => .exactly (n * Binary64.one)
  | float x => x.place

/-- The nearest floating-point number, if it is finite. -/
def finite? (n : Int) : Option Binary64 :=
  let x := Binary64.ofInt n
  if x.isFinite then some x else none

/-- Sum: exact on whole numbers, and rounded once both are floating-point otherwise.  A whole number
beyond the finite floating-point numbers has no sum with one of them. -/
def add? : Number → Number → Option Number
  | int m, int n => some (int (m + n))
  | int m, float y => (finite? m).map fun x => float (x.add y)
  | float x, int n => (finite? n).map fun y => float (x.add y)
  | float x, float y => some (float (x.add y))

end Number

end CodeMetrics

import CodeMetrics.Binary64.Basic

/-!
# Decimal text of floating-point numbers

Reading rounds the exact decimal once (`ofDecimal`).  Writing gives either two fixed places
(`toFixed`), or the fewest digits that read back as the same number (`toShortest`): for one digit,
two digits and so on, the two neighbours of the value among the decimals with that many digits are
tested against the interval of reals that round to the number.
-/

namespace CodeMetrics

/-- How many decimal digits a whole number has. -/
def decimalLength (n : Nat) : Nat := (Nat.toDigits 10 n).length

namespace Binary64

/-- The number nearest to `digits * 10 ^ exponent`.  A decimal far outside the range of the format
is not computed. -/
def ofDecimal (neg : Bool) (digits : Nat) (exponent : Int) : Binary64 :=
  let point : Int := decimalLength digits + exponent
  if digits = 0 ∨ point < -330 then zero neg
  else if 310 < point then inf neg
  else if 0 ≤ exponent then ofQuotient neg (digits * Nat.pow 10 exponent.toNat * one) 1
  else ofQuotient neg (digits * one) (Nat.pow 10 (-exponent).toNat)

/-! ## Two places -/

/-- The whole number of hundredths nearest to `u` units, a half going to the even neighbour. -/
def hundredths (u : Nat) : Nat := roundDiv (u * 100) one

/-- The number nearest to the hundredth nearest to `x`; the sign of zero is kept. -/
def roundHundredths : Binary64 → Binary64
  | finite s u _ => ofQuotient s (hundredths u * one) 100
  | x => x

/-- The minus sign of a negative number. -/
def signText (neg : Bool) : String := if neg then "-" else ""

/-- Two places after the point. -/
def toFixed : Binary64 → String
  | nan => "nan"
  | inf s => signText s ++ "inf"
  | finite s u _ =>
    let c := hundredths u
    signText s ++ toString (c / 100) ++ "." ++ toString (c / 10 % 10) ++ toString (c % 10)

/-! ## The fewest digits that read back -/

/-- The position of the decimal point: `u` units lie in `[10 ^ (p - 1), 10 ^ p)`. -/
def pointOf (u : Nat) : Int := (decimalLength (u * Nat.pow 10 400 / one) : Int) - 400

/-- The decimal of `count` digits that reads back as `u` units, the nearer one of two, as a multiple
of `10 ^ (point - count)`. -/
def decimalOf? (u : Nat) (point : Int) (count : Nat) : Option Nat :=
  let scale := point - count
  let k := Nat.pow 10 (-scale).toNat
  let den := one * Nat.pow 10 scale.toNat
  let low := (2 * u - spacing (u - 1)) * k
  let high := (2 * u + spacing u) * k
  let closed := u / spacing u % 2 = 0
  let readsBack (c : Nat) : Bool :=
    let x := 2 * c * den
    if closed then low ≤ x ∧ x ≤ high else low < x ∧ x < high
  let c := u * k / den
  let r := u * k % den
  if readsBack c && readsBack (c + 1) then
    some (if 2 * r < den then c else if den < 2 * r then c + 1 else c + c % 2)
  else if readsBack c then some c
  else if readsBack (c + 1) then some (c + 1)
  else none

/-- The digits of `u` units without trailing zeros, and the position of the point before them. -/
def shortestDigits (u : Nat) : List Char × Int :=
  let point := pointOf u
  match (List.range 17).findSome? fun i => (decimalOf? u point (i + 1)).map fun c => (c, i + 1) with
  | none => (['0'], 1)
  | some (c, count) =>
    let digits := Nat.toDigits 10 c
    ((digits.reverse.dropWhile (· == '0')).reverse, point - count + digits.length)

/-- An exponent: a sign and at least two digits. -/
def exponentText (e : Int) : String :=
  let digits := toString e.natAbs
  (if e < 0 then "e-" else "e+") ++ (if digits.length < 2 then "0" ++ digits else digits)

/-- A positive number's digits with the point set among them.  Positional from `10 ^ -4` up to
below `10 ^ 16`, with at least one digit after the point; with an exponent otherwise. -/
def placePoint (digits : List Char) (point : Int) : String :=
  let text := String.ofList digits
  let zeros (n : Nat) := String.ofList (List.replicate n '0')
  if -4 < point ∧ point ≤ 16 then
    if point ≤ 0 then "0." ++ zeros (-point).toNat ++ text
    else if digits.length ≤ point.toNat then text ++ zeros (point.toNat - digits.length) ++ ".0"
    else String.ofList (digits.take point.toNat) ++ "." ++ String.ofList (digits.drop point.toNat)
  else
    match digits with
    | [] => text
    | [d] => String.singleton d ++ exponentText (point - 1)
    | d :: rest => String.singleton d ++ "." ++ String.ofList rest ++ exponentText (point - 1)

/-- The fewest digits that read back as the number, the nearest such decimal. -/
def toShortest : Binary64 → String
  | nan => "nan"
  | inf s => signText s ++ "inf"
  | finite s u _ =>
    if u = 0 then signText s ++ "0.0"
    else
      let (digits, point) := shortestDigits u
      signText s ++ placePoint digits point

end Binary64

end CodeMetrics

import CodeMetrics.Binary64.Decimal
import CodeMetrics.Text.Digit
import CodeMetrics.Text.Hexadecimal
import CodeMetrics.Toml.Text

/-!
# Numbers, dates and times of a TOML document
-/

namespace CodeMetrics

namespace Toml

/-! ## Numbers -/

/-- Reads more digits of `p`, each with at most one underscore before it. -/
def readMoreDigits (p : Char → Bool) : List Char → List Char × List Char
  | '_' :: c :: rest =>
    if p c then
      let (digits, rest) := readMoreDigits p rest
      (c :: digits, rest)
    else ([], '_' :: c :: rest)
  | c :: rest =>
    if p c then
      let (digits, rest) := readMoreDigits p rest
      (c :: digits, rest)
    else ([], c :: rest)
  | [] => ([], [])

/-- Reads digits of `p` without the underscores between them. -/
def readDigits? (p : Char → Bool) (s : List Char) : Option (List Char × List Char) :=
  match s with
  | c :: rest =>
    if p c then
      let (digits, rest) := readMoreDigits p rest
      some (c :: digits, rest)
    else none
  | [] => none

/-- The number of digits in a base up to 16. -/
def numberIn (base : Nat) (digits : List Char) : Nat :=
  numberOfDigits base (digits.filterMap hexValue?)

/-- Reads a whole number in base 16, 8 or 2. -/
def readBased? (s : List Char) : Option (Value × List Char) :=
  let based (base : Nat) (rest : List Char) : Option (Value × List Char) :=
    (readDigits? (fun c => (hexValue? c).any (· < base)) rest).map fun (digits, rest) =>
      (.int (numberIn base digits), rest)
  match s with
  | '0' :: 'x' :: rest => based 16 rest
  | '0' :: 'o' :: rest => based 8 rest
  | '0' :: 'b' :: rest => based 2 rest
  | _ => none

/-- Reads a sign, if there is one; it says whether the number is negative. -/
def readSign (s : List Char) : Bool × List Char :=
  match s with
  | '-' :: rest => (true, rest)
  | '+' :: rest => (false, rest)
  | _ => (false, s)

/-- Reads the whole part of a decimal number: zero, or digits that do not begin with zero. -/
def readWhole? (s : List Char) : Option (List Char × List Char) :=
  match s with
  | '0' :: rest => some (['0'], rest)
  | _ => readDigits? Char.isDigit s

/-- Reads a point and the digits after it. -/
def readFraction? (s : List Char) : Option (List Char × List Char) :=
  match s with
  | '.' :: rest => readDigits? Char.isDigit rest
  | _ => none

/-- Reads an exponent. -/
def readExponent? (s : List Char) : Option (Int × List Char) :=
  match s with
  | c :: rest =>
    if c = 'e' ∨ c = 'E' then
      let (negative, rest) := readSign rest
      (readDigits? Char.isDigit rest).map fun (digits, rest) =>
        let n : Int := numberIn 10 digits
        (if negative then -n else n, rest)
    else none
  | [] => none

/-- How many digits a decimal whole number may have. -/
def digitLimit : Nat := 4300

/-- Reads a decimal number, if one stands at the front.  One without point and exponent is a whole
number. -/
def readDecimal? (s : List Char) : Option (Except Stop (Value × List Char)) :=
  let (negative, unsigned) := readSign s
  (readWhole? unsigned).map fun (whole, rest) =>
    let fraction? := readFraction? rest
    let (fraction, rest) := fraction?.getD ([], rest)
    let exponent? := readExponent? rest
    let (exponent, rest) := exponent?.getD (0, rest)
    if fraction?.isNone && exponent?.isNone then
      if digitLimit < whole.length then .error ⟨.longNumber whole.length, s.length⟩
      else
        let n : Int := numberIn 10 whole
        .ok (.int (if negative then -n else n), rest)
    else
      .ok (.float (Binary64.ofDecimal negative (numberIn 10 (whole ++ fraction))
        (exponent - fraction.length)), rest)

/-- Reads infinity or what is not a number. -/
def readSpecial? (s : List Char) : Option (Value × List Char) :=
  let (negative, rest) := readSign s
  match rest with
  | 'i' :: 'n' :: 'f' :: rest => some (.float (.inf negative), rest)
  | 'n' :: 'a' :: 'n' :: rest => some (.float .nan, rest)
  | _ => none

/-! ## Dates and times -/

/-- Reads exactly `count` digits that write a number from `low` to `high`. -/
def readField? (count low high : Nat) (s : List Char) : Option (Nat × List Char) :=
  let digits := s.take count
  let n := numberIn 10 digits
  if digits.length = count ∧ digits.all Char.isDigit ∧ low ≤ n ∧ n ≤ high then
    some (n, s.drop count)
  else none

/-- Reads a given character. -/
def readChar? (c : Char) (s : List Char) : Option (List Char) :=
  match s with
  | d :: rest => if d = c then some rest else none
  | [] => none

/-- Reads a fraction of a second in microseconds; digits after the sixth count for nothing. -/
def readMicroseconds (s : List Char) : Nat × List Char :=
  match s with
  | '.' :: rest =>
    let digits := rest.takeWhile Char.isDigit
    if digits.isEmpty then (0, s)
    else
      let six := digits.take 6
      (numberIn 10 six * Nat.pow 10 (6 - six.length), rest.dropWhile Char.isDigit)
  | _ => (0, s)

/-- Reads a time of day. -/
def readTime? (s : List Char) : Option (TimeOfDay × List Char) := do
  let (hour, s) ← readField? 2 0 23 s
  let (minute, s) ← readField? 2 0 59 (← readChar? ':' s)
  let (second, s) ← readField? 2 0 59 (← readChar? ':' s)
  let (microsecond, s) := readMicroseconds s
  some (⟨hour, minute, second, microsecond⟩, s)

/-- Reads an offset from universal time, in minutes. -/
def readOffset? (s : List Char) : Option (Int × List Char) :=
  match s with
  | [] => none
  | c :: rest =>
    if c = 'Z' ∨ c = 'z' then some (0, rest)
    else if c = '+' ∨ c = '-' then do
      let (hours, s) ← readField? 2 0 23 rest
      let (minutes, s) ← readField? 2 0 59 (← readChar? ':' s)
      let n : Int := hours * 60 + minutes
      some (if c = '-' then -n else n, s)
    else none

/-- Reads the time after a date. -/
def readTimeAfter? (s : List Char) : Option (TimeOfDay × List Char) :=
  match s with
  | c :: rest => if c = 'T' ∨ c = 't' ∨ c = ' ' then readTime? rest else none
  | [] => none

/-- Reads a date, with a time and an offset if they follow.  The date may be one that does not
exist. -/
def readDate? (s : List Char) : Option (Date × Moment × List Char) := do
  let (year, s) ← readField? 4 0 9999 s
  let (month, s) ← readField? 2 1 12 (← readChar? '-' s)
  let (day, s) ← readField? 2 1 31 (← readChar? '-' s)
  let d : Date := ⟨year, month, day⟩
  match readTimeAfter? s with
  | none => some (d, .date d, s)
  | some (t, s) =>
    match readOffset? s with
    | none => some (d, .dateTime d t none, s)
    | some (offset, s) => some (d, .dateTime d t (some offset), s)

/-- Reads a number, a date or a time. -/
def readScalar : Reader Value := fun s =>
  match readDate? s with
  | some (d, m, rest) => if d.Valid then .ok (.moment m, rest) else .error ⟨.moment, s.length⟩
  | none =>
    match readTime? s with
    | some (t, rest) => .ok (.moment (.time t), rest)
    | none =>
      match readBased? s with
      | some found => .ok found
      | none =>
        match readDecimal? s with
        | some found => found
        | none =>
          match readSpecial? s with
          | some found => .ok found
          | none => .error ⟨.value, s.length⟩

end Toml

end CodeMetrics

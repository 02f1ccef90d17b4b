import CodeMetrics.Text.Hexadecimal

/-!
# Text inside a JSON document

Written text is ASCII: quotes, backslashes and controls are escaped, and every other character
beyond ASCII as one or two units of UTF-16.  Reading goes back through the same units
(`unitsToText`), so that the two halves of a character meet again.

Texts are made of whole characters.  An escape for one half of a character without the other, for
which there are texts elsewhere, is therefore read as U+FFFD (`ofUnit`).
-/

namespace CodeMetrics

namespace Json

/-! ## Units of UTF-16 -/

/-- The units of UTF-16 of a character. -/
def units (c : Char) : List Nat :=
  let n := c.toNat
  if n < 0x10000 then [n] else [0xd800 + (n - 0x10000) / 0x400, 0xdc00 + (n - 0x10000) % 0x400]

/-- The unit is the first half of a character. -/
def isHighHalf (u : Nat) : Bool := 0xd800 ≤ u && u < 0xdc00

/-- The unit is the second half of a character. -/
def isLowHalf (u : Nat) : Bool := 0xdc00 ≤ u && u < 0xe000

/-- The character of a single unit.  A half on its own is none and is replaced. -/
def ofUnit (u : Nat) : Char := if isHighHalf u || isLowHalf u then '\ufffd' else Char.ofNat u

/-- The text that units make up. -/
def unitsToText : List Nat → List Char
  | [] => []
  | [u] => [ofUnit u]
  | u :: v :: rest =>
    if isHighHalf u && isLowHalf v then
      Char.ofNat (0x10000 + (u - 0xd800) * 0x400 + (v - 0xdc00)) :: unitsToText rest
    else ofUnit u :: unitsToText (v :: rest)

/-! ## Writing -/

/-- The letter of a short escape. -/
def shortEscape? (c : Char) : Option Char :=
  if c = '"' ∨ c = '\\' then some c
  else if c = '\n' then some 'n'
  else if c = '\r' then some 'r'
  else if c = '\t' then some 't'
  else if c.toNat = 0x08 then some 'b'
  else if c.toNat = 0x0c then some 'f'
  else none

/-- One character inside quotes. -/
def escapeChar (c : Char) : List Char :=
  match shortEscape? c with
  | some letter => ['\\', letter]
  | none =>
    if 0x20 ≤ c.toNat ∧ c.toNat ≤ 0x7e then [c]
    else (units c).flatMap fun u => '\\' :: 'u' :: hexDigits 4 u

/-- A text between quotes. -/
def quote (s : List Char) : List Char := '"' :: s.flatMap escapeChar ++ ['"']

/-! ## Reading -/

/-- What a short escape stands for. -/
def unescape? (letter : Char) : Option Nat :=
  if letter = '"' ∨ letter = '\\' ∨ letter = '/' then some letter.toNat
  else if letter = 'n' then some 0x0a
  else if letter = 'r' then some 0x0d
  else if letter = 't' then some 0x09
  else if letter = 'b' then some 0x08
  else if letter = 'f' then some 0x0c
  else none

/-- The number of four hexadecimal digits. -/
def hexUnit? (a b c d : Char) : Option Nat :=
  match hexValue? a, hexValue? b, hexValue? c, hexValue? d with
  | some a, some b, some c, some d => some (((a * 16 + b) * 16 + c) * 16 + d)
  | _, _, _, _ => none

end Json

end CodeMetrics

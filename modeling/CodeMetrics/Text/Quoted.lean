import CodeMetrics.Text.Hexadecimal
import CodeMetrics.Text.Printable

/-!
# Quoted text

A text is quoted with single quotes, or with double quotes when it holds a single quote and no
double one.  The backslash and the quote in use are escaped, as are all unprintable characters.
-/

namespace CodeMetrics

/-- The quote that encloses a text. -/
def quoteFor (s : List Char) : Char := if '\'' ∈ s ∧ '"' ∉ s then '"' else '\''

/-- One character between quotes. -/
def quotedChar (quote c : Char) : List Char :=
  if c = quote ∨ c = '\\' then ['\\', c]
  else if c = '\n' then ['\\', 'n']
  else if c = '\r' then ['\\', 'r']
  else if c = '\t' then ['\\', 't']
  else if isPrintable c then [c]
  else if c.toNat < 0x100 then '\\' :: 'x' :: hexDigits 2 c.toNat
  else if c.toNat < 0x10000 then '\\' :: 'u' :: hexDigits 4 c.toNat
  else '\\' :: 'U' :: hexDigits 8 c.toNat

/-- A text between quotes. -/
def quoted (s : List Char) : List Char :=
  let quote := quoteFor s
  quote :: s.flatMap (quotedChar quote) ++ [quote]

/-- Octets between quotes, those beyond ASCII escaped. -/
def quotedOctets (octets : List UInt8) : List Char :=
  let chars := octets.map fun b => Char.ofNat b.toNat
  let quote := quoteFor chars
  let escape (c : Char) : List Char :=
    if c.toNat < 0x7f then quotedChar quote c else '\\' :: 'x' :: hexDigits 2 c.toNat
  'b' :: quote :: chars.flatMap escape ++ [quote]

end CodeMetrics

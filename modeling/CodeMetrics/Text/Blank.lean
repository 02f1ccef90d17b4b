import CodeMetrics.Text.Ranges

/-!
# Blank characters

White space in the sense of the Unicode property, with the four ASCII separators 0x1c to 0x1f.
-/

namespace CodeMetrics

/-- Ranges of white space. -/
def blankRanges : CodeRanges := #[
  (0x9, 0xd), (0x1c, 0x20), (0x85, 0x85), (0xa0, 0xa0), (0x1680, 0x1680), (0x2000, 0x200a),
  (0x2028, 0x2029), (0x202f, 0x202f), (0x205f, 0x205f), (0x3000, 0x3000)]

/-- The character is white space. -/
def isBlank (c : Char) : Bool := blankRanges.has c

/-- The character separates words and surrounds numbers in plain text: white space without the
four ASCII separators. -/
def isSpacing (c : Char) : Bool := isBlank c && !(0x1c ≤ c.toNat && c.toNat ≤ 0x1f)

/-- A text without the characters of `p` at its end. -/
def dropEndWhile (p : Char → Bool) (s : List Char) : List Char := (s.reverse.dropWhile p).reverse

/-- A text without the characters of `p` at either end. -/
def trimWhile (p : Char → Bool) (s : List Char) : List Char := dropEndWhile p (s.dropWhile p)

end CodeMetrics

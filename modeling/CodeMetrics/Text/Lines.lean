import CodeMetrics.Text.Width

/-!
# Lines and tabs
-/

namespace CodeMetrics

/-- Every line end, a return with or without a line feed, as a line feed. -/
def unifyLineEnds : List Char → List Char
  | [] => []
  | '\r' :: '\n' :: rest => '\n' :: unifyLineEnds rest
  | '\r' :: rest => '\n' :: unifyLineEnds rest
  | c :: rest => c :: unifyLineEnds rest

/-- A return before a line feed is dropped; a return elsewhere stays. -/
def joinLineEnds : List Char → List Char
  | [] => []
  | '\r' :: '\n' :: rest => '\n' :: joinLineEnds rest
  | c :: rest => c :: joinLineEnds rest

/-- The pieces between the characters of `p`: one more than there are such characters. -/
def splitWhere (p : Char → Bool) : List Char → List (List Char)
  | [] => [[]]
  | c :: rest =>
    if p c then [] :: splitWhere p rest
    else
      match splitWhere p rest with
      | [] => [[c]]
      | piece :: pieces => (c :: piece) :: pieces

/-- The characters that end a line of plain text. -/
def isLineBreak (c : Char) : Bool :=
  (0x0a ≤ c.toNat && c.toNat ≤ 0x0d) || (0x1c ≤ c.toNat && c.toNat ≤ 0x1e) || c.toNat = 0x85 ||
    c.toNat = 0x2028 || c.toNat = 0x2029

/-- Characters of a text that only steer a terminal: bell, backspace, vertical tab, form feed and
return. -/
def isSteering (c : Char) : Bool :=
  c.toNat = 7 || c.toNat = 8 || (11 ≤ c.toNat && c.toNat ≤ 13)

/-- A text without steering characters. -/
def dropSteering (s : List Char) : List Char := s.filter (!isSteering ·)

/-- The distance between tab stops. -/
def tabStop : Nat := 8

/-- The pieces between tabs with each tab drawn as a blank and filled up to the next stop. -/
def expandPieces (column : Nat) : List (List Char) → List Char
  | [] => []
  | [last] => last
  | piece :: pieces =>
    let piece := piece ++ [' ']
    let column := column + cells piece
    let filler := (tabStop - column % tabStop) % tabStop
    piece ++ List.replicate filler ' ' ++ expandPieces (column + filler) pieces

/-- A line with its tabs drawn as blanks. -/
def expandTabs (line : List Char) : List Char := expandPieces 0 (splitWhere (· = '\t') line)

end CodeMetrics

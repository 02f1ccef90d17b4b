import CodeMetrics.Json.Escape
import CodeMetrics.Text.Digit
import CodeMetrics.Binary64.Decimal
import CodeMetrics.Value.Basic

/-!
# Reading JSON

The reader takes the usual grammar, with `NaN`, `Infinity` and `-Infinity` as numbers besides, no
comma before a closing bracket, and no control character inside a text.  The first fault from the
left is reported with its line, its column and its position.  Of two entries with one key the later
one counts, at the place of the earlier.
-/

namespace CodeMetrics

namespace Json

/-- What is wrong with a document. -/
inductive Complaint where
  | expectedValue
  | expectedKey
  | expectedColon
  | expectedComma
  | unterminatedText
  | controlCharacter
  | badEscape
  | badUnitEscape
  | extraData
  | byteOrderMark
  | longNumber
deriving DecidableEq

/-- A complaint and how many characters of the document remain from its place on. -/
structure Stop where
  complaint : Complaint
  remaining : Nat

/-- A complaint with its place in the document: the text before it. -/
structure Fault where
  complaint : Complaint
  before : List Char

namespace Fault

/-- The line of a fault; the first one is 1. -/
def line (f : Fault) : Nat := f.before.count '\n' + 1

/-- The column of a fault; the first one is 1. -/
def column (f : Fault) : Nat := (f.before.reverse.takeWhile (· ≠ '\n')).length + 1

/-- The complaint in words. -/
def reason (f : Fault) : String :=
  match f.complaint with
  | .expectedValue => "Expecting value"
  | .expectedKey => "Expecting property name enclosed in double quotes"
  | .expectedColon => "Expecting ':' delimiter"
  | .expectedComma => "Expecting ',' delimiter"
  | .unterminatedText => "Unterminated string starting at"
  | .controlCharacter => "Invalid control character at"
  | .badEscape => "Invalid \\escape"
  | .badUnitEscape => "Invalid \\uXXXX escape"
  | .extraData => "Extra data"
  | .byteOrderMark => "Unexpected UTF-8 BOM (decode using utf-8-sig)"
  | .longNumber => "Exceeds the limit (4300 digits) for integer string conversion"

/-- The fault in words, with its place. -/
def message (f : Fault) : String :=
  f.reason ++ ": line " ++ toString f.line ++ " column " ++ toString f.column ++ " (char " ++
    toString f.before.length ++ ")"

end Fault

/-- White space between tokens. -/
def isGap (c : Char) : Bool := c = ' ' || c = '\t' || c = '\n' || c = '\r'

/-- The text from the next token on. -/
def skipGap (s : List Char) : List Char := s.dropWhile isGap

/-! ## Texts -/

/-- Reads up to the closing quote; `start` is what remained at the opening one. -/
def readUnits (start : Nat) : List Char → Except Stop (List Nat × List Char)
  | [] => .error ⟨.unterminatedText, start⟩
  | c :: rest =>
    if c = '"' then .ok ([], rest)
    else if c = '\\' then
      match rest with
      | [] => .error ⟨.unterminatedText, start⟩
      | e :: after =>
        if e = 'u' then
          match after with
          | a :: b :: c :: d :: next :: rest =>
            match hexUnit? a b c d with
            | some u => (fun (us, rest) => (u :: us, rest)) <$> readUnits start (next :: rest)
            | none => .error ⟨.badUnitEscape, after.length + 1⟩
          | _ => .error ⟨.badUnitEscape, after.length + 1⟩
        else
          match unescape? e with
          | some u => (fun (us, rest) => (u :: us, rest)) <$> readUnits start after
          | none => .error ⟨.badEscape, after.length + 2⟩
    else if c.toNat < 0x20 then .error ⟨.controlCharacter, rest.length + 1⟩
    else (fun (us, rest) => (c.toNat :: us, rest)) <$> readUnits start rest

/-- Reads a text after its opening quote. -/
def readText (s : List Char) : Except Stop (String × List Char) :=
  (fun (us, rest) => (String.ofList (unitsToText us), rest)) <$> readUnits (s.length + 1) s

/-! ## Numbers -/

/-- The digits at the front of a text, and the rest. -/
def spanDigits (s : List Char) : List Char × List Char := s.span Char.isDigit

/-- The number that ASCII digits write. -/
def digitsToNat (digits : List Char) : Nat := numberOfDigits 10 (digits.map fun c => c.toNat - 48)

/-- The whole part of a number: zero, or digits that do not begin with zero. -/
def readWhole? (s : List Char) : Option (List Char × List Char) :=
  match s with
  | '0' :: rest => some (['0'], rest)
  | c :: _ => if c.isDigit then some (spanDigits s) else none
  | [] => none

/-- A point with digits after it; empty when there is none. -/
def readFraction (s : List Char) : List Char × List Char :=
  match s with
  | '.' :: rest =>
    match spanDigits rest with
    | ([], _) => ([], s)
    | (digits, rest) => (digits, rest)
  | _ => ([], s)

/-- An exponent, if one follows. -/
def readExponent? (s : List Char) : Option (Int × List Char) :=
  match s with
  | e :: rest =>
    if e = 'e' ∨ e = 'E' then
      let (negative, rest) :=
        match rest with
        | '-' :: rest => (true, rest)
        | '+' :: rest => (false, rest)
        | _ => (false, rest)
      match spanDigits rest with
      | ([], _) => none
      | (digits, rest) =>
        let n : Int := digitsToNat digits
        some (if negative then -n else n, rest)
    else none
  | [] => none

/-- How many digits a whole number may have. -/
def digitLimit : Nat := 4300

/-- Reads a number.  One without point and exponent is a whole number. -/
def readNumber (s : List Char) : Except Stop (Value × List Char) :=
  let (negative, unsigned) :=
    match s with
    | '-' :: rest => (true, rest)
    | _ => (false, s)
  match readWhole? unsigned with
  | none => .error ⟨.expectedValue, s.length⟩
  | some (whole, rest) =>
    let (fraction, rest) := readFraction rest
    match fraction, readExponent? rest with
    | [], none =>
      if digitLimit < whole.length then .error ⟨.longNumber, s.length⟩
      else
        let n : Int := digitsToNat whole
        .ok (.int (if negative then -n else n), rest)
    | _, exponent? =>
      let (exponent, rest) := exponent?.getD (0, rest)
      .ok (.float (Binary64.ofDecimal negative (digitsToNat (whole ++ fraction))
        (exponent - fraction.length)), rest)

/-! ## Values -/

/-- The rest of a text after a word at its front. -/
def afterWord? (word : String) (s : List Char) : Option (List Char) :=
  if word.toList.isPrefixOf s then some (s.drop word.length) else none

/-- The values that are written as words. -/
def words : List (String × Value) :=
  [("null", .null), ("true", .bool true), ("false", .bool false), ("NaN", .float .nan),
    ("Infinity", .float (.inf false)), ("-Infinity", .float (.inf true))]

/-- Reads a word or a number. -/
def readScalar (s : List Char) : Except Stop (Value × List Char) :=
  match words.findSome? fun (word, v) => (afterWord? word s).map fun rest => (v, rest) with
  | some found => .ok found
  | none => readNumber s

mutual

/-- Reads a value at the front of a text.  The depth bounds how far values can be nested. -/
def readValue (depth : Nat) (s : List Char) : Except Stop (Value × List Char) :=
  match depth with
  | 0 => .error ⟨.expectedValue, s.length⟩
  | depth + 1 =>
    match s with
    | '"' :: rest => (fun (t, rest) => (.text t, rest)) <$> readText rest
    | '[' :: rest =>
      match skipGap rest with
      | ']' :: rest => .ok (.list [], rest)
      | rest => (fun (vs, rest) => (.list vs, rest)) <$> readItems depth rest
    | '\x7b' :: rest =>
      match skipGap rest with
      | '\x7d' :: rest => .ok (.dict [], rest)
      | rest => (fun (es, rest) => (.dict (Value.overlay [] es), rest)) <$> readEntries depth rest
    | s => readScalar s

/-- Reads the items of an array up to its closing bracket. -/
def readItems (depth : Nat) (s : List Char) : Except Stop (List Value × List Char) :=
  match depth with
  | 0 => .error ⟨.expectedValue, s.length⟩
  | depth + 1 => do
    let (v, rest) ← readValue depth s
    match skipGap rest with
    | ']' :: rest => .ok ([v], rest)
    | ',' :: rest =>
      let (vs, rest) ← readItems depth (skipGap rest)
      .ok (v :: vs, rest)
    | rest => .error ⟨.expectedComma, rest.length⟩

/-- Reads the entries of an object up to its closing brace. -/
def readEntries (depth : Nat) (s : List Char) : Except Stop (List (String × Value) × List Char) :=
  match depth with
  | 0 => .error ⟨.expectedValue, s.length⟩
  | depth + 1 =>
    match s with
    | '"' :: rest => do
      let (key, rest) ← readText rest
      match skipGap rest with
      | ':' :: rest =>
        let (v, rest) ← readValue depth (skipGap rest)
        match skipGap rest with
        | '\x7d' :: rest => .ok ([(key, v)], rest)
        | ',' :: rest =>
          let (es, rest) ← readEntries depth (skipGap rest)
          .ok ((key, v) :: es, rest)
        | rest => .error ⟨.expectedComma, rest.length⟩
      | rest => .error ⟨.expectedColon, rest.length⟩
    | s => .error ⟨.expectedKey, s.length⟩

end

/-- The value at the front of a text; every step into it uses up a character or goes back to one
that did, so twice the length bounds the depth. -/
def readFront (s : List Char) : Except Stop (Value × List Char) := readValue (2 * s.length + 1) s

/-- Reads a document that holds one value and nothing else. -/
def readAll (s : List Char) : Except Stop Value := do
  if s.head? = some '\ufeff' then throw ⟨.byteOrderMark, s.length⟩
  let (v, rest) ← readFront (skipGap s)
  match skipGap rest with
  | [] => .ok v
  | rest => .error ⟨.extraData, rest.length⟩

/-- The value that a document holds. -/
def read (s : List Char) : Except Fault Value :=
  (readAll s).mapError fun stop => ⟨stop.complaint, s.take (s.length - stop.remaining)⟩

end Json

end CodeMetrics

import CodeMetrics.Text.Hexadecimal
import CodeMetrics.Toml.Fault

/-!
# Texts and comments of a TOML document

A text between double quotes has escapes, one between single quotes has none.  Three quotes enclose
a text of several lines, which may end in up to two further quotes of its own.  Controls are refused
except for tabs, and for line feeds where a text may have several lines.
-/

namespace CodeMetrics

namespace Toml

/-- A reader takes a front part of the document and gives what it means with the rest. -/
abbrev Reader (α : Type) := List Char → Except Stop (α × List Char)

/-- A blank on a line. -/
def isGap (c : Char) : Bool := c = ' ' || c = '\t'

/-- A blank or a line feed. -/
def isWideGap (c : Char) : Bool := isGap c || c = '\n'

/-- The text after the blanks at its front. -/
def skipGap (s : List Char) : List Char := s.dropWhile isGap

/-- A control that must not stand on a line. -/
def isControl (c : Char) : Bool := (c.toNat < 0x20 || c.toNat = 0x7f) && c ≠ '\t'

/-- A control that must not stand in a text, which may have several lines. -/
def isRefused (multiline : Bool) (c : Char) : Bool := isControl c && !(multiline && c = '\n')

/-- The first refused character of `body`, which is followed by `rest`, is a fault. -/
def refuse (multiline : Bool) (body rest : List Char) : Except Stop Unit :=
  match body.dropWhile fun c => !isRefused multiline c with
  | [] => .ok ()
  | c :: later => .error ⟨.invalidCharacter c, later.length + 1 + rest.length⟩

/-- The text after a comment, if there is one at its front. -/
def skipComment (s : List Char) : Except Stop (List Char) :=
  match s with
  | '#' :: body => do
    let rest := body.dropWhile (· ≠ '\n')
    refuse false (body.takeWhile (· ≠ '\n')) rest
    .ok rest
  | _ => .ok s

/-! ## Texts without escapes -/

/-- The text before the first occurrence of a delimiter, and the text from there on. -/
def splitBefore? (delimiter : List Char) : List Char → Option (List Char × List Char)
  | [] => if delimiter.isEmpty then some ([], []) else none
  | c :: rest =>
    if delimiter.isPrefixOf (c :: rest) then some ([], c :: rest)
    else (splitBefore? delimiter rest).map fun (body, rest) => (c :: body, rest)

/-- Reads a text up to its delimiter. -/
def readLiteral (multiline : Bool) (delimiter : String) : Reader (List Char) := fun s =>
  match splitBefore? delimiter.toList s with
  | none => .error ⟨.missing delimiter, 0⟩
  | some (body, rest) => do
    refuse multiline body rest
    .ok (body, rest.drop delimiter.length)

/-! ## Texts with escapes -/

/-- What a short escape stands for. -/
def unescape? (letter : Char) : Option Char :=
  if letter = '"' ∨ letter = '\\' then some letter
  else if letter = 'b' then some '\x08'
  else if letter = 't' then some '\t'
  else if letter = 'n' then some '\n'
  else if letter = 'f' then some '\x0c'
  else if letter = 'r' then some '\r'
  else none

/-- Reads a character of `width` hexadecimal digits. -/
def readHexChar (width : Nat) : Reader (List Char) := fun s =>
  let digits := s.take width
  match digits.mapM hexValue? with
  | none => .error ⟨.hexValue, s.length⟩
  | some values =>
    if values.length ≠ width then .error ⟨.hexValue, s.length⟩
    else
      let n := values.foldl (fun n d => n * 16 + d) 0
      let rest := s.drop width
      if n.isValidChar then .ok ([Char.ofNat n], rest) else .error ⟨.scalarValue, rest.length⟩

/-- Reads an escape after its backslash.  In a text of several lines a backslash at the end of a
line removes the line end and all blanks and line ends after it. -/
def readEscape (multiline : Bool) : Reader (List Char) := fun s =>
  match s with
  | [] => .error ⟨.backslash, 0⟩
  | c :: rest =>
    if multiline && c = '\n' then .ok ([], rest.dropWhile isWideGap)
    else if multiline && isGap c then
      match skipGap rest with
      | [] => .ok ([], [])
      | '\n' :: rest => .ok ([], rest.dropWhile isWideGap)
      | rest => .error ⟨.backslash, rest.length⟩
    else if c = 'u' then readHexChar 4 rest
    else if c = 'U' then readHexChar 8 rest
    else
      match unescape? c with
      | some c => .ok ([c], rest)
      | none => .error ⟨.backslash, rest.length⟩

/-- Reads a text up to its closing quote or quotes; `steps` bounds the number of its parts. -/
def readBasicParts (multiline : Bool) : Nat → Reader (List Char)
  | 0, s => .error ⟨.openText, s.length⟩
  | steps + 1, s =>
    match s with
    | [] => .error ⟨.openText, 0⟩
    | '\\' :: rest => do
      let (part, rest) ← readEscape multiline rest
      let (more, rest) ← readBasicParts multiline steps rest
      .ok (part ++ more, rest)
    | c :: rest => do
      if c = '"' && !multiline then return ([], rest)
      if "\"\"\"".toList.isPrefixOf s then return ([], s.drop 3)
      if c ≠ '"' && isRefused multiline c then
        throw ⟨.illegalCharacter c, s.length⟩
      let (more, rest) ← readBasicParts multiline steps rest
      return (c :: more, rest)

/-- Reads a text with escapes up to its closing quote or quotes. -/
def readBasic (multiline : Bool) : Reader (List Char) := fun s =>
  readBasicParts multiline (s.length + 1) s

/-- Adds up to two quotes that follow the closing ones of a text of several lines. -/
def readExtraQuotes (quote : Char) (body s : List Char) : List Char × List Char :=
  match s with
  | a :: b :: rest =>
    if a = quote && b = quote then (body ++ [quote, quote], rest)
    else if a = quote then (body ++ [quote], b :: rest)
    else (body, s)
  | [a] => if a = quote then (body ++ [quote], []) else (body, s)
  | [] => (body, [])

/-- The text of several lines after its opening quotes; a line feed right behind them is dropped. -/
def dropFirstLineFeed (s : List Char) : List Char :=
  match s with
  | '\n' :: rest => rest
  | _ => s

/-- Reads a text of any sort, if one stands at the front. -/
def readText? (s : List Char) : Option (Except Stop (List Char × List Char)) :=
  if "\"\"\"".toList.isPrefixOf s then
    some do
      let (body, rest) ← readBasic true (dropFirstLineFeed (s.drop 3))
      .ok (readExtraQuotes '"' body rest)
  else if "'''".toList.isPrefixOf s then
    some do
      let (body, rest) ← readLiteral true "'''" (dropFirstLineFeed (s.drop 3))
      .ok (readExtraQuotes '\'' body rest)
  else
    match s with
    | '"' :: rest => some (readBasic false rest)
    | '\'' :: rest => some (readLiteral false "'" rest)
    | _ => none

end Toml

end CodeMetrics

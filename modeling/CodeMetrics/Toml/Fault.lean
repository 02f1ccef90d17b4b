import CodeMetrics.Value.Display

/-!
# Faults of a TOML document

A fault names what is wrong and where: the line and the column, or the end of the document.
-/

namespace CodeMetrics

namespace Toml

/-- A dotted key, part by part. -/
abbrev Key := List String

/-- What is wrong with a document. -/
inductive Complaint where
  | declaredTwice (key : Key)
  | immutable (key : Key)
  | redefined (key : Key)
  | overwritten
  | repeatedKey (part : String)
  | openArray
  | openTable
  | tableHeaderEnd
  | arrayHeaderEnd
  | equalsSign
  | keyStart
  | statement
  | lineEnd
  | value
  | moment
  | openText
  | illegalCharacter (c : Char)
  | invalidCharacter (c : Char)
  | missing (delimiter : String)
  | backslash
  | hexValue
  | scalarValue
  | longNumber (digits : Nat)
deriving DecidableEq

/-- A complaint and how many characters of the document remain from its place on. -/
structure Stop where
  complaint : Complaint
  remaining : Nat

/-- A complaint with the text before its place, and whether that is the whole document. -/
structure Fault where
  complaint : Complaint
  before : List Char
  atEnd : Bool

/-- The text of a number that is too long to be read. -/
def longNumberText (digits : Nat) : String :=
  "Exceeds the limit (4300 digits) for integer string conversion: value has " ++ toString digits ++
    " digits; use sys.set_int_max_str_digits() to increase the limit"

/-- A key in messages. -/
def keyText (key : Key) : String := (Value.tuple (key.map .text)).literal

/-- A text in messages. -/
def quotedText (s : String) : String := (Value.text s).literal

namespace Complaint

/-- The complaint in words. -/
def reason : Complaint → String
  | declaredTwice key => "Cannot declare " ++ keyText key ++ " twice"
  | immutable key => "Cannot mutate immutable namespace " ++ keyText key
  | redefined key => "Cannot redefine namespace " ++ keyText key
  | overwritten => "Cannot overwrite a value"
  | repeatedKey part => "Duplicate inline table key " ++ quotedText part
  | openArray => "Unclosed array"
  | openTable => "Unclosed inline table"
  | tableHeaderEnd => "Expected ']' at the end of a table declaration"
  | arrayHeaderEnd => "Expected ']]' at the end of an array declaration"
  | equalsSign => "Expected '=' after a key in a key/value pair"
  | keyStart => "Invalid initial character for a key part"
  | statement => "Invalid statement"
  | lineEnd => "Expected newline or end of document after a statement"
  | value => "Invalid value"
  | moment => "Invalid date or datetime"
  | openText => "Unterminated string"
  | illegalCharacter c => "Illegal character " ++ quotedText (String.singleton c)
  | invalidCharacter c => "Found invalid character " ++ quotedText (String.singleton c)
  | missing delimiter => "Expected " ++ quotedText delimiter
  | backslash => "Unescaped '\\' in a string"
  | hexValue => "Invalid hex value"
  | scalarValue => "Escaped character is not a Unicode scalar value"
  | longNumber digits => longNumberText digits

end Complaint

namespace Fault

/-- The place of a fault in words. -/
def place (f : Fault) : String :=
  if f.atEnd then "end of document"
  else
    "line " ++ toString (f.before.count '\n' + 1) ++ ", column " ++
      toString ((f.before.reverse.takeWhile (· ≠ '\n')).length + 1)

/-- The fault in words.  A number that is too long has no place. -/
def message (f : Fault) : String :=
  match f.complaint with
  | .longNumber digits => longNumberText digits
  | c => c.reason ++ " (at " ++ f.place ++ ")"

end Fault

end Toml

end CodeMetrics

import CodeMetrics.Binary64.Decimal
import CodeMetrics.Text.Quoted
import CodeMetrics.Value.Basic

/-!
# Values as text

`display` is a value's plain text; inside a container each item takes its literal form, in which a
text is quoted.
-/

namespace CodeMetrics

namespace Value

/-- A truth value's name. -/
def boolName (b : Bool) : String := if b then "True" else "False"

mutual

/-- The literal form of a value. -/
def literal : Value → String
  | null => "None"
  | bool b => boolName b
  | int n => toString n
  | float x => x.toShortest
  | text s => String.ofList (quoted s.toList)
  | list items => "[" ++ literals items ++ "]"
  | tuple [item] => "(" ++ literal item ++ ",)"
  | tuple items => "(" ++ literals items ++ ")"
  | set [] => "set()"
  | set items => "\x7b" ++ literals items ++ "\x7d"
  | dict entries => "\x7b" ++ entryLiterals entries ++ "\x7d"
  | bytes octets => String.ofList (quotedOctets octets)
  | moment m => m.literal
  | other kind _ => "<" ++ kind ++ ">"

/-- Literal forms with commas between them. -/
def literals : List Value → String
  | [] => ""
  | [v] => literal v
  | v :: rest => literal v ++ ", " ++ literals rest

/-- The literal forms of a dictionary's entries. -/
def entryLiterals : List (String × Value) → String
  | [] => ""
  | [(k, v)] => String.ofList (quoted k.toList) ++ ": " ++ literal v
  | (k, v) :: rest =>
    String.ofList (quoted k.toList) ++ ": " ++ literal v ++ ", " ++ entryLiterals rest

end

/-- The plain text of a value. -/
def display : Value → String
  | text s => s
  | moment m => m.display
  | v => literal v

end Value

end CodeMetrics

import CodeMetrics.Json.Escape
import CodeMetrics.Binary64.Decimal
import CodeMetrics.Value.Basic

/-!
# Writing JSON

One line of ASCII, with a blank after each comma and each colon.  Tuples are written as arrays.
Only some kinds of value have a written form, and whole numbers of more than 4300 digits have none;
`unwritable?` finds the first part of a value that cannot be written.
-/

namespace CodeMetrics

namespace Json

/-- Why a value has no written form. -/
inductive Unwritable where
  | kind
  | longNumber
deriving DecidableEq

mutual

/-- The first part of a value that has no written form. -/
def unwritable? : Value → Option Unwritable
  | .null => none
  | .bool _ => none
  | .int n => if n.natAbs < Value.unwritable then none else some .longNumber
  | .float _ => none
  | .text _ => none
  | .list items => unwritableOf? items
  | .tuple items => unwritableOf? items
  | .dict entries => unwritableIn? entries
  | .set _ => some .kind
  | .bytes _ => some .kind
  | .moment _ => some .kind
  | .other .. => some .kind

def unwritableOf? : List Value → Option Unwritable
  | [] => none
  | v :: rest => (unwritable? v).or (unwritableOf? rest)

def unwritableIn? : List (String × Value) → Option Unwritable
  | [] => none
  | (_, v) :: rest => (unwritable? v).or (unwritableIn? rest)

end

/-- A floating-point number. -/
def floatText : Binary64 → String
  | .nan => "NaN"
  | .inf s => Binary64.signText s ++ "Infinity"
  | x => x.toShortest

mutual

/-- The written form of a value; a part that has none is left out. -/
def text : Value → List Char
  | .null => "null".toList
  | .bool b => (if b then "true" else "false").toList
  | .int n => (toString n).toList
  | .float x => (floatText x).toList
  | .text s => quote s.toList
  | .list items => '[' :: itemsText items ++ [']']
  | .tuple items => '[' :: itemsText items ++ [']']
  | .dict entries => '\x7b' :: entriesText entries ++ ['\x7d']
  | .set _ => []
  | .bytes _ => []
  | .moment _ => []
  | .other .. => []

def itemsText : List Value → List Char
  | [] => []
  | [v] => text v
  | v :: rest => text v ++ ',' :: ' ' :: itemsText rest

def entriesText : List (String × Value) → List Char
  | [] => []
  | [(k, v)] => quote k.toList ++ ':' :: ' ' :: text v
  | (k, v) :: rest => quote k.toList ++ ':' :: ' ' :: text v ++ ',' :: ' ' :: entriesText rest

end

/-- The written form of a value, if every part of it has one. -/
def write (v : Value) : Except Unwritable (List Char) :=
  match unwritable? v with
  | none => .ok (text v)
  | some u => .error u

end Json

end CodeMetrics

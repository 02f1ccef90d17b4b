import CodeMetrics.Settings.Basic
import CodeMetrics.Text.Blank
import CodeMetrics.Text.Case
import CodeMetrics.Text.Digit

/-!
# Settings in environment variables

A variable for each field gives its value as text.  A threshold is a whole number with blanks around
it, a sign, and single underscores between digits of any script.  A switch is one of a few words in
any case.
-/

namespace CodeMetrics

namespace Environment

/-- What a text is read as. -/
inductive Target where
  | switch
  | count
  | plain
deriving DecidableEq

/-- Why a text cannot be read. -/
inductive ReadFault where
  | noSwitch (s : String)
  | noNumber (s : String)
  | longNumber (digits : Nat)
deriving DecidableEq

/-- How many digits a number may have. -/
def digitLimit : Nat := 4300

/-- How many characters of a text without a number are shown. -/
def shownLength : Nat := 200

namespace ReadFault

/-- The fault in words. -/
def message : ReadFault → String
  | noSwitch s => "expected true/false, got '" ++ s ++ "'"
  | noNumber s =>
    "invalid literal for int() with base 10: " ++
      String.ofList ((Value.text s).literal.toList.take shownLength)
  | longNumber digits =>
    "Exceeds the limit (" ++ toString digitLimit ++
      " digits) for integer string conversion: value has " ++ toString digits ++
      " digits; use sys.set_int_max_str_digits() to increase the limit"

end ReadFault

/-! ## Switches -/

/-- The words that turn a switch on. -/
def onWords : List String := ["true", "1", "yes", "on"]

/-- The words that turn a switch off. -/
def offWords : List String := ["false", "0", "no", "off"]

/-- Reads a switch in any letter case.  No character outside ASCII is a capital of a letter of these
words. -/
def readSwitch (s : String) : Except ReadFault Bool :=
  let word := lowerAscii s
  if word ∈ onWords then .ok true
  else if word ∈ offWords then .ok false
  else .error (.noSwitch s)

/-! ## Whole numbers -/

/-- The character belongs to a run of digits. -/
def isRunChar (c : Char) : Bool := c = '_' || (digitValue? c).isSome

/-- Underscores stand one at a time, each before a digit; `needed` says that a digit must come
first. -/
def spacedFrom (needed : Bool) : List Char → Bool
  | [] => !needed
  | c :: rest => if c = '_' then !needed && spacedFrom true rest else spacedFrom false rest

/-- There are digits, and underscores stand one at a time between them. -/
def wellSpaced (run : List Char) : Bool := spacedFrom true run

/-- A sign, which says whether the number is negative, and the text after it. -/
def splitSign (s : List Char) : Bool × List Char :=
  match s with
  | '-' :: rest => (true, rest)
  | '+' :: rest => (false, rest)
  | _ => (false, s)

/-- Reads a whole number.  A run of too many digits is refused before what follows it is seen. -/
def readInt (s : String) : Except ReadFault Int :=
  let (negative, unsigned) := splitSign (s.toList.dropWhile isSpacing)
  let run := unsigned.takeWhile isRunChar
  let digits := run.filterMap digitValue?
  if !wellSpaced run then .error (.noNumber s)
  else if digitLimit < digits.length then .error (.longNumber digits.length)
  else if (unsigned.dropWhile isRunChar).all isSpacing then
    let n : Int := numberOfDigits 10 digits
    .ok (if negative then -n else n)
  else .error (.noNumber s)

/-! ## Variables -/

/-- Reads a text as what it is wanted for. -/
def readAs (target : Target) (s : String) : Except ReadFault Value :=
  match target with
  | .switch => Value.bool <$> readSwitch s
  | .count => Value.int <$> readInt s
  | .plain => .ok (.text s)

/-- The fields of the settings with what their texts are read as, in order. -/
def targets : List (String × Target) :=
  [(Settings.linesField, .count), (Settings.complexityField, .count),
    (Settings.onlyErrorsField, .switch), (Settings.machineOnlyField, .switch)]

/-- The variable of a field. -/
def variableName (field : String) : String := "METRICS_LITE_" ++ field.map Char.toUpper

/-- Reads the variables of some fields that are set, in order; the first that cannot be read is a
fault. -/
def readVariables (environment : String → Option String) :
    List (String × Target) → Except Fault (List (String × Value))
  | [] => .ok []
  | (field, target) :: rest =>
    match environment (variableName field) with
    | none => readVariables environment rest
    | some s =>
      match readAs target s with
      | .error f => .error (.setting (variableName field) (.text s) f.message)
      | .ok v => ((field, v) :: ·) <$> readVariables environment rest

/-- Reads the variables of all fields. -/
def read (environment : String → Option String) : Except Fault (List (String × Value)) :=
  readVariables environment targets

end Environment

end CodeMetrics

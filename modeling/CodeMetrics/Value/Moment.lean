/-!
# Dates and times

A settings file may hold a date, a time of day, or both together with an optional offset from
universal time.  `display` is the plain text of a moment and `literal` the form it takes inside a
container.
-/

namespace CodeMetrics

/-- A day of the calendar. -/
structure Date where
  year : Nat
  month : Nat
  day : Nat
deriving DecidableEq

/-- A time of day. -/
structure TimeOfDay where
  hour : Nat
  minute : Nat
  second : Nat
  microsecond : Nat
deriving DecidableEq

/-- A date, a time, or both with an offset in minutes. -/
inductive Moment where
  | date (d : Date)
  | time (t : TimeOfDay)
  | dateTime (d : Date) (t : TimeOfDay) (offset : Option Int)
deriving DecidableEq

/-- A number with at least `width` digits. -/
def padNat (width n : Nat) : String :=
  let digits := toString n
  String.ofList (List.replicate (width - digits.length) '0') ++ digits

namespace Date

/-- Year, month and day with hyphens. -/
def display (d : Date) : String :=
  padNat 4 d.year ++ "-" ++ padNat 2 d.month ++ "-" ++ padNat 2 d.day

/-- The days of a month. -/
def daysIn (year month : Nat) : Nat :=
  if month = 2 then if year % 4 = 0 ∧ (year % 100 ≠ 0 ∨ year % 400 = 0) then 29 else 28
  else if month ∈ [4, 6, 9, 11] then 30
  else 31

/-- The date exists in the calendar, which begins with the year 1. -/
def Valid (d : Date) : Prop :=
  1 ≤ d.year ∧ 1 ≤ d.month ∧ d.month ≤ 12 ∧ 1 ≤ d.day ∧ d.day ≤ daysIn d.year d.month

instance (d : Date) : Decidable d.Valid :=
  inferInstanceAs (Decidable (_ ∧ _))

end Date

namespace TimeOfDay

/-- Hours, minutes and seconds with colons, and the microseconds unless there are none. -/
def display (t : TimeOfDay) : String :=
  padNat 2 t.hour ++ ":" ++ padNat 2 t.minute ++ ":" ++ padNat 2 t.second ++
    if t.microsecond = 0 then "" else "." ++ padNat 6 t.microsecond

/-- Hours and minutes, and then no more than is needed to reach the last part that is not zero. -/
def fields (t : TimeOfDay) : List Nat :=
  [t.hour, t.minute] ++
    if t.microsecond ≠ 0 then [t.second, t.microsecond]
    else if t.second ≠ 0 then [t.second]
    else []

end TimeOfDay

namespace Moment

/-- An offset as hours and minutes with a sign. -/
def offsetText (minutes : Int) : String :=
  (if minutes < 0 then "-" else "+") ++ padNat 2 (minutes.natAbs / 60) ++ ":" ++
    padNat 2 (minutes.natAbs % 60)

/-- The literal of an offset; a negative one is written as a day less and the seconds after it. -/
def offsetLiteral (minutes : Int) : String :=
  if minutes = 0 then "datetime.timezone.utc"
  else if minutes < 0 then
    "datetime.timezone(datetime.timedelta(days=-1, seconds=" ++ toString (86400 + minutes * 60) ++
      "))"
  else "datetime.timezone(datetime.timedelta(seconds=" ++ toString (minutes * 60) ++ "))"

/-- The plain text of a moment. -/
def display : Moment → String
  | date d => d.display
  | time t => t.display
  | dateTime d t offset =>
    d.display ++ " " ++ t.display ++
      match offset with
      | some minutes => offsetText minutes
      | none => ""

/-- Numbers with commas between them. -/
def commaSeparated (ns : List Nat) : String := ", ".intercalate (ns.map toString)

/-- The form of a moment inside a container. -/
def literal : Moment → String
  | date d => "datetime.date(" ++ commaSeparated [d.year, d.month, d.day] ++ ")"
  | time t => "datetime.time(" ++ commaSeparated t.fields ++ ")"
  | dateTime d t offset =>
    "datetime.datetime(" ++ commaSeparated ([d.year, d.month, d.day] ++ t.fields) ++
      (match offset with
        | some minutes => ", tzinfo=" ++ offsetLiteral minutes
        | none => "") ++ ")"

/-- The name of the kind of moment. -/
def kindName : Moment → String
  | date _ => "date"
  | time _ => "time"
  | dateTime .. => "datetime"

end Moment

end CodeMetrics

import CodeMetrics.Value.Order

/-!
# Records

A record holds what was measured in one file: its length, the packages it declares, its subroutines
and the length of its main code, which is the code outside of them.  Measurements arrive from
elsewhere and may be any value.
-/

namespace CodeMetrics

/-- The measurements of a named subroutine. -/
structure Subroutine where
  name : Value
  path : Value
  lineNumber : Value
  lines : Value
  complexity : Value

/-- The measurements of the code of a file outside any named subroutine. -/
structure MainCode where
  lines : Value
  path : Value
  name : Value

/-- The measurements of one file.  Packages keep their order and may be repeated. -/
structure FileRecord where
  path : Value
  lines : Value
  packages : List Value
  subs : List Subroutine
  main : MainCode

namespace Subroutine

/-- The subroutine as a dictionary. -/
def toValue (s : Subroutine) : Value :=
  .dict [("name", s.name), ("path", s.path), ("line_number", s.lineNumber), ("lines", s.lines),
    ("mccabe_complexity", s.complexity)]

/-- All fields are equal. -/
def same (nanAgrees : Bool) (s t : Subroutine) : Bool :=
  Value.sameAll nanAgrees [s.name, s.path, s.lineNumber, s.lines, s.complexity]
    [t.name, t.path, t.lineNumber, t.lines, t.complexity]

end Subroutine

namespace MainCode

/-- The name that main code goes by. -/
def standardName : String := "\x7bcode not in named subroutines\x7d"

/-- Main code of some length that belongs to no file. -/
def ofLines (lines : Value) : MainCode := ⟨lines, .text "", .text standardName⟩

/-- The main code as a dictionary. -/
def toValue (m : MainCode) : Value :=
  .dict [("lines", m.lines), ("path", m.path), ("name", m.name)]

/-- All fields are equal. -/
def same (nanAgrees : Bool) (m n : MainCode) : Bool :=
  Value.sameAll nanAgrees [m.lines, m.path, m.name] [n.lines, n.path, n.name]

end MainCode

/-- Lists of the same length whose members agree one by one. -/
def sameLists {α : Type} (same : α → α → Bool) : List α → List α → Bool
  | [], [] => true
  | a :: as, b :: bs => same a b && sameLists same as bs
  | _, _ => false

namespace FileRecord

/-- How many subroutines the file declares. -/
def subCount (r : FileRecord) : Nat := r.subs.length

/-- How many packages the file declares, repeated ones counted each time. -/
def packageCount (r : FileRecord) : Nat := r.packages.length

/-- The record as a dictionary. -/
def toValue (r : FileRecord) : Value :=
  .dict [("path", r.path), ("lines", r.lines), ("packages", .list r.packages),
    ("subs", .list (r.subs.map Subroutine.toValue)), ("main_stats", r.main.toValue)]

/-- All fields are equal. -/
def same (nanAgrees : Bool) (r s : FileRecord) : Bool :=
  Value.sameAll nanAgrees [r.path, r.lines] [s.path, s.lines] &&
    Value.sameAll nanAgrees r.packages s.packages &&
    sameLists (Subroutine.same nanAgrees) r.subs s.subs && r.main.same nanAgrees s.main

end FileRecord

end CodeMetrics

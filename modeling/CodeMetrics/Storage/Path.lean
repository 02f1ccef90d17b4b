import CodeMetrics.Text.Lines

/-!
# Paths

A path is a list of steps.  Empty steps and steps to the same place are left out where a path is
shown; steps upwards are kept there, and are only taken back to the step before them where the path
of a journal file is fixed.
-/

namespace CodeMetrics

namespace Path

/-- The names in a path, without those that lead nowhere. -/
def names (path : String) : List String :=
  ((splitWhere (· = '/') path.toList).map String.ofList).filter fun s => s ≠ "" ∧ s ≠ "."

/-- The slashes in front of a path that begins at the root of all files. -/
def root (path : String) : String :=
  match path.toList with
  | '/' :: '/' :: c :: _ => if c = '/' then "/" else "//"
  | ['/', '/'] => "//"
  | '/' :: _ => "/"
  | _ => ""

/-- The step to the root of all files. -/
def rootStep : String := "/"

/-- The steps of a path, the first of them to the root if the path begins there. -/
def steps (path : String) : List String :=
  if root path = "" then names path else rootStep :: names path

/-- The path in its shortest form with the same steps. -/
def tidy (path : String) : String :=
  let text := root path ++ "/".intercalate (names path)
  if text = "" then "." else text

/-- The step upwards. -/
def upStep : String := ".."

/-- The step leads to the root of all files or upwards. -/
def isOutward (step : String) : Bool := step = rootStep || step = upStep

/-- The place above one whose steps are given in reverse order; the root is its own. -/
def upwards : List String → List String
  | [] => [upStep]
  | last :: before =>
    if last = rootStep then [rootStep]
    else if last = upStep then upStep :: last :: before
    else before

/-- The place that steps lead to from the place `place`, in reverse order. -/
def follow (place : List String) : List String → List String
  | [] => place
  | step :: rest => follow (if step = upStep then upwards place else step :: place) rest

/-- The steps of a path with each step upwards taken back. -/
def directSteps (path : String) : List String := (follow [] (steps path)).reverse

end Path

end CodeMetrics

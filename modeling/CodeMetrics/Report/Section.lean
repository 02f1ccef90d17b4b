import CodeMetrics.Binary64.Basic
import CodeMetrics.Report.Run
import CodeMetrics.Settings.Basic
import CodeMetrics.Table.Plain

/-!
# The subroutine section

The section lists the subroutines of each file in a table and forwards the same subroutines to the
diagnostics document.  A subroutine passes when it stays below one of the two thresholds; passing
subroutines are left out if the settings ask for errors only.  A file without a listed subroutine
has no table.
-/

namespace CodeMetrics

/-- The value, which must be a number, lies below a threshold. -/
def belowThreshold (v : Value) (limit : Nat) : Except Breakdown Bool :=
  match v.number? with
  | some n => .ok (n.place.before (Number.int limit).place)
  | none => .error .wrongKind

/-- The subroutine stays below one of the thresholds.  Its complexity counts only when it is not
below the first. -/
def Settings.passes (c : Settings) (s : Subroutine) : Except Breakdown Bool := do
  if ← belowThreshold s.lines c.maxLines then .ok true
  else belowThreshold s.complexity c.maxComplexity

/-- The subroutine is left out of the report. -/
def Settings.leavesOut (c : Settings) (s : Subroutine) : Except Breakdown Bool :=
  if c.onlyErrors.truthy then c.passes s else .ok false

/-- The subroutines of a file that the report lists, with the findings after they were added, up to
the first that cannot be judged or recorded. -/
structure Selection where
  kept : List Subroutine
  findings : List Finding
  failure : Option Breakdown

/-- Selects the subroutines that the report lists and adds a finding for each. -/
def select (c : Settings) (findings : List Finding) : List Subroutine → Selection
  | [] => ⟨[], findings, none⟩
  | s :: rest =>
    match c.leavesOut s with
    | .error b => ⟨[], findings, some b⟩
    | .ok true => select c findings rest
    | .ok false =>
      match Finding.ofSub s with
      | .error b => ⟨[s], findings, some b⟩
      | .ok f =>
        let later := select c (findings ++ [f]) rest
        ⟨s :: later.kept, later.findings, later.failure⟩

/-! ## Text -/

/-- A heading inside a frame of equal signs. -/
def heading (title : String) : List String :=
  let rule := "#" ++ String.ofList (List.replicate 38 '=') ++ "#"
  [rule, "#" ++ title ++ "#", rule]

/-- The heading of the section. -/
def subHeading : List String := heading "         Subroutine Metrics           "

/-- The columns of a table of subroutines. -/
def subColumns : List Column :=
  [⟨"method", .left⟩, ⟨"loc", .right⟩, ⟨"line_number", .right⟩, ⟨"mccabe_complexity", .right⟩]

/-- The row of a subroutine. -/
def Subroutine.row (s : Subroutine) : List Value := [s.name, s.lines, s.lineNumber, s.complexity]

/-- A table of values, each of which must be short enough to be written. -/
def valueTable (columns : List Column) (rows : List (List Value)) :
    Except Breakdown (List String) :=
  if rows.all fun row => row.all Value.printable then
    .ok (Table.draw columns (rows.map fun row => row.map Value.display))
  else .error .badValue

/-- The lines that name a file above its table.  Line breaks in the path are kept. -/
def pathLines (path : Value) : List String :=
  (splitWhere (· = '\n') (dropSteering ("Path: " ++ path.display).toList)).map fun line =>
    String.ofList (expandTabs line)

/-- A step that prints lines unless the settings ask for the document alone. -/
def Settings.print (c : Settings) (findings : List Finding) (lines : List String) : Run :=
  if c.machineOnly.truthy then .idle findings else .write findings lines

/-- Prints the name of a file and its table, after a blank line. -/
def printBlock (c : Settings) (path : Value) (table : List String) (findings : List Finding) :
    Run :=
  if c.machineOnly.truthy then .idle findings
  else
    (Run.write findings [""]).andThen fun findings =>
      if path.printable then .write findings (pathLines path ++ table)
      else .fail findings .badValue

/-- Reports the subroutines of one file. -/
def reportFile (c : Settings) (path : Value) (subs : List Subroutine) (findings : List Finding) :
    Run :=
  let selection := select c findings subs
  match selection.failure with
  | some b => .fail selection.findings b
  | none =>
    if selection.kept.isEmpty then .idle selection.findings
    else
      let entry : LogEntry := ⟨.debug, sourceOf "formatters.text_formatter",
        "Forwarded " ++ toString selection.kept.length ++ " subroutine rows"⟩
      (Run.mk [] [entry] selection.findings none).andThen fun findings =>
        match valueTable subColumns (selection.kept.map Subroutine.row) with
        | .error b => .fail findings b
        | .ok table => printBlock c path table findings

/-- Reports the subroutines of files one after the other. -/
def reportFiles (c : Settings) : List (Value × List Subroutine) → List Finding → Run
  | [], findings => .idle findings
  | (path, subs) :: rest, findings =>
    (reportFile c path subs findings).andThen (reportFiles c rest)

/-- The subroutine section for some files under their paths. -/
def reportSection (c : Settings) (files : List (Value × List Subroutine))
    (findings : List Finding) : Run :=
  (c.print findings subHeading).andThen (reportFiles c files)

end CodeMetrics

import CodeMetrics.Command.Ending
import CodeMetrics.Corpus.Analysis
import CodeMetrics.Record.File
import CodeMetrics.Table.Heavy

/-!
# The summary on the terminal

The totals of a corpus in one line, and a table of the distribution of the subroutines' lengths and
complexities.
-/

namespace CodeMetrics

/-- The line of totals. -/
def totalsText (a : Analysis) : String :=
  "Files: " ++ toString a.fileCount ++ "   Lines: " ++ (Value.ofNumber a.lines).display ++
    "   Packages: " ++ toString a.packageCount ++ "   Subs: " ++ toString a.subCount ++
    "   Main lines: " ++ a.main.lines.display

/-- A number with two places. -/
def fixedText (v : Value) : Except Breakdown String :=
  match v.number? with
  | some (.int n) =>
    match Number.finite? n with
    | some x => .ok x.toFixed
    | none => .error .overflow
  | some (.float x) => .ok x.toFixed
  | none => .error .wrongKind

/-- A value of a metric, or a hyphen when there is none. -/
def valueText : Option Value → Except Breakdown String
  | none => .ok "-"
  | some v => fixedText v

/-- A statistic, or a hyphen when there is none. -/
def statisticText : Option Binary64 → String
  | none => "-"
  | some x => x.toFixed

/-- The row of a metric. -/
def summaryRow (label : String) (s : Summary) : Except Breakdown (List String) := do
  let least ← valueText s.min?
  let greatest ← valueText s.max?
  .ok [label, toString s.count, least, greatest, statisticText s.mean, statisticText s.median,
    statisticText s.deviation]

/-- The columns of the table. -/
def summaryColumns : List Column :=
  [⟨"Metric", .left⟩, ⟨"Count", .right⟩, ⟨"Min", .right⟩, ⟨"Max", .right⟩, ⟨"Mean", .right⟩,
    ⟨"Median", .right⟩, ⟨"Std Dev", .right⟩]

/-- The text of the table. -/
def summaryTable (a : Analysis) : Except Breakdown String := do
  let lengths ← summaryRow "Length" a.lengths
  let complexities ← summaryRow "Complexity" a.complexities
  let lines := Table.drawHeavy "Subroutine Statistics" terminalWidth summaryColumns
    [lengths, complexities]
  .ok (String.join (lines.map (· ++ "\n")))

/-- The summary of an analysis. -/
def printSummary (files : Files) (log : List LogEntry) (a : Analysis) : Ending :=
  if (Value.ofNumber a.mainLines).printable then
    let totals := unlines (wrap terminalWidth (totalsText a).toList)
    match summaryTable a with
    | .ok table => .success (totals ++ table) files log
    | .error b => .crashed totals files log (.breakdown b)
  else .crashed "" files log (.breakdown .badValue)

end CodeMetrics

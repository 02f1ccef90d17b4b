import CodeMetrics.Corpus.Analysis
import CodeMetrics.Report.Section

/-!
# The report

A report has a table of the files, a section with a table of subroutines for each file, and, as its
last line, the diagnostics document with a finding for each listed subroutine.  It begins with a new
document: findings from before are dropped.
-/

namespace CodeMetrics

/-- The heading of the table of files. -/
def fileHeading : List String := heading "           File Metrics               "

/-- The columns of the table of files. -/
def fileColumns : List Column :=
  [⟨"path", .left⟩, ⟨"loc", .right⟩, ⟨"subs", .right⟩, ⟨"packages", .right⟩]

/-- The row of a file. -/
def FileStat.row (s : FileStat) : List Value :=
  [s.path, s.main.lines, .int s.subCount, .int s.packageCount]

/-- Prints the table of files; there is none for no files. -/
def reportSummary (c : Settings) (stats : List FileStat) (findings : List Finding) : Run :=
  (c.print findings fileHeading).andThen fun findings =>
    if stats.isEmpty || c.machineOnly.truthy then .idle findings
    else
      match valueTable fileColumns (stats.map FileStat.row) with
      | .error b => .fail findings b
      | .ok table => .write findings table

/-- Begins a new document. -/
def beginDocument (findings : List Finding) : Run := ⟨[], Sarif.beginEntries findings, [], none⟩

/-- Writes the document. -/
def writeDocument (findings : List Finding) : Run :=
  match Sarif.line findings with
  | .ok line => .write findings [line]
  | .error b => .fail findings b

/-- Adds a finding about a subroutine. -/
def recordFinding (s : Subroutine) (findings : List Finding) : Run :=
  match Finding.ofSub s with
  | .ok f => .idle (findings ++ [f])
  | .error b => .fail findings b

/-- The whole report on an analysis. -/
def report (c : Settings) (a : Analysis) (findings : List Finding) : Run :=
  (beginDocument findings).andThen fun findings =>
    (reportSummary c a.fileStats findings).andThen fun findings =>
      (reportSection c a.subStats findings).andThen writeDocument

end CodeMetrics

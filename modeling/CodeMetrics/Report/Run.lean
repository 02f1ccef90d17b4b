import CodeMetrics.Breakdown
import CodeMetrics.Diagnostics.Sarif
import CodeMetrics.Journal.Entry

/-!
# Runs of a report

A step of a report writes lines, adds entries to the journal, and leaves behind the findings of the
diagnostics document.  It may break down, and then keeps what it did so far.
-/

namespace CodeMetrics

/-- What a step did, and how it ended. -/
structure Run where
  lines : List String
  log : List LogEntry
  findings : List Finding
  failure : Option Breakdown

namespace Run

/-- A step that does nothing. -/
def idle (findings : List Finding) : Run := ⟨[], [], findings, none⟩

/-- A step that only writes lines. -/
def write (findings : List Finding) (lines : List String) : Run := ⟨lines, [], findings, none⟩

/-- A step that breaks down at once. -/
def fail (findings : List Finding) (b : Breakdown) : Run := ⟨[], [], findings, some b⟩

/-- One step after the other; the second one is left out when the first breaks down. -/
def andThen (r : Run) (next : List Finding → Run) : Run :=
  match r.failure with
  | some _ => r
  | none =>
    let s := next r.findings
    ⟨r.lines ++ s.lines, r.log ++ s.log, s.findings, s.failure⟩

/-- The text of the lines that were written. -/
def text (r : Run) : String := String.join (r.lines.map (· ++ "\n"))

end Run

end CodeMetrics

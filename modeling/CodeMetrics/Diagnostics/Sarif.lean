import CodeMetrics.Breakdown
import CodeMetrics.Journal.Entry
import CodeMetrics.Json.Writer
import CodeMetrics.Record.Basic
import CodeMetrics.Value.Display

/-!
# The diagnostics document

A SARIF document with one run, one rule and a result for each finding, all of level `error`.  A
finding is what the document says about a subroutine that the report listed.  The document does not
look at thresholds.
-/

namespace CodeMetrics

/-- A result of the diagnostics document. -/
structure Finding where
  complexity : String
  name : String
  uri : String
  line : Value

/-- The version of the program. -/
def programVersion : String := "0.1.0"

/-- The name of the program. -/
def programName : String := "metrics-lite"

namespace Finding

/-- The finding about a subroutine, whose complexity, name and path must be short enough to be
written. -/
def ofSub (s : Subroutine) : Except Breakdown Finding :=
  if s.complexity.printable && s.name.printable && s.path.printable then
    .ok ⟨s.complexity.display, s.name.display, "file://" ++ s.path.display, s.lineNumber⟩
  else .error .badValue

/-- The rule that every finding refers to. -/
def rule : String := "cyclomatic-complexity"

/-- The level of every finding. -/
def level : String := "error"

/-- The text of every finding; its arguments stand under their numbers. -/
def messageTemplate : String :=
  "cyclomatic complexity '\x7b0\x7d' for method '\x7b1\x7d' is too high"

/-- The result for a finding. -/
def toValue (f : Finding) : Value :=
  .dict [("level", .text level), ("ruleIndex", .int 0), ("ruleId", .text rule),
    ("message", .dict [("text", .text messageTemplate),
      ("arguments", .list [.text f.complexity, .text f.name])]),
    ("locations", .list [.dict [("physicalLocation",
      .dict [("artifactLocation", .dict [("uri", .text f.uri)]),
        ("region", .dict [("startLine", f.line)])])]])]

end Finding

namespace Sarif

/-- The tool that a run describes. -/
def tool : Value :=
  .dict [("driver", .dict [("name", .text programName), ("version", .text programVersion),
    ("rules", .list [.dict [("id", .text Finding.rule),
      ("defaultConfiguration", .dict [("level", .text Finding.level)])]])])]

/-- The document that holds some findings. -/
def document (findings : List Finding) : Value :=
  .dict [("version", .text "2.1.0"),
    ("$schema", .text "http://json.schemastore.org/sarif-2.1.0-rtm.5"),
    ("runs", .list [.dict [("tool", tool), ("results", .list (findings.map Finding.toValue))]])]

/-- The document as one line of JSON. -/
def line (findings : List Finding) : Except Breakdown String :=
  match Json.write (document findings) with
  | .ok s => .ok (String.ofList s)
  | .error .kind => .error .wrongKind
  | .error .longNumber => .error .badValue

/-- A copy of the document, if there is one of all its parts. -/
def copy (findings : List Finding) : Except Breakdown Value :=
  let whole := document findings
  if whole.copiable then .ok whole else .error .wrongKind

/-- The entry of the journal when a new document is begun: findings that were not reported are
lost, and nothing is said when there are none. -/
def beginEntries (findings : List Finding) : List LogEntry :=
  if findings.isEmpty then []
  else [⟨.warning, sourceOf "formatters.sarif_formatter",
    "Diagnostics document re-initialized; discarding " ++ toString findings.length ++ " results"⟩]

end Sarif

end CodeMetrics

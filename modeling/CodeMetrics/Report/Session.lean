import CodeMetrics.Record.Build
import CodeMetrics.Record.Reader
import CodeMetrics.Report.Basic
import CodeMetrics.Report.Mapping

/-!
# Sessions

A session uses one report step by step: whole reports, single sections, and the diagnostics document
on its own.  The findings go from step to step, also from a step that failed.  Records and
subroutines are given as values and are read first; if that fails, the report is not reached.
-/

namespace CodeMetrics

/-- A step of a session. -/
inductive Step where
  | report (records : Value)
  | fileSummary (records : Value)
  | subSection (pairs : List (Value × List Value)) (asMapping : Bool)
  | isOk (sub : Value)
  | beginDocument
  | record (sub : Value)
  | writeDocument
  | serialize

/-- What a step did: what it wrote and logged, the findings after it, a value that it gave, and the
failure it ended with. -/
structure Outcome where
  lines : List String
  log : List LogEntry
  findings : List Finding
  answer : Option Value
  failure : Option Failure

namespace Outcome

/-- A step that failed before it did anything. -/
def failed (findings : List Finding) (f : Failure) : Outcome := ⟨[], [], findings, none, some f⟩

/-- A step that only gives a value. -/
def answered (findings : List Finding) (v : Value) : Outcome := ⟨[], [], findings, some v, none⟩

/-- The outcome of a run with entries of the journal from before. -/
def ofRun (log : List LogEntry) (r : Run) : Outcome :=
  ⟨r.lines, log ++ r.log, r.findings, none, r.failure.map .breakdown⟩

/-- The text that was written. -/
def text (o : Outcome) : String := String.join (o.lines.map (· ++ "\n"))

end Outcome

/-- The subroutine whose fields a value gives. -/
def buildSub : Value → Except Breakdown Subroutine
  | .dict fields => Subroutine.build fields
  | _ => .error .wrongKind

/-- The files whose subroutines are given as values, one after the other or as a mapping. -/
def filesOf (pairs : List (Value × List Value)) (asMapping : Bool) :
    Except Breakdown (List (Value × List Subroutine)) := do
  let files ← pairs.mapM fun (path, subs) => do .ok (path, ← subs.mapM buildSub)
  if asMapping then mappingOf files else .ok files

namespace Settings

/-- Reads and analyses records, and goes on with the analysis. -/
def onRecords (records : Value) (findings : List Finding) (next : Analysis → Run) : Outcome :=
  match readRecords records with
  | .error f => .failed findings (.fault f)
  | .ok rs =>
    match analyze rs with
    | .error b => ⟨[], [recordsRead rs], findings, none, some (.breakdown b)⟩
    | .ok a => .ofRun [recordsRead rs, a.entry] (next a)

/-- The section of files whose subroutines are given as values. -/
def onPairs (c : Settings) (pairs : List (Value × List Value)) (asMapping : Bool)
    (findings : List Finding) : Outcome :=
  match filesOf pairs asMapping with
  | .error b => .failed findings (.breakdown b)
  | .ok files => .ofRun [] (reportSection c files findings)

/-- Performs a step. -/
def perform (c : Settings) (step : Step) (findings : List Finding) : Outcome :=
  match step with
  | .report records => onRecords records findings fun a => CodeMetrics.report c a findings
  | .fileSummary records =>
    onRecords records findings fun a => reportSummary c a.fileStats findings
  | .subSection pairs asMapping => c.onPairs pairs asMapping findings
  | .isOk sub =>
    match buildSub sub >>= c.passes with
    | .error b => .failed findings (.breakdown b)
    | .ok ok => .answered findings (.bool ok)
  | .beginDocument => .ofRun [] (CodeMetrics.beginDocument findings)
  | .record sub =>
    match buildSub sub with
    | .error b => .failed findings (.breakdown b)
    | .ok s => .ofRun [] (recordFinding s findings)
  | .writeDocument => .ofRun [] (CodeMetrics.writeDocument findings)
  | .serialize =>
    match Sarif.copy findings with
    | .error b => .failed findings (.breakdown b)
    | .ok v => .answered findings v

/-- Performs steps one after the other, the first on the given findings. -/
def performAll (c : Settings) (findings : List Finding) : List Step → List Outcome
  | [] => []
  | step :: rest =>
    let o := c.perform step findings
    o :: c.performAll o.findings rest

end Settings

end CodeMetrics

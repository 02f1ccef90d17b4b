import CodeMetrics.Fault
import CodeMetrics.Journal.Entry
import CodeMetrics.Record.Basic
import CodeMetrics.Statistics.Summary

/-!
# The analysis of a corpus

A corpus is a list of records.  Its analysis holds what the records hold, flattened but neither
sorted nor freed of repetitions, with the totals of the lines and of the lines of main code, and the
distribution of the subroutines' lengths and complexities.  The complexity of main code is not
aggregated.
-/

namespace CodeMetrics

/-- What the analysis says about one file. -/
structure FileStat where
  path : Value
  main : MainCode
  subCount : Nat
  packageCount : Nat

namespace FileStat

/-- The statistics of a record's file. -/
def ofRecord (r : FileRecord) : FileStat := ⟨r.path, r.main, r.subCount, r.packageCount⟩

/-- All fields are equal. -/
def same (s t : FileStat) : Bool :=
  Value.same false s.path t.path && s.main.same false t.main && s.subCount == t.subCount &&
    s.packageCount == t.packageCount

end FileStat

/-- The analysis of a corpus. -/
structure Analysis where
  data : List FileRecord
  files : List Value
  lines : Number
  packages : List Value
  subs : List Subroutine
  mainLines : Number
  fileStats : List FileStat
  lengths : Summary
  complexities : Summary

namespace Analysis

/-- How many files were analysed. -/
def fileCount (a : Analysis) : Nat := a.files.length

/-- How many packages the files declare, repeated ones counted each time. -/
def packageCount (a : Analysis) : Nat := a.packages.length

/-- How many subroutines the files declare. -/
def subCount (a : Analysis) : Nat := a.subs.length

/-- The main code of the whole corpus. -/
def main (a : Analysis) : MainCode := .ofLines (.ofNumber a.mainLines)

/-- The subroutines of each file under the file's path. -/
def subStats (a : Analysis) : List (Value × List Subroutine) := a.data.map fun r => (r.path, r.subs)

/-- The entry of the journal about an analysis. -/
def entry (a : Analysis) : LogEntry :=
  ⟨.debug, sourceOf "analysis.engine",
    "Analyzed " ++ toString a.fileCount ++ " files, " ++ toString a.subCount ++ " subroutines, " ++
      (Value.ofNumber a.lines).display ++ " lines"⟩

/-- The numbers are equal. -/
def sameNumbers (m n : Number) : Bool := m.place.same n.place

/-- The analyses agree in every field. -/
def same (a b : Analysis) : Bool :=
  sameLists (FileRecord.same false) a.data b.data && Value.sameAll false a.files b.files &&
    sameNumbers a.lines b.lines && Value.sameAll false a.packages b.packages &&
    sameLists (Subroutine.same false) a.subs b.subs && sameNumbers a.mainLines b.mainLines &&
    sameLists FileStat.same a.fileStats b.fileStats && a.lengths.same b.lengths &&
    a.complexities.same b.complexities

end Analysis

/-- A sum with a value, which must be a number. -/
def addValue (sum : Number) (v : Value) : Except Breakdown Number :=
  match v.number? with
  | none => .error .wrongKind
  | some n => Series.orOverflow (sum.add? n)

/-- The total of the lines and that of the lines of main code, formed record by record. -/
def totals (rs : List FileRecord) : Except Breakdown (Number × Number) :=
  rs.foldlM (fun (lines, mainLines) r => do
    let lines ← addValue lines r.lines
    let mainLines ← addValue mainLines r.main.lines
    .ok (lines, mainLines)) (.int 0, .int 0)

/-- Analyses a corpus.  The total of the lines must be short enough to be written. -/
def analyze (rs : List FileRecord) : Except Breakdown Analysis := do
  let (lines, mainLines) ← totals rs
  let subs := rs.flatMap FileRecord.subs
  let lengths ← summarize (subs.map Subroutine.lines)
  let complexities ← summarize (subs.map Subroutine.complexity)
  if (Value.ofNumber lines).printable then
    .ok ⟨rs, rs.map FileRecord.path, lines, rs.flatMap FileRecord.packages, subs, mainLines,
      rs.map FileStat.ofRecord, lengths, complexities⟩
  else .error .badValue

/-- Analyses a value as it is.  It must be an ordered sequence, and nothing but records can be
analysed, which no value is. -/
def analyzeValue (v : Value) : Except Failure Analysis :=
  if v.isSequence then
    match v with
    | .list (_ :: _) => .error (.breakdown .noAttribute)
    | .tuple (_ :: _) => .error (.breakdown .noAttribute)
    | _ => (analyze []).mapError .breakdown
  else .error (.fault (.input "did not supply an ordered sequence of file records" v .null))

end CodeMetrics

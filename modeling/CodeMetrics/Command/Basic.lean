import CodeMetrics.Command.Request
import CodeMetrics.Command.Summary
import CodeMetrics.Report.Basic
import CodeMetrics.Settings.Load

/-!
# Running the program

A run reads the arguments, sets the journal up, and then reports on a file of records or summarises
it.  A report first loads its settings, then the records.  Faults of the settings and the records
are reported on the terminal; everything else that goes wrong kills the run.
-/

namespace CodeMetrics

/-- What a run finds around it: files, the directory it runs in, and the environment. -/
structure Surroundings where
  files : Files
  directory : String
  environment : String → Option String

namespace Command

/-- The end of a run with a failure. -/
def fail (files : Files) (log : List LogEntry) : Failure → Ending
  | .fault f => .failed files log f.text
  | .breakdown b => .crashed "" files log (.breakdown b)

/-- Reads and analyses the records under a path, and goes on with the analysis and the entries of
the journal so far. -/
def onRecords (files : Files) (path : String) (next : List LogEntry → Analysis → Ending) : Ending :=
  let path := Path.tidy path
  match loadRecords path (files.look path) with
  | .error f => fail files [] f
  | .ok rs =>
    match analyze rs with
    | .error b => fail files [recordsRead rs] (.breakdown b)
    | .ok a => next [recordsRead rs, a.entry] a

/-- The settings that a request gives directly. -/
def givenSettings (r : ReportRequest) : List (String × Value) :=
  let count (n? : Option Nat) : Value := (n?.map fun n => Value.int n).getD .null
  let switch (b? : Option Bool) : Value := (b?.map Value.bool).getD .null
  [(Settings.linesField, count r.maxLines), (Settings.complexityField, count r.maxComplexity),
    (Settings.onlyErrorsField, switch r.onlyErrors),
    (Settings.machineOnlyField, switch r.machineOnly)]

/-- The sources of the settings of a request. -/
def sources (s : Surroundings) (files : Files) (r : ReportRequest) : Settings.Sources where
  directory := s.directory
  project := files.look Settings.projectFile
  named := r.config.map fun path => (Path.tidy path, files.look (Path.tidy path))
  environment := s.environment
  given := givenSettings r

/-- The entry of the journal about a report. -/
def reportEntry (c : Settings) (a : Analysis) : LogEntry :=
  ⟨.debug, rootSource,
    "Reporting on " ++ toString a.fileCount ++ " files with " ++ c.display⟩

/-- Reports on an analysis. -/
def printReport (c : Settings) (files : Files) (log : List LogEntry) (a : Analysis) : Ending :=
  if c.printable then
    let r := report c a []
    let log := log ++ reportEntry c a :: r.log
    match r.failure with
    | none => .success r.text files log
    | some b => .crashed r.text files log (.breakdown b)
  else .crashed "" files log (.breakdown .badValue)

/-- Runs a report, with entries of the journal that are not yet written. -/
def loadAndReport (s : Surroundings) (files : Files) (r : ReportRequest) : Ending :=
  match Settings.load (sources s files r) with
  | .error f => fail files [] f
  | .ok c => onRecords files r.records (printReport c files)

/-- Adds the entries of a run to the files of a journal, and keeps those that the journal takes. -/
def writeLog (stamp : String) (j : Journal) (e : Ending) : Ending :=
  { e with files := j.addAll stamp e.files e.log, log := e.log.filter j.takes }

/-- Sets the journal up and runs a report. -/
def runReport (stamp : String) (s : Surroundings) (r : ReportRequest) : Ending :=
  let path := (r.logFile.map Path.tidy).getD ""
  match Journal.setup r.verbose r.quiet path s.files with
  | .error f => .crashed "" s.files [] (.journal f)
  | .ok (j, files) => writeLog stamp j (loadAndReport s files r)

/-- Sets the journal up without a file and runs a summary. -/
def runSummary (stamp : String) (files : Files) (r : SummaryRequest) : Ending :=
  match Journal.setup r.verbose false "" files with
  | .error f => .crashed "" files [] (.journal f)
  | .ok (j, files) => writeLog stamp j (onRecords files r.records (printSummary files))

/-- Runs what is asked for. -/
def runRequest (stamp : String) (s : Surroundings) : Request → Ending
  | .version => .success (programName ++ " " ++ programVersion ++ "\n") s.files []
  | .report a records =>
    match Request.checkReport s.files.look a records with
    | .error _ => .misuse s.files
    | .ok r => runReport stamp s r
  | .summary r =>
    match Request.requireFile s.files.look r.records with
    | .error _ => .misuse s.files
    | .ok () => runSummary stamp s.files r

/-- Runs the program with some arguments. -/
def run (stamp : String) (s : Surroundings) (args : List String) : Ending :=
  match Request.read args with
  | .error _ => .misuse s.files
  | .ok r => runRequest stamp s r

end Command

end CodeMetrics

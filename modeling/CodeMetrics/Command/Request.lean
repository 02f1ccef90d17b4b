import CodeMetrics.Command.Options
import CodeMetrics.Settings.Environment
import CodeMetrics.Storage.Node

/-!
# Requests

What the arguments of the program ask for: its version, a report on a file of records, or a summary
of one.  A request must name files that are there, and thresholds that are whole numbers from zero
on.
-/

namespace CodeMetrics

/-- The arguments of a report, as they were given. -/
structure ReportArguments where
  maxLines : Option String
  maxComplexity : Option String
  onlyErrors : Option Bool
  machineOnly : Option Bool
  config : Option String
  verbose : Bool
  quiet : Bool
  logFile : Option String
deriving DecidableEq

/-- A report on a file of records.  Thresholds and switches that are not given are absent. -/
structure ReportRequest where
  records : String
  maxLines : Option Nat
  maxComplexity : Option Nat
  onlyErrors : Option Bool
  machineOnly : Option Bool
  config : Option String
  verbose : Bool
  quiet : Bool
  logFile : Option String

/-- A summary of a file of records. -/
structure SummaryRequest where
  records : String
  verbose : Bool
deriving DecidableEq

/-- What the program is asked for. -/
inductive Request where
  | version
  | report (arguments : ReportArguments) (records : String)
  | summary (request : SummaryRequest)
deriving DecidableEq

namespace Request

/-- The options of a report. -/
def reportOptions : OptionNames ReportArguments := fun name =>
  if name = "--max-sub-lines" then some (.valued fun v a => { a with maxLines := some v })
  else if name = "--max-sub-complexity" then
    some (.valued fun v a => { a with maxComplexity := some v })
  else if name = "--show-only-errors" then some (.flag fun a => { a with onlyErrors := some true })
  else if name = "--show-all" then some (.flag fun a => { a with onlyErrors := some false })
  else if name = "--only-json" then some (.flag fun a => { a with machineOnly := some true })
  else if name = "--with-tables" then some (.flag fun a => { a with machineOnly := some false })
  else if name = "--config" ∨ name = "-c" then some (.valued fun v a => { a with config := some v })
  else if name = "--verbose" ∨ name = "-v" then some (.flag fun a => { a with verbose := true })
  else if name = "--quiet" ∨ name = "-q" then some (.flag fun a => { a with quiet := true })
  else if name = "--log-file" then some (.valued fun v a => { a with logFile := some v })
  else none

/-- The options of a summary, of which there is one. -/
def summaryOptions : OptionNames Bool := fun name =>
  if name = "--verbose" ∨ name = "-v" then some (.flag fun _ => true) else none

/-- The options before the name of a command: whether the version is asked for. -/
def programOptions : OptionNames Bool := fun name =>
  if name = "--version" then some (.flag fun _ => true) else none

/-- Reads the arguments of a report. -/
def readReport (args : List String) : Except Misuse Request := do
  let nothing : ReportArguments := ⟨none, none, none, none, none, false, false, none⟩
  match ← CommandOption.readAll reportOptions true nothing args with
  | (arguments, [records]) => .ok (.report arguments records)
  | _ => .error .misuse

/-- Reads the arguments of a summary. -/
def readSummary (args : List String) : Except Misuse Request := do
  match ← CommandOption.readAll summaryOptions true false args with
  | (verbose, [records]) => .ok (.summary ⟨records, verbose⟩)
  | _ => .error .misuse

/-- Reads the arguments of the program. -/
def read (args : List String) : Except Misuse Request := do
  match ← CommandOption.readAll programOptions false false args with
  | (true, _) => .ok .version
  | (false, "report" :: args) => readReport args
  | (false, "summary" :: args) => readSummary args
  | _ => .error .misuse

/-- A threshold from the command line. -/
def threshold (s? : Option String) : Except Misuse (Option Nat) :=
  match s? with
  | none => .ok none
  | some s =>
    match Environment.readInt s with
    | .ok n => if n < 0 then .error .misuse else .ok (some n.toNat)
    | .error _ => .error .misuse

/-- A file that must be there. -/
def requireFile (look : String → Node) (path : String) : Except Misuse Unit :=
  if (look path).isFile then .ok () else .error .misuse

/-- A path that must not lead to a directory. -/
def refuseDirectory (look : String → Node) (path : String) : Except Misuse Unit :=
  if look path = .directory then .error .misuse else .ok ()

/-- Checks the arguments of a report. -/
def checkReport (look : String → Node) (a : ReportArguments) (records : String) :
    Except Misuse ReportRequest := do
  requireFile look records
  let maxLines ← threshold a.maxLines
  let maxComplexity ← threshold a.maxComplexity
  if let some path := a.config then requireFile look path
  if let some path := a.logFile then refuseDirectory look path
  .ok ⟨records, maxLines, maxComplexity, a.onlyErrors, a.machineOnly, a.config, a.verbose, a.quiet,
    a.logFile⟩

/-- The paths that a request names. -/
def paths : Request → List String
  | version => []
  | report a records => records :: a.config.toList ++ a.logFile.toList
  | summary r => [r.records]

end Request

end CodeMetrics

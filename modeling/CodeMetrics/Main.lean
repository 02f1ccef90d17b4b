import CodeMetrics.Command.Basic
import Std.Time.Format

/-!
# The program

The outer layer: it looks at the paths that the arguments name, runs the command, prints what it
says, and adds its entries to the file of the journal.
-/

open CodeMetrics

/-- What is found under a path. -/
def readNode (path : String) : IO Node := do
  try
    return .file (← IO.FS.readBinFile path).toList
  catch
    | .inappropriateType _ 21 _ => return .directory
    | .inappropriateType .. => return .behindFile
    | _ => return .absent

/-- What is found on the way to a path, each part of the way under its steps. -/
def readFiles (path : String) : IO Files := do
  let steps := Path.steps path
  (List.range steps.length).mapM fun i => do
    let front := steps.take (i + 1)
    let text :=
      match front with
      | "/" :: names => "/" ++ "/".intercalate names
      | names => "/".intercalate names
    return ((Path.follow [] front).reverse, ← readNode text)

/-- The paths that a run looks at: those of the arguments and the project's settings file. -/
def pathsOf (args : List String) : List String :=
  Settings.projectFile ::
    match Request.read args with
    | .ok r => r.paths
    | .error _ => []

/-- The file of the journal that the arguments name. -/
def journalPath? (args : List String) : Option String :=
  match Request.read args with
  | .ok (.report a _) => a.logFile.map Path.tidy
  | _ => none

/-- Files and directories that are there. -/
def presentFiles (paths : List String) : IO Files := do
  let found ← paths.mapM readFiles
  return found.flatten.filter fun (_, node) => node.present

/-- The value of an environment variable for each name that matters. -/
def readEnvironment : IO (String → Option String) := do
  let found ← Environment.targets.mapM fun (field, _) => do
    let name := Environment.variableName field
    return (name, ← IO.getEnv name)
  return fun name => (found.lookup name).join

/-- The time of day with its date, as entries of the journal give it. -/
def currentStamp : IO String := do
  return (← Std.Time.PlainDateTime.now).format "uuuu-MM-dd HH:mm:ss"

/-- Adds to a file what a run added to it. -/
def appendChanges (before after : Files) (path : String) : IO Unit := do
  let octets (files : Files) : Option (List UInt8) :=
    match files.look path with
    | .file octets => some octets
    | _ => none
  if let some new := octets after then
    let old := (octets before).getD []
    if (octets before).isNone || old.length < new.length then
      let handle ← IO.FS.Handle.mk path .append
      handle.write (ByteArray.mk (new.drop old.length).toArray)

/-- What an error that the program dies of is called. -/
def crashText : Crash → String
  | .breakdown .wrongKind => "a value is of the wrong kind"
  | .breakdown .noAttribute => "a value has no such attribute"
  | .breakdown .overflow => "a number is too large"
  | .breakdown .badValue => "a value is not acceptable"
  | .journal f => f.message "log file"
  | .markup (.unopened tag) => "closing tag '[" ++ String.ofList tag ++ "]' closes nothing"
  | .markup (.unreadable parameters) => "cannot read '" ++ String.ofList parameters ++ "'"

/-- The forms of the command line. -/
def usage : String :=
  "Usage: metrics-lite [--version] report|summary RECORDS [OPTIONS]\n"

def main (args : List String) : IO UInt32 := do
  let files ← presentFiles (pathsOf args)
  let directory ← IO.currentDir
  let surroundings : Surroundings := ⟨files, directory.toString, ← readEnvironment⟩
  let ending := Command.run (← currentStamp) surroundings args
  if let some path := journalPath? args then
    appendChanges files ending.files path
  for e in ending.log do
    IO.eprintln (e.level.name ++ " " ++ e.text)
  IO.print ending.stdout
  IO.eprint ending.stderr
  if let some crash := ending.crash then
    IO.eprintln ("Fatal: " ++ crashText crash)
  if ending.exitCode = 2 then IO.eprint usage
  return ending.exitCode.toUInt32

import CodeMetrics.Journal.Tree
import CodeMetrics.Storage.Files

/-!
# The journal

The journal sends entries to the terminal and, if a file is named, to the end of that file.  It
takes entries from a level on and only from sources in the tree of the program.  Setting it up again
replaces what was set up before; a file that cannot be opened leaves everything as it was.
-/

namespace CodeMetrics

/-- Where entries go. -/
inductive Handler where
  | terminal
  | file (path : String)
deriving DecidableEq

/-- The level from which entries are taken, and where they go. -/
structure Journal where
  level : Level
  handlers : List Handler

namespace LogEntry

/-- The entry as a line of a file, after the time of the entry. -/
def line (stamp : String) (e : LogEntry) : String :=
  stamp ++ " - " ++ e.source ++ " - " ++ e.level.name ++ " - " ++ e.text ++ "\n"

end LogEntry

namespace Journal

/-- The journal before it is set up. -/
def initial : Journal := ⟨.warning, []⟩

/-- The level that the wishes for more and for less output ask for; less wins. -/
def levelFor (verbose quiet : Bool) : Level :=
  if quiet then .error else if verbose then .debug else .warning

/-- Sets the journal up, with the files after its file was opened.  An empty path names no file. -/
def setup (verbose quiet : Bool) (path : String) (files : Files) :
    Except OpenFault (Journal × Files) :=
  let level := levelFor verbose quiet
  if path = "" then .ok (⟨level, [.terminal]⟩, files)
  else do
    let files ← files.openForAppend path
    .ok (⟨level, [.terminal, .file path]⟩, files)

/-- The journal takes the entry.  No other source need be known to find the parts of the program in
the tree. -/
def takes (j : Journal) (e : LogEntry) : Bool := inTree [] e.source && j.level.rank ≤ e.level.rank

/-- The files of the journal. -/
def paths (j : Journal) : List String :=
  j.handlers.filterMap fun
    | .terminal => none
    | .file path => some path

/-- Writes an entry at the end of the files of the journal. -/
def write (j : Journal) (stamp : String) (files : Files) (e : LogEntry) : Files :=
  j.paths.foldl (fun files path => files.append path (e.line stamp).toUTF8.toList) files

/-- Adds an entry that the journal takes to its files. -/
def add (j : Journal) (stamp : String) (files : Files) (e : LogEntry) : Files :=
  if j.takes e then j.write stamp files e else files

/-- Adds entries one after the other. -/
def addAll (j : Journal) (stamp : String) (files : Files) (es : List LogEntry) : Files :=
  es.foldl (j.add stamp) files

end Journal

/-! ## Sessions -/

/-- A step of a session with the journal. -/
inductive JournalStep where
  | setup (verbose quiet : Bool) (path : String)
  | log (name? : Option String) (level : Level) (text : String)
  | read (path : String)

/-- What a step with the journal shows. -/
inductive JournalAnswer where
  | isSetUp (j : Journal)
  | notSetUp (f : OpenFault)
  | logged (source : String)
  | contents (octets? : Option (List UInt8))

/-- What a session keeps: the journal, the sources that entries were logged under, and what was
decided on the importance of their entries since the journal was set up. -/
structure JournalState where
  journal : Journal
  known : List String
  judged : List ((String × Level) × Bool)

namespace JournalState

def initial : JournalState := ⟨.initial, [], []⟩

/-- The state in which a source is known. -/
def learn (s : JournalState) (source : String) : JournalState :=
  { s with known := s.known.insert source }

/-- Entries of the source and the level are important enough.  A source outside the tree is judged
as before any set-up, and what was decided once holds until the journal is set up again. -/
def admits (s : JournalState) (source : String) (level : Level) : Bool :=
  (s.judged.lookup (source, level)).getD <|
    (if inTree s.known source then s.journal.level else Journal.initial.level).rank ≤ level.rank

/-- Entries of the source and the level get to the journal. -/
def passes (s : JournalState) (source : String) (level : Level) : Bool :=
  (s.learn source).admits source level && inTree (s.learn source).known source

end JournalState

namespace Journal

/-- Performs a step, with the state and the files after it. -/
def perform (stamp : String) (s : JournalState) (files : Files) :
    JournalStep → JournalAnswer × JournalState × Files
  | .setup verbose quiet path =>
    match setup verbose quiet path files with
    | .error f => (.notSetUp f, s, files)
    | .ok (j, files) => (.isSetUp j, { s with journal := j, judged := [] }, files)
  | .log name? level text =>
    let source := sourceNamed name?
    let learnt := s.learn source
    let judgement := ((source, level), learnt.admits source level)
    (.logged source, { learnt with judged := judgement :: learnt.judged },
      if s.passes source level then s.journal.write stamp files ⟨level, source, text⟩ else files)
  | .read path =>
    match files.look path with
    | .file octets => (.contents (some octets), s, files)
    | _ => (.contents none, s, files)

/-- Performs steps one after the other. -/
def performAll (stamp : String) (s : JournalState) (files : Files) :
    List JournalStep → List JournalAnswer
  | [] => []
  | step :: rest =>
    let (answer, s, files) := perform stamp s files step
    answer :: performAll stamp s files rest

end Journal

end CodeMetrics

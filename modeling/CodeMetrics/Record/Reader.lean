import CodeMetrics.Fault
import CodeMetrics.Journal.Entry
import CodeMetrics.Record.Basic

/-!
# Reading records

A record is read from a dictionary, and a list of records from a list.  The first thing that does
not fit is reported: a key that is missing, or a value of the wrong shape.  Main code is optional,
and so is each of its fields.
-/

namespace CodeMetrics

/-- Why a value is no record. -/
inductive ShapeFault where
  | missingKey (key : String)
  | noEntries (v : Value)
  | noOptionalEntries (v : Value)
  | notList (key : String) (v : Value)

namespace ShapeFault

/-- The kinds of sequence that take positions and no keys, and what the positions are called. -/
def positionName? : Value → Option String
  | .list _ => some "list indices must be integers or slices, not str"
  | .tuple _ => some "tuple indices must be integers or slices, not str"
  | .bytes _ => some "byte indices must be integers or slices, not str"
  | .text _ => some "string indices must be integers, not 'str'"
  | _ => none

/-- The fault in words. -/
def reason : ShapeFault → String
  | missingKey key => "missing key " ++ (Value.text key).literal
  | noEntries v => (positionName? v).getD ("'" ++ v.kindName ++ "' object is not subscriptable")
  | noOptionalEntries v => "'" ++ v.kindName ++ "' object has no attribute 'get'"
  | notList key v => "'" ++ key ++ "' must be a list, got " ++ v.kindName

/-- The fault in the record `item` at the place `index` of a list of records.  A missing key says
all there is to say about the record. -/
def toFault (f : ShapeFault) (item : Value) (index : Nat) : Fault :=
  match f with
  | missingKey _ => .input f.reason .null (.int index)
  | _ => .input f.reason item (.int index)

end ShapeFault

/-- The value of a key that must be there. -/
def requireKey (v : Value) (key : String) : Except ShapeFault Value :=
  match v with
  | .dict entries =>
    match entries.lookup key with
    | some w => .ok w
    | none => .error (.missingKey key)
  | v => .error (.noEntries v)

/-- The value of a key that may be missing. -/
def optionalKey (v : Value) (key : String) : Except ShapeFault (Option Value) :=
  match v with
  | .dict entries => .ok (entries.lookup key)
  | v => .error (.noOptionalEntries v)

/-- The list under a key; an empty one if the key is missing. -/
def listAt (v : Value) (key : String) : Except ShapeFault (List Value) := do
  match ← optionalKey v key with
  | none => .ok []
  | some (.list items) => .ok items
  | some (.tuple items) => .ok items
  | some w => .error (.notList key w)

/-- Reads a subroutine. -/
def Subroutine.ofValue (v : Value) : Except ShapeFault Subroutine := do
  let name ← requireKey v "name"
  let path ← requireKey v "path"
  let lineNumber ← requireKey v "line_number"
  let lines ← requireKey v "lines"
  let complexity ← requireKey v "mccabe_complexity"
  .ok ⟨name, path, lineNumber, lines, complexity⟩

/-- Reads main code.  A value that counts as false stands for no fields at all, and a missing field
for no lines, the path of the file or the standard name. -/
def MainCode.ofValue (path : Value) (v : Value) : Except ShapeFault MainCode := do
  let v := if v.truthy then v else .dict []
  let lines ← optionalKey v "lines"
  let mainPath ← optionalKey v "path"
  let name ← optionalKey v "name"
  .ok ⟨lines.getD (.int 0), mainPath.getD path, name.getD (.text MainCode.standardName)⟩

/-- Reads a record. -/
def FileRecord.ofValue (v : Value) : Except ShapeFault FileRecord := do
  let path ← requireKey v "path"
  let main? ← optionalKey v "main_stats"
  let lines ← requireKey v "lines"
  let packages ← listAt v "packages"
  let subs ← (← listAt v "subs").mapM Subroutine.ofValue
  let main ← MainCode.ofValue path (main?.getD .null)
  .ok ⟨path, lines, packages, subs, main⟩

/-- Reads the records of a list from the place `index` on. -/
def readRecordsFrom (index : Nat) : List Value → Except Fault (List FileRecord)
  | [] => .ok []
  | item :: rest =>
    match FileRecord.ofValue item with
    | .error f => .error (f.toFault item index)
    | .ok r => (r :: ·) <$> readRecordsFrom (index + 1) rest

/-- Reads a list of records. -/
def readRecords : Value → Except Fault (List FileRecord)
  | .list items => readRecordsFrom 0 items
  | v => .error (.input "expected a JSON array of file records" v .null)

/-- The entry of the journal about records that were read. -/
def recordsRead (rs : List FileRecord) : LogEntry :=
  ⟨.debug, sourceOf "loader", "Loaded " ++ toString rs.length ++ " file records"⟩

end CodeMetrics

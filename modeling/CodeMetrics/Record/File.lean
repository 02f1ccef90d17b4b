import CodeMetrics.Json.Reader
import CodeMetrics.Record.Reader
import CodeMetrics.Storage.Node
import CodeMetrics.Text.Lines
import CodeMetrics.Text.Utf8

/-!
# Files of records

A file of records is a JSON document in UTF-8 whose line ends may be of any sort.  A file that
cannot be opened or decoded is a fault of the input; a whole number that is too long to be read is
a breakdown.
-/

namespace CodeMetrics

/-- A fault of the input as a whole. -/
def inputFault (reason : String) : Failure := .fault (.input reason .null .null)

/-- The value that the octets of a JSON file hold. -/
def decodeDocument (path : String) (octets : List UInt8) : Except Failure Value :=
  match decodeUtf8 octets with
  | .error f => .error (inputFault (path ++ " is not UTF-8 text: " ++ f.message))
  | .ok s =>
    match Json.read (unifyLineEnds s) with
    | .ok v => .ok v
    | .error f =>
      if f.complaint = .longNumber then .error (.breakdown .badValue)
      else .error (inputFault (path ++ " is not valid JSON: " ++ f.message))

/-- Reads the records of the file found under a path. -/
def loadRecords (path : String) (node : Node) : Except Failure (List FileRecord) :=
  match node.contents with
  | .error f => .error (inputFault ("cannot read " ++ path ++ ": " ++ f.message path))
  | .ok octets => do
    let v ← decodeDocument path octets
    (readRecords v).mapError .fault

end CodeMetrics

import CodeMetrics.Text.Quoted

/-!
# What is found under a path

A path leads to a file, to a directory or to nothing.  A path that goes on behind a file leads
nowhere either, which is told apart when a file is to be made there.
-/

namespace CodeMetrics

/-- What is found under a path. -/
inductive Node where
  | file (octets : List UInt8)
  | directory
  | absent
  | behindFile
deriving DecidableEq

/-- Why a file cannot be opened. -/
inductive OpenFault where
  | absent
  | directory
  | behindFile
deriving DecidableEq

namespace Node

/-- There is a file or a directory. -/
def present : Node → Bool
  | file _ => true
  | directory => true
  | _ => false

/-- There is a file. -/
def isFile : Node → Bool
  | file _ => true
  | _ => false

/-- The octets of a file that is opened for reading. -/
def contents : Node → Except OpenFault (List UInt8)
  | file octets => .ok octets
  | directory => .error .directory
  | absent => .error .absent
  | behindFile => .error .behindFile

end Node

namespace OpenFault

/-- The fault in words, with the path that could not be opened. -/
def message (f : OpenFault) (path : String) : String :=
  (match f with
    | absent => "[Errno 2] No such file or directory: "
    | directory => "[Errno 21] Is a directory: "
    | behindFile => "[Errno 20] Not a directory: ") ++ String.ofList (quoted path.toList)

end OpenFault

end CodeMetrics

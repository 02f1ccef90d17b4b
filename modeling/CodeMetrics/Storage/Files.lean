import CodeMetrics.Storage.Node
import CodeMetrics.Storage.Path

/-!
# Files

The files that the program can reach from where it runs, each under the steps that lead to it.  A
file can be looked up, made, and have something added at its end.
-/

namespace CodeMetrics

/-- Files and directories under their steps. -/
abbrev Files := List (List String × Node)

namespace Files

/-- What is found under steps that lead downwards only. -/
def at? (files : Files) (steps : List String) : Node :=
  match files.lookup steps with
  | some node => node
  | none =>
    if steps.all Path.isOutward || files.any (fun (s, _) => steps.isPrefixOf s) then .directory
    else if files.any fun (s, node) => node.isFile && s.isPrefixOf steps then .behindFile
    else .absent

/-- What is found when `rest` is walked from `place`, whose steps are in reverse order. -/
def walk (files : Files) (place : List String) : List String → Node
  | [] => files.at? place.reverse
  | step :: rest =>
    match files.at? place.reverse with
    | .directory =>
      if step = Path.upStep then
        walk files (Path.upwards place) rest
      else walk files (step :: place) rest
    | .file _ => .behindFile
    | node => node

/-- What is found under a path as it was given. -/
def look (files : Files) (path : String) : Node :=
  if path = "" then .absent
  else
    match walk files [] (Path.steps path) with
    | .file octets => if path.toList.getLast? = some '/' then .behindFile else .file octets
    | node => node

/-- Sets what is found under some steps. -/
def set (steps : List String) (node : Node) : Files → Files
  | [] => [(steps, node)]
  | (s, old) :: rest => if s = steps then (s, node) :: rest else (s, old) :: set steps node rest

/-- Opens a file to add to it; it is made if there is none. -/
def openForAppend (files : Files) (path : String) : Except OpenFault Files :=
  let steps := Path.directSteps path
  match files.at? steps with
  | .file _ => .ok files
  | .directory => .error .directory
  | .behindFile => .error .behindFile
  | .absent =>
    match files.at? steps.dropLast with
    | .directory => .ok (files.set steps (.file []))
    | .absent => .error .absent
    | _ => .error .behindFile

/-- Adds octets to the file under a path, if there is one. -/
def append (files : Files) (path : String) (octets : List UInt8) : Files :=
  let steps := Path.directSteps path
  match files.at? steps with
  | .file old => files.set steps (.file (old ++ octets))
  | _ => files

end Files

end CodeMetrics

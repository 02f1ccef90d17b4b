import CodeMetrics.Settings.Environment
import CodeMetrics.Storage.Node
import CodeMetrics.Text.Utf8
import CodeMetrics.Toml.Reader

/-!
# Loading settings

Settings come from four sources: the settings file of the project, a settings file that is named,
the environment, and values that are given directly.  Each source overrides the ones before it, key
by key.  The first failing check decides: the project's file, whether the named file exists, its
contents, the environment, the keys, and then the two thresholds.
-/

namespace CodeMetrics

namespace Settings

/-- A fault of the settings as a whole. -/
def configurationFault (message : String) : Fault := .general .configuration message []

/-- The name of the project's settings file. -/
def projectFile : String := "metrics-lite.toml"

/-- The table that a settings file holds. -/
def decodeFile (path : String) (node : Node) : Except Fault Toml.Table :=
  let refuse (reason : String) : Except Fault Toml.Table :=
    .error (configurationFault ("Invalid config file '" ++ path ++ "': " ++ reason))
  match node.contents with
  | .error f => refuse (f.message path)
  | .ok octets =>
    match decodeUtf8 octets with
    | .error f => refuse f.message
    | .ok s =>
      match Toml.read s with
      | .error f => refuse f.message
      | .ok table => .ok table

/-- The part of a settings file that counts: its table `report`, if it has one, or all of it. -/
def effectiveTable (table : Toml.Table) : Toml.Table :=
  match table.lookup "report" with
  | some (.dict inner) => inner
  | _ => table

/-- The values of a settings file. -/
def readFile (path : String) (node : Node) : Except Fault Toml.Table :=
  effectiveTable <$> decodeFile path node

/-- The values of the project's settings file, of which there may be none. -/
def readProject (directory : String) (node : Node) : Except Fault Toml.Table :=
  if node.present then readFile (directory ++ "/" ++ projectFile) node else .ok []

/-- The values of the file that is named, if one is; it must be there. -/
def readNamed (named : Option (String × Node)) : Except Fault Toml.Table :=
  match named with
  | none => .ok []
  | some (path, node) =>
    if node.present then readFile path node
    else .error (configurationFault ("Config file not found: " ++ path))

/-- Where settings come from.  A value that is given as `null` is not given. -/
structure Sources where
  directory : String
  project : Node
  named : Option (String × Node)
  environment : String → Option String
  given : List (String × Value)

/-- A value is there. -/
def isGiven : Value → Bool
  | .null => false
  | _ => true

/-- The values of all sources, the later ones over the earlier. -/
def merge (sources : Sources) : Except Fault (List (String × Value)) := do
  let project ← readProject sources.directory sources.project
  let named ← readNamed sources.named
  let environment ← Environment.read sources.environment
  let given := sources.given.filter fun (_, v) => isGiven v
  .ok (Value.overlay (Value.overlay (Value.overlay (Value.overlay [] project) named) environment)
    given)

/-- A fault of merged values in words. -/
def unexpectedText : SettingsFault → Option String
  | .unexpected name =>
    some (title ++ ".__init__() got an unexpected keyword argument '" ++ name ++ "'")
  | .receiver => some (title ++ ".__init__() got multiple values for argument 'self'")
  | _ => none

/-- The failure that a fault of merged values is reported as. -/
def loadFailure (f : SettingsFault) : Failure :=
  match unexpectedText f with
  | some text => .fault (configurationFault ("Invalid configuration: " ++ text))
  | none => f.toFailure

/-- Loads settings.  The named file cannot be given as a value. -/
def load (sources : Sources) : Except Failure Settings :=
  if (sources.given.map Prod.fst).contains "config_file" then .error (.breakdown .wrongKind)
  else do
    let merged ← (merge sources).mapError .fault
    (ofFields merged).mapError loadFailure

end Settings

end CodeMetrics

import CodeMetrics.Fault

/-!
# Report settings

Two thresholds and two switches.  The thresholds are whole numbers from zero on.  A switch may be
any value, of which only matters whether it counts as true.  `Settings.ofFields` builds settings
from values under the names of the fields and refuses any other name.
-/

namespace CodeMetrics

/-- The thresholds and switches of a report: which subroutines it lists, and whether it prints
nothing but the diagnostics document. -/
structure Settings where
  maxLines : Nat
  maxComplexity : Nat
  onlyErrors : Value
  machineOnly : Value

/-- Why values do not make up settings. -/
inductive SettingsFault where
  | unexpected (name : String)
  | receiver
  | invalid (name : String) (value : Value) (reason : String)
  | unwritable

namespace Settings

/-- The names of the fields. -/
def linesField : String := "max_sub_lines"

@[inherit_doc linesField]
def complexityField : String := "max_sub_complexity"

@[inherit_doc linesField]
def onlyErrorsField : String := "show_only_errors"

@[inherit_doc linesField]
def machineOnlyField : String := "only_machine_output"

/-- The names of all fields, in order. -/
def fieldNames : List String := [linesField, complexityField, onlyErrorsField, machineOnlyField]

/-- The settings where nothing else is said. -/
def standard : Settings := ⟨60, 10, .bool false, .bool false⟩

/-- A threshold must be a whole number, which a truth value is not, and not negative. -/
def threshold (name : String) (v : Value) : Except SettingsFault Nat :=
  let refuse (reason : String) : Except SettingsFault Nat :=
    if v.printable then .error (.invalid name v reason) else .error .unwritable
  match v with
  | .int n => if n < 0 then refuse "must be non-negative" else .ok n.toNat
  | _ => refuse "must be an integer"

/-- The first name that is no field's, as a fault.  The settings themselves have a name that cannot
be given either. -/
def unexpected? (fields : List (String × Value)) : Option SettingsFault :=
  (fields.find? fun (name, _) => !fieldNames.contains name).map fun (name, _) =>
    if name = "self" then .receiver else .unexpected name

/-- Builds settings from values under the names of fields; a missing one has its standard value. -/
def ofFields (fields : List (String × Value)) : Except SettingsFault Settings :=
  match unexpected? fields with
  | some f => .error f
  | none => do
    let get (name : String) (default : Value) : Value := (fields.lookup name).getD default
    let maxLines ← threshold linesField (get linesField (.int standard.maxLines))
    let maxComplexity ←
      threshold complexityField (get complexityField (.int standard.maxComplexity))
    .ok ⟨maxLines, maxComplexity, get onlyErrorsField standard.onlyErrors,
      get machineOnlyField standard.machineOnly⟩

/-- The settings as values under the names of the fields. -/
def toFields (s : Settings) : List (String × Value) :=
  [(linesField, .int s.maxLines), (complexityField, .int s.maxComplexity),
    (onlyErrorsField, s.onlyErrors), (machineOnlyField, s.machineOnly)]

/-- The name of the settings in messages. -/
def title : String := "ReportConfig"

/-- The settings in one line. -/
def display (s : Settings) : String :=
  title ++ "(" ++ ", ".intercalate (s.toFields.map fun (k, v) => k ++ "=" ++ v.literal) ++ ")"

/-- All whole numbers in the settings are short enough to be written. -/
def printable (s : Settings) : Bool := s.toFields.all fun (_, v) => v.printable

end Settings

namespace SettingsFault

/-- The fault of fields that are given where settings are built directly. -/
def toFailure : SettingsFault → Failure
  | unexpected _ => .breakdown .wrongKind
  | receiver => .breakdown .wrongKind
  | invalid name v reason => .fault (.setting name v reason)
  | unwritable => .breakdown .badValue

end SettingsFault

end CodeMetrics

import CodeMetrics.Breakdown
import CodeMetrics.Value.Binding
import CodeMetrics.Value.Display

/-!
# Faults

A fault is a report about bad input or bad settings: a message and, in order, details that say what
was wrong.  Its text is the message with the details in parentheses.
-/

namespace CodeMetrics

/-- A fault without a reason of its own: any fault, one of the analysis or one of the settings. -/
inductive GeneralFault where
  | any
  | analysis
  | configuration
deriving DecidableEq

/-- What is wrong with the input or the settings.  An `input` fault names the value that was
received and its place in the list of records, each `null` if there is none to name. -/
inductive Fault where
  | general (kind : GeneralFault) (message : String) (details : List (String × String))
  | input (reason : String) (received index : Value)
  | setting (key : String) (value : Value) (reason : String)

namespace Fault

/-- What the fault is about. -/
def message : Fault → String
  | general _ message _ => message
  | input .. => "Invalid metric records"
  | setting key value _ => "Invalid configuration for " ++ key ++ ": " ++ value.display

/-- The details in order. -/
def details : Fault → List (String × String)
  | general _ _ details => details
  | input reason received index =>
    [("reason", reason)] ++
      (match received with
        | .null => []
        | v => [("received", v.kindName)]) ++
      (match index with
        | .null => []
        | i => [("index", i.display)])
  | setting key value reason => [("key", key), ("value", value.display), ("reason", reason)]

/-- A detail as text. -/
def detailText : String × String → String
  | (key, value) => key ++ "=" ++ value

/-- The whole text of a fault. -/
def text (f : Fault) : String :=
  if f.details.isEmpty then f.message
  else f.message ++ " (" ++ ", ".intercalate (f.details.map detailText) ++ ")"

/-! ## Building faults from given values -/

/-- The kinds of fault that can be built. -/
inductive Kind where
  | any
  | analysis
  | input
  | configuration
  | setting
deriving DecidableEq

namespace Kind

/-- The fields of each kind of fault. -/
def fields : Kind → FieldNames
  | input => ⟨["reason"], ["received", "index"]⟩
  | setting => ⟨["key", "value", "reason"], []⟩
  | _ => ⟨["message"], ["details"]⟩

end Kind

/-- The kind of a fault. -/
def kind : Fault → Kind
  | general .any .. => .any
  | general .analysis .. => .analysis
  | general .configuration .. => .configuration
  | input .. => .input
  | setting .. => .setting

/-- A dictionary of details; anything else holds none. -/
def detailsOf : Value → List (String × String)
  | .dict entries => entries.map fun (k, v) => (k, v.display)
  | _ => []

/-- Builds a fault from values that are given by position and by name. -/
def build (kind : Kind) (positional : List Value) (named : List (String × Value)) :
    Except Breakdown Fault :=
  match kind.fields.bind? positional named with
  | none => .error .wrongKind
  | some given =>
    let get (name : String) : Value := (given.lookup name).getD .null
    let general (kind : GeneralFault) : Fault :=
      .general kind (get "message").display (detailsOf (get "details"))
    .ok <| match kind with
      | .any => general .any
      | .analysis => general .analysis
      | .configuration => general .configuration
      | .input => .input (get "reason").display (get "received") (get "index")
      | .setting => .setting (get "key").display (get "value") (get "reason").display

/-- The values that a fault was built from, by name, apart from its message. -/
def attributes : Fault → List (String × Value)
  | general .. => []
  | input reason received index =>
    [("reason", .text reason), ("received", received), ("index", index)]
  | setting key value reason => [("reason", .text reason), ("key", .text key), ("value", value)]

end Fault

/-- Why a step ends early: a fault that it reports, or a breakdown. -/
inductive Failure where
  | fault (f : Fault)
  | breakdown (b : Breakdown)

end CodeMetrics

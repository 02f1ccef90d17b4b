import CodeMetrics.Breakdown
import CodeMetrics.Record.Basic
import CodeMetrics.Value.Binding

/-!
# Building records from fields

A record can be built from its fields directly, without the shape that a list of records has: each
field is given by name, and the packages may be any collection.
-/

namespace CodeMetrics

/-- The fields by name, if they fit. -/
def bindFields (names : FieldNames) (named : List (String × Value)) :
    Except Breakdown (String → Option Value) :=
  match names.bind? [] named with
  | some given => .ok fun name => given.lookup name
  | none => .error .wrongKind

/-- The members of a collection: characters of a text, keys of a dictionary. -/
def members : Value → Except Breakdown (List Value)
  | .list items => .ok items
  | .tuple items => .ok items
  | .set items => .ok items
  | .text s => .ok (s.toList.map fun c => .text (String.singleton c))
  | .dict entries => .ok (entries.map fun (k, _) => .text k)
  | .bytes octets => .ok (octets.map fun b => .int b.toNat)
  | .other _ _ => .ok []
  | _ => .error .wrongKind

/-- Builds a subroutine from its fields, all of which must be given. -/
def Subroutine.build (named : List (String × Value)) : Except Breakdown Subroutine := do
  let get ← bindFields ⟨["name", "path", "line_number", "lines", "mccabe_complexity"], []⟩ named
  let field (name : String) : Value := (get name).getD .null
  .ok ⟨field "name", field "path", field "line_number", field "lines", field "mccabe_complexity"⟩

/-- Builds main code from its fields, of which only the lines must be given. -/
def MainCode.build (named : List (String × Value)) : Except Breakdown MainCode := do
  let get ← bindFields ⟨["lines"], ["path", "name"]⟩ named
  .ok ⟨(get "lines").getD .null, (get "path").getD (.text ""),
    (get "name").getD (.text standardName)⟩

/-- Builds a record from its subroutines and the fields that are given besides. -/
def FileRecord.build (subs : List Subroutine) (main? : Option MainCode)
    (named : List (String × Value)) : Except Breakdown FileRecord := do
  let get ← bindFields ⟨["path", "lines"], ["packages"]⟩ named
  let packages ← members ((get "packages").getD (.list []))
  .ok ⟨(get "path").getD .null, (get "lines").getD .null, packages, subs,
    main?.getD (.ofLines (.int 0))⟩

end CodeMetrics

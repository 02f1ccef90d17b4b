import CodeMetrics.Value.Basic

/-!
# Binding values to fields

Something with named fields is built from values given by position and by name.  Positions are
filled first; a name is bound once, to a field that exists, and every required field must be given.
-/

namespace CodeMetrics

/-- The named fields of something, those that must be given first. -/
structure FieldNames where
  required : List String
  optional : List String

namespace FieldNames

/-- All fields in the order of their positions. -/
def all (f : FieldNames) : List String := f.required ++ f.optional

/-- The value of each given field; none when the values do not fit the fields. -/
def bind? (f : FieldNames) (positional : List Value) (named : List (String × Value)) :
    Option (List (String × Value)) :=
  let placed := f.all.zip positional
  let fits := positional.length ≤ f.all.length &&
    named.all fun (name, _) => f.all.contains name && !(placed.map Prod.fst).contains name
  let given := placed ++ named
  if fits && f.required.all (fun name => (given.map Prod.fst).contains name) then some given
  else none

end FieldNames

end CodeMetrics

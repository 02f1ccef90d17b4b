import CodeMetrics.Breakdown
import CodeMetrics.Value.Order

/-!
# Mappings

A mapping is made from pairs of a key and an item.  Of two pairs with equal keys the first gives the
place and the key, the last the item.  Lists, dictionaries and sets are no keys.
-/

namespace CodeMetrics

mutual

/-- The value can be the key of a mapping. -/
def Value.isKey : Value → Bool
  | .list _ => false
  | .dict _ => false
  | .set _ => false
  | .tuple items => Value.areKeys items
  | _ => true

/-- All values can be keys of a mapping. -/
def Value.areKeys : List Value → Bool
  | [] => true
  | v :: rest => v.isKey && Value.areKeys rest

end

/-- Sets the item of a key: a new key goes to the end, a known one keeps its place. -/
def setItem {α : Type} (key : Value) (item : α) : List (Value × α) → List (Value × α)
  | [] => [(key, item)]
  | (k, old) :: rest =>
    if Value.same false k key then (k, item) :: rest else (k, old) :: setItem key item rest

/-- The mapping that pairs make up, if all keys are possible ones. -/
def mappingOf {α : Type} (pairs : List (Value × α)) : Except Breakdown (List (Value × α)) :=
  if pairs.all fun (k, _) => k.isKey then
    .ok (pairs.foldl (fun mapping (k, item) => setItem k item mapping) [])
  else .error .wrongKind

end CodeMetrics

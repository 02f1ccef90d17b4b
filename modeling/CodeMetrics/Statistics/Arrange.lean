import CodeMetrics.Breakdown
import CodeMetrics.Value.Order

/-!
# Sorting values

Values are put into non-decreasing order, and equal ones keep the order in which they came.  Numbers
with a place always have such an arrangement.  All other values are compared one pair at a time,
since a pair may have no order: a first run is taken over, reversed if it is strictly decreasing,
and each further value is inserted by bisection after all values that it does not precede.  So up
to 63 values are sorted.  From 64 on, stretches are sorted in this way and then merged, and a value
without a place, such as the undefined number, may come to stand elsewhere; the merging is not
modelled, and the place of such values means nothing there.
-/

namespace CodeMetrics

namespace Arrange

/-- The value is a number with a place on the number line. -/
def isPlaced (v : Value) : Bool :=
  match v.number? with
  | some n => n.place ≠ .undefined
  | none => false

/-- The first number may stand before the second. -/
def mayPrecede (v w : Value) : Bool := Value.before? w v ≠ some true

/-- The first value comes strictly before the second, if their kinds have an order. -/
def before (v w : Value) : Except Breakdown Bool :=
  match Value.before? v w with
  | some b => .ok b
  | none => .error .wrongKind

/-- The longest run at the front of which every step goes down, or none does, as `down` says; `last`
is the value before it. -/
def runAfter (down : Bool) (last : Value) :
    List Value → Except Breakdown (List Value × List Value)
  | [] => .ok ([], [])
  | v :: rest => do
    if (← before v last) = down then
      let (run, rest) ← runAfter down v rest
      .ok (v :: run, rest)
    else .ok ([], v :: rest)

/-- The first run in non-decreasing order, and the values after it. -/
def firstRun : List Value → Except Breakdown (List Value × List Value)
  | [] => .ok ([], [])
  | [v] => .ok ([v], [])
  | v :: w :: rest => do
    let down ← before w v
    let (run, rest) ← runAfter down w rest
    .ok (if down then ((v :: w :: run).reverse, rest) else (v :: w :: run, rest))

/-- The place between `low` and `high` after all values that `pivot` does not precede. -/
def insertionPoint (pivot : Value) (vs : List Value) (low high : Nat) : Except Breakdown Nat :=
  if low < high then
    let middle := (low + high) / 2
    match vs[middle]? with
    | none => .ok low
    | some v => do
      if ← before pivot v then insertionPoint pivot vs low middle
      else insertionPoint pivot vs (middle + 1) high
  else .ok low
termination_by high - low

/-- Inserts values one after the other into a sorted list. -/
def insertAll (sorted : List Value) : List Value → Except Breakdown (List Value)
  | [] => .ok sorted
  | v :: rest => do
    let i ← insertionPoint v sorted 0 sorted.length
    insertAll (sorted.take i ++ v :: sorted.drop i) rest

end Arrange

/-- The values in non-decreasing order, equal ones in the order in which they came.  When there are
values without a place, this is the order in which up to 63 values are put. -/
def sortValues (vs : List Value) : Except Breakdown (List Value) :=
  if vs.all Arrange.isPlaced then .ok (vs.mergeSort Arrange.mayPrecede)
  else do
    let (run, rest) ← Arrange.firstRun vs
    Arrange.insertAll run rest

end CodeMetrics

import CodeMetrics.Breakdown
import CodeMetrics.Statistics.Arrange
import CodeMetrics.Statistics.Sum

/-!
# Series of numbers

Before numbers are averaged they become a series of one kind: counts that fit into a machine word,
floating-point numbers, or exact numbers when one of them is a whole number beyond the machine word.
Lists of lists are read as one series if they are regular.
-/

namespace CodeMetrics

/-- Numbers of one kind. -/
inductive Series where
  | counts (ns : List Int)
  | reals (xs : List Binary64)
  | exact (ns : List Number)

namespace Series

/-! ## Regular nests of lists -/

mutual

/-- The lengths of the lists at each depth of a value, if all lists of one depth agree. -/
def shape? : Value → Option (List Nat)
  | .list items => shapeOfItems? items
  | .tuple items => shapeOfItems? items
  | _ => some []

def shapeOfItems? : List Value → Option (List Nat)
  | [] => some [0]
  | [v] => (shape? v).map (1 :: ·)
  | v :: rest =>
    match shape? v, shapeOfItems? rest with
    | some s, some (n :: t) => if s = t then some ((n + 1) :: t) else none
    | _, _ => none

end

mutual

/-- The values of a nest that are no lists, in order. -/
def leaves : Value → List Value
  | .list items => leavesOfItems items
  | .tuple items => leavesOfItems items
  | v => [v]

def leavesOfItems : List Value → List Value
  | [] => []
  | v :: rest => leaves v ++ leavesOfItems rest

end

/-! ## The kind of a series -/

/-- The whole number fits into a signed or an unsigned machine word. -/
def fitsWord (n : Int) : Bool := -0x8000000000000000 ≤ n && n < 0x10000000000000000

/-- The whole number fits into a signed machine word. -/
def fitsSigned (n : Int) : Bool := -0x8000000000000000 ≤ n && n < 0x8000000000000000

/-- The value is a whole number for which the test holds; truth values are not counted. -/
def isIntWhere (p : Int → Bool) : Value → Bool
  | .int n => p n
  | _ => false

/-- The value is a floating-point number. -/
def isFloat : Value → Bool
  | .float _ => true
  | _ => false

/-- The nearest floating-point number. -/
def toBinary64 : Number → Binary64
  | .int n => .ofInt n
  | .float x => x

/-- The whole part of the series: its whole numbers. -/
def ints (ns : List Number) : List Int :=
  ns.filterMap fun
    | .int n => some n
    | .float _ => none

/-- The series of some values.  Signed and unsigned words have floating-point numbers as their
common kind. -/
def ofLeaves (vs : List Value) : Except Breakdown Series :=
  match vs.mapM Value.number? with
  | none => .error .wrongKind
  | some ns =>
    if vs.any (isIntWhere fun n => !fitsWord n) then .ok (exact ns)
    else if vs.any isFloat || vs.isEmpty ||
        (vs.any (isIntWhere fun n => !fitsSigned n) && vs.any (isIntWhere fitsSigned)) then
      .ok (reals (ns.map toBinary64))
    else .ok (counts (ints ns))

/-- The series of a regular nest of lists. -/
def ofValues (vs : List Value) : Except Breakdown Series :=
  match shapeOfItems? vs with
  | none => .error .badValue
  | some _ => ofLeaves (leavesOfItems vs)

/-- How many numbers a series has. -/
def length : Series → Nat
  | counts ns => ns.length
  | reals xs => xs.length
  | exact ns => ns.length

/-! ## The mean -/

/-- The exact quotient of two whole numbers, rounded once, if it is finite. -/
def quotient? (s : Int) (n : Nat) : Option Binary64 :=
  let x := Binary64.ofQuotient (decide (s < 0)) (s.natAbs * Binary64.one) n
  if x.isFinite then some x else none

/-- The result of a step that is undefined when a number is too large. -/
def orOverflow {α : Type} : Option α → Except Breakdown α
  | some a => .ok a
  | none => .error .overflow

/-- The exact sum of numbers, rounded only where a floating-point number takes part. -/
def exactSum : List Number → Option Number
  | [] => some (.int 0)
  | n :: rest => rest.foldlM Number.add? n

/-- The mean of a series.  The sum of exact numbers goes through a floating-point number when it
fits into a signed word. -/
def mean : Series → Except Breakdown Binary64
  | counts ns => .ok (divide (Binary64.sumInts ns) ns.length)
  | reals xs => .ok (divide (Binary64.sum xs) xs.length)
  | exact ns => do
    match ← orOverflow (exactSum ns) with
    | .int s =>
      if fitsSigned s then .ok (divide (.ofInt s) ns.length)
      else orOverflow (quotient? s ns.length)
    | .float s => .ok (divide s ns.length)
where
  /-- The quotient by a count; nothing divided by no count is not a number. -/
  divide (x : Binary64) (n : Nat) : Binary64 := if n = 0 then .nan else x.divCount n

/-! ## The median -/

/-- The middle one or two of a sorted list. -/
def middle {α : Type} (xs : List α) : List α :=
  if xs.length % 2 = 1 then (xs.drop (xs.length / 2)).take 1
  else (xs.drop (xs.length / 2 - 1)).take 2

/-- The middle numbers of a series, as a series of the same kind; none of them is a number if the
series holds something that is not. -/
def middleOf : Series → Series
  | counts ns => counts (middle (ns.mergeSort (· ≤ ·)))
  | reals xs =>
    if xs.any Binary64.isNaN then reals [.nan]
    else reals (middle (xs.mergeSort fun x y => !y.place.before x.place))
  | exact ns => exact (middle (ns.mergeSort fun m n => !n.place.before m.place))

/-- The middle number of a series, or the mean of the middle two. -/
def median (s : Series) : Except Breakdown Binary64 := mean (middleOf s)

/-! ## The standard deviation -/

/-- The difference of an exact number and a floating-point number. -/
def difference? (m : Binary64) : Number → Option Binary64
  | .int n => (Number.finite? n).map fun x => x.sub m
  | .float x => some (x.sub m)

/-- The mean that deviations of exact numbers are taken from: their exact sum divided once. -/
def exactMean (ns : List Number) : Option Binary64 := do
  match ← exactSum ns with
  | .int s => quotient? s ns.length
  | .float s => some (s.divCount ns.length)

/-- The sum of the squares, which begins with the first of them. -/
def exactSquares (xs : List Binary64) : Binary64 :=
  match xs.map fun x => x.mul x with
  | [] => .zero false
  | x :: rest => Binary64.addAll x rest

/-- The standard deviation of the whole population: the root of the mean square deviation. -/
def populationDeviation (s : Series) : Except Breakdown Binary64 :=
  match s with
  | counts ns => do
    let m ← mean s
    .ok (spread (ns.map fun n => (Binary64.ofInt n).sub m))
  | reals xs => do
    let m ← mean s
    .ok (spread (xs.map fun x => x.sub m))
  | exact ns => do
    let m ← orOverflow (exactMean ns)
    let ds ← orOverflow (ns.mapM (difference? m))
    .ok ((exactSquares ds).divCount ds.length).sqrt
where
  /-- The root of the mean square of some deviations. -/
  spread (ds : List Binary64) : Binary64 :=
    (mean.divide (Binary64.sum (ds.map fun d => d.mul d)) ds.length).sqrt

end Series

end CodeMetrics

import CodeMetrics.Value.Basic

/-!
# Equality and order of values

Numbers are compared by their exact places, so a truth value, a whole number and a floating-point
number of the same place are equal.  Dictionaries are equal when they hold equal values under the
same keys, in any order.  Only numbers, texts, octets, lists and tuples have an order, each among
themselves.
-/

namespace CodeMetrics

namespace Value

/-- Both values are numbers of the same place; `nanAgrees` counts two undefined places as one. -/
def sameNumber (nanAgrees : Bool) (m n : Number) : Bool :=
  m.place.same n.place || (nanAgrees && m.place = .undefined && n.place = .undefined)

mutual

/-- The values are equal; `nanAgrees` says whether something that is not a number equals itself. -/
def same (nanAgrees : Bool) : Value → Value → Bool
  | null, w => match w with
    | null => true
    | _ => false
  | text s, w => match w with
    | text t => s = t
    | _ => false
  | list as, w => match w with
    | list bs => sameAll nanAgrees as bs
    | _ => false
  | tuple as, w => match w with
    | tuple bs => sameAll nanAgrees as bs
    | _ => false
  | set as, w => match w with
    | set bs => as.length = bs.length && sameMembers nanAgrees as bs
    | _ => false
  | dict as, w => match w with
    | dict bs => as.length = bs.length && sameEntries nanAgrees as bs
    | _ => false
  | bytes a, w => match w with
    | bytes b => a = b
    | _ => false
  | moment a, w => match w with
    | moment b => a = b
    | _ => false
  | other a _, w => match w with
    | other b _ => a = b
    | _ => false
  | bool b, w => match w.number? with
    | some n => sameNumber nanAgrees (.int b.toNat) n
    | none => false
  | int m, w => match w.number? with
    | some n => sameNumber nanAgrees (.int m) n
    | none => false
  | float x, w => match w.number? with
    | some n => sameNumber nanAgrees (.float x) n
    | none => false

/-- The lists hold equal values in the same order. -/
def sameAll (nanAgrees : Bool) : List Value → List Value → Bool
  | [], bs => bs.isEmpty
  | a :: as, bs => match bs with
    | [] => false
    | b :: bs => same nanAgrees a b && sameAll nanAgrees as bs

/-- Every value of the first list has an equal one in the second. -/
def sameMembers (nanAgrees : Bool) : List Value → List Value → Bool
  | [], _ => true
  | a :: as, bs => bs.any (same nanAgrees a) && sameMembers nanAgrees as bs

/-- Every entry of the first dictionary has an equal one in the second. -/
def sameEntries (nanAgrees : Bool) : List (String × Value) → List (String × Value) → Bool
  | [], _ => true
  | (k, v) :: as, bs =>
    (match bs.lookup k with
      | some w => same nanAgrees v w
      | none => false) && sameEntries nanAgrees as bs

end

mutual

/-- The first value comes strictly before the second; none when their kinds have no common order. -/
def before? : Value → Value → Option Bool
  | text s, w => match w with
    | text t => some (decide (s < t))
    | _ => none
  | bytes a, w => match w with
    | bytes b => some (decide (a.map UInt8.toNat < b.map UInt8.toNat))
    | _ => none
  | list as, w => match w with
    | list bs => beforeAll? as bs
    | _ => none
  | tuple as, w => match w with
    | tuple bs => beforeAll? as bs
    | _ => none
  | v, w =>
    match v.number?, w.number? with
    | some m, some n => some (m.place.before n.place)
    | _, _ => none

/-- The order of lists: by the first place where they differ, and else the shorter one first. -/
def beforeAll? : List Value → List Value → Option Bool
  | [], bs => some (!bs.isEmpty)
  | a :: as, bs => match bs with
    | [] => some false
    | b :: bs => if same false a b then beforeAll? as bs else before? a b

end

end Value

end CodeMetrics

/-!
# Operations on values of the wrong kind

Fields hold whatever they were given, so an operation on one can break down.  A breakdown is not a
report about the input: nothing is said but what sort of operation failed.
-/

namespace CodeMetrics

/-- Why an operation on values breaks down: it does not exist for values of this kind, the value has
no such attribute, the result is too large for a floating-point number, or the value itself is not
acceptable. -/
inductive Breakdown where
  | wrongKind
  | noAttribute
  | overflow
  | badValue
deriving DecidableEq

end CodeMetrics

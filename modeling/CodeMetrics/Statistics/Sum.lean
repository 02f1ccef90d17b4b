import CodeMetrics.Binary64.Basic

/-!
# Sums of floating-point numbers

A long sum is rounded less often on the way to each term when it is split: up to seven terms are
added one after the other, up to 128 in eight interleaved lanes, and longer lists are halved at a
multiple of eight.
-/

namespace CodeMetrics

namespace Binary64

/-- The sum of the terms one after the other. -/
def addAll (start : Binary64) (xs : List Binary64) : Binary64 := xs.foldl add start

/-- How many lanes a sum has. -/
def laneCount : Nat := 8

/-- Adds each full row of terms to the lanes; the terms after the last full row remain. -/
def fillLanes (lanes xs : List Binary64) : List Binary64 × List Binary64 :=
  if laneCount ≤ xs.length then
    fillLanes (lanes.zipWith add (xs.take laneCount)) (xs.drop laneCount)
  else (lanes, xs)
termination_by xs.length
decreasing_by simp [laneCount] at *; omega

/-- The lanes added in pairs, and the pairs in pairs, until one number is left. -/
def addPairs : List Binary64 → List Binary64
  | x :: y :: rest => x.add y :: addPairs rest
  | xs => xs

/-- The sum of eight lanes. -/
def joinLanes (lanes : List Binary64) : Binary64 :=
  (addPairs (addPairs (addPairs lanes))).headD (zero true)

/-- The longest list that is added in lanes. -/
def blockSize : Nat := 128

/-- The sum of the terms, split as the length of the list asks. -/
def splitSum (xs : List Binary64) : Binary64 :=
  if xs.length < laneCount then addAll (zero true) xs
  else if xs.length ≤ blockSize then
    let (lanes, rest) := fillLanes (xs.take laneCount) (xs.drop laneCount)
    addAll (joinLanes lanes) rest
  else
    let half := xs.length / 2 - xs.length / 2 % laneCount
    (splitSum (xs.take half)).add (splitSum (xs.drop half))
termination_by xs.length
decreasing_by all_goals simp [laneCount, blockSize] at *; omega

/-- The sum of the terms; that of none is zero. -/
def sum (xs : List Binary64) : Binary64 := (zero false).add (splitSum xs)

/-- How many whole numbers are turned into floating-point numbers at a time. -/
def chunkSize : Nat := 8192

/-- The sum of the terms taken in chunks after `start`. -/
def chunkedSumFrom (start : Binary64) (xs : List Binary64) : Binary64 :=
  if xs.length ≤ chunkSize then start.add (splitSum xs)
  else chunkedSumFrom (start.add (splitSum (xs.take chunkSize))) (xs.drop chunkSize)
termination_by xs.length
decreasing_by simp [chunkSize] at *; omega

/-- The sum of whole numbers, which are taken in chunks. -/
def sumInts (ns : List Int) : Binary64 := chunkedSumFrom (zero false) (ns.map ofInt)

end Binary64

end CodeMetrics

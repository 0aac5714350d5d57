/-
This file holds arithmetic progressions of integers.
-/

import HostTree.Failure

namespace HostTree

/-- A range begins at its start and stops before its stop, which lies above for a positive step and
below for a negative one. -/
structure Range where
  start : Int64
  stop : Int64
  step : Int64
  deriving DecidableEq, Repr

namespace Range

/-- No loop runs more often than this. -/
def maximumCount : Nat :=
  65536

/-- A number is kept only if sixty-four bits hold it. -/
def fitting? (number : Int) : Option Int64 :=
  if Int64.minValue.toInt ≤ number ∧ number ≤ Int64.maxValue.toInt then some (Int64.ofInt number)
  else none

/-- The division rounds up. The arithmetic is that of the integers, so nothing overflows. -/
def fullCount (range : Range) : Nat :=
  let distance := range.stop.toInt - range.start.toInt
  let step := range.step.toInt
  let span := if 0 < step then distance else -distance
  (span.toNat + step.natAbs - 1) / step.natAbs

/-- Counts above the maximum are not told apart. -/
def count (range : Range) : Nat :=
  min range.fullCount (maximumCount + 1)

def element? (range : Range) (position : Nat) : Option Int64 :=
  fitting? (range.start.toInt + position * range.step.toInt)

/-- The elements end before the first one that does not fit. -/
def elements (range : Range) : List Int64 :=
  (((List.range range.count).map range.element?).takeWhile Option.isSome).filterMap id

def checked (start stop step : Int64) : Except LoopFlaw Range :=
  let range : Range := ⟨start, stop, step⟩
  if step = 0 then .error .zeroStep
  else if maximumCount < range.count then .error (.tooManyItems maximumCount)
  else .ok range

end Range
end HostTree

/-
This file finds the decimal number with the fewest digits that reads back as a given binary one.
-/

import HostTree.Decimal.Binary

namespace HostTree.Decimal

/-- The value is the digits times a power of ten. -/
structure Scientific where
  digits : Nat
  exponent : Int
  deriving DecidableEq, Repr

/-- These are the numbers that round to one binary number. Each bound is a numerator over the
common denominator. -/
structure RoundingInterval where
  lower : Nat
  value : Nat
  upper : Nat
  denominator : Nat
  closed : Bool

namespace RoundingInterval

/-- The gap below a power of two is half the gap above it, unless the exponent is the least one. -/
def ofBinary (significand : Nat) (exponent : Int) : RoundingInterval :=
  let numeratorScale := 1 <<< (exponent - 2).toNat
  let narrow := significand = leadingBit ∧ -1074 < exponent
  { lower := (4 * significand - if narrow then 1 else 2) * numeratorScale
    value := 4 * significand * numeratorScale
    upper := (4 * significand + 2) * numeratorScale
    denominator := 1 <<< (2 - exponent).toNat
    closed := significand % 2 = 0 }

def scaled (interval : RoundingInterval) (exponent : Int) : RoundingInterval :=
  let up := Nat.pow 10 (-exponent).toNat
  { interval with
    lower := interval.lower * up
    value := interval.value * up
    upper := interval.upper * up
    denominator := interval.denominator * Nat.pow 10 exponent.toNat }

def contains (interval : RoundingInterval) (digits : Nat) : Bool :=
  let point := digits * interval.denominator
  if interval.closed then interval.lower ≤ point && point ≤ interval.upper
  else interval.lower < point && point < interval.upper

/-- Of the two neighbours of the value this is the one in the interval, the nearer one if both are,
and the greater one if they are equally near. -/
def nearestDigits (interval : RoundingInterval) : Option Nat :=
  let below := interval.value / interval.denominator
  let above := below + 1
  match interval.contains below, interval.contains above with
  | false, false => none
  | true, false => some below
  | false, true => some above
  | true, true =>
    if 2 * (interval.value % interval.denominator) < interval.denominator then some below
    else some above

end RoundingInterval

/-- The coarsest decimal grid that meets the interval gives the fewest digits. -/
def shortest (significand : Nat) (exponent : Int) : Scientific :=
  let interval := RoundingInterval.ofBinary significand exponent
  let onGrid := fun step : Nat =>
    let gridExponent := 308 - (step : Int)
    (interval.scaled gridExponent).nearestDigits.map (Scientific.mk · gridExponent)
  ((List.range 633).findSome? onGrid).getD ⟨0, 0⟩

end HostTree.Decimal

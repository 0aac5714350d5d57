/-
This file takes a binary floating-point number apart.
-/

namespace HostTree.Decimal

/-- This is the exact value of a floating-point number: a finite one is the significand times a
power of two. -/
inductive Binary where
  | undefined
  | infinite (negative : Bool)
  | finite (negative : Bool) (significand : Nat) (exponent : Int)
  deriving DecidableEq, Repr

/-- The significand of a normal number starts with this bit. -/
def leadingBit : Nat :=
  1 <<< 52

def Binary.ofFloat (number : Float) : Binary :=
  let bits := number.toBits.toNat
  let negative := (bits >>> 63) == 1
  let biased := (bits >>> 52) % 2048
  let fraction := bits % leadingBit
  if biased = 2047 then
    if fraction = 0 then .infinite negative else .undefined
  else if biased = 0 then .finite negative fraction (-1074)
  else .finite negative (leadingBit + fraction) (Int.ofNat biased - 1075)

end HostTree.Decimal

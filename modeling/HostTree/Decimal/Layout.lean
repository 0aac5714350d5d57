/-
This file lays a decimal number out as text.
-/

import HostTree.Decimal.Shortest

namespace HostTree.Decimal

/-- A number is written with a point among its digits when the exponent of its first digit is in
the given bounds, and with a power of ten otherwise. -/
structure Layout where
  leastPositional : Int
  positionalBound : Int

namespace Layout

def zeros (count : Int) : String :=
  String.ofList (List.replicate count.toNat '0')

/-- The whole part and the fraction have at least one digit each. -/
def positional (number : Scientific) : String :=
  let digits := Nat.toDigits 10 number.digits
  let wholeLength := digits.length + number.exponent
  if wholeLength ≤ 0 then
    "0." ++ zeros (-wholeLength) ++ String.ofList digits
  else if 0 ≤ number.exponent then
    String.ofList digits ++ zeros number.exponent ++ ".0"
  else
    String.ofList (digits.take wholeLength.toNat) ++ "." ++
      String.ofList (digits.drop wholeLength.toNat)

def powerOfTen (number : Scientific) : String :=
  let digits := Nat.toDigits 10 number.digits
  let exponent := digits.length - 1 + number.exponent
  let mantissa := match digits with
    | first :: second :: rest => String.ofList (first :: '.' :: second :: rest)
    | few => String.ofList few
  mantissa ++ "e" ++ toString exponent

def magnitude (layout : Layout) (significand : Nat) (exponent : Int) : String :=
  if significand = 0 then "0.0"
  else
    let number := shortest significand exponent
    let firstExponent := (Nat.toDigits 10 number.digits).length - 1 + number.exponent
    if layout.leastPositional ≤ firstExponent ∧ firstExponent < layout.positionalBound then
      positional number
    else powerOfTen number

def write (layout : Layout) (number : Float) : String :=
  let sign := fun negative : Bool => if negative then "-" else ""
  match Binary.ofFloat number with
  | .undefined => "NaN"
  | .infinite negative => sign negative ++ "inf"
  | .finite negative significand exponent =>
    sign negative ++ layout.magnitude significand exponent

end Layout
end HostTree.Decimal

/-
This file reads decimal numerals as floating-point numbers.
-/

namespace HostTree.Decimal

/-- The value is the mantissa times a power of ten, with a sign of its own, because zero has two. -/
structure Numeral where
  negative : Bool
  mantissa : Nat
  exponent : Int
  deriving DecidableEq, Repr

namespace Numeral

def digitsValue (digits : List Char) : Nat :=
  Nat.ofDigitChars 10 digits 0

def splitSign : List Char → Bool × List Char
  | '-' :: rest => (true, rest)
  | '+' :: rest => (false, rest)
  | rest => (false, rest)

/-- The part after the digits is empty, or the letter of the exponent with at least one digit. -/
def exponentPart? : List Char → Option Int
  | [] => some 0
  | letter :: rest =>
    if letter = 'e' ∨ letter = 'E' then
      let (negative, digits) := splitSign rest
      if digits.isEmpty ∨ ¬ digits.all Char.isDigit then none
      else
        let value : Int := digitsValue digits
        some (if negative then -value else value)
    else none

/-- A numeral has an optional sign, digits with an optional point among them, and an optional
exponent. At least one digit stands before the exponent. -/
def parse? (text : List Char) : Option Numeral :=
  let (negative, unsigned) := splitSign text
  let whole := unsigned.takeWhile Char.isDigit
  let afterWhole := unsigned.dropWhile Char.isDigit
  let (fraction, rest) := match afterWhole with
    | '.' :: afterPoint => (afterPoint.takeWhile Char.isDigit, afterPoint.dropWhile Char.isDigit)
    | other => ([], other)
  if whole.isEmpty && fraction.isEmpty then none
  else (exponentPart? rest).map fun exponent =>
    ⟨negative, digitsValue (whole ++ fraction), exponent - fraction.length⟩

/-- The magnitude lies between powers of ten that a floating-point number cannot reach as soon as
the exponent of the first digit does, and then the digits do not matter. -/
def toFloat (numeral : Numeral) : Float :=
  let firstExponent := (Nat.toDigits 10 numeral.mantissa).length + numeral.exponent
  let magnitude : Float :=
    if numeral.mantissa = 0 ∨ firstExponent < -400 then 0.0
    else if 400 < firstExponent then Float.ofBits 0x7ff0000000000000
    else Float.ofScientific numeral.mantissa (numeral.exponent < 0) numeral.exponent.natAbs
  if numeral.negative then -magnitude else magnitude

end Numeral
end HostTree.Decimal

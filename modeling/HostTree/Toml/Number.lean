/-
This file reads the numbers of TOML.
-/

import HostTree.Decimal.Numeral
import HostTree.Text.Hexadecimal
import HostTree.Value.Event

namespace HostTree.Toml

/-- Each underscore stands between two digits and does not count. -/
def ungroup? (isDigit : Char → Bool) (text : List Char) : Option (List Char) :=
  let groups := text.splitOn '_'
  if groups.all fun group => !group.isEmpty && group.all isDigit then some groups.flatten else none

/-- Only zero itself begins with a zero. Behind a sign there may be an underscore, which lets zeros
follow. -/
def wholeDigits? (signed : Bool) (text : List Char) : Option (List Char) :=
  match signed, text with
  | true, '_' :: rest => ungroup? Char.isDigit rest
  | _, _ =>
    (ungroup? Char.isDigit text).filter fun digits =>
      digits.length = 1 || digits.head? != some '0'

def basedValue? (base : Nat) (text : List Char) : Option Nat := do
  let inBase := fun character => (Text.hexDigit? character).any (· < base)
  let digits ← ungroup? inBase text
  digits.foldlM (fun value digit => (Text.hexDigit? digit).map (base * value + ·)) 0

/-- An integer has a sign only in base ten. -/
def integerValue? (text : List Char) : Option Int :=
  match text with
  | '0' :: 'x' :: digits => (basedValue? 16 digits).map Int.ofNat
  | '0' :: 'o' :: digits => (basedValue? 8 digits).map Int.ofNat
  | '0' :: 'b' :: digits => (basedValue? 2 digits).map Int.ofNat
  | _ =>
    let (negative, unsigned) := Decimal.Numeral.splitSign text
    (wholeDigits? (unsigned.length < text.length) unsigned).map fun digits =>
      let magnitude : Int := Decimal.Numeral.digitsValue digits
      if negative then -magnitude else magnitude

/-- An integer of more than sixty-four bits is refused. -/
def integer? (text : List Char) : Option Value :=
  (integerValue? text).bind Value.ofInt?

def special? (text : List Char) : Option Float :=
  let (negative, word) := Decimal.Numeral.splitSign text
  let magnitude : Option Float :=
    if word = ['i', 'n', 'f'] then some (Float.ofBits 0x7ff0000000000000)
    else if word = ['n', 'a', 'n'] then some (Float.ofBits 0x7ff8000000000000)
    else none
  magnitude.map fun number => if negative then -number else number

/-- There are digits on both sides of a point and behind the letter of an exponent. -/
def plainNumeral? (text : List Char) : Option (List Char) := do
  let (negative, unsigned) := Decimal.Numeral.splitSign text
  let inNumber := fun character : Char => character.isDigit || character == '_'
  let signed := unsigned.length < text.length
  let whole ← wholeDigits? signed (unsigned.takeWhile inNumber)
  let (fraction, afterFraction) ← match unsigned.dropWhile inNumber with
    | '.' :: rest =>
      (ungroup? Char.isDigit (rest.takeWhile inNumber)).map fun digits =>
        ('.' :: digits, rest.dropWhile inNumber)
    | rest => some ([], rest)
  let exponent ← match afterFraction with
    | [] => some []
    | letter :: rest =>
      if letter = 'e' ∨ letter = 'E' then
        let (exponentNegative, exponentDigits) := Decimal.Numeral.splitSign rest
        (ungroup? Char.isDigit exponentDigits).map fun digits =>
          'e' :: (if exponentNegative then ['-'] else []) ++ digits
      else none
  if fraction.isEmpty && exponent.isEmpty then none
  else some ((if negative then ['-'] else []) ++ whole ++ fraction ++ exponent)

/-- A number beyond the range is refused. -/
def float? (text : List Char) : Option Value :=
  match special? text with
  | some number => some (.float number)
  | none => do
    let numeral ← Decimal.Numeral.parse? (← plainNumeral? text)
    if numeral.toFloat.isFinite then some (.float numeral.toFloat) else none

end HostTree.Toml

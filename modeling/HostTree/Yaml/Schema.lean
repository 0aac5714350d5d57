/-
This file gives the scalars of YAML their values.
-/

import HostTree.Decimal.Numeral
import HostTree.Text.Hexadecimal
import HostTree.Value.Event
import HostTree.Yaml.Tag

namespace HostTree.Yaml.Schema

def null? (text : String) : Option Value :=
  if ["null", "Null", "NULL", "~"].contains text then some .null else none

def boolean? (text : String) : Option Value :=
  if ["true", "True", "TRUE"].contains text then some (.boolean true)
  else if ["false", "False", "FALSE"].contains text then some (.boolean false)
  else none

/-- Digits behind a leading zero are no number. -/
def isZeroLed (text : List Char) : Bool :=
  match (Decimal.Numeral.splitSign text).2 with
  | '0' :: digit :: rest => (digit :: rest).all Char.isDigit
  | _ => false

def digitValue? (base : Nat) (character : Char) : Option Nat :=
  (Text.hexDigit? character).filter (· < base)

/-- At least one digit is needed. -/
def digitsValue? (base : Nat) : List Char → Option Nat
  | [] => none
  | digits => digits.foldlM (fun value digit => (digitValue? base digit).map (base * value + ·)) 0

def based? : List Char → Option Nat
  | '0' :: 'x' :: digits => digitsValue? 16 digits
  | '0' :: 'o' :: digits => digitsValue? 8 digits
  | '0' :: 'b' :: digits => digitsValue? 2 digits
  | _ => none

/-- An integer is written in base ten, or behind a mark in base sixteen, eight or two. -/
def integerValue? (text : List Char) : Option Int :=
  let (negative, digits) := Decimal.Numeral.splitSign text
  let magnitude := match based? digits with
    | some value => some value
    | none => if isZeroLed text then none else digitsValue? 10 digits
  magnitude.map fun value => if negative then -(value : Int) else value

/-- Text that is no integer has no reading, and an integer of more than sixty-four bits has one
without a value. A longer one than twice that is left to the floating-point numbers. -/
def integer? (text : List Char) : Option (Option Value) :=
  (integerValue? text).bind fun value =>
    match Value.ofInt? value with
    | some reading => some (some reading)
    | none =>
      let half : Nat := 1 <<< 127
      if -half ≤ value ∧ value < 2 * half then some none else none

/-- Only a leading plus sign may stand before the infinity without changing it. -/
def special? (text : String) : Option Float :=
  let infinity := Float.ofBits 0x7ff0000000000000
  if [".inf", ".Inf", ".INF", "+.inf", "+.Inf", "+.INF"].contains text then some infinity
  else if ["-.inf", "-.Inf", "-.INF"].contains text then some (-infinity)
  else if [".nan", ".NaN", ".NAN"].contains text then some (Float.ofBits 0x7ff8000000000000)
  else none

/-- A numeral beyond the range of floating-point numbers is none. -/
def float? (text : String) : Option Value :=
  match special? text with
  | some number => some (.float number)
  | none =>
    ((Decimal.Numeral.parse? text.toList).map Decimal.Numeral.toFloat).bind fun number =>
      if number.isFinite then some (.float number) else none

/-- The outer option is absent for a number that is refused. -/
def plain? (text : String) : Option Value :=
  if text.isEmpty then some .null
  else match null? text with
  | some value => some value
  | none => match boolean? text with
    | some value => some value
    | none => match integer? text.toList with
      | some value => value
      | none =>
        match if isZeroLed text.toList then none else float? text with
        | some value => some value
        | none => some (.string text)

/-- A local tag that is not text counts for nothing on a plain scalar. A tag that is not known
makes a string. -/
def scalar? (tag : Option Tag) (text : String) (plain : Bool) : Option Value :=
  match tag with
  | none => if plain then plain? text else some (.string text)
  | some name =>
    if name.isRefused then none
    else if name = .standard "bool" then boolean? text
    else if name = .standard "int" then (integer? text.toList).join
    else if name = .standard "float" then float? text
    else if name = .standard "null" then null? text
    else if plain && name.isLocal then plain? text
    else some (.string text)

end HostTree.Yaml.Schema

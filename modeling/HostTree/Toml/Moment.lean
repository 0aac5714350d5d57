/-
This file reads the dates and times of TOML.
-/

import HostTree.Decimal.Padded
import HostTree.Value

namespace HostTree.Toml

structure Date where
  year : Nat
  month : Nat
  day : Nat

/-- The fraction is in billionths of a second. -/
structure Time where
  hour : Nat
  minute : Nat
  second : Nat
  fraction : Nat

inductive Zone where
  | universal
  | offset (minutes : Int)

/-- A time zone needs both a date and a time. -/
inductive Moment where
  | day (date : Date)
  | clock (time : Time)
  | instant (date : Date) (time : Time) (zone : Option Zone)

namespace Moment

open Decimal (padded)

/-- The digits fill the width and are at most the limit. -/
def takeNumber (width limit : Nat) (text : List Char) : Option (Nat × List Char) :=
  let digits := text.take width
  if digits.length = width ∧ digits.all Char.isDigit then
    let number := Nat.ofDigitChars 10 digits 0
    if number ≤ limit then some (number, text.drop width) else none
  else none

def takeMark (mark : Char) : List Char → Option (List Char)
  | character :: rest => if character = mark then some rest else none
  | [] => none

def isLeap (year : Nat) : Bool :=
  year % 4 = 0 && (year % 100 != 0 || year % 400 = 0)

def daysInMonth (year month : Nat) : Nat :=
  if month = 2 then if isLeap year then 29 else 28
  else if [4, 6, 9, 11].contains month then 30
  else 31

def takeDate (text : List Char) : Option (Date × List Char) := do
  let (year, afterYear) ← takeNumber 4 9999 text
  let (month, afterMonth) ← takeNumber 2 12 (← takeMark '-' afterYear)
  let (dayOfMonth, rest) ← takeNumber 2 (daysInMonth year month) (← takeMark '-' afterMonth)
  if month = 0 ∨ dayOfMonth = 0 then none else some (⟨year, month, dayOfMonth⟩, rest)

/-- Digits beyond the ninth do not count. -/
def takeFraction (text : List Char) : Option (Nat × List Char) :=
  let digits := text.takeWhile Char.isDigit
  if digits.isEmpty then none
  else
    let nine := (digits ++ List.replicate 9 '0').take 9
    some (Nat.ofDigitChars 10 nine 0, text.dropWhile Char.isDigit)

/-- The seconds may be missing. The sixtieth is a leap second. -/
def takeTime (text : List Char) : Option (Time × List Char) := do
  let (hour, afterHour) ← takeNumber 2 23 text
  let (minute, afterMinute) ← takeNumber 2 59 (← takeMark ':' afterHour)
  match afterMinute with
  | ':' :: secondText =>
    let (second, afterSecond) ← takeNumber 2 60 secondText
    match afterSecond with
    | '.' :: fractionText =>
      let (fraction, rest) ← takeFraction fractionText
      some (⟨hour, minute, second, fraction⟩, rest)
    | _ => some (⟨hour, minute, second, 0⟩, afterSecond)
  | _ => some (⟨hour, minute, 0, 0⟩, afterMinute)

def zone? : List Char → Option (Option Zone)
  | [] => some none
  | ['Z'] | ['z'] => some (some .universal)
  | sign :: text => do
    if sign ≠ '+' ∧ sign ≠ '-' then none
    else
      let (hours, afterHours) ← takeNumber 2 23 text
      let (minutes, rest) ← takeNumber 2 59 (← takeMark ':' afterHours)
      let total : Int := hours * 60 + minutes
      if rest.isEmpty then some (some (.offset (if sign = '-' then -total else total))) else none

def ofTime? (text : List Char) : Option Moment := do
  let (time, rest) ← takeTime text
  if rest.isEmpty then some (.clock time) else none

/-- A letter or a space stands between a date and a time. -/
def parse? (text : List Char) : Option Moment :=
  match takeDate text with
  | none => ofTime? text
  | some (date, []) => some (.day date)
  | some (date, mark :: rest) => do
    if ¬ ['T', 't', ' '].contains mark then none
    else
      let (time, zoneText) ← takeTime rest
      some (.instant date time (← zone? zoneText))

def dateText (date : Date) : String :=
  padded 4 date.year ++ "-" ++ padded 2 date.month ++ "-" ++ padded 2 date.day

/-- Zeros at the end of a fraction are dropped. -/
def fractionText (fraction : Nat) : String :=
  if fraction = 0 then ""
  else
    let digits := (padded 9 fraction).toList
    "." ++ String.ofList (digits.reverse.dropWhile (· == '0')).reverse

def timeText (time : Time) : String :=
  padded 2 time.hour ++ ":" ++ padded 2 time.minute ++ ":" ++ padded 2 time.second
    ++ fractionText time.fraction

def zoneText : Zone → String
  | .universal => "Z"
  | .offset minutes =>
    (if minutes < 0 then "-" else "+") ++ padded 2 (minutes.natAbs / 60) ++ ":"
      ++ padded 2 (minutes.natAbs % 60)

def text : Moment → String
  | .day date => dateText date
  | .clock time => timeText time
  | .instant date time zone =>
    dateText date ++ "T" ++ timeText time ++ (zone.map zoneText).getD ""

/-- A moment is a mapping with this key alone. -/
def valueKey : String :=
  "$__toml_private_datetime"

def toValue (moment : Moment) : Value :=
  .mapping [(valueKey, .string moment.text)]

end Moment
end HostTree.Toml

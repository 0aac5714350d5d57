/-
This file writes instants as dates and times.
-/

import HostTree.Decimal.Padded

namespace HostTree

/-- The seconds are counted from the beginning of 1970 in universal time. A leap second has a
billion nanoseconds or more. -/
structure Instant where
  seconds : Int
  nanoseconds : Nat := 0
  deriving DecidableEq, Repr

namespace Calendar

open Decimal (padded)

structure Date where
  year : Int
  month : Nat
  day : Nat
  deriving DecidableEq, Repr

/-- The years are counted from the first of March, so that a leap day ends its year, and four
hundred of them make an era. -/
def dateOfDay (day : Int) : Date :=
  let shifted := day + 719468
  let era := shifted.fdiv 146097
  let dayOfEra := (shifted - era * 146097).toNat
  let yearOfEra := (dayOfEra - dayOfEra / 1460 + dayOfEra / 36524 - dayOfEra / 146096) / 365
  let dayOfYear := dayOfEra - (365 * yearOfEra + yearOfEra / 4 - yearOfEra / 100)
  let monthFromMarch := (5 * dayOfYear + 2) / 153
  let month := if monthFromMarch < 10 then monthFromMarch + 3 else monthFromMarch - 9
  { year := era * 400 + yearOfEra + if month ≤ 2 then 1 else 0
    month := month
    day := dayOfYear - (153 * monthFromMarch + 2) / 5 + 1 }

/-- A year of more than four digits has a sign, and so has one before the year zero. -/
def yearText (year : Int) : String :=
  let sign := if year < 0 then "-" else if 9999 < year then "+" else ""
  sign ++ padded 4 year.natAbs

def dateText (date : Date) : String :=
  yearText date.year ++ "-" ++ padded 2 date.month ++ "-" ++ padded 2 date.day

/-- A leap second is the one after the last of its minute. -/
def instantText (instant : Instant) : String :=
  let day := instant.seconds.fdiv 86400
  let secondOfDay := (instant.seconds.fmod 86400).toNat
  let second := secondOfDay % 60 + if instant.nanoseconds < 1000000000 then 0 else 1
  dateText (dateOfDay day) ++ "T" ++ padded 2 (secondOfDay / 3600) ++ ":"
    ++ padded 2 (secondOfDay / 60 % 60) ++ ":" ++ padded 2 second ++ "Z"

end Calendar
end HostTree

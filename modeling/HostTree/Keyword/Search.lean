/-
This file finds the keyword that an option name stands for.
-/

import HostTree.Keyword.Table
import HostTree.Text.Case

namespace HostTree.Keyword

/-- The searched part lies between the two places. Each step halves it, so that the number of steps
need not exceed its length. -/
def searchBetween (rows : Array Keyword) (spelling : String) (low high : Nat) :
    Nat → Option Keyword
  | 0 => none
  | steps + 1 =>
    if low < high then
      let middle := low + (high - low) / 2
      match rows[middle]? with
      | none => none
      | some row =>
        match compare spelling row.spelling with
        | .eq => some row
        | .lt => searchBetween rows spelling low middle steps
        | .gt => searchBetween rows spelling (middle + 1) high steps
    else none

def find? (name : String) : Option Keyword :=
  searchBetween table (Text.foldCase name) 0 table.size table.size

/-- This reads the table from its beginning and needs no order. -/
def scan? (name : String) : Option Keyword :=
  table.toList.find? fun row => row.spelling == Text.foldCase name

/-- Two option names with one key stand for the same keyword. A name outside the table is its own
key. -/
def overrideKey (name : String) : String :=
  match find? name with
  | some keyword => keyword.name
  | none => Text.foldCase name

end HostTree.Keyword

/-
This file holds the values that a document is made of.
-/

import HostTree.Decimal.Layout
import HostTree.Entries

namespace HostTree

inductive Value where
  | null
  | boolean (truth : Bool)
  | integer (number : Int64)
  | float (number : Float)
  | string (text : String)
  | sequence (items : List Value)
  | mapping (entries : List (String × Value))
  deriving Inhabited

namespace Value

/-- Messages name the kind of a value that they refuse. -/
def kindName : Value → String
  | null => "null"
  | boolean _ => "boolean"
  | integer _ => "integer"
  | float _ => "float"
  | string _ => "string"
  | sequence _ => "sequence"
  | mapping _ => "mapping"

def string? : Value → Option String
  | string text => some text
  | _ => none

/-- The least number without a power of ten is one ten-thousandth, and the bound is ten to the
sixteenth. -/
def floatLayout : Decimal.Layout :=
  ⟨-4, 16⟩

mutual

/-- This is the text of a value in a client configuration. The items of a list stand between
commas, and the entries of a mapping between spaces. -/
def text : Value → String
  | null => "none"
  | boolean truth => if truth then "yes" else "no"
  | integer number => toString number.toInt
  | float number => floatLayout.write number
  | string content => content
  | sequence items => ",".intercalate (texts items)
  | mapping entries => " ".intercalate (assignments entries)
termination_by structural value => value

def texts : List Value → List String
  | [] => []
  | item :: rest => item.text :: texts rest
termination_by structural items => items

def assignments : List (String × Value) → List String
  | [] => []
  | (key, content) :: rest => (key ++ "=" ++ content.text) :: assignments rest
termination_by structural entries => entries

end

theorem texts_eq_map (items : List Value) : texts items = items.map text := by
  induction items with
  | nil => rfl
  | cons item rest restEqual => simp [texts, restEqual]

theorem assignments_eq_map (entries : List (String × Value)) :
    assignments entries = entries.map fun entry => entry.1 ++ "=" ++ entry.2.text := by
  induction entries with
  | nil => rfl
  | cons entry rest restEqual => simp [assignments, restEqual]

mutual

/-- Floating-point numbers compare as numbers, so an undefined one differs from itself. -/
def equal : Value → Value → Bool
  | null, null => true
  | boolean left, boolean right => left == right
  | integer left, integer right => left == right
  | float left, float right => left == right
  | string left, string right => left == right
  | sequence left, sequence right => equalItems left right
  | mapping left, mapping right => equalEntries left right
  | _, _ => false
termination_by structural left => left

def equalItems : List Value → List Value → Bool
  | [], [] => true
  | left :: leftRest, right :: rightRest => left.equal right && equalItems leftRest rightRest
  | _, _ => false
termination_by structural left => left

def equalEntries : List (String × Value) → List (String × Value) → Bool
  | [], [] => true
  | (leftKey, left) :: leftRest, (rightKey, right) :: rightRest =>
    leftKey == rightKey && left.equal right && equalEntries leftRest rightRest
  | _, _ => false
termination_by structural left => left

end

instance : BEq Value :=
  ⟨equal⟩

end Value
end HostTree

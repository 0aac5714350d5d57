/-
This file builds values from the events that a document reader reports.
-/

import HostTree.Value

namespace HostTree.Value

inductive Event where
  | unit
  | absent
  | present (content : Event)
  | boolean (truth : Bool)
  | signed (number : Int64)
  | unsigned (number : UInt64)
  | float (number : Float)
  | character (content : Char)
  | text (content : String)
  | bytes (content : ByteArray)
  | sequence (items : List Event)
  | mapping (entries : List (Event × Event))
  deriving Inhabited

/-- A number beyond the signed range keeps its digits as a text. -/
def ofUnsigned (number : UInt64) : Value :=
  if number ≤ Int64.maxValue.toUInt64 then integer number.toInt64
  else string (toString number.toNat)

/-- A number of more than sixty-four bits has no value. -/
def ofInt? (number : Int) : Option Value :=
  if Int64.minValue.toInt ≤ number ∧ number ≤ Int64.maxValue.toInt then
    some (integer (Int64.ofInt number))
  else if 0 ≤ number ∧ number < UInt64.size then some (ofUnsigned (UInt64.ofNat number.toNat))
  else none

mutual

/-- Bytes have no value. A key of any kind counts as its text. -/
def ofEvent? : Event → Option Value
  | .unit => some null
  | .absent => some null
  | .present content => ofEvent? content
  | .boolean truth => some (boolean truth)
  | .signed number => some (integer number)
  | .unsigned number => some (ofUnsigned number)
  | .float number => some (float number)
  | .character content => some (string (String.singleton content))
  | .text content => some (string content)
  | .bytes _ => none
  | .sequence items => (ofEvents? items).map sequence
  | .mapping entries => (ofEventEntries? entries []).map mapping
termination_by structural event => event

def ofEvents? : List Event → Option (List Value)
  | [] => some []
  | item :: rest => do return (← ofEvent? item) :: (← ofEvents? rest)
termination_by structural items => items

/-- The entries collected so far come last, so that a repeated key keeps its place. -/
def ofEventEntries? :
    List (Event × Event) → List (String × Value) → Option (List (String × Value))
  | [], collected => some collected
  | (key, content) :: rest, collected => do
    let keyValue ← ofEvent? key
    let contentValue ← ofEvent? content
    ofEventEntries? rest (Entries.insert keyValue.text contentValue collected)
termination_by structural entries => entries

end

mutual

def toEvent : Value → Event
  | null => .unit
  | boolean truth => .boolean truth
  | integer number => .signed number
  | float number => .float number
  | string content => .text content
  | sequence items => .sequence (toEvents items)
  | mapping entries => .mapping (toEventEntries entries)
termination_by structural value => value

def toEvents : List Value → List Event
  | [] => []
  | item :: rest => item.toEvent :: toEvents rest
termination_by structural items => items

def toEventEntries : List (String × Value) → List (Event × Event)
  | [] => []
  | (key, content) :: rest => (.text key, content.toEvent) :: toEventEntries rest
termination_by structural entries => entries

end

end HostTree.Value

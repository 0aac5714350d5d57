/-
This file holds the loops of nodes.
-/

import HostTree.Loop.Expression
import HostTree.Value

namespace HostTree

inductive Loop where
  | items (values : List Value)
  | range (progression : Range)

namespace Loop

def elements : Loop → List Value
  | .items values => values
  | .range progression => progression.elements.map Value.integer

/-- The items need not be listed to be counted. -/
def count : Loop → Nat
  | .items values => values.length
  | .range progression => progression.count

/-- These are the fields of a range that is written as a mapping. Only the stop is required. -/
structure Fields where
  start : Int64 := 0
  stop : Option Int64 := none
  step : Int64 := 1

def Fields.assign (fields : Fields) (name : String) (content : Value) :
    Except LoopFlaw Fields :=
  match content with
  | .integer number =>
    if name = "start" then .ok { fields with start := number }
    else if name = "stop" then .ok { fields with stop := some number }
    else if name = "step" then .ok { fields with step := number }
    else .error (.unknownField name)
  | _ => .error (.fieldNotInteger name content.kindName)

def ofMapping (entries : List (String × Value)) : Except LoopFlaw Range := do
  let fields ← entries.foldlM (fun fields entry => fields.assign entry.1 entry.2) ({} : Fields)
  match fields.stop with
  | none => .error .missingStop
  | some stop => Range.checked fields.start stop fields.step

/-- A null is no loop at all, which differs from a loop without items. -/
def ofValue : Value → Except LoopFlaw (Option Loop)
  | .null => .ok none
  | .sequence values => .ok (some (.items values))
  | .mapping entries => (ofMapping entries).map (some ∘ Loop.range)
  | .string expression => (Range.ofExpression expression).map (some ∘ Loop.range)
  | other => .error (.wrongKind other.kindName)

end Loop
end HostTree

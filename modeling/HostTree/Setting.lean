/-
This file holds the options of a node and turns them into lines.
-/

import HostTree.Keyword.Search
import HostTree.Template
import HostTree.Warning

namespace HostTree

structure Setting where
  name : String
  content : Value

namespace Setting

inductive Outcome where
  | line (text : String)
  | dropped (warning : Warning)
  deriving DecidableEq, Repr

def jumpKeyword : String :=
  "ProxyCommand"

/-- The jump host follows the command. -/
def jumpCommand : String :=
  "ssh -W %h:%p"

def keyword (name : String) : Except Failure Keyword :=
  match Keyword.find? name with
  | some found => .ok found
  | none => .error (.unknownOption name)

/-- The content of an option that is left out is not looked at. -/
def compile (setting : Setting) (item : Option Value) : Except Failure Outcome := do
  let found ← keyword setting.name
  match found.standing with
  | .active => return .line (found.name ++ " " ++ (← Template.resolveValue setting.content item))
  | .shorthand =>
    return .line (jumpKeyword ++ " " ++ jumpCommand ++ " " ++
      (← Template.resolveValue setting.content item))
  | .deprecated => return .dropped (.deprecated found.name)
  | .ignored => return .dropped (.ignored found.name)

/-- An option name without a row fails, whatever the content is. -/
theorem compile_of_unknown {setting : Setting} (unknown : Keyword.find? setting.name = none)
    (item : Option Value) : setting.compile item = .error (.unknownOption setting.name) := by
  unfold compile keyword
  rw [unknown]
  rfl

/-- The row of the name decides whether there is a line, and the line takes its text from the
content. -/
theorem compile_of_known {setting : Setting} {found : Keyword}
    (known : Keyword.find? setting.name = some found) (item : Option Value) :
    setting.compile item =
      match found.standing with
      | .active => (Template.resolveValue setting.content item).map fun text =>
          .line (found.name ++ " " ++ text)
      | .shorthand => (Template.resolveValue setting.content item).map fun text =>
          .line (jumpKeyword ++ " " ++ jumpCommand ++ " " ++ text)
      | .deprecated => .ok (.dropped (.deprecated found.name))
      | .ignored => .ok (.dropped (.ignored found.name)) := by
  unfold compile keyword
  rw [known]
  cases standing : found.standing <;>
    cases Template.resolveValue setting.content item <;>
      simp [standing, bind, Except.bind, pure, Except.pure, Except.map]

-- The two lemmas are enough for the proofs, and unfolding leads into the search of the table.
attribute [irreducible] compile

def overrideKey (setting : Setting) : String :=
  Keyword.overrideKey setting.name

/-- The own settings follow those inherited settings whose key none of them has. -/
def overlay (inherited own : List Setting) : List Setting :=
  if inherited.isEmpty then own
  else
    inherited.filter (fun setting => own.all fun other => other.overrideKey != setting.overrideKey)
      ++ own

end Setting
end HostTree

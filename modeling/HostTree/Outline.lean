/-
This file reads a document as a tree of declarations.
-/

import HostTree.Declaration

namespace HostTree

/-- A node that cannot be read keeps its failure, which counts only when the node is visited. -/
inductive Outline where
  | invalid (failure : Failure)
  | node (declaration : Declaration) (children : List Outline)

namespace Outline

def rootKey : String :=
  "root"

mutual

/-- A mapping is a node, and a string is a bare name. -/
def ofValue : Value → Outline
  | .mapping entries =>
    match Declaration.ofEntries entries with
    | .ok declaration => node declaration (ofChildrenEntry entries)
    | .error failure => invalid failure
  | .string pattern => node (Declaration.named pattern) []
  | other => invalid (.invalidDirective rootKey (.notEntry other.kindName))
termination_by structural content => content

def ofItems : List Value → List Outline
  | [] => []
  | item :: rest => ofValue item :: ofItems rest
termination_by structural items => items

def ofChildren : Value → List Outline
  | .sequence items => ofItems items
  | _ => []
termination_by structural content => content

def ofChildrenEntry : List (String × Value) → List Outline
  | [] => []
  | (key, content) :: rest =>
    if Role.ofKey key = .children then ofChildren content else ofChildrenEntry rest
termination_by structural entries => entries

end

/-- A document is one node or a list of nodes, and an empty one has none. -/
def ofDocument : Value → List Outline
  | .null => []
  | .mapping entries => [ofValue (.mapping entries)]
  | .sequence items => ofItems items
  | other => [invalid (.invalidDirective rootKey (.notRoot other.kindName))]

end Outline
end HostTree

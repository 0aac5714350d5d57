/-
This file gives the documents of YAML their values.
-/

import HostTree.Yaml.Node
import HostTree.Yaml.Schema
import HostTree.Yaml.TokenStream

namespace HostTree.Yaml

namespace Node

/-- Each anchor gets the number of names that came before it, so a name that comes again shares its
number with the next new one. -/
abbrev Numbering := StateT (List (String × Nat)) Option

def numberAnchor : Option String → Numbering (Option Nat)
  | none => return none
  | some name => do
    let names ← get
    set (Entries.insert name names.length names)
    return some names.length

mutual

/-- A reference to a name without an anchor before it is refused. -/
def number : Node String → Numbering (Node Nat)
  | reference name => do
    let names ← get
    let target ← (Entries.get? name names : Option Nat)
    return reference target
  | scalar anchor tag text plain => return scalar (← numberAnchor anchor) tag text plain
  | sequence anchor tag items => do
    let numbered ← numberAnchor anchor
    return sequence numbered tag (← numberItems items)
  | mapping anchor tag entries => do
    let numbered ← numberAnchor anchor
    return mapping numbered tag (← numberEntries entries)
termination_by structural node => node

def numberItems : List (Node String) → Numbering (List (Node Nat))
  | [] => return []
  | item :: rest => return (← number item) :: (← numberItems rest)
termination_by structural items => items

def numberEntries :
    List (Node String × Node String) → Numbering (List (Node Nat × Node Nat))
  | [] => return []
  | (key, content) :: rest => do
    let numberedKey ← number key
    let numberedContent ← number content
    return (numberedKey, numberedContent) :: (← numberEntries rest)
termination_by structural entries => entries

end

mutual

/-- These are the nodes with an anchor, in the order in which they begin. -/
def anchored : Node Nat → List (Nat × Node Nat)
  | reference _ => []
  | scalar anchor tag text plain =>
    anchor.toList.map (·, scalar anchor tag text plain)
  | sequence anchor tag items =>
    anchor.toList.map (·, sequence anchor tag items) ++ anchoredItems items
  | mapping anchor tag entries =>
    anchor.toList.map (·, mapping anchor tag entries) ++ anchoredEntries entries
termination_by structural node => node

def anchoredItems : List (Node Nat) → List (Nat × Node Nat)
  | [] => []
  | item :: rest => anchored item ++ anchoredItems rest
termination_by structural items => items

def anchoredEntries : List (Node Nat × Node Nat) → List (Nat × Node Nat)
  | [] => []
  | (key, content) :: rest => anchored key ++ (anchored content ++ anchoredEntries rest)
termination_by structural entries => entries

end

mutual

/-- A collection counts for its beginning and its end. -/
def size {Name : Type} : Node Name → Nat
  | reference _ => 1
  | scalar _ _ _ _ => 1
  | sequence _ _ items => 2 + sizeItems items
  | mapping _ _ entries => 2 + sizeEntries entries
termination_by structural node => node

def sizeItems {Name : Type} : List (Node Name) → Nat
  | [] => 0
  | item :: rest => size item + sizeItems rest
termination_by structural items => items

def sizeEntries {Name : Type} : List (Node Name × Node Name) → Nat
  | [] => 0
  | (key, content) :: rest => size key + (size content + sizeEntries rest)
termination_by structural entries => entries

end

/-- The state is the number of references that may still be followed. -/
abbrev Evaluation := StateT Nat Option

/-- The last node with the number of the reference is the one that counts. -/
def follow (anchors : List (Nat × Node Nat)) : Node Nat → Evaluation (Node Nat)
  | reference target => do
    let allowance ← get
    if allowance = 0 then failure
    else
      set (allowance - 1)
      ((anchors.reverse.lookup target : Option (Node Nat)) : Evaluation (Node Nat))
  | node => return node

/-- Collections are nested no deeper than the depth. -/
def evaluate (anchors : List (Nat × Node Nat)) : Nat → Node Nat → Evaluation Value
  | depth, node => do
    match ← follow anchors node with
    | reference _ => failure
    | scalar _ tag text plain => (Schema.scalar? tag text plain : Option Value)
    | sequence _ tag items =>
      match depth with
      | 0 => failure
      | deeper + 1 =>
        if tag.any Tag.isRefused then failure
        else return .sequence (← items.mapM (evaluate anchors deeper))
    | mapping _ tag entries =>
      match depth with
      | 0 => failure
      | deeper + 1 =>
        if tag.any Tag.isRefused then failure
        else
          let collected ← entries.foldlM (fun collected entry => do
            let key ← evaluate anchors deeper entry.1
            let content ← evaluate anchors deeper entry.2
            return Entries.insert key.text content collected) []
          return .mapping collected
termination_by structural depth => depth

def greatestDepth : Nat :=
  128

/-- There may be a hundred references for each part of the document. -/
def value? (node : Node String) : Option Value := do
  let (numbered, _) ← (number node).run []
  let evaluation := evaluate (anchored numbered) greatestDepth numbered
  let (value, _) ← evaluation.run (100 * numbered.size)
  return value

end Node

def parse? (text : String) : Option Value := do
  let tokens ← TokenStream.ofText text.toList
  (← Node.ofTokens tokens).value?

end HostTree.Yaml

/-
This file splits the mapping of a node into its directives, pattern, settings and children.
-/

import HostTree.Loop
import HostTree.Setting

namespace HostTree

inductive BlockKind where
  | host
  | matching
  deriving DecidableEq, Repr

def BlockKind.word : BlockKind → String
  | host => "Host"
  | matching => "Match"

/-- A child is a node of its own, or a bare name that stands for a host without options. -/
inductive Child where
  | node (entries : List (String × Value))
  | name (pattern : String)

structure Declaration where
  kind : BlockKind := .host
  pattern : Option String := none
  hidden : Bool := false
  namesChildren : Bool := true
  sharesSettings : Bool := false
  loop : Option Loop := none
  settings : List Setting := []
  children : List Child := []

/-- Each key of a node has one role. Only the keys of patterns may have any case. -/
inductive Role where
  | hiding
  | naming
  | sharing
  | looping
  | children
  | pattern (kind : BlockKind)
  | setting
  deriving DecidableEq, Repr

def Role.ofKey (key : String) : Role :=
  if key = "hide" then .hiding
  else if key = "prefix" then .naming
  else if key = "inherit" then .sharing
  else if key = "with_items" then .looping
  else if key = "subhosts" ∨ key = "hosts" then .children
  else if Text.sameFolded key "host" then .pattern .host
  else if Text.sameFolded key "match" then .pattern .matching
  else .setting

namespace Declaration

def named (pattern : String) : Declaration :=
  { pattern := some pattern }

/-- The words for a truth value are those of older documents, in any case. -/
def truthOfWord? (word : String) : Option Bool :=
  let folded := Text.foldCase word
  if ["yes", "true", "on"].contains folded then some true
  else if ["no", "false", "off"].contains folded then some false
  else none

def readFlag (content : Value) (usual : Bool) : Except DirectiveFlaw Bool :=
  match content with
  | .null => .ok usual
  | .boolean truth => .ok truth
  | .string word =>
    match truthOfWord? word with
    | some truth => .ok truth
    | none => .error (.notBoolean word)
  | other => .error (.notBooleanKind other.kindName)

mutual

/-- The patterns of a list stand between spaces, however deep the lists are. -/
def readPattern : Value → Except DirectiveFlaw String
  | .sequence items => (readPatterns items).map (" ".intercalate ·)
  | .null => .error (.notPattern Value.null.kindName)
  | .mapping entries => .error (.notPattern (Value.mapping entries).kindName)
  | scalar => .ok scalar.text
termination_by structural content => content

def readPatterns : List Value → Except DirectiveFlaw (List String)
  | [] => .ok []
  | item :: rest => do return (← readPattern item) :: (← readPatterns rest)
termination_by structural items => items

end

def readChild : Value → Except DirectiveFlaw Child
  | .mapping entries => .ok (.node entries)
  | .string pattern => .ok (.name pattern)
  | other => .error (.notEntry other.kindName)

def readChildren : Value → Except DirectiveFlaw (List Child)
  | .null => .ok []
  | .sequence items => items.mapM readChild
  | other => .error (.notList other.kindName)

/-- The key of the children is kept until the end of the node, because a second one is refused. -/
structure Draft where
  declaration : Declaration := {}
  childrenKey : Option String := none

/-- A flaw is blamed on the key as it is written. -/
def blame {Content : Type} (key : String) :
    Except DirectiveFlaw Content → Except Failure Content
  | .ok content => .ok content
  | .error flaw => .error (.invalidDirective key flaw)

def Draft.add (draft : Draft) (key : String) (content : Value) : Except Failure Draft :=
  let declaration := draft.declaration
  match Role.ofKey key with
  | .hiding => do
    let hidden ← blame key (readFlag content false)
    return { draft with declaration := { declaration with hidden := hidden } }
  | .naming => do
    let namesChildren ← blame key (readFlag content true)
    return { draft with declaration := { declaration with namesChildren := namesChildren } }
  | .sharing => do
    let sharesSettings ← blame key (readFlag content false)
    return { draft with declaration := { declaration with sharesSettings := sharesSettings } }
  | .looping =>
    match Loop.ofValue content with
    | .ok loop => .ok { draft with declaration := { declaration with loop := loop } }
    | .error flaw => .error (.invalidLoop flaw)
  | .children =>
    match draft.childrenKey with
    | some first => .error (.invalidDirective key (.secondChildren first))
    | none => do
      let children ← blame key (readChildren content)
      return ⟨{ declaration with children := children }, some key⟩
  | .pattern kind =>
    if declaration.pattern.isSome then .error (.invalidDirective key .secondPattern)
    else do
      let pattern ← blame key (readPattern content)
      return { draft with
        declaration := { declaration with kind := kind, pattern := some pattern } }
  | .setting =>
    .ok { draft with
      declaration := { declaration with settings := declaration.settings ++ [⟨key, content⟩] } }

/-- The first flawed entry is the failure. -/
def ofEntries (entries : List (String × Value)) : Except Failure Declaration := do
  let draft ← entries.foldlM (fun draft entry => draft.add entry.1 entry.2) ({} : Draft)
  return draft.declaration

end Declaration
end HostTree
